import DelegationAudit.Proofs.Enrichment
import DelegationAudit.Proofs.FrontRecord
import DelegationAudit.Proofs.OriginAnswers

namespace DelegationAudit

open Dns

/-- One set of records, its data in another order. -/
structure Dns.RecordSet.Reordered (s t : RecordSet) : Prop where
  name : s.name = t.name
  ttl : s.ttl = t.ttl
  data : s.data.Perm t.data

theorem Dns.RecordSet.Reordered.refl (s : RecordSet) : s.Reordered s := ⟨rfl, rfl, .refl _⟩

namespace Answer

variable {a b c : Answer}

/-- The same sets of records in another order, and so their data. -/
structure Reordered (a b : Answer) : Prop where
  code : a.code = b.code
  sets : Rearranged RecordSet.Reordered a.sets b.sets

/-- The same text record in front, if there is one, whatever comes behind it. -/
structure SameFront (a b : Answer) : Prop where
  code : a.code = b.code
  front : (a.holding .txt).head? = (b.holding .txt).head?

/-- An answer with one of the text records, where there are any. -/
inductive Picks (a : Answer) : Answer → Prop
  | nothing (hnone : a.holding .txt = []) : Picks a ⟨a.code, []⟩
  | record {r : Record} (hmem : r ∈ a.holding .txt) : Picks a ⟨a.code, [r.alone]⟩

theorem Reordered.holding (h : a.Reordered b) (type : RecordType) :
    (a.holding type).Perm (b.holding type) := by
  refine Rearranged.perm (h.sets.flatMap fun s t hst => .of_perm ?_)
  rw [hst.name, hst.ttl]
  exact (hst.data.filter _).map _

theorem SameFront.foremost_eq (h : a.SameFront b) : a.foremost = b.foremost := by
  rw [foremost, foremost, h.code, List.take_one, List.take_one, h.front]

theorem picks_foremost (a : Answer) : a.Picks a.foremost := by
  rw [foremost]
  cases hrecords : a.holding .txt with
  | nil => exact .nothing hrecords
  | cons r rest =>
    refine .record ?_
    rw [hrecords]
    exact List.mem_cons_self

theorem Picks.of_perm (hcode : a.code = b.code) (hp : (a.holding .txt).Perm (b.holding .txt))
    (h : b.Picks c) : a.Picks c := by
  cases h with
  | nothing hnone =>
    rw [← hcode]
    rw [hnone] at hp
    exact .nothing hp.eq_nil
  | record hmem =>
    rw [← hcode]
    exact .record (hp.mem_iff.mpr hmem)

theorem exists_reordered {r : Record} (h : r ∈ a.holding .txt) :
    ∃ b, a.Reordered b ∧ b.foremost = ⟨a.code, [r.alone]⟩ := by
  obtain ⟨s, hs, hr⟩ := List.mem_flatMap.mp h
  obtain ⟨d, hd, rfl⟩ := List.mem_map.mp hr
  obtain ⟨hd, htype⟩ := List.mem_filter.mp hd
  obtain ⟨before, after, hsets⟩ := List.append_of_mem hs
  obtain ⟨left, right, hdata⟩ := List.append_of_mem hd
  have hset : s.Reordered ⟨s.name, s.ttl, d :: (left ++ right)⟩ := by
    refine ⟨rfl, rfl, ?_⟩
    rw [hdata]
    exact List.perm_middle
  refine ⟨⟨a.code, ⟨s.name, s.ttl, d :: (left ++ right)⟩ :: (before ++ after)⟩, ⟨rfl, ?_⟩, ?_⟩
  · have hrest : Rearranged RecordSet.Reordered (before ++ after) (before ++ after) := .refl .refl _
    rw [Rearranged, hsets, Multiset.coe_eq_coe.mpr List.perm_middle]
    exact (Rearranged.singleton hset).append hrest
  · simp [foremost, Answer.holding, of_decide_eq_true htype]

theorem exists_reordered_iff (a c : Answer) : (∃ b, a.Reordered b ∧ b.foremost = c) ↔ a.Picks c := by
  constructor
  · rintro ⟨b, hb, rfl⟩
    exact b.picks_foremost.of_perm hb.code (hb.holding .txt)
  · intro h
    cases h with
    | nothing hnone =>
      refine ⟨a, ⟨rfl, .refl .refl _⟩, ?_⟩
      rw [foremost, hnone]
      rfl
    | record hmem => exact exists_reordered hmem

def pick (r : Record) (a : Answer) : Answer :=
  if r ∈ a.holding .txt then ⟨a.code, [r.alone]⟩ else a.foremost

theorem picks_pick (r : Record) (a : Answer) : a.Picks (a.pick r) := by
  rw [pick]
  split
  next hmem => exact .record hmem
  next => exact a.picks_foremost

end Answer

variable {τ : Type} [Instant τ]

theorem Network.SameButText.recordsFor_perm {v w : Network τ} (h : v.SameButText Answer.Reordered w)
    (call : Call τ) (htype : call.query.type = .txt) : (v.recordsFor call).Perm (w.recordsFor call) := by
  have hanswer := h.answer call
  rw [htype, TextRelated, if_pos rfl] at hanswer
  rw [recordsFor, recordsFor]
  generalize v.answer call = x at hanswer ⊢
  generalize w.answer call = y at hanswer ⊢
  cases hanswer with
  | error => exact .refl _
  | @ok a b hab =>
    dsimp only
    rw [hab.code, htype, Answer.filterByType_recordsOf, Answer.filterByType_recordsOf]
    split
    · exact hab.holding .txt
    · exact .refl _

theorem Network.recordsFor_pick {w : Network τ} {call : Call τ} (htype : call.query.type = .txt)
    {r : Record} (h : r ∈ w.recordsFor call) : (w.mapText (.pick r)).recordsFor call = [r] := by
  obtain ⟨answer, hanswer, hcode, hmem, hr⟩ := mem_recordsFor.mp h
  rw [htype] at hr
  have hheld : r ∈ answer.holding .txt := by
    rw [← Answer.filterByType_recordsOf]
    exact List.mem_filter.mpr ⟨hmem, by simp [hr]⟩
  have hpicked : (w.mapText (.pick r)).answer call = .ok ⟨answer.code, [r.alone]⟩ := by
    rw [Network.answer] at hanswer ⊢
    rw [exchange_mapText, htype, mapText_txt, hanswer]
    exact congrArg Except.ok (if_pos hheld)
  have halone : recordsOf [r.alone] = [r] := recordsOf_alone [r]
  rw [recordsFor_of_ok hpicked, if_pos (beq_iff_eq.mpr hcode), htype, halone]
  simp [filterByType, hr]

namespace Ownership.Source

variable (source : Source τ)

theorem remembered_congr {v w : Network τ} (h : v.clock = w.clock) (key : String) (cache : Cache τ) :
    (source.remembered key ⟨v, cache⟩).1 = (source.remembered key ⟨w, cache⟩).1 := by
  rw [remembered, remembered, h]
  cases cache.find? key with
  | none => rfl
  | some entry =>
    dsimp only
    split <;> rfl

theorem announced_of_ownerIn {a : Net.Address} {w : Network τ} {info : Ownership}
    (h : source.ownerIn a w = some info) : announced (w.recordsFor (source.originCall a)) = info.asn := by
  rw [ownerIn] at h
  rw [announced]
  generalize partsOf (w.recordsFor (source.originCall a)) = parts at h ⊢
  rcases parts with _ | ⟨networks, _ | ⟨block, _ | ⟨country, more⟩⟩⟩
  iterate 3 cases h
  obtain ⟨asn, hnumber, rfl⟩ := Option.map_eq_some_iff.mp h
  exact hnumber

theorem announced_of_lookup {a : Net.Address} (ha : a.Unzoned) {s : Session τ}
    (hnew : (source.remembered a.text s).1 = none) {info : Ownership}
    (h : (source.lookup a s).1 = .ok info) :
    announced (s.network.recordsFor (source.originCall a)) = info.asn := by
  obtain ⟨v, hv, hr⟩ := source.remembered_of_none hnew
  obtain ⟨more, -, howner⟩ := source.fetch_sent ha v
  rw [lookup, hr] at h
  dsimp only at h
  split at h
  next => cases h
  next info' u hu =>
    cases h
    have hinfo := howner info (congrArg Prod.fst hu)
    rw [source.ownerIn_of_sameButLog a hv] at hinfo
    exact source.announced_of_ownerIn hinfo

end Ownership.Source

omit [Instant τ] in
/-- What depends on the records in front alone takes, over all orders of the records, the values that it
takes when one record of each reply is picked. -/
theorem Network.exists_reordered_iff {β : Type} {f : Network τ → β} (hf : ∀ w, f w.foremost = f w)
    (v : Network τ) (y : β) :
    (∃ w, v.SameButText Answer.Reordered w ∧ f w = y) ↔ ∃ u, v.SameButText Answer.Picks u ∧ f u = y := by
  constructor
  · rintro ⟨w, hw, rfl⟩
    have hpicks := (exists_sameButText_iff Answer.exists_reordered_iff).mp ⟨w, hw, rfl⟩
    exact ⟨w.foremost, hpicks, hf w⟩
  · rintro ⟨u, hu, rfl⟩
    obtain ⟨w, hw, hcut⟩ := (exists_sameButText_iff Answer.exists_reordered_iff).mpr hu
    refine ⟨w, hw, ?_⟩
    rw [← hcut]
    exact (hf w).symm

namespace Ownership.Source

variable (source : Source τ)

theorem lookup_fst_foremost (a : Net.Address) (cache : Cache τ) (w : Network τ) :
    (source.lookup a ⟨w.foremost, cache⟩).1 = (source.lookup a ⟨w, cache⟩).1 := by
  have hlookup := source.lookup_foremost a ⟨w, cache⟩
  rw [Session.foremost] at hlookup
  rw [hlookup]

/-- Over all orders of the text records, the numbers that are attributed to an address are those that the
records about its origin tell one by one. -/
theorem exists_attributed_iff {v : Network τ} (hv : v.Orderly) {a : Net.Address} (ha : a.Unzoned)
    {cache : Cache τ} (hnew : (source.remembered a.text ⟨v, cache⟩).1 = none) (n : Int) :
    (∃ w, v.SameButText Answer.Reordered w ∧
      ∃ info, (source.lookup a ⟨w, cache⟩).1 = .ok info ∧ info.asn = some n) ↔
    ∃ r ∈ v.recordsFor (source.originCall a), announced [r] = some n := by
  constructor
  · rintro ⟨w, hw, info, hok, hasn⟩
    have hclock : w.clock = v.clock := by rw [hw.rest]
    rw [← source.remembered_congr hclock] at hnew
    have hnumber := source.announced_of_lookup ha hnew hok
    have hperm := hw.recordsFor_perm (source.originCall a) rfl
    cases hrecords : w.recordsFor (source.originCall a) with
    | nil =>
      rw [hrecords, hasn] at hnumber
      cases hnumber
    | cons r rest =>
      rw [hrecords] at hnumber hperm
      exact ⟨r, hperm.mem_iff.mpr List.mem_cons_self, hnumber.trans hasn⟩
  · rintro ⟨r, hr, hnumber⟩
    -- Where the record is picked out of every reply that holds it, it is the whole answer about the origin.
    have hclock : (v.mapText (.pick r)).clock = v.clock := rfl
    rw [← source.remembered_congr hclock] at hnew
    rw [← Network.recordsFor_pick rfl hr] at hnumber
    obtain ⟨info, s', hok, hasn, -⟩ := source.lookup_announced ha (hv.mapText _) hnew hnumber
    have hpicked := Network.sameButText_mapText (Answer.picks_pick r) v
    obtain ⟨w, hw, hsame⟩ := (Network.exists_reordered_iff
      (f := fun w => (source.lookup a ⟨w, cache⟩).1) (source.lookup_fst_foremost a cache) v _).mpr
        ⟨_, hpicked, rfl⟩
    exact ⟨w, hw, info, by rw [hsame, hok], hasn⟩

end Ownership.Source

/-- How the order of text records shows in what is learned and reported with this cache. -/
structure Network.FrontDecides (v : Network τ) (cache : Ownership.Cache τ) : Prop where
  /-- What comes behind the first text record of a reply makes no difference. -/
  behind : ∀ w, v.SameButText Answer.SameFront w →
    (∀ (source : Ownership.Source τ) (a : Net.Address),
      (source.lookup a ⟨w, cache⟩).1 = (source.lookup a ⟨v, cache⟩).1) ∧
    ∀ (settings : Settings τ) (target : String),
      (auditZone settings target ⟨w, cache⟩).1 = (auditZone settings target ⟨v, cache⟩).1
  /-- What a lookup comes to in one order of the records or another, it comes to where one record is picked
  out of each reply. -/
  lookups : ∀ (source : Ownership.Source τ) (a : Net.Address) (result : Except Failure Ownership),
    (∃ w, v.SameButText Answer.Reordered w ∧ (source.lookup a ⟨w, cache⟩).1 = result) ↔
      ∃ u, v.SameButText Answer.Picks u ∧ (source.lookup a ⟨u, cache⟩).1 = result
  audits : ∀ (settings : Settings τ) (target : String) (result : Except Failure Report),
    (∃ w, v.SameButText Answer.Reordered w ∧ (auditZone settings target ⟨w, cache⟩).1 = result) ↔
      ∃ u, v.SameButText Answer.Picks u ∧ (auditZone settings target ⟨u, cache⟩).1 = result
  /-- Every record about the origin of an address has its number attributed in one order. -/
  numbers : v.Orderly → ∀ (source : Ownership.Source τ) (a : Net.Address), a.Unzoned →
    (source.remembered a.text ⟨v, cache⟩).1 = none → ∀ n : Int,
      ((∃ w, v.SameButText Answer.Reordered w ∧
        ∃ info, (source.lookup a ⟨w, cache⟩).1 = .ok info ∧ info.asn = some n) ↔
      ∃ r ∈ v.recordsFor (source.originCall a), Ownership.announced [r] = some n)

theorem auditZone_fst_foremost (settings : Settings τ) (target : String) (cache : Ownership.Cache τ)
    (w : Network τ) :
    (auditZone settings target ⟨w.foremost, cache⟩).1 = (auditZone settings target ⟨w, cache⟩).1 := by
  have haudit := auditZone_foremost settings target ⟨w, cache⟩
  rw [Session.foremost] at haudit
  rw [haudit]

/-- Of the text records of a reply the first one decides, in lookups and in audits. -/
theorem Network.frontDecides (v : Network τ) (cache : Ownership.Cache τ) : v.FrontDecides cache := by
  refine ⟨?_, ?_, ?_, ?_⟩
  · intro w hw
    have hcut : v.foremost = w.foremost := hw.mapText_eq fun a b hab => hab.foremost_eq
    refine ⟨?_, ?_⟩
    · intro source a
      rw [← source.lookup_fst_foremost a cache w, ← hcut, source.lookup_fst_foremost]
    · intro settings target
      rw [← auditZone_fst_foremost settings target cache w, ← hcut, auditZone_fst_foremost]
  · intro source a result
    exact exists_reordered_iff (f := fun w => (source.lookup a ⟨w, cache⟩).1)
      (source.lookup_fst_foremost a cache) v result
  · intro settings target result
    exact exists_reordered_iff (f := fun w => (auditZone settings target ⟨w, cache⟩).1)
      (auditZone_fst_foremost settings target cache) v result
  · intro hv source a ha hnew n
    exact source.exists_attributed_iff hv ha hnew n

def announcedBy (digit : Text.Octet) : Rdata := .txt [[digit, 124, 124]]

/-- Two nameservers in different subnets. The second one is in network 1; these are the records about the
first one. -/
def announcing (records : List Rdata) : Network Float :=
  let a : Name := .single 97
  let b : Name := .single 98
  .start 0 1 [
    .always none "example.com." "NS" (.ok ⟨.noError, [⟨a, 60, [.ns a, .ns b]⟩]⟩),
    .always none "a." "A" (.ok ⟨.noError, [⟨a, 60, [.a (.ofNat 0xC0000201)]⟩]⟩),
    .always none "b." "A" (.ok ⟨.noError, [⟨b, 60, [.a (.ofNat 0xC6336401)]⟩]⟩),
    .always none "1.2.0.192.origin.asn.cymru.com." "TXT" (.ok ⟨.noError, [⟨a, 60, records⟩]⟩),
    .always none "1.100.51.198.origin.asn.cymru.com." "TXT"
      (.ok ⟨.noError, [⟨b, 60, [announcedBy 49]⟩]⟩)] []

theorem announcing_constant (records : List Rdata) : ∀ r ∈ (announcing records).rules, r.Constant :=
  Network.forall_start (by simp)

theorem announcing_orderly (records : List Rdata) : (announcing records).Orderly :=
  Network.orderly_of_start (by simp)

theorem announcing_sameButText {R : Answer → Answer → Prop} (hR : ∀ a, R a a)
    {records records' : List Rdata}
    (h : R ⟨.noError, [⟨.single 97, 60, records⟩]⟩ ⟨.noError, [⟨.single 97, 60, records'⟩]⟩) :
    (announcing records).SameButText R (announcing records') where
  rules := .cons (.always (.refl hR _ _)) (.cons (.always (.refl hR _ _)) (.cons (.always (.refl hR _ _))
    (.cons (.always (.txt h)) (.cons (.always (.refl hR _ _)) .nil))))
  rest := rfl

def rivals : List Rdata := [announcedBy 49, announcedBy 50]

/-- Records behind the first one may change places; and one of them comes to be the one that counts. -/
theorem frontDecides_announcing :
    (announcing (announcedBy 51 :: rivals)).Orderly ∧
    (announcing (announcedBy 51 :: rivals)).SameButText Answer.SameFront
      (announcing (announcedBy 51 :: rivals.reverse)) ∧
    (auditZone unprobed "example.com" ⟨announcing (announcedBy 51 :: rivals.reverse), []⟩).1 =
      (auditZone unprobed "example.com" ⟨announcing (announcedBy 51 :: rivals), []⟩).1 ∧
    ∃ w, (announcing (announcedBy 51 :: rivals)).SameButText Answer.Reordered w ∧
      ∃ info, (unprobed.source.lookup (.v4 (.ofNat 0xC0000201)) ⟨w, []⟩).1 = .ok info ∧
        info.asn = some 2 := by
  have hfront : (announcing (announcedBy 51 :: rivals)).SameButText Answer.SameFront
      (announcing (announcedBy 51 :: rivals.reverse)) :=
    announcing_sameButText (fun _ => ⟨rfl, rfl⟩) ⟨rfl, by decide +kernel⟩
  have horderly := announcing_orderly (announcedBy 51 :: rivals)
  have hdecides := Network.frontDecides (announcing (announcedBy 51 :: rivals)) []
  have hrecord : ⟨.single 97, 60, announcedBy 50⟩ ∈ (announcing (announcedBy 51 :: rivals)).recordsFor
      (unprobed.source.originCall (.v4 (.ofNat 0xC0000201))) := by decide +kernel
  have hnumber : Ownership.announced [⟨.single 97, 60, announcedBy 50⟩] = some 2 := by decide +kernel
  have hattributed := hdecides.numbers horderly unprobed.source (.v4 (.ofNat 0xC0000201)) trivial rfl 2
  exact ⟨horderly, hfront, (hdecides.behind _ hfront).2 unprobed "example.com",
    hattributed.mpr ⟨_, hrecord, hnumber⟩⟩

/-- Which record is in front does matter: with the same records the other way round, an address is of another
network, and the nameservers are no longer of one. -/
theorem order_matters :
    (∀ r ∈ (announcing rivals).rules, r.Constant) ∧
    (∀ r ∈ (announcing rivals.reverse).rules, r.Constant) ∧
    (announcing rivals).SameButText Answer.Reordered (announcing rivals.reverse) ∧
    (unprobed.source.lookup (.v4 (.ofNat 0xC0000201))
      ⟨announcing rivals, []⟩).1.toOption.bind Ownership.asn = some 1 ∧
    (unprobed.source.lookup (.v4 (.ofNat 0xC0000201))
      ⟨announcing rivals.reverse, []⟩).1.toOption.bind Ownership.asn = some 2 ∧
    (auditZone unprobed "example.com" ⟨announcing rivals, []⟩).1.toOption.map
      (fun r => r.findings.map Finding.issue) = some [.singleNetwork] ∧
    (auditZone unprobed "example.com" ⟨announcing rivals.reverse, []⟩).1.toOption.map
      (fun r => r.findings.map Finding.issue) = some [] := by
  refine ⟨announcing_constant _, announcing_constant _, ?_, ?_, ?_, ?_, ?_⟩
  · have hswapped : Answer.Reordered ⟨.noError, [⟨.single 97, 60, rivals⟩]⟩
        ⟨.noError, [⟨.single 97, 60, rivals.reverse⟩]⟩ :=
      ⟨rfl, .singleton ⟨rfl, rfl, (List.reverse_perm rivals).symm⟩⟩
    exact announcing_sameButText (fun a => ⟨rfl, .refl .refl _⟩) hswapped
  all_goals decide +kernel

end DelegationAudit
