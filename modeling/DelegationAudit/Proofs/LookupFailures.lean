import DelegationAudit.Net.Address.Reader
import DelegationAudit.Proofs.AnyOrder
import DelegationAudit.Proofs.OriginAnswers

namespace DelegationAudit

namespace Net

open Text

theorem percent_not_mem_of_readOctet {s : List Char} {n : Nat} (h : readOctet s = .ok n) : '%' ∉ s := by
  rw [readOctet] at h
  split_ifs at h with _ hdigits
  rw [Bool.not_eq_true, Bool.not_eq_false', List.all_eq_true] at hdigits
  exact fun hmem => absurd (hdigits _ hmem) (by decide)

theorem percent_not_mem_of_readIPv4 {s : List Char} {a : IPv4} (h : readIPv4 s = .ok a) : '%' ∉ s := by
  rw [readIPv4] at h
  split_ifs at h
  dsimp only at h
  split_ifs at h
  split at h
  next => cases h
  next octets hread =>
    intro hmem
    obtain ⟨part, hpart, hin⟩ := exists_mem_fields (p := (· == '.')) hmem (by decide)
    obtain ⟨n, hn⟩ := exists_mapM_eq_ok_iff.mp ⟨octets, hread⟩ part hpart
    exact percent_not_mem_of_readOctet hn hin

theorem percent_not_mem_of_readGroup {s : List Char} {n : Nat} (h : readGroup s = .ok n) : '%' ∉ s := by
  have hdigits : ∀ ds, s.mapM hexValue? = some ds → '%' ∉ s := by
    clear h
    induction s with
    | nil => simp
    | cons c s ih =>
      intro ds hds
      rw [List.mapM_cons] at hds
      obtain ⟨d, hd, hds⟩ := Option.bind_eq_some_iff.mp hds
      obtain ⟨rest, hrest, -⟩ := Option.bind_eq_some_iff.mp hds
      intro hmem
      rcases List.mem_cons.mp hmem with rfl | hmem
      · cases hd
      · exact ih rest hrest hmem
  rw [readGroup] at h
  split at h
  next => cases h
  next ds hread => exact hdigits ds hread

theorem percent_not_mem_of_readGroups {parts : List (List Char)} {gs : List Nat}
    (h : readGroups parts = .ok gs) : ∀ part ∈ parts, '%' ∉ part := by
  rw [readGroups] at h
  split at h
  next => cases h
  next gs' hread =>
    intro part hpart
    obtain ⟨n, hn⟩ := exists_mapM_eq_ok_iff.mp ⟨gs', hread⟩ part hpart
    exact percent_not_mem_of_readGroup hn

theorem forall_mem_of_startsEmpty {P : List Char → Prop} (hnil : P []) {parts : List (List Char)}
    (h : ∀ part ∈ if startsEmpty parts then parts.tail else parts, P part) : ∀ part ∈ parts, P part := by
  cases parts with
  | nil => simp
  | cons first rest =>
    by_cases hfirst : startsEmpty (first :: rest) = true
    · rw [if_pos hfirst] at h
      have hempty : first = [] := by simpa [startsEmpty] using hfirst
      rw [hempty]
      exact List.forall_mem_cons.mpr ⟨hnil, h⟩
    · rwa [if_neg hfirst] at h

theorem forall_mem_of_endsEmpty {P : List Char → Prop} (hnil : P []) {parts : List (List Char)}
    (h : ∀ part ∈ if endsEmpty parts then parts.dropLast else parts, P part) :
    ∀ part ∈ parts, P part := by
  rcases List.eq_nil_or_concat parts with rfl | ⟨front, last, rfl⟩
  · simp
  · rw [List.concat_eq_append] at h ⊢
    by_cases hlast : endsEmpty (front ++ [last]) = true
    · rw [if_pos hlast, List.dropLast_concat] at h
      have hempty : last = [] := by simpa [endsEmpty] using hlast
      rw [hempty]
      exact List.forall_mem_append.mpr ⟨h, List.forall_mem_singleton.mpr hnil⟩
    · rwa [if_neg hlast] at h

theorem percent_not_mem_of_spreadGap {parts : List (List Char)} {gap : Nat} {gs : List Nat}
    (hgap : parts[gap]? = some []) (h : spreadGap parts gap = .ok gs) : ∀ part ∈ parts, '%' ∉ part := by
  have hnil : '%' ∉ ([] : List Char) := List.not_mem_nil
  have hparts : parts.take gap ++ [] :: parts.drop (gap + 1) = parts := by
    obtain ⟨hlt, hempty⟩ := List.getElem?_eq_some_iff.mp hgap
    rw [← hempty, List.getElem_cons_drop, List.take_append_drop]
  unfold spreadGap at h
  extract_lets before after high low at h
  split_ifs at h
  obtain ⟨hs, hhigh, h⟩ := bind_eq_ok.mp h
  obtain ⟨ls, hlow, -⟩ := bind_eq_ok.mp h
  rw [← hparts]
  refine List.forall_mem_append.mpr ⟨?_, List.forall_mem_cons.mpr ⟨hnil, ?_⟩⟩
  · exact forall_mem_of_startsEmpty hnil (percent_not_mem_of_readGroups hhigh)
  · exact forall_mem_of_endsEmpty hnil (percent_not_mem_of_readGroups hlow)

theorem getElem?_of_innerGaps {parts : List (List Char)} {gap : Nat} (h : gap ∈ innerGaps parts) :
    parts[gap]? = some [] := by
  have hempty := (List.mem_filter.mp h).2
  rw [Bool.and_eq_true, Option.any_eq_true] at hempty
  obtain ⟨-, part, hpart, hnil⟩ := hempty
  rw [hpart, List.isEmpty_iff.mp hnil]

theorem percent_not_mem_of_groupsOf {parts : List (List Char)} {gs : List Nat}
    (h : groupsOf parts = .ok gs) : ∀ part ∈ parts, '%' ∉ part := by
  rw [groupsOf] at h
  split at h
  · cases h
  · split at h
    next => cases h
    next gap hgaps =>
      have hmem : gap ∈ innerGaps parts := by
        rw [hgaps]
        exact List.mem_singleton_self gap
      exact percent_not_mem_of_spreadGap (getElem?_of_innerGaps hmem) h
    next =>
      split_ifs at h
      exact percent_not_mem_of_readGroups h

theorem percent_not_mem_of_expandTail {parts parts' : List (List Char)}
    (h : expandTail parts = .ok parts') (hrest : ∀ part ∈ parts', '%' ∉ part) :
    ∀ part ∈ parts, '%' ∉ part := by
  rcases List.eq_nil_or_concat parts with rfl | ⟨front, last, rfl⟩
  · simp
  rw [List.concat_eq_append] at h ⊢
  rw [expandTail, List.getLast?_concat] at h
  dsimp only at h
  split at h
  · split at h
    next => cases h
    next a hread =>
      cases h
      rw [List.dropLast_concat] at hrest
      have hlast := percent_not_mem_of_readIPv4 hread
      exact List.forall_mem_append.mpr
        ⟨(List.forall_mem_append.mp hrest).1, List.forall_mem_singleton.mpr hlast⟩
  · cases h
    exact hrest

/-- What is read as a number of an address has no zone in it. -/
theorem percent_not_mem_of_readIPv6Value {s : List Char} {n : Nat} (h : readIPv6Value s = .ok n) :
    '%' ∉ s := by
  rw [readIPv6Value] at h
  extract_lets at h
  split_ifs at h
  obtain ⟨parts, htail, h⟩ := bind_eq_ok.mp h
  obtain ⟨groups, hgroups, -⟩ := bind_eq_ok.mp h
  have hparts := percent_not_mem_of_expandTail htail (percent_not_mem_of_groupsOf hgroups)
  intro hmem
  obtain ⟨part, hpart, hin⟩ := exists_mem_fields (p := (· == ':')) hmem (by decide)
  exact hparts part hpart hin

end Net

namespace Ownership

/-- The text of an address with a zone is read as a number, in vain. -/
theorem originName_zoned {a : Net.Address} (ha : ¬ a.Unzoned) :
    ∃ fault : Net.IPv6Fault, originName a = .error (.plain .address (fault.message a.text.toList)) := by
  cases a with
  | v4 a => exact absurd trivial ha
  | v6 a =>
    obtain ⟨zone, hzone⟩ := Option.ne_none_iff_exists'.mp ha
    have hpercent : '%' ∈ a.chars := by
      rw [Net.IPv6.chars, hzone]
      simp
    rw [originName, hzone, Net.Address.text, Net.IPv6.text, String.toList_ofList]
    cases hread : Net.readIPv6Value a.chars with
    | error fault => exact ⟨fault, rfl⟩
    | ok n => exact absurd hpercent (Net.percent_not_mem_of_readIPv6Value hread)

namespace Source

variable {τ : Type} [Instant τ] (source : Source τ)

theorem organizationIn_of_ask {asn : Int} {w : Network τ} {e : Failure}
    (h : (source.ask (networkName asn) w).1 = .error e) : source.organizationIn asn w = none := by
  rw [organizationIn, ← networkName_eq]
  cases hread : Dns.Name.read (networkName asn) with
  | error fault => rfl
  | ok name =>
    obtain ⟨-, ⟨hnone, -⟩ | hok⟩ := source.ask_sent hread w
    · dsimp only
      rw [hnone]
      rfl
    · rw [hok] at h
      cases h

theorem lookup_zoned {a : Net.Address} (ha : ¬ a.Unzoned) {s : Session τ}
    (hnew : (source.remembered a.text s).1 = none) :
    ∃ (fault : Net.IPv6Fault) (s' : Session τ),
      source.lookup a s = (.error (.plain .address (fault.message a.text.toList)), s') ∧
      s'.network.calls = s.network.calls ∧ s'.cache = s.cache.erase a.text := by
  obtain ⟨fault, hname⟩ := originName_zoned ha
  obtain ⟨v, hv, hr⟩ := source.remembered_of_none hnew
  refine ⟨fault, ⟨v, s.cache.erase a.text⟩, ?_, hv.calls, rfl⟩
  rw [lookup, hr]
  simp only [fetch, hname]

theorem lookup_live {a : Net.Address} {s : Session τ} {info : Ownership}
    (h : (source.remembered a.text s).1 = some info) : (source.lookup a s).1 = .ok info := by
  rw [lookup, eq_pair_of_fst h]

/-- Of an orderly network a lookup makes nothing but owners and failures of its own, unless the address has
a zone and is not remembered: then it fails with another failure before anything is asked. The question
about the name of a network is never missed. -/
theorem lookup_failures (source : Source τ) (a : Net.Address) {s : Session τ} (hs : s.network.Orderly) :
    ((∀ e, (source.lookup a s).1 = .error e → e.isOwnership = true) ↔
      a.Unzoned ∨ (source.remembered a.text s).1.isSome = true) ∧
    (¬ a.Unzoned → (source.remembered a.text s).1 = none → ∃ (fault : Net.IPv6Fault) (s' : Session τ),
      source.lookup a s = (.error (.plain .address (fault.message a.text.toList)), s') ∧
      s'.network.calls = s.network.calls ∧ s'.cache = s.cache.erase a.text) ∧
    (a.Unzoned → (source.remembered a.text s).1 = none →
      ∀ n, announced (s.network.recordsFor (source.originCall a)) = some n →
      ∃ info s', source.lookup a s = (.ok info, s') ∧ info.asn = some n ∧
        ∀ e, (source.ask (networkName n) (s.network.exchange (source.originCall a)).2).1 = .error e →
          info.organization = none) := by
  refine ⟨⟨?_, ?_⟩, ?_, ?_⟩
  · intro hall
    by_contra hnot
    obtain ⟨ha, hlive⟩ := not_or.mp hnot
    rw [Bool.not_eq_true, Option.isSome_eq_false_iff, Option.isNone_iff_eq_none] at hlive
    obtain ⟨fault, s', hlookup, -, -⟩ := source.lookup_zoned ha hlive
    cases hall _ (congrArg Prod.fst hlookup)
  · rintro (ha | hlive) e he
    · exact source.lookup_fault ha hs he
    · obtain ⟨info, hinfo⟩ := Option.isSome_iff_exists.mp hlive
      rw [source.lookup_live hinfo] at he
      cases he
  · exact fun ha hnew => source.lookup_zoned ha hnew
  · intro ha hnew n hnumber
    obtain ⟨info, s', hok, hasn, hname⟩ := source.lookup_announced ha hs hnew hnumber
    exact ⟨info, s', hok, hasn, fun e he => hname.trans (source.organizationIn_of_ask he)⟩

theorem oneOrigin_orderly : oneOrigin.Orderly :=
  Network.orderly_of_start (by simp)

/-- The address that ends in one on the link of an interface. -/
def linkLocal : Net.Address := .v6 ⟨0xFE80#16 ++ 1#112, some "eth0"⟩

/-- Nothing is learned of this address, and the failure is none of the lookup. The network of the other
address has no name that could be learned. -/
theorem lookup_failures_linkLocal :
    oneOrigin.Orderly ∧ linkLocal.text = "fe80::1%eth0" ∧
    ¬ (∀ e, (tenSeconds.lookup linkLocal ⟨oneOrigin, []⟩).1 = .error e → e.isOwnership = true) ∧
    ∃ info s', tenSeconds.lookup (.v4 (.ofNat 0xC0000201)) ⟨oneOrigin, []⟩ = (.ok info, s') ∧
      info.organization = none := by
  obtain ⟨hone, -, -⟩ := lookup_failures tenSeconds linkLocal (s := ⟨oneOrigin, []⟩) oneOrigin_orderly
  obtain ⟨-, -, hname⟩ :=
    lookup_failures tenSeconds (.v4 (.ofNat 0xC0000201)) (s := ⟨oneOrigin, []⟩) oneOrigin_orderly
  have hzone : ¬ (linkLocal.Unzoned ∨
      (tenSeconds.remembered linkLocal.text ⟨oneOrigin, []⟩).1.isSome = true) := by
    rintro (h | h) <;> cases h
  have hnumber : announced (oneOrigin.recordsFor (tenSeconds.originCall (.v4 (.ofNat 0xC0000201)))) =
      some 64496 := by decide +kernel
  have hsilent : (tenSeconds.ask (networkName 64496)
      (oneOrigin.exchange (tenSeconds.originCall (.v4 (.ofNat 0xC0000201)))).2).1.toOption = none := by
    decide +kernel
  obtain ⟨info, s', hok, -, hnone⟩ := hname trivial rfl 64496 hnumber
  refine ⟨oneOrigin_orderly, by decide +kernel, mt hone.mp hzone, info, s', hok, ?_⟩
  cases hask : (tenSeconds.ask (networkName 64496)
      (oneOrigin.exchange (tenSeconds.originCall (.v4 (.ofNat 0xC0000201)))).2).1 with
  | error e => exact hnone e hask
  | ok parts =>
    rw [hask] at hsilent
    cases hsilent

end Source

end Ownership

end DelegationAudit
