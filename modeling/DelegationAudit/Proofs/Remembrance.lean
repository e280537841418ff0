import DelegationAudit.Proofs.ExactTime
import DelegationAudit.Proofs.Recall
import DelegationAudit.Proofs.Visits

namespace DelegationAudit

open Dns

namespace Ownership

namespace Cache

variable {τ : Type}

theorem mem_of_find? {cache : Cache τ} {key : String} {entry : Entry τ}
    (h : cache.find? key = some entry) : (key, entry) ∈ cache := by
  induction cache with
  | nil => cases h
  | cons row rest ih =>
    obtain ⟨k, first⟩ := row
    rw [find?, List.lookup_cons] at h
    split at h
    next hk =>
      cases h
      rw [beq_iff_eq.mp hk]
      exact List.mem_cons_self
    next => exact List.mem_cons_of_mem _ (ih h)

theorem mem_erase {cache : Cache τ} {key : String} {row : String × Entry τ} :
    row ∈ cache.erase key ↔ row ∈ cache ∧ row.1 ≠ key := by
  rw [erase, List.mem_filter, bne_iff_ne]

end Cache

/-- What happens to a source: an address is looked up, time passes, or the servers come to answer by
other rules. -/
inductive Act (τ : Type)
  | lookup (a : Net.Address)
  | wait (span : τ)
  | reanswer (rules : List (Rule τ))

namespace Source

section History

variable {τ : Type} [Instant τ] (source : Source τ)

/-- What a lookup learns: the owner it comes to, and when, if it sent messages for it. -/
def learned (a : Net.Address) (s : Session τ) : Option (Entry τ) :=
  match source.lookup a s with
  | (.error _, _) => none
  | (.ok info, s') =>
    if s'.network.calls.length = s.network.calls.length then none else some ⟨s'.network.clock, info⟩

/-- What is learned of an address when this happens. -/
def learnedBy (a : Net.Address) (s : Session τ) : Act τ → Option (Entry τ)
  | .lookup b => if b = a then source.learned b s else none
  | .wait _ => none
  | .reanswer _ => none

def undergo (s : Session τ) : Act τ → Session τ
  | .lookup a => (source.lookup a s).2
  | .wait span => { s with network := s.network.advance span }
  | .reanswer rules => { s with network := { s.network with rules := rules } }

def live (acts : List (Act τ)) (s : Session τ) : Session τ := acts.foldl source.undergo s

/-- What was learned of an address last. -/
def lastLearned (a : Net.Address) : List (Act τ) → Session τ → Option (Entry τ)
  | [], _ => none
  | act :: rest, s => (lastLearned a rest (source.undergo s act)).or (source.learnedBy a s act)

end History

section Answers

variable {τ : Type} [Instant τ] (source : Source τ)

/-- The name of a network by the answer that is given now; none without an answer. -/
def organizationIn (asn : Int) (w : Network τ) : Option String :=
  match Name.read ("AS" ++ Number.intString asn ++ ".asn.cymru.com.") with
  | .error _ => none
  | .ok name =>
    ((partsOf (w.recordsFor (source.client.message source.server name .txt)))[4]?).bind nonEmpty

/-- The owner that the fields of an origin tell of, with the name of its network by the answer now. -/
def ownerFrom (parts : List (List Char)) (w : Network τ) : Option Ownership :=
  match parts with
  | networks :: block :: country :: _ =>
    (firstNumber networks).map fun asn =>
      ⟨nonEmpty country, some asn, source.organizationIn asn w, nonEmpty block⟩
  | _ => none

/-- The owner of an address by the answers that are given now: to the question about its origin, and
then to the one about the network in that answer. -/
def ownerIn (a : Net.Address) (w : Network τ) : Option Ownership :=
  source.ownerFrom (partsOf (w.recordsFor (source.originCall a)))
    (w.exchange (source.originCall a)).2

theorem ask_sent {text : String} {name : Name} (hn : Name.read text = .ok name) (v : Network τ) :
    v.Sent [source.client.message source.server name .txt] (source.ask text v).2 ∧
      ((v.recordsFor (source.client.message source.server name .txt) = [] ∧
          ∃ e, (source.ask text v).1 = .error e) ∨
        source.ask text v =
          (.ok (partsOf (v.recordsFor (source.client.message source.server name .txt))),
            (v.exchange (source.client.message source.server name .txt)).2)) := by
  obtain ⟨hsent, hcase⟩ := source.client.resolve_sent hn .txt source.server v
  rw [ask]
  rcases hcase with ⟨hnone, e, hr, -⟩ | ⟨-, t, hr⟩
  · obtain ⟨u, hu⟩ : ∃ u, source.client.resolve text .txt source.server false v = (.error e, u) :=
      ⟨_, Prod.ext hr rfl⟩
    rw [hu] at hsent ⊢
    exact ⟨hsent, .inl ⟨hnone, _, rfl⟩⟩
  · rw [hr] at hsent ⊢
    dsimp only
    rw [partsOf]
    cases (v.recordsFor (source.client.message source.server name .txt)).head?.map (·.data) with
    | none => exact ⟨hsent, .inr rfl⟩
    | some data => cases data <;> exact ⟨hsent, .inr rfl⟩

theorem organization_sent (asn : Int) (v : Network τ) :
    v.Sent (source.networkCalls asn) (source.organization asn v).2 ∧
      ∀ name, (source.organization asn v).1 = .ok name → name = source.organizationIn asn v := by
  rw [organization, organizationIn, networkCalls, ← networkName_eq]
  cases hread : Name.read (networkName asn) with
  | error fault =>
    rw [source.ask_nameless hread]
    refine ⟨(Network.Sent.refl v).note _ _ _, ?_⟩
    intro name hname
    cases hname
    rfl
  | ok name =>
    obtain ⟨hsent, ⟨hnone, e, hr⟩ | hr⟩ := source.ask_sent hread v
    · obtain ⟨u, hu⟩ : ∃ u, source.ask (networkName asn) v = (.error e, u) := ⟨_, Prod.ext hr rfl⟩
      rw [hu] at hsent ⊢
      dsimp only
      split
      · refine ⟨hsent.note _ _ _, ?_⟩
        intro name' hname
        cases hname
        rw [hnone]
        rfl
      · refine ⟨hsent, ?_⟩
        intro name' hname
        cases hname
    · rw [hr] at hsent ⊢
      refine ⟨hsent, ?_⟩
      intro name' hname
      cases hname
      rfl

theorem readOrigin_sent (key : String) (parts : List (List Char)) (v : Network τ) :
    ∃ calls, v.Sent calls (source.readOrigin key parts v).2 ∧
      ∀ info, (source.readOrigin key parts v).1 = .ok info → source.ownerFrom parts v = some info := by
  rcases parts with _ | ⟨networks, _ | ⟨block, _ | ⟨country, more⟩⟩⟩
  -- With fewer than three fields nothing is asked and nothing is read.
  iterate 3 exact ⟨[], .refl v, fun _ h => by cases h⟩
  rw [readOrigin, ownerFrom]
  cases firstNumber networks with
  | none => exact ⟨[], .refl v, fun _ h => by cases h⟩
  | some asn =>
    obtain ⟨hsent, hname⟩ := source.organization_sent asn v
    refine ⟨source.networkCalls asn, ?_, ?_⟩
    · dsimp only
      split
      next e u hu => rwa [hu] at hsent
      next name u hu => rwa [hu] at hsent
    · intro info hinfo
      dsimp only at hinfo
      split at hinfo
      next => cases hinfo
      next name u hu =>
        cases hinfo
        rw [hname name (by rw [hu])]
        rfl

theorem fetch_sent {a : Net.Address} (ha : a.Unzoned) (v : Network τ) :
    ∃ more, v.Sent (source.originCall a :: more) (source.fetch a v).2 ∧
      ∀ info, (source.fetch a v).1 = .ok info → source.ownerIn a v = some info := by
  obtain ⟨text, htext⟩ := originName_ok ha
  have hask := source.ask_sent (read_originName ha htext) v
  rw [fetch, htext]
  dsimp only
  obtain ⟨hsent, ⟨-, e, hr⟩ | hr⟩ := hask
  · obtain ⟨u, hu⟩ : ∃ u, source.ask text v = (.error e, u) := ⟨_, Prod.ext hr rfl⟩
    rw [hu] at hsent ⊢
    refine ⟨[], hsent, ?_⟩
    intro info hinfo
    cases hinfo
  · rw [hr] at hsent ⊢
    obtain ⟨more, hmore, howner⟩ := source.readOrigin_sent a.text _ _
    exact ⟨more, hsent.trans hmore, howner⟩

theorem organizationIn_of_sameButLog (asn : Int) {v w : Network τ} (h : v.SameButLog w) :
    source.organizationIn asn v = source.organizationIn asn w := by
  simp only [organizationIn, h.recordsFor]

theorem ownerIn_of_sameButLog (a : Net.Address) {v w : Network τ}
    (h : v.SameButLog w) : source.ownerIn a v = source.ownerIn a w := by
  have hnext := (h.exchange (source.originCall a)).2
  simp only [ownerIn, h.recordsFor, ownerFrom, source.organizationIn_of_sameButLog _ hnext]

end Answers

end Source

end Ownership

section Order

variable {τ : Type} [AddCommGroup τ] [LinearOrder τ]

/-- No reply takes less than no time. -/
def Rule.Forward (r : Rule τ) : Prop :=
  ∀ reply ∈ r.replies, ∀ cost, reply.cost = some cost → 0 ≤ cost

/-- A network on which messages do not turn the clock back. -/
structure Network.Forward (w : Network τ) : Prop where
  cost : 0 ≤ w.cost
  rules : ∀ r ∈ w.rules, r.Forward

namespace Ownership

/-- The address has no zone, and time does not run back. -/
def Act.Admissible : Act τ → Prop
  | lookup a => a.Unzoned
  | wait span => 0 ≤ span
  | reanswer rules => ∀ r ∈ rules, r.Forward

namespace Source

/-- An entry is too old by now. -/
def Stale (source : Source τ) (entry : Entry τ) (now : τ) : Prop :=
  entry.stored + source.lifetime < now

theorem Stale.mono {source : Source τ} {entry : Entry τ} {now later : τ}
    (h : source.Stale entry now) (hle : now ≤ later) : source.Stale entry later := h.trans_le hle

/-- The cache keeps to what was learned last: all of it that is not stale, and nothing else. -/
structure Recalls (source : Source τ) (last : Net.Address → Option (Entry τ)) (s : Session τ) :
    Prop where
  forward : s.network.Forward
  live : ∀ a entry, last a = some entry → ¬ source.Stale entry s.network.clock →
    s.cache.find? a.text = some entry
  owned : ∀ row ∈ s.cache, ∃ a : Net.Address, a.text = row.1 ∧ last a = some row.2

namespace Recalls

variable {source : Source τ} {last : Net.Address → Option (Entry τ)} {s : Session τ}

theorem nothing {w : Network τ} (hw : w.Forward) : source.Recalls (fun _ => none) ⟨w, []⟩ where
  forward := hw
  live _ _ h := nomatch h
  owned _ h := nomatch h

theorem last_eq (h : source.Recalls last s) {a : Net.Address} {entry : Entry τ}
    (hfind : s.cache.find? a.text = some entry) : last a = some entry := by
  obtain ⟨b, htext, hlast⟩ := h.owned _ (Cache.mem_of_find? hfind)
  rwa [Net.Address.text_inj htext] at hlast

theorem elsewhere (h : source.Recalls last s) {v : Network τ} (hv : v.Forward)
    (hle : s.network.clock ≤ v.clock) : source.Recalls last ⟨v, s.cache⟩ where
  forward := hv
  live a entry hlast hlive := h.live a entry hlast fun hstale => hlive (hstale.mono hle)
  owned := h.owned

theorem erase (h : source.Recalls last s) {a : Net.Address} {u : Network τ} (hu : u.Forward)
    (hle : s.network.clock ≤ u.clock)
    (hstale : ∀ entry, s.cache.find? a.text = some entry → source.Stale entry s.network.clock) :
    source.Recalls last ⟨u, s.cache.erase a.text⟩ where
  forward := hu
  live b entry hlast hlive := by
    have hfind := h.live b entry hlast fun hold => hlive (hold.mono hle)
    have hne : b.text ≠ a.text := by
      intro htext
      rw [htext] at hfind
      exact hlive ((hstale entry hfind).mono hle)
    exact (Cache.find?_erase_ne s.cache hne).trans hfind
  owned row hrow := h.owned row (Cache.mem_erase.mp hrow).1

theorem store (h : source.Recalls last s) {a : Net.Address} {u : Network τ} (hu : u.Forward)
    (hle : s.network.clock ≤ u.clock) (info : Ownership) :
    source.Recalls (fun b => if a = b then some ⟨u.clock, info⟩ else last b)
      ⟨u, s.cache.store a.text ⟨u.clock, info⟩⟩ where
  forward := hu
  live b entry hlast hlive := by
    by_cases hab : a = b
    · rw [if_pos hab] at hlast
      rw [← hab, ← Option.some.inj hlast]
      exact Cache.find?_store _ _ _
    · rw [if_neg hab] at hlast
      have hfind := h.live b entry hlast fun hold => hlive (hold.mono hle)
      have hne : b.text ≠ a.text := fun htext => hab (Net.Address.text_inj htext).symm
      exact (Cache.find?_store_ne s.cache hne _).trans hfind
  owned row hrow := by
    rcases List.mem_cons.mp hrow with rfl | hrow
    · exact ⟨a, rfl, if_pos rfl⟩
    · obtain ⟨hrow, hne⟩ := Cache.mem_erase.mp hrow
      obtain ⟨b, htext, hlast⟩ := h.owned row hrow
      have hab : a ≠ b := by
        rintro rfl
        exact hne htext.symm
      exact ⟨b, htext, (if_neg hab).trans hlast⟩

end Recalls

end Source

end Ownership

end Order

variable {τ : Type} [AddCommGroup τ] [LinearOrder τ] [IsOrderedAddMonoid τ] [Instant τ] [ExactTime τ]

namespace Network

theorem Forward.exchange {w : Network τ} (h : w.Forward) (call : Call τ) :
    (w.exchange call).2.Forward ∧ w.clock ≤ (w.exchange call).2.clock := by
  have hforward : ∀ r ∈ (w.exchange call).2.rules, r.Forward :=
    replies_of_script (P := fun replies => ∀ reply ∈ replies, ∀ cost, reply.cost = some cost → 0 ≤ cost)
      (Leads.exchange call .refl).script h.rules
  have hcost : (w.exchange call).2.cost = w.cost := by
    rw [Network.exchange]
    dsimp only
    split <;> rfl
  refine ⟨⟨hcost ▸ h.cost, hforward⟩, ?_⟩
  rw [Network.exchange]
  dsimp only
  split
  · rw [advance, ExactTime.add_eq]
    exact le_add_of_nonneg_right h.cost
  next reply rest hs =>
    obtain ⟨r, hr, hreply⟩ := (select_script hs).1
    rw [advance, ExactTime.add_eq]
    apply le_add_of_nonneg_right
    cases hc : reply.cost with
    | none => exact h.cost
    | some cost => exact h.rules r hr reply hreply cost hc

theorem Forward.send {w : Network τ} (h : w.Forward) (calls : List (Call τ)) :
    (w.send calls).Forward ∧ w.clock ≤ (w.send calls).clock := by
  induction calls generalizing w with
  | nil => exact ⟨h, le_refl _⟩
  | cons call rest ih =>
    obtain ⟨hnext, hclock⟩ := h.exchange call
    obtain ⟨hlast, hlater⟩ := ih hnext
    exact ⟨hlast, hclock.trans hlater⟩

theorem Forward.sent {v u : Network τ} (h : v.Forward) {calls : List (Call τ)} (hs : v.Sent calls u) :
    u.Forward ∧ v.clock ≤ u.clock := by
  obtain ⟨⟨hcost, hrules⟩, hclock⟩ := h.send calls
  have hsame : u.SameButLog (v.send calls) := hs
  exact ⟨⟨hsame.cost ▸ hcost, hsame.rules ▸ hrules⟩, hsame.clock ▸ hclock⟩

end Network

namespace Ownership.Source

variable (source : Source τ)

theorem before_iff_stale (entry : Entry τ) (now : τ) :
    Instant.before source.lifetime (Instant.sub now entry.stored) = true ↔ source.Stale entry now := by
  rw [ExactTime.before_iff, ExactTime.sub_eq, Stale, lt_sub_iff_add_lt']

/-- What a lookup comes to: an owner that is remembered, a failure, or an owner that is learned. -/
inductive Looked (source : Source τ) (a : Net.Address) (s : Session τ) :
    Except Failure Ownership × Session τ → Prop
  | remembered (entry : Entry τ) (hfind : s.cache.find? a.text = some entry)
      (hlive : ¬ source.Stale entry s.network.clock) : Looked source a s (.ok entry.info, s)
  | failed (e : Failure) (u : Network τ) (more : List (Call τ))
      (hstale : ∀ entry, s.cache.find? a.text = some entry → source.Stale entry s.network.clock)
      (hsent : s.network.Sent (source.originCall a :: more) u) :
      Looked source a s (.error e, ⟨u, s.cache.erase a.text⟩)
  | learned (info : Ownership) (u : Network τ) (more : List (Call τ))
      (hstale : ∀ entry, s.cache.find? a.text = some entry → source.Stale entry s.network.clock)
      (hsent : s.network.Sent (source.originCall a :: more) u)
      (howner : source.ownerIn a s.network = some info) :
      Looked source a s (.ok info, ⟨u, s.cache.store a.text ⟨u.clock, info⟩⟩)

theorem remembered_stale (key : String) (s : Session τ) :
    (∃ entry, s.cache.find? key = some entry ∧ ¬ source.Stale entry s.network.clock ∧
      source.remembered key s = (some entry.info, s)) ∨
    ((∀ entry, s.cache.find? key = some entry → source.Stale entry s.network.clock) ∧
      ∃ v, v.SameButLog s.network ∧ source.remembered key s = (none, ⟨v, s.cache.erase key⟩)) := by
  simpa only [← source.before_iff_stale, Bool.not_eq_true] using source.remembered_cases key s

theorem lookup_looked {a : Net.Address} (ha : a.Unzoned) (s : Session τ) :
    source.Looked a s (source.lookup a s) := by
  rw [lookup]
  rcases source.remembered_stale a.text s with ⟨entry, hfind, hlive, hr⟩ | ⟨hstale, v, hv, hr⟩
  · rw [hr]
    exact .remembered entry hfind hlive
  · rw [hr]
    obtain ⟨more, hsent, howner⟩ := source.fetch_sent ha v
    have hfrom : s.network.Sent (source.originCall a :: more) (source.fetch a v).2 :=
      Network.SameButLog.trans hsent (hv.send _)
    rw [source.ownerIn_of_sameButLog a hv] at howner
    dsimp only
    split
    next e u hu =>
      rw [hu] at hfrom
      exact .failed e u more hstale hfrom
    next info u hu =>
      rw [hu] at hfrom howner
      have hlearned := Looked.learned info u more hstale hfrom (howner info rfl)
      rwa [Cache.store, ← Cache.erase_erase] at hlearned

variable {source : Source τ} {last : Net.Address → Option (Entry τ)} {s : Session τ}

theorem Recalls.lookup (h : source.Recalls last s) {a : Net.Address} (ha : a.Unzoned) :
    source.Recalls (fun b => (if a = b then source.learned a s else none).or (last b))
      (source.lookup a s).2 := by
  have hlooked := source.lookup_looked ha s
  rw [learned]
  generalize source.lookup a s = result at hlooked ⊢
  cases hlooked with
  | remembered entry hfind hlive => simpa using h
  | failed e u more hstale hsent =>
    obtain ⟨hu, hle⟩ := h.forward.sent hsent
    simpa using h.erase hu hle hstale
  | learned info u more hstale hsent howner =>
    obtain ⟨hu, hle⟩ := h.forward.sent hsent
    have hgrown : u.calls.length ≠ s.network.calls.length := by
      rw [hsent.calls_eq, List.length_append, List.length_cons]
      omega
    have hstored := h.store (a := a) hu hle info
    convert hstored using 2 with b
    dsimp only
    rw [if_neg hgrown]
    split <;> rfl

theorem Recalls.undergo (h : source.Recalls last s) {act : Act τ} (hact : act.Admissible) :
    source.Recalls (fun a => (source.learnedBy a s act).or (last a)) (source.undergo s act) := by
  cases act with
  | lookup a => exact h.lookup hact
  | wait span =>
    have hle : s.network.clock ≤ (s.network.advance span).clock := by
      rw [Network.advance, ExactTime.add_eq]
      exact le_add_of_nonneg_right hact
    exact h.elsewhere ⟨h.forward.cost, h.forward.rules⟩ hle
  | reanswer rules => exact h.elsewhere ⟨h.forward.cost, hact⟩ (le_refl _)

theorem Recalls.live_run (h : source.Recalls last s) {acts : List (Act τ)}
    (hacts : ∀ act ∈ acts, act.Admissible) :
    source.Recalls (fun a => (source.lastLearned a acts s).or (last a)) (source.live acts s) := by
  induction acts generalizing last s with
  | nil => exact h
  | cons act rest ih =>
    have hstep := h.undergo (hacts act (by simp))
    have hrest := ih hstep fun later hlater => hacts later (by simp [hlater])
    simp only [← Option.or_assoc] at hrest
    exact hrest

/-- How a source remembers, where this is what was learned of each address last. -/
structure Remembers (source : Source τ) (last : Net.Address → Option (Entry τ)) (s : Session τ) :
    Prop where
  /-- For the lifetime of answers an owner is given as it was learned, and nothing is sent. -/
  held : ∀ a entry, last a = some entry → s.network.clock ≤ entry.stored + source.lifetime →
    source.lookup a s = (.ok entry.info, s)
  /-- What is too old, or was never learned, is asked for, and told by the answers given now. -/
  asked : ∀ a, a.Unzoned →
    (∀ entry, last a = some entry → entry.stored + source.lifetime < s.network.clock) →
    (∃ more, (source.lookup a s).2.network.calls =
      s.network.calls ++ source.originCall a :: more) ∧
    ∀ info, (source.lookup a s).1 = .ok info → source.ownerIn a s.network = some info
  /-- A failure leaves the cache as it was, but for an entry of the address that is too old. -/
  failed : ∀ a, a.Unzoned → ∀ e s', source.lookup a s = (.error e, s') →
    s'.cache = s.cache ∨ s'.cache = s.cache.erase a.text ∧ ∃ entry,
      s.cache.find? a.text = some entry ∧ entry.stored + source.lifetime < s.network.clock
  /-- A lookup has nothing to do with the entries of other addresses. -/
  others : ∀ a b, a.Unzoned → a ≠ b →
    (source.lookup a s).2.cache.find? b.text = s.cache.find? b.text
  /-- An entry is of one address only, and is what was learned of it last. -/
  owned : ∀ row ∈ s.cache, ∃ a : Net.Address, a.text = row.1 ∧ last a = some row.2 ∧
    ∀ b : Net.Address, b.text = row.1 → b = a

theorem Recalls.held (h : source.Recalls last s) {a : Net.Address} {entry : Entry τ}
    (hlast : last a = some entry) (hlive : ¬ source.Stale entry s.network.clock) :
    source.lookup a s = (.ok entry.info, s) := by
  have hfind := h.live a entry hlast hlive
  rw [Source.lookup]
  rcases source.remembered_stale a.text s with ⟨entry', hfind', -, hr⟩ | ⟨hstale, -⟩
  · rw [hr]
    rw [hfind] at hfind'
    cases hfind'
    rfl
  · exact absurd (hstale entry hfind) hlive

theorem Recalls.remembers (h : source.Recalls last s) : source.Remembers last s where
  held a entry hlast hle := h.held hlast (not_lt.mpr hle)
  asked a ha hold := by
    have hlooked := source.lookup_looked ha s
    generalize source.lookup a s = result at hlooked ⊢
    cases hlooked with
    | remembered entry hfind hlive => exact absurd (hold entry (h.last_eq hfind)) hlive
    | failed e u more hstale hsent =>
      refine ⟨⟨more, hsent.calls_eq⟩, ?_⟩
      intro info hinfo
      cases hinfo
    | learned info u more hstale hsent howner =>
      refine ⟨⟨more, hsent.calls_eq⟩, ?_⟩
      intro info' hinfo
      cases hinfo
      exact howner
  failed a ha e s' he := by
    have hlooked := source.lookup_looked ha s
    rw [he] at hlooked
    cases hlooked with
    | failed e u more hstale hsent =>
      cases hfind : s.cache.find? a.text with
      | none => exact .inl (Cache.erase_of_find?_eq_none hfind)
      | some entry => exact .inr ⟨rfl, entry, rfl, hstale entry hfind⟩
  others a b ha hne := by
    have htext : b.text ≠ a.text := fun he => hne (Net.Address.text_inj he).symm
    have hlooked := source.lookup_looked ha s
    generalize source.lookup a s = result at hlooked ⊢
    cases hlooked with
    | remembered entry hfind hlive => rfl
    | failed e u more hstale hsent => exact Cache.find?_erase_ne s.cache htext
    | learned info u more hstale hsent howner => exact Cache.find?_store_ne s.cache htext _
  owned row hrow := by
    obtain ⟨a, htext, hlast⟩ := h.owned row hrow
    exact ⟨a, htext, hlast, fun b hb => Net.Address.text_inj (hb.trans htext.symm)⟩

/-- Whatever lookups, waits and changes of the servers came before: a source gives what it learned last
of an address for the lifetime of answers and not longer, it stores nothing but what it learns, and no
address has a part in what is stored of another. -/
theorem lookup_remembers (source : Source τ) {w : Network τ} (hw : w.Forward) {past : List (Act τ)}
    (hp : ∀ act ∈ past, act.Admissible) :
    source.Remembers (fun a => source.lastLearned a past ⟨w, []⟩) (source.live past ⟨w, []⟩) := by
  have hfresh : source.Recalls (fun _ => none) ⟨w, []⟩ := .nothing hw
  have hrecalls := hfresh.live_run hp
  simp only [Option.or_none] at hrecalls
  exact hrecalls.remembers

/-- An owner is learned at the second message, the servers fall silent, and the lifetime of the answer
comes to its last moment. -/
def lastMoment : List (Act ℚ) :=
  [.lookup (.v4 (.ofNat 0xC0000201)), .reanswer [], .wait 10]

def tenSeconds : Source ℚ := ⟨⟨2, 53⟩, "127.0.0.1", 10⟩

/-- The origin of one address; every message costs one second. -/
def oneOrigin : Network ℚ :=
  .start 0 1 [.always none "1.2.0.192.origin.asn.cymru.com." "TXT"
    (.ok ⟨.noError, [⟨.single 97, 60, [.txt [[54, 52, 52, 57, 54, 124, 124]]]⟩]⟩)] []

theorem oneOrigin_forward : oneOrigin.Forward := by
  refine ⟨by decide, ?_⟩
  simp [oneOrigin, Network.start, addRule, Rule.always, Rule.Forward]

/-- At this moment it is still given. -/
theorem lookup_remembers_lastMoment :
    oneOrigin.Forward ∧ (∀ act ∈ lastMoment, act.Admissible) ∧
    (∃ entry, tenSeconds.lastLearned (.v4 (.ofNat 0xC0000201)) lastMoment ⟨oneOrigin, []⟩ = some entry ∧
      (tenSeconds.live lastMoment ⟨oneOrigin, []⟩).network.clock =
        entry.stored + tenSeconds.lifetime) ∧
    tenSeconds.Remembers (fun a => tenSeconds.lastLearned a lastMoment ⟨oneOrigin, []⟩)
      (tenSeconds.live lastMoment ⟨oneOrigin, []⟩) := by
  have hp : ∀ act ∈ lastMoment, act.Admissible := by
    have hspan : (0 : ℚ) ≤ 10 := by decide
    simp [lastMoment, Act.Admissible, Net.Address.Unzoned, hspan]
  refine ⟨oneOrigin_forward, hp, ?_, lookup_remembers tenSeconds oneOrigin_forward hp⟩
  have hlearned : (tenSeconds.lastLearned (.v4 (.ofNat 0xC0000201)) lastMoment ⟨oneOrigin, []⟩).map
      (fun entry => decide ((tenSeconds.live lastMoment ⟨oneOrigin, []⟩).network.clock =
        entry.stored + tenSeconds.lifetime)) = some true := by decide +kernel
  obtain ⟨entry, hentry, htime⟩ := Option.map_eq_some_iff.mp hlearned
  exact ⟨entry, hentry, of_decide_eq_true htime⟩

end Ownership.Source

end DelegationAudit
