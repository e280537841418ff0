import DelegationAudit.Proofs.Outcomes
import DelegationAudit.Proofs.Script

namespace DelegationAudit

variable {τ : Type} [Instant τ]

/-- Steady networks with the same answers; a hidden server may answer as it likes. -/
structure Network.Alike (hidden : Option String) (v w : Network τ) : Prop where
  left : v.Steady
  right : w.Steady
  same : ∀ call, some call.server ≠ hidden → v.answer call = w.answer call

namespace Network.Alike

variable {hidden : Option String} {v w : Network τ}

theorem refl (h : w.Steady) : w.Alike hidden w := ⟨h, h, fun _ _ => rfl⟩

theorem leads (h : v.Alike hidden w) {v' w' : Network τ} (hv : v.Leads v') (hw : w.Leads w') :
    v'.Alike hidden w' where
  left := h.left.leads hv
  right := h.right.leads hw
  same call hc := by rw [h.left v' hv, h.right w' hw, h.same call hc]

end Network.Alike

/-- Steady networks with the same answers to the calls of one kind. -/
structure Network.Agree (kind : Call τ → Prop) (v w : Network τ) : Prop where
  left : v.Steady
  right : w.Steady
  same : ∀ call, kind call → v.answer call = w.answer call

theorem Network.Agree.leads {kind : Call τ → Prop} {v w : Network τ} (h : v.Agree kind w)
    {v' w' : Network τ} (hv : v.Leads v') (hw : w.Leads w') : v'.Agree kind w' where
  left := h.left.leads hv
  right := h.right.leads hw
  same call hc := by rw [h.left v' hv, h.right w' hw, h.same call hc]

theorem Network.Alike.agree {hidden : Option String} {v w : Network τ} (h : v.Alike hidden w) :
    v.Agree (fun call => some call.server ≠ hidden) w := ⟨h.left, h.right, h.same⟩

omit [Instant τ] in
theorem firstOutcome?_filter {server : Option String} {hidden : String} (hs : server ≠ some hidden)
    (call : Call τ) (rules : List (Rule τ)) :
    firstOutcome? (Rule.matchesCall server call) (rules.filter (fun r => r.server != some hidden)) =
      firstOutcome? (Rule.matchesCall server call) rules := by
  have hskip : (fun r : Rule τ => decide ((r.server != some hidden) = true ∧
      Rule.matchesCall server call r = true)) = Rule.matchesCall server call := by
    funext r
    cases hm : Rule.matchesCall server call r with
    | false => simp
    | true =>
      have hr : r.server = server := by
        simp only [Rule.matchesCall, Bool.and_eq_true, beq_iff_eq] at hm
        exact hm.1.1
      simp [hr, hs]
  rw [firstOutcome?, firstOutcome?, List.find?_filter, hskip]

/-- Constant scripts are alike when they have the same rules but for those of the hidden server. -/
theorem Network.alike_of_constant {v w : Network τ} {hidden : String}
    (hv : ∀ r ∈ v.rules, r.Constant) (hw : ∀ r ∈ w.rules, r.Constant)
    (h : v.rules.filter (fun r => r.server != some hidden) =
      w.rules.filter (fun r => r.server != some hidden)) : v.Alike (some hidden) w where
  left := steady_of_constant hv
  right := steady_of_constant hw
  same call hc := by
    have hn : (none : Option String) ≠ some hidden := (Option.some_ne_none hidden).symm
    rw [answer_of_constant hv, answer_of_constant hw, ← firstOutcome?_filter hc,
      ← firstOutcome?_filter hn, h, firstOutcome?_filter hc, firstOutcome?_filter hn]

theorem exists_of_fst_eq {α β : Type} {x y : α × β} (h : x.1 = y.1) :
    ∃ a b c, x = (a, b) ∧ y = (a, c) := ⟨x.1, x.2, y.2, rfl, Prod.ext h.symm rfl⟩

theorem exists_of_map_fst_eq {ε α β γ : Type} {f : α → γ} {x y : Except ε α × β}
    (h : x.1.map f = y.1.map f) :
    (∃ e b c, x = (.error e, b) ∧ y = (.error e, c)) ∨
      ∃ a a' b c, x = (.ok a, b) ∧ y = (.ok a', c) ∧ f a = f a' := by
  obtain ⟨r, b⟩ := x
  obtain ⟨r', c⟩ := y
  cases r with
  | error e =>
    cases r' with
    | error d =>
      cases h
      exact .inl ⟨e, b, c, rfl, rfl⟩
    | ok a => cases h
  | ok a =>
    cases r' with
    | error d => cases h
    | ok a' => exact .inr ⟨a, a', b, c, rfl, rfl, Except.ok.inj h⟩

/-- Answers of one code whose records are related. -/
def Answer.Related (T : List Dns.Record → List Dns.Record → Prop) (a b : Answer) : Prop :=
  a.code = b.code ∧ T (Dns.recordsOf a.sets) (Dns.recordsOf b.sets)

theorem buildQuery_type {name : String} {type : Dns.RecordType} {secure : Bool} {query : Dns.Query}
    (h : buildQuery name type secure = .ok query) : query.type = type := by
  rw [buildQuery] at h
  split at h
  · cases h
    rfl
  · cases h

namespace Client

section Related

variable {T : List Dns.Record → List Dns.Record → Prop} (c : Client τ) (name : String)
  {type : Dns.RecordType} {server : String} (secure : Bool) {v w : Network τ}
  (h : ∀ query : Dns.Query, query.type = type →
    Outcomes Eq (Answer.Related T) (v.answer ⟨server, c.port, c.timeout, query⟩)
      (w.answer ⟨server, c.port, c.timeout, query⟩))

include h

theorem ask_related :
    Outcomes Eq (fun o o' : Outcome τ => T o.records o'.records) (c.ask name type server secure v).1
      (c.ask name type server secure w).1 := by
  unfold ask
  cases hq : buildQuery name type secure with
  | error e => exact .error rfl
  | ok query =>
    have hanswer := h query (buildQuery_type hq)
    unfold Network.answer at hanswer
    dsimp only
    generalize v.exchange ⟨server, c.port, c.timeout, query⟩ = x at hanswer ⊢
    generalize w.exchange ⟨server, c.port, c.timeout, query⟩ = y at hanswer ⊢
    obtain ⟨r, v'⟩ := x
    obtain ⟨r', w'⟩ := y
    cases hanswer with
    | error he =>
      subst he
      dsimp only
      split <;> exact .error rfl
    | ok ha =>
      obtain ⟨hcode, hrecords⟩ := ha
      dsimp only
      rw [hcode]
      split
      · exact .ok hrecords
      · exact .error rfl

theorem resolve_related
    (hfilter : ∀ {xs ys}, T xs ys → T (Dns.filterByType [type] xs) (Dns.filterByType [type] ys))
    (hnil : ∀ {xs ys}, T xs ys → (xs = [] ↔ ys = [])) :
    Outcomes Eq (fun x y : List Dns.Record × τ => T x.1 y.1) (c.resolve name type server secure v).1
      (c.resolve name type server secure w).1 := by
  have ha := c.ask_related name secure h
  unfold resolve
  generalize c.ask name type server secure v = x at ha ⊢
  generalize c.ask name type server secure w = y at ha ⊢
  obtain ⟨r, v'⟩ := x
  obtain ⟨r', w'⟩ := y
  cases ha with
  | error he => exact .error he
  | ok ho =>
    have hrecords := hfilter ho
    have hempty := hnil hrecords
    dsimp only
    split
    next hx =>
      rw [hempty.mp hx]
      exact .error rfl
    next x xs hx =>
      rw [hx] at hrecords hempty
      split
      next hy => cases hempty.mpr hy
      next y ys hy =>
        rw [hy] at hrecords
        exact .ok hrecords

end Related

theorem resolve_agree {kind : Call τ → Prop} {v w : Network τ} (h : v.Agree kind w) (c : Client τ)
    (name : String) {type : Dns.RecordType} {server : String} (secure : Bool)
    (hkind : ∀ query : Dns.Query, query.type = type → kind ⟨server, c.port, c.timeout, query⟩) :
    (c.resolve name type server secure v).1.map Prod.fst =
      (c.resolve name type server secure w).1.map Prod.fst := by
  refine (c.resolve_related name secure (T := Eq) ?_ (fun h => by rw [h]) fun h => by rw [h]).map_eq
  intro query htype
  exact .of_eq (h.same _ (hkind query htype)) fun _ => ⟨rfl, rfl⟩

end Client

variable {hidden : Option String} {v w : Network τ}

section Alike

variable (h : v.Alike hidden w) {server : String}

include h

theorem Client.resolve_alike (c : Client τ) (hs : some server ≠ hidden) (name : String)
    (type : Dns.RecordType) (secure : Bool) :
    (c.resolve name type server secure v).1.map Prod.fst =
      (c.resolve name type server secure w).1.map Prod.fst :=
  c.resolve_agree h.agree name secure fun _ _ => hs

namespace Discovery

variable (client : Client τ) (hs : some server ≠ hidden)

include hs

theorem addresses_alike (host : String) (type : Dns.RecordType) :
    (addresses client server host type v).1 = (addresses client server host type w).1 := by
  have hr := client.resolve_alike h hs host type false
  unfold addresses
  rcases exists_of_map_fst_eq hr with ⟨e, v', w', hv, hw⟩ |
      ⟨⟨records, t⟩, ⟨records', t'⟩, v', w', hv, hw, ho⟩
  · rw [hv, hw]
    dsimp only
    split <;> rfl
  · rw [hv, hw]
    dsimp only at ho ⊢
    rw [ho]

theorem nameserver_alike (host : String) :
    (nameserver client server host v).1 = (nameserver client server host w).1 := by
  have ha := addresses_alike h client hs host .a
  have hl := h.leads (addresses_leads client server host .a v)
    (addresses_leads client server host .a w)
  unfold nameserver
  obtain ⟨r, v', w', hv, hw⟩ := exists_of_fst_eq ha
  rw [hv, hw] at hl ⊢
  cases r with
  | error e => rfl
  | ok v4 =>
    have hb := addresses_alike hl client hs host .aaaa
    dsimp only
    obtain ⟨r, v'', w'', hv, hw⟩ := exists_of_fst_eq hb
    rw [hv, hw]
    cases r <;> rfl

theorem nameservers_alike (hosts : List String) :
    (nameservers client server hosts v).1 = (nameservers client server hosts w).1 := by
  induction hosts generalizing v w with
  | nil => rfl
  | cons host rest ih =>
    have hn := nameserver_alike h client hs host
    have hl := h.leads (nameserver_leads client server host v)
      (nameserver_leads client server host w)
    unfold nameservers
    obtain ⟨r, v', w', hv, hw⟩ := exists_of_fst_eq hn
    rw [hv, hw] at hl ⊢
    cases r with
    | error e => rfl
    | ok ns =>
      have hr := ih hl
      dsimp only
      obtain ⟨r, v'', w'', hv, hw⟩ := exists_of_fst_eq hr
      rw [hv, hw]
      cases r <;> rfl

end Discovery

theorem discover_alike (client : Client τ) (hs : some server ≠ hidden) (domain : String) :
    (discover client server domain v).1 = (discover client server domain w).1 := by
  have hr := client.resolve_alike h hs domain .ns false
  have hl := h.leads (client.resolve_leads domain .ns server false v)
    (client.resolve_leads domain .ns server false w)
  unfold discover
  rcases exists_of_map_fst_eq hr with ⟨e, v', w', hv, hw⟩ |
      ⟨⟨records, t⟩, ⟨records', t'⟩, v', w', hv, hw, ho⟩
  · rw [hv, hw]
  · rw [hv, hw] at hl ⊢
    have hn := Discovery.nameservers_alike hl client hs (Dns.targetsOf records)
    dsimp only at ho hn ⊢
    subst ho
    obtain ⟨r, v'', w'', hv, hw⟩ := exists_of_fst_eq hn
    rw [hv, hw]
    cases r with
    | error e => rfl
    | ok found => cases found <;> rfl

end Alike

namespace Ownership.Source

section Agree

variable {kind : Call τ → Prop} (h : v.Agree kind w) (source : Source τ)
  (hkind : ∀ query : Dns.Query, query.type = .txt →
    kind ⟨source.server, source.client.port, source.client.timeout, query⟩)

include h hkind

theorem ask_agree (name : String) : (source.ask name v).1 = (source.ask name w).1 := by
  have hr := source.client.resolve_agree h name false hkind
  unfold ask
  rcases exists_of_map_fst_eq hr with ⟨e, v', w', hv, hw⟩ |
      ⟨⟨records, t⟩, ⟨records', t'⟩, v', w', hv, hw, ho⟩
  · rw [hv, hw]
  · rw [hv, hw]
    dsimp only at ho ⊢
    subst ho
    split <;> rfl

theorem organization_agree (asn : Int) :
    (source.organization asn v).1 = (source.organization asn w).1 := by
  have ha := source.ask_agree h hkind (networkName asn)
  unfold organization
  obtain ⟨r, v', w', hv, hw⟩ := exists_of_fst_eq ha
  rw [hv, hw]
  cases r with
  | ok parts => rfl
  | error e =>
    dsimp only
    split <;> rfl

theorem readOrigin_agree (key : String) (parts : List (List Char)) :
    (source.readOrigin key parts v).1 = (source.readOrigin key parts w).1 := by
  unfold readOrigin
  split
  next networks block country more =>
    split
    · rfl
    next asn _ =>
      have ho := source.organization_agree h hkind asn
      obtain ⟨r, v', w', hv, hw⟩ := exists_of_fst_eq ho
      rw [hv, hw]
      cases r <;> rfl
  next => rfl

/-- Owners are learned from text records alone. -/
theorem fetch_agree (address : Net.Address) :
    (source.fetch address v).1 = (source.fetch address w).1 := by
  unfold fetch
  split
  next => rfl
  next name _ =>
    have ha := source.ask_agree h hkind name
    have hl := h.leads (source.ask_leads name v) (source.ask_leads name w)
    obtain ⟨r, v', w', hv, hw⟩ := exists_of_fst_eq ha
    rw [hv, hw] at hl ⊢
    cases r with
    | error e => rfl
    | ok parts => exact source.readOrigin_agree hl hkind address.text parts

end Agree

theorem fetch_alike (h : v.Alike hidden w) (source : Source τ) (hs : some source.server ≠ hidden)
    (address : Net.Address) : (source.fetch address v).1 = (source.fetch address w).1 :=
  source.fetch_agree h.agree (fun _ _ => hs) address

end Ownership.Source

end DelegationAudit
