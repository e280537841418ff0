import DelegationAudit.Proofs.Steady

namespace DelegationAudit

open Dns

variable {τ : Type}

/-- The types of records whose order says nothing. -/
def unordered : List RecordType := [.ns, .a, .aaaa, .soa]

/-- Two replies to a question of this type: one reply, or answers with the same records in different
orders. -/
inductive Rotates (type : RecordType) : Except Failure Answer → Except Failure Answer → Prop
  | same (r : Except Failure Answer) : Rotates type r r
  | moved {a b : Answer} (htype : type ∈ unordered) (hcode : a.code = b.code)
      (hrecords : (recordsOf a.sets).Perm (recordsOf b.sets)) : Rotates type (.ok a) (.ok b)

section Networks

variable [Instant τ]

/-- Steady networks whose replies are the same but for the order of their records. -/
structure Network.Rotated (v w : Network τ) : Prop where
  left : v.Steady
  right : w.Steady
  answers : ∀ call, Rotates call.query.type (v.answer call) (w.answer call)

namespace Network.Rotated

variable {v w : Network τ} (h : v.Rotated w)

include h

theorem leads {v' w' : Network τ} (hv : v.Leads v') (hw : w.Leads w') : v'.Rotated w' where
  left := h.left.leads hv
  right := h.right.leads hw
  answers call := by
    rw [h.left v' hv, h.right w' hw]
    exact h.answers call

theorem agree : v.Agree (fun call => call.query.type = .txt) w where
  left := h.left
  right := h.right
  same call htype := by
    have hanswer := h.answers call
    rw [htype] at hanswer
    generalize v.answer call = x at hanswer ⊢
    generalize w.answer call = y at hanswer ⊢
    cases hanswer with
    | same => rfl
    | moved hmem => exact absurd hmem (by decide)

theorem resolve (c : Client τ) (name : String) (type : RecordType) (server : String)
    (secure : Bool) :
    Outcomes Eq (fun x y : List Record × τ => x.1.Perm y.1) (c.resolve name type server secure v).1
      (c.resolve name type server secure w).1 := by
  refine c.resolve_related name secure ?_ (fun hp => hp.filter _) ?_
  · intro query _
    have hanswer := h.answers ⟨server, c.port, c.timeout, query⟩
    generalize v.answer ⟨server, c.port, c.timeout, query⟩ = x at hanswer ⊢
    generalize w.answer ⟨server, c.port, c.timeout, query⟩ = y at hanswer ⊢
    cases hanswer with
    | same => exact .of_eq rfl fun a => ⟨rfl, .refl _⟩
    | moved _ hcode hrecords => exact .ok ⟨hcode, hrecords⟩
  · intro xs ys hp
    rw [← List.length_eq_zero_iff, ← List.length_eq_zero_iff, hp.length_eq]

end Network.Rotated

theorem Dns.RecordType.eq_of_text {type known : RecordType} {word : String}
    (hword : (known.code.toNat, word) ∈ names) (h : type.text = word) : type = known := by
  have honce : ∀ e ∈ names, ∀ e' ∈ names, e.2 = e'.2 → e.1 = e'.1 := by decide +kernel
  have hplain : ∀ e ∈ names, "TYPE".toList.isPrefixOf e.2.toList = false := by decide +kernel
  rw [text] at h
  split at h
  next s hlookup =>
    subst h
    have hcode := honce (type.code.toNat, s) (mem_of_lookup hlookup) (known.code.toNat, s) hword rfl
    cases type
    cases known
    exact congrArg mk (UInt16.toNat_inj.mp hcode)
  next =>
    have hprefix := hplain (known.code.toNat, word) hword
    rw [← h] at hprefix
    simp at hprefix

/-- Rules for one question whose replies are the same but for the order of their records. -/
structure Rule.Rotated (r r' : Rule τ) : Prop where
  server : r.server = r'.server
  name : r.name = r'.name
  type : r.type = r'.type
  replies : ∀ type : RecordType, type.text = r.type →
    Option.Rel (Rotates type) (r.replies.head?.map Reply.outcome) (r'.replies.head?.map Reply.outcome)

omit [Instant τ] in
theorem Rule.always_rotated {server : Option String} {name word : String}
    {outcome outcome' : Except Failure Answer}
    (h : ∀ type : RecordType, type.text = word → Rotates type outcome outcome') :
    (always server name word outcome : Rule τ).Rotated (always server name word outcome') :=
  ⟨rfl, rfl, rfl, fun type ht => .some (h type ht)⟩

omit [Instant τ] in
theorem firstOutcome?_rotated {rules rules' : List (Rule τ)}
    (h : List.Forall₂ Rule.Rotated rules rules') (server : Option String) (call : Call τ) :
    Option.Rel (Rotates call.query.type) (firstOutcome? (Rule.matchesCall server call) rules)
      (firstOutcome? (Rule.matchesCall server call) rules') := by
  induction h with
  | nil => exact .none
  | @cons r r' rest rest' hr _ ih =>
    have hmatches : Rule.matchesCall server call r' = Rule.matchesCall server call r := by
      rw [Rule.matchesCall, Rule.matchesCall, hr.server, hr.name, hr.type]
    simp only [firstOutcome?, List.find?_cons, hmatches] at ih ⊢
    cases hm : Rule.matchesCall server call r with
    | false => exact ih
    | true => exact hr.replies call.query.type (Rule.type_of_matchesCall hm).symm

/-- Constant scripts whose rules are the same but for the order of records. -/
theorem Network.rotated_of_constant {v w : Network τ} (hv : ∀ r ∈ v.rules, r.Constant)
    (hw : ∀ r ∈ w.rules, r.Constant) (h : List.Forall₂ Rule.Rotated v.rules w.rules) :
    v.Rotated w where
  left := steady_of_constant hv
  right := steady_of_constant hw
  answers call := by
    have hown := firstOutcome?_rotated h (some call.server) call
    have hany := firstOutcome?_rotated h none call
    rw [answer_of_constant hv, answer_of_constant hw]
    generalize firstOutcome? (Rule.matchesCall (some call.server) call) v.rules = x at hown ⊢
    generalize firstOutcome? (Rule.matchesCall (some call.server) call) w.rules = y at hown ⊢
    generalize firstOutcome? (Rule.matchesCall none call) v.rules = x' at hany ⊢
    generalize firstOutcome? (Rule.matchesCall none call) w.rules = y' at hany ⊢
    cases hown with
    | some hr => exact hr
    | none =>
      cases hany with
      | some hr => exact hr
      | none => exact .same _

/-- Nameservers of one name with the same addresses in different orders, and the same owners. -/
structure Nameserver.Like (ns ms : Nameserver) : Prop where
  name : ns.name = ms.name
  addresses : ns.addresses.Perm ms.addresses
  owners : ∀ a, ns.ownerOf? a = ms.ownerOf? a

namespace Discovery

variable (client : Client τ) (server : String)

variable {v w : Network τ} (h : v.Rotated w)

include h

theorem addresses_rotated (host : String) (type : RecordType) :
    Outcomes Eq List.Perm (addresses client server host type v).1
      (addresses client server host type w).1 := by
  have hr := h.resolve client host type server false
  unfold addresses
  generalize client.resolve host type server false v = x at hr ⊢
  generalize client.resolve host type server false w = y at hr ⊢
  obtain ⟨r, v'⟩ := x
  obtain ⟨r', w'⟩ := y
  cases hr with
  | error he =>
    subst he
    dsimp only
    split
    · exact .ok (.refl _)
    · exact .error rfl
  | ok hp => exact .ok (hp.filterMap _)

theorem nameserver_rotated (host : String) :
    Outcomes Eq Nameserver.Like (nameserver client server host v).1
      (nameserver client server host w).1 := by
  have h4 := addresses_rotated client server h host .a
  have h' := h.leads (addresses_leads client server host .a v)
    (addresses_leads client server host .a w)
  unfold nameserver
  generalize addresses client server host .a v = x at h4 h' ⊢
  generalize addresses client server host .a w = y at h4 h' ⊢
  obtain ⟨r, v'⟩ := x
  obtain ⟨r', w'⟩ := y
  cases h4 with
  | error he => exact .error he
  | ok hv4 =>
    have h6 := addresses_rotated client server h' host .aaaa
    dsimp only at h6 ⊢
    generalize addresses client server host .aaaa v' = x at h6 ⊢
    generalize addresses client server host .aaaa w' = y at h6 ⊢
    obtain ⟨r, v''⟩ := x
    obtain ⟨r', w''⟩ := y
    cases h6 with
    | error he => exact .error he
    | ok hv6 => exact .ok ⟨rfl, hv4.append hv6, fun _ => rfl⟩

theorem nameservers_rotated {hosts hosts' : List String} (hp : hosts.Perm hosts') :
    Outcomes (fun e f => e.Fatal ∧ f.Fatal)
      (Rearranged Nameserver.Like)
      (nameservers client server hosts v).1 (nameservers client server hosts' w).1 := by
  rw [nameservers_eq_mapM client server h.left .refl, nameservers_eq_mapM client server h.right .refl]
  refine Outcomes.mapM (D := Eq) (.of_perm hp) ?_ ?_
  · rintro host - host' - rfl
    exact nameserver_rotated client server h host
  · intro host _ host' _ e f he hf
    exact ⟨nameserver_fatal client server he, nameserver_fatal client server hf⟩

end Discovery

/-- Discovery comes to the same end: to one failure, which tells that there are no nameservers or is
another one, or to the same nameservers. -/
theorem discover_rotated {v w : Network τ} (h : v.Rotated w) (client : Client τ)
    (server domain : String) :
    Outcomes (fun e f => e = f ∨ (e.Fatal ∧ f.Fatal))
      (Rearranged Nameserver.Like)
      (discover client server domain v).1 (discover client server domain w).1 := by
  have hr := h.resolve client domain .ns server false
  have h' := h.leads (client.resolve_leads domain .ns server false v)
    (client.resolve_leads domain .ns server false w)
  unfold discover
  generalize client.resolve domain .ns server false v = x at hr h' ⊢
  generalize client.resolve domain .ns server false w = y at hr h' ⊢
  obtain ⟨r, v'⟩ := x
  obtain ⟨r', w'⟩ := y
  cases hr with
  | error he =>
    subst he
    exact .error (.inl rfl)
  | @ok xs ys hp =>
    obtain ⟨records, t⟩ := xs
    obtain ⟨records', t'⟩ := ys
    have hhosts : (targetsOf records).Perm (targetsOf records') := (hp.filterMap _).map _
    have hn := Discovery.nameservers_rotated client server h' hhosts
    dsimp only at hn ⊢
    generalize Discovery.nameservers client server (targetsOf records) v' = x at hn ⊢
    generalize Discovery.nameservers client server (targetsOf records') w' = y at hn ⊢
    obtain ⟨r, v''⟩ := x
    obtain ⟨r', w''⟩ := y
    cases hn with
    | error he => exact .error (.inr he)
    | @ok found found' hrel =>
      have hlength := hrel.length_eq
      cases found with
      | nil =>
        rw [List.eq_nil_of_length_eq_zero hlength.symm]
        exact .error (.inl rfl)
      | cons ns more =>
        cases found' with
        | nil => cases hlength
        | cons ms more' => exact .ok hrel

end Networks

/-- Networks that differ in the order of records, and caches that agree with them. -/
structure Session.Rotated [Instant τ] (source : Ownership.Source τ) (v w : Session τ) : Prop where
  network : v.network.Rotated w.network
  left : source.Coherent v
  right : source.Coherent w

namespace Scan

variable [Instant τ] {s : Scan τ} (hx : s.expires = none) {p q : Progress τ}
  (h : p.session.Rotated s.source q.session)

include hx h

theorem enrichOne_rotated {ns ms : Nameserver} (hlike : ns.Like ms) :
    Outcomes (fun _ _ => True) Nameserver.Like (s.enrichOne ns p).1 (s.enrichOne ms q).1 := by
  have hsaid : ∀ a, (s.source.fetch a q.session.network).1 =
      (s.source.fetch a p.session.network).1 := fun a =>
    (s.source.fetch_agree h.network.agree (fun _ htype => htype) a).symm
  rw [enrichOne_eq hx, enrichOne_eq hx, owners_eq_ascribe h.left (fun _ => rfl),
    owners_eq_ascribe h.right hsaid]
  refine (ascribe_perm hlike.addresses).map ?_
  intro found found' howners
  exact ⟨hlike.name, hlike.addresses, howners⟩

theorem enrich_rotated {nameservers nameservers' : List Nameserver}
    (hlike : Rearranged Nameserver.Like nameservers nameservers') :
    Outcomes (fun _ _ => True) (Rearranged Nameserver.Like) (s.enrich nameservers p).1
      (s.enrich nameservers' q).1 := by
  unfold enrich
  split
  · have hp : p.session.Alike none s.source p.session := ⟨.refl h.network.left, h.left, h.left⟩
    have hq : q.session.Alike none s.source q.session := ⟨.refl h.network.right, h.right, h.right⟩
    rw [enrichAll_eq_mapM hx hp, enrichAll_eq_mapM hx hq]
    exact Outcomes.mapM hlike (fun ns _ ms _ hl => enrichOne_rotated hx h hl)
      fun _ _ _ _ _ _ _ _ => trivial
  · exact .ok hlike

end Scan

end DelegationAudit
