import DelegationAudit.Proofs.AnyOrder
import DelegationAudit.Proofs.Isolation
import DelegationAudit.Proofs.Probing

namespace DelegationAudit

open Dns

variable {τ : Type}

/-- A failure that is not of one question stays what it is. -/
def Failure.Fatal (e : Failure) : Prop := e.isResolution = false

theorem Failure.Fatal.isNoNameservers {e : Failure} (h : e.Fatal) : Scan.isNoNameservers e = false := by
  cases e with
  | noNameservers domain cause => cases h
  | _ => rfl

namespace Discovery

variable [Instant τ] (client : Client τ) (server : String)

theorem addresses_fatal {host : String} {type : RecordType} {w : Network τ} {e : Failure}
    (h : (addresses client server host type w).1 = .error e) : e.Fatal := by
  unfold addresses at h
  split at h
  next => cases h
  next f w' hf =>
    split at h
    next => cases h
    next hresolution =>
      cases h
      exact Bool.eq_false_iff.mpr hresolution

theorem nameserver_fatal {host : String} {w : Network τ} {e : Failure}
    (h : (nameserver client server host w).1 = .error e) : e.Fatal := by
  unfold nameserver at h
  split at h
  next f v hf =>
    cases h
    exact addresses_fatal client server (congrArg Prod.fst hf)
  next v4 v h4 =>
    split at h
    next f u hf =>
      cases h
      exact addresses_fatal client server (congrArg Prod.fst hf)
    next => cases h

theorem nameservers_fatal {hosts : List String} {w : Network τ} {e : Failure}
    (h : (nameservers client server hosts w).1 = .error e) : e.Fatal := by
  induction hosts generalizing w with
  | nil => cases h
  | cons host rest ih =>
    rw [nameservers] at h
    split at h
    next f v hf =>
      cases h
      exact nameserver_fatal client server (congrArg Prod.fst hf)
    next ns v hns =>
      split at h
      next f u hf =>
        cases h
        exact ih (congrArg Prod.fst hf)
      next => cases h

theorem nameservers_eq_mapM {w u : Network τ} (hw : w.Steady) (hl : w.Leads u) (hosts : List String) :
    (nameservers client server hosts u).1 =
      hosts.mapM fun host => (nameserver client server host w).1 := by
  induction hosts generalizing u with
  | nil => rfl
  | cons host rest ih =>
    have hfirst := nameserver_alike ((Network.Alike.refl hw).leads hl .refl) client
      (Option.some_ne_none server) host
    have hnext := ih (hl.trans (nameserver_leads client server host u))
    rw [List.mapM_cons, ← hfirst, ← hnext]
    rw [nameservers]
    cases hn : nameserver client server host u with
    | mk r u' =>
      cases r with
      | error e => rfl
      | ok ns =>
        dsimp only
        cases hm : nameservers client server rest u' with
        | mk r u'' => cases r <;> rfl

end Discovery

namespace Scan

theorem lookup_setOwner (key other : String) (o : Ownership) (known : List (String × Ownership)) :
    (setOwner key o known).lookup other = if other = key then some o else known.lookup other := by
  induction known with
  | nil => by_cases ho : other = key <;> simp [setOwner, List.lookup_cons, ho, beq_eq_decide]
  | cons entry rest ih =>
    obtain ⟨k, v⟩ := entry
    rw [setOwner]
    by_cases hk : k = key
    · subst hk
      by_cases ho : other = k <;> simp [List.lookup_cons, ho, beq_eq_decide]
    · by_cases ho : other = k
      · subst ho
        simp [hk]
      · simp [List.lookup_cons, hk, ho, ih, beq_eq_decide]

section Attribution

variable (said : Net.Address → Except Failure Ownership)

/-- The owners of addresses, where this is said of each. Failures to find an owner are passed over. -/
def ascribe : List Net.Address → List (String × Ownership) →
    Except Failure (List (String × Ownership))
  | [], known => .ok known
  | a :: rest, known =>
    match said a with
    | .ok o => ascribe rest (setOwner a.text o known)
    | .error e => if e.isOwnership then ascribe rest known else .error e

variable {said} {addresses : List Net.Address} {known : List (String × Ownership)}

theorem ascribe_ok_iff :
    (∃ found, ascribe said addresses known = .ok found) ↔
      ∀ a ∈ addresses, ∀ e, said a = .error e → e.isOwnership = true := by
  induction addresses generalizing known with
  | nil => simp [ascribe]
  | cons a rest ih =>
    rw [ascribe, List.forall_mem_cons]
    cases ha : said a with
    | ok o => simpa using ih
    | error e =>
      by_cases ho : e.isOwnership = true
      · simpa [ho] using ih
      · simp [ho]

/-- An address has an owner when one is said of it, or is known already. -/
theorem ascribe_lookup {found : List (String × Ownership)}
    (h : ascribe said addresses known = .ok found) (a : Net.Address) :
    found.lookup a.text =
      (if a ∈ addresses then (said a).toOption else none).or (known.lookup a.text) := by
  induction addresses generalizing known with
  | nil =>
    cases h
    simp
  | cons b rest ih =>
    rw [ascribe] at h
    cases hb : said b with
    | ok o =>
      rw [hb] at h
      rw [ih h, lookup_setOwner]
      by_cases hab : a = b
      · subst hab
        by_cases hmem : a ∈ rest <;> simp [hmem, hb, Except.toOption]
      · have htext : a.text ≠ b.text := fun he => hab (Net.Address.text_inj he)
        simp [htext, hab]
    | error e =>
      rw [hb] at h
      dsimp only at h
      split at h
      · rw [ih h]
        by_cases hab : a = b
        · subst hab
          simp [hb, Except.toOption]
        · simp [hab]
      · cases h

theorem ascribe_perm {addresses' : List Net.Address} (hp : addresses.Perm addresses') :
    Outcomes (fun _ _ => True) (fun found found' : List (String × Ownership) =>
        ∀ a : Net.Address, found.lookup a.text = found'.lookup a.text)
      (ascribe said addresses known) (ascribe said addresses' known) := by
  have hsame : (∃ found, ascribe said addresses known = .ok found) ↔
      ∃ found, ascribe said addresses' known = .ok found := by
    rw [ascribe_ok_iff, ascribe_ok_iff]
    simp only [hp.mem_iff]
  cases hx : ascribe said addresses known with
  | ok found =>
    obtain ⟨found', hy⟩ := hsame.mp ⟨found, hx⟩
    rw [hy]
    refine .ok fun a => ?_
    rw [ascribe_lookup hx, ascribe_lookup hy]
    simp only [hp.mem_iff]
  | error e =>
    cases hy : ascribe said addresses' known with
    | ok found' =>
      obtain ⟨found, hfound⟩ := hsame.mpr ⟨found', hy⟩
      rw [hfound] at hx
      cases hx
    | error e' => exact .error trivial

end Attribution

variable [Instant τ] {s : Scan τ}

theorem owners_eq_ascribe {said : Net.Address → Except Failure Ownership} {session : Session τ}
    (h : s.source.Coherent session) (hsaid : ∀ a, (s.source.fetch a session.network).1 = said a)
    (host : String) (addresses : List Net.Address) (known : List (String × Ownership)) :
    (s.owners host addresses known session).1 = ascribe said addresses known := by
  induction addresses generalizing known session with
  | nil => rfl
  | cons a rest ih =>
    have hlookup := Ownership.Source.lookup_eq_fetch h a
    have hcoherent := Ownership.Source.lookup_coherent h a
    have hleads := s.source.lookup_leads a session
    have hlater : ∀ v, session.network.Leads v → ∀ b, (s.source.fetch b v).1 = said b := by
      intro v hv b
      rw [Ownership.Source.fetch_leads_eq s.source h.steady hv, hsaid]
    rw [hsaid] at hlookup
    rw [owners, ascribe, ← hlookup]
    cases hr : s.source.lookup a session with
    | mk r session' =>
      rw [hr] at hcoherent hleads
      cases r with
      | ok o => exact ih hcoherent (hlater _ hleads) _
      | error e =>
        dsimp only
        split
        · have hnoted : s.source.Coherent (noteMissing host a e session') :=
            hcoherent.leads (.note _ _ _ .refl)
          exact ih hnoted (hlater _ (.note _ _ _ hleads)) known
        · rfl

theorem enrichOne_eq (hx : s.expires = none) (ns : Nameserver) (p : Progress τ) :
    (s.enrichOne ns p).1 = (s.owners ns.name ns.addresses [] p.session).1.map
      fun known => { ns with ownership := known } := by
  unfold enrichOne
  rw [inTime_of_endless hx, if_pos rfl]
  cases s.owners ns.name ns.addresses [] p.session with
  | mk r session => cases r <;> rfl

theorem enrichAll_eq_mapM (hx : s.expires = none) {p q : Progress τ}
    (h : q.session.Alike none s.source p.session) (nameservers : List Nameserver) :
    (s.enrichAll nameservers q).1 = nameservers.mapM fun ns => (s.enrichOne ns p).1 := by
  induction nameservers generalizing q with
  | nil => rfl
  | cons ns rest ih =>
    have hfirst := enrichOne_alike hx (Option.some_ne_none _) h ns
    have hnext := ih (q := (s.enrichOne ns q).2) ⟨h.network.leads (s.enrichOne_leads ns q) .refl,
      enrichOne_coherent h.left ns, h.right⟩
    rw [List.mapM_cons, ← hfirst, ← hnext]
    rw [enrichAll]
    cases ho : s.enrichOne ns q with
    | mk r q' =>
      cases r with
      | error e => rfl
      | ok ns' =>
        dsimp only
        cases ha : s.enrichAll rest q' with
        | mk r q'' => cases r <;> rfl

/-- The two questions to an address, both asked now. -/
def inquire (s : Scan τ) (name : String) (w : Network τ) (target : String × Net.Address) :
    Except Failure Inquiry :=
  (s.question name .soa target.2.text w).1.bind fun soa =>
    (s.question name .ns target.2.text w).1.map fun ns => ⟨target.1, target.2, soa, ns⟩

theorem check_fails {name : String} {type : RecordType} {host address : String} {p q : Progress τ}
    {e : Failure} (h : s.check name type host address p = (.error e, q)) :
    (s.question name type address p.session.network).1 = .error e := by
  rw [check] at h
  split at h
  next he =>
    cases h
    rw [he]
  next => cases h

theorem probeOne_fails {name : String} {delegated : List String} {host : String} {a : Net.Address}
    {harvest : Harvest} {p q : Progress τ} {e : Failure}
    (h : s.probeOne name delegated host a harvest p = (.error e, q)) :
    (s.question name .soa a.text p.session.network).1 = .error e ∨
      (∃ answer, (s.question name .soa a.text p.session.network).1 = .ok answer) ∧
        ∃ v, p.session.network.Leads v ∧ (s.question name .ns a.text v).1 = .error e := by
  have hl := s.check_leads name .soa host a.text p
  rw [probeOne] at h
  split at h
  next he =>
    cases h
    exact .inl (check_fails he)
  next p₁ h₁ =>
    rw [h₁] at hl
    split at h
    next he =>
      cases h
      refine .inr ⟨?_, p₁.session.network, hl, check_fails he⟩
      rw [check] at h₁
      split at h₁
      next => cases h₁
      next answer _ _ hq => exact ⟨_, congrArg Prod.fst hq⟩
    next => cases h

/-- On a steady network it does not matter when an address is probed. -/
theorem probeOne_settles {w : Network τ} (hw : w.Steady) {p : Progress τ}
    (hl : w.Leads p.session.network) {name : String} {zone : Name} (hz : Name.read name = .ok zone)
    (delegated : List String) (host : String) (a : Net.Address) (harvest : Harvest) :
    Outcomes Eq (fun i _ => (s.probeOne name delegated host a harvest p).2.report =
        p.report.addAll (i.findings p.report.zone delegated))
      (s.inquire name w (host, a)) (s.probeOne name delegated host a harvest p).1 := by
  have hasked : ∀ type v, w.Leads v →
      (s.question name type a.text v).1 = (s.question name type a.text w).1 := fun type v hv =>
    question_alike ((Network.Alike.refl hw).leads hv .refl) (Option.some_ne_none _) name type
  rw [inquire]
  cases hp : s.probeOne name delegated host a harvest p with
  | mk r q =>
    cases r with
    | error e =>
      rcases probeOne_fails hp with hsoa | ⟨⟨answer, hsoa⟩, v, hv, hns⟩
      · rw [hasked _ _ hl] at hsoa
        rw [hsoa]
        exact .error rfl
      · rw [hasked _ _ hl] at hsoa
        rw [hasked _ _ (hl.trans hv)] at hns
        rw [hsoa, hns]
        exact .error rfl
    | ok harvest' =>
      obtain ⟨i, htarget, hsoa, hns, -, hreport, -⟩ := s.probeOne_inquires hz hp
      rw [hasked _ _ hl] at hsoa
      rw [hasked _ _ (hl.trans (Network.send_leads _ _))] at hns
      cases htarget
      rw [hsoa, hns]
      exact .ok hreport

theorem probeAll_settles (hx : s.expires = none) {w : Network τ} (hw : w.Steady) {p : Progress τ}
    (hl : w.Leads p.session.network) {name : String} {zone : Name} (hz : Name.read name = .ok zone)
    (delegated : List String) (targets : List (String × Net.Address)) (harvest : Harvest) :
    Outcomes Eq (fun inquiries _ => (s.probeAll name delegated targets harvest p).2.report =
        p.report.addAll (inquiries.flatMap (Inquiry.findings · p.report.zone delegated)))
      (targets.mapM (s.inquire name w)) (s.probeAll name delegated targets harvest p).1 := by
  induction targets generalizing harvest p with
  | nil => exact .ok (by simp [probeAll])
  | cons target rest ih =>
    obtain ⟨host, a⟩ := target
    have hone := probeOne_settles hw hl hz delegated host a harvest (s := s) (p := p.looked)
    have hnext := hl.trans (s.probeOne_leads name delegated host a harvest p.looked)
    rw [List.mapM_cons, probeAll, inTime_of_endless hx, if_pos rfl]
    generalize s.inquire name w (host, a) = x at hone ⊢
    generalize s.probeOne name delegated host a harvest p.looked = y at hone hnext ⊢
    obtain ⟨r, p'⟩ := y
    cases hone with
    | error he =>
      subst he
      exact .error rfl
    | @ok i harvest' hreport =>
      have hrest := ih hnext harvest'
      dsimp only at hreport hrest ⊢
      generalize rest.mapM (s.inquire name w) = x at hrest ⊢
      generalize s.probeAll name delegated rest harvest' p' = y at hrest ⊢
      obtain ⟨r, q⟩ := y
      cases hrest with
      | error he =>
        subst he
        exact .error rfl
      | ok hmore =>
        refine .ok ?_
        dsimp only at hmore ⊢
        rw [hmore, hreport, Report.addAll_addAll, Report.addAll_zone, List.flatMap_cons, p.looked_report]

theorem probe_settles (hx : s.expires = none) {w : Network τ} (hw : w.Steady) {p : Progress τ}
    (hl : w.Leads p.session.network) {name : String} {zone : Name} (hz : Name.read name = .ok zone) :
    Outcomes Eq (fun inquiries _ => (s.probe name p).2.report.zone = p.report.zone ∧
        (s.probe name p).2.report.nameservers = p.report.nameservers ∧
        (s.probe name p).2.report.findings = p.report.findings ++ inquiries.flatMap
          (Inquiry.findings · p.report.zone (delegation p.report.nameservers)))
      ((targets p.report.nameservers).mapM (s.inquire name w)) (s.probe name p).1 := by
  have hall := probeAll_settles hx hw hl hz (delegation p.report.nameservers)
    (targets p.report.nameservers) ⟨[], []⟩
  rw [probe]
  generalize (targets p.report.nameservers).mapM (s.inquire name w) = x at hall ⊢
  generalize s.probeAll name (delegation p.report.nameservers) (targets p.report.nameservers)
    ⟨[], []⟩ p = y at hall ⊢
  obtain ⟨r, q⟩ := y
  cases hall with
  | error he => exact .error he
  | ok hreport =>
    refine .ok ?_
    dsimp only at hreport ⊢
    simp [Progress.observe, Report.observe, hreport]

end Scan

end DelegationAudit
