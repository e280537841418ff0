import DelegationAudit.Proofs.Itinerary

namespace DelegationAudit

open Dns

variable {τ : Type}

namespace Client

variable [Instant τ]

theorem ask_sameButLog (c : Client τ) (name : String) (type : RecordType) (server : String)
    (secure : Bool) {v w : Network τ} (h : v.SameButLog w) :
    (c.ask name type server secure v).1 = (c.ask name type server secure w).1 := by
  unfold ask
  cases buildQuery name type secure with
  | error e => rfl
  | ok query =>
    obtain ⟨hanswer, hnext⟩ := h.exchange ⟨server, c.port, c.timeout, query⟩
    obtain ⟨r, v', w', hv, hw⟩ := exists_of_fst_eq hanswer
    rw [hv, hw] at hnext
    dsimp only
    rw [hv, hw]
    cases r with
    | error e =>
      dsimp only
      split <;> rfl
    | ok answer =>
      dsimp only
      rw [h.clock, hnext.clock]
      split <;> rfl

theorem resolve_sameButLog (c : Client τ) (name : String) (type : RecordType) (server : String)
    (secure : Bool) {v w : Network τ} (h : v.SameButLog w) :
    (c.resolve name type server secure v).1 = (c.resolve name type server secure w).1 := by
  have ha := c.ask_sameButLog name type server secure h
  unfold resolve
  obtain ⟨r, v', w', hv, hw⟩ := exists_of_fst_eq ha
  rw [hv, hw]
  cases r with
  | error e => rfl
  | ok outcome =>
    dsimp only
    split <;> rfl

end Client

namespace Scan

theorem sortTexts_perm (texts : List String) : (sortTexts texts).Perm texts :=
  List.mergeSort_perm _ _

theorem sortTexts_pairwise (texts : List String) : (sortTexts texts).Pairwise (· ≤ ·) := by
  have htrans : ∀ a b c : String, (!decide (b < a)) = true → (!decide (c < b)) = true →
      (!decide (c < a)) = true := by
    intro a b c hab hbc
    simp only [Bool.not_eq_true', decide_eq_false_iff_not, String.not_lt] at hab hbc ⊢
    exact String.le_trans hab hbc
  have htotal : ∀ a b : String, (!decide (b < a) || !decide (a < b)) = true := by
    intro a b
    simp only [Bool.or_eq_true, Bool.not_eq_true', decide_eq_false_iff_not, String.not_lt]
    exact String.le_total a b
  refine (List.pairwise_mergeSort htrans htotal texts).imp ?_
  intro a b hab
  simp only [Bool.not_eq_true', decide_eq_false_iff_not, String.not_lt] at hab
  exact hab

theorem sortTexts_eq_iff {xs ys : List String} : sortTexts xs = sortTexts ys ↔ xs.Perm ys := by
  constructor
  · intro h
    exact (sortTexts_perm xs).symm.trans (h ▸ sortTexts_perm ys)
  · intro h
    have hperm := (sortTexts_perm xs).trans (h.trans (sortTexts_perm ys).symm)
    exact hperm.eq_of_pairwise (fun a b _ _ => String.le_antisymm) (sortTexts_pairwise xs)
      (sortTexts_pairwise ys)
end Scan

theorem Report.wasSkipped_observe {r : Report} (h : r.wasSkipped = true) (o : Observation) :
    (r.observe o).wasSkipped = true := by
  rw [wasSkipped] at h
  rw [wasSkipped, observe, List.any_append, h, Bool.true_or]

/-- The answer to a question: its records, or why there are none. -/
abbrev Heard := List Record × Option Failure

def Heard.failed (answer : Heard) : Bool := answer.2.isSome || answer.1.isEmpty

theorem Heard.ok_iff {answer : Heard} (h : answer.2 = none ↔ answer.1 ≠ []) :
    (!answer.failed) = true ↔ answer.1 ≠ [] := by
  obtain ⟨records, error⟩ := answer
  cases error <;> cases records <;> simp_all [failed]

theorem Check.classify_failed (c : Check) (answer : Heard) :
    (c.classify answer.2 (!answer.1.isEmpty)).failed = answer.failed := by
  obtain ⟨records, error⟩ := answer
  cases error with
  | some e => rfl
  | none => cases records <;> rfl

/-- One probe of one address of a nameserver, with the answers to its two questions. -/
structure Inquiry where
  host : String
  address : Net.Address
  soa : Heard
  ns : Heard

namespace Inquiry

def target (i : Inquiry) : String × Net.Address := (i.host, i.address)

def served (i : Inquiry) : List String := Scan.sortTexts ((targetsOf i.ns.1).map lowerText)

def entry (i : Inquiry) : Probe := ⟨i.host, i.address.text, !i.soa.failed, !i.ns.failed, i.served⟩

def failure (i : Inquiry) (zone : String) (type : RecordType) (answer : Heard) : List Finding :=
  ((⟨type.text, i.host, i.address.text, zone⟩ : Check).classify answer.2
    (!answer.1.isEmpty)).finding.toList

def difference (i : Inquiry) (zone : String) (delegated : List String) : List Finding :=
  if !i.ns.failed && i.served != delegated then
    [Scan.inconsistent zone i.host i.address.text delegated i.served]
  else []

def findings (i : Inquiry) (zone : String) (delegated : List String) : List Finding :=
  i.failure zone .soa i.soa ++ i.failure zone .ns i.ns ++ i.difference zone delegated

/-- The records that were served, one of each key. -/
def merged (inquiries : List Inquiry) : List Record :=
  inquiries.foldl (fun served i => merge [served, i.ns.1]) []

theorem mem_failure {i : Inquiry} {zone : String} {type : RecordType} {answer : Heard} {f : Finding}
    (h : f ∈ i.failure zone type answer) :
    ∃ e, f = (⟨type.text, i.host, i.address.text, zone⟩ : Check).failure e := by
  obtain ⟨e, -, hf⟩ := Scan.classify_finding (Option.mem_toList.mp h)
  exact ⟨e, hf⟩

theorem mem_findings {i : Inquiry} {zone : String} {delegated : List String} {f : Finding}
    (h : f ∈ i.findings zone delegated) :
    (∃ check e, f = Check.failure check e) ∨
      f = Scan.inconsistent zone i.host i.address.text delegated i.served := by
  rw [findings, difference, List.mem_append, List.mem_append] at h
  rcases h with (h | h) | h
  · exact .inl ⟨_, mem_failure h⟩
  · exact .inl ⟨_, mem_failure h⟩
  · split at h
    · exact .inr (List.mem_singleton.mp h)
    · cases h

end Inquiry

theorem Discovery.nameservers_names [Instant τ] {client : Client τ} {server : String}
    {hosts : List String} {w u : Network τ} {found : List Nameserver}
    (h : nameservers client server hosts w = (.ok found, u)) : found.map Nameserver.name = hosts := by
  induction hosts generalizing w found u with
  | nil =>
    cases h
    rfl
  | cons host rest ih =>
    rw [nameservers] at h
    split at h
    next => cases h
    next ns v hns =>
      split at h
      next => cases h
      next more x hmore =>
        cases h
        have hname : ns.name = host := by
          rw [nameserver] at hns
          split at hns
          next => cases hns
          next v4 v' h4 =>
            split at hns
            next => cases hns
            next v6 v'' h6 =>
              cases hns
              rfl
        rw [List.map_cons, hname, ih hmore]

theorem discover_names [Instant τ] {client : Client τ} {server text : String} {w u : Network τ}
    {found : List Nameserver} (h : discover client server text w = (.ok found, u)) :
    found ≠ [] ∧ ∃ zone, Name.read text = .ok zone ∧
      found.map Nameserver.name = (delegatedTo client server zone w).map Name.text := by
  cases hz : Name.read text with
  | error fault =>
    rw [discover, client.resolve_nameless _ _ _ _ hz] at h
    cases h
  | ok zone =>
    obtain ⟨-, ⟨-, e, hr, -⟩ | ⟨-, t, hr⟩⟩ := client.resolve_sent hz .ns server w
    · rw [discover] at h
      rw [show client.resolve text .ns server false w = (.error e, _) from Prod.ext hr rfl] at h
      cases h
    · rw [discover, hr] at h
      dsimp only at h
      split at h
      next => cases h
      next => cases h
      next ns more v hn =>
        cases h
        exact ⟨List.cons_ne_nil _ _, zone, rfl, Discovery.nameservers_names hn⟩

namespace Scan

variable [Instant τ] (s : Scan τ)

/-- The inquiries were made one after another, from this state of the network on. -/
def Inquired (name : String) (zone : Name) : List Inquiry → Network τ → Prop
  | [], _ => True
  | i :: rest, w =>
    (s.question name .soa i.address.text w).1 = .ok i.soa ∧
      (s.question name .ns i.address.text (w.send [s.probeCall zone .soa i.address.text])).1 = .ok i.ns ∧
      Inquired name zone rest (w.send (s.probeCalls zone i.address))

theorem question_sameButLog (name : String) (type : RecordType) (address : String) {v w : Network τ}
    (h : v.SameButLog w) :
    (s.question name type address v).1 = (s.question name type address w).1 := by
  have hr := (s.client.withPort authoritativePort).resolve_sameButLog name type address false h
  unfold question
  obtain ⟨r, v', w', hv, hw⟩ := exists_of_fst_eq hr
  rw [hv, hw]
  cases r with
  | error e =>
    dsimp only
    split <;> rfl
  | ok answer => rfl

theorem Inquired.sameButLog {name : String} {zone : Name} {inquiries : List Inquiry} {v w : Network τ}
    (h : v.SameButLog w) (hi : s.Inquired name zone inquiries w) : s.Inquired name zone inquiries v := by
  induction inquiries generalizing v w with
  | nil => trivial
  | cons i rest ih =>
    obtain ⟨hsoa, hns, hrest⟩ := hi
    refine ⟨?_, ?_, ih (h.send _) hrest⟩
    · rw [s.question_sameButLog name .soa _ h, hsoa]
    · rw [s.question_sameButLog name .ns _ (h.send _), hns]

theorem question_sent {name : String} {zone : Name} (hz : Name.read name = .ok zone)
    (type : RecordType) (address : String) (v : Network τ) :
    v.Sent [s.probeCall zone type address]
        (s.question name type address v).2 ∧
      ∀ answer : Heard, (s.question name type address v).1 = .ok answer →
        answer.1 = v.recordsFor (s.probeCall zone type address) ∧
        (answer.2 = none ↔ answer.1 ≠ []) := by
  obtain ⟨hsent, hcase⟩ := (s.client.withPort authoritativePort).resolve_sent hz type address v
  rw [message_authoritative] at hsent hcase
  rw [question]
  rcases hcase with ⟨hnone, e, hr, -⟩ | ⟨hsome, t, hr⟩
  · obtain ⟨u, hu⟩ : ∃ u, (s.client.withPort authoritativePort).resolve name type address false v =
        (.error e, u) := ⟨_, Prod.ext hr rfl⟩
    rw [hu] at hsent ⊢
    dsimp only
    split
    · refine ⟨hsent, ?_⟩
      intro answer ha
      cases ha
      simp [hnone]
    · refine ⟨hsent, ?_⟩
      intro answer ha
      cases ha
  · rw [hr] at hsent ⊢
    refine ⟨hsent, ?_⟩
    intro answer ha
    cases ha
    simp [hsome]

/-- The entries tell of the two answers that an address gives when it is probed, one address after
another. -/
def Answered (zone : Name) : List Probe → Network τ → Prop
  | [], _ => True
  | e :: rest, w =>
    let soa := s.probeCall zone .soa e.address
    let ns := s.probeCall zone .ns e.address
    (e.soaOk = true ↔ w.recordsFor soa ≠ []) ∧ (e.nsOk = true ↔ (w.send [soa]).recordsFor ns ≠ []) ∧
      e.served = sortTexts ((targetsOf ((w.send [soa]).recordsFor ns)).map lowerText) ∧
      Answered zone rest (w.send [soa, ns])

theorem Inquired.answered {name : String} {zone : Name} (hz : Name.read name = .ok zone)
    {inquiries : List Inquiry} {w : Network τ} (h : s.Inquired name zone inquiries w) :
    s.Answered zone (inquiries.map Inquiry.entry) w := by
  induction inquiries generalizing w with
  | nil => trivial
  | cons i rest ih =>
    obtain ⟨hsoa, hns, hrest⟩ := h
    obtain ⟨hsoa, hsoaError⟩ := (s.question_sent hz .soa i.address.text w).2 _ hsoa
    obtain ⟨hns, hnsError⟩ := (s.question_sent hz .ns i.address.text _).2 _ hns
    have hsoaOk := Heard.ok_iff hsoaError
    have hnsOk := Heard.ok_iff hnsError
    rw [hsoa] at hsoaOk
    rw [hns] at hnsOk
    refine ⟨hsoaOk, hnsOk, ?_, ih hrest⟩
    change sortTexts ((targetsOf i.ns.1).map lowerText) = _
    rw [hns]
    rfl

theorem check_inquires {name : String} {zone : Name} (hz : Name.read name = .ok zone) (type : RecordType)
    (host address : String) {p q : Progress τ} {records : List Record} {failed : Bool}
    (h : s.check name type host address p = (.ok (records, failed), q)) :
    ∃ answer : Heard, (s.question name type address p.session.network).1 = .ok answer ∧
      records = answer.1 ∧ failed = answer.failed ∧
      q.report = p.report.addAll ((⟨type.text, host, address, p.report.zone⟩ : Check).classify answer.2
        (!answer.1.isEmpty)).finding.toList ∧
      p.session.network.Sent [s.probeCall zone type address]
        q.session.network := by
  have hsent := (s.question_sent hz type address p.session.network).1
  rw [check] at h
  split at h
  next => cases h
  next records' error w hw =>
    rw [hw] at hsent ⊢
    cases h
    refine ⟨(records, error), rfl, rfl, Check.classify_failed _ (records, error), record_report _ _, ?_⟩
    rw [record_network]
    split
    · exact hsent
    · exact hsent.note _ _ _

theorem probeOne_inquires {name : String} {zone : Name} (hz : Name.read name = .ok zone)
    {delegated : List String} {host : String} {a : Net.Address} {h h' : Harvest} {p q : Progress τ}
    (hp : s.probeOne name delegated host a h p = (.ok h', q)) :
    ∃ i : Inquiry, i.target = (host, a) ∧
      (s.question name .soa a.text p.session.network).1 = .ok i.soa ∧
      (s.question name .ns a.text (p.session.network.send [s.probeCall zone .soa a.text])).1 = .ok i.ns ∧
      h' = ⟨merge [h.served, i.ns.1], h.probes ++ [i.entry]⟩ ∧
      q.report = p.report.addAll (i.findings p.report.zone delegated) ∧
      p.session.network.Sent (s.probeCalls zone a) q.session.network := by
  rw [probeOne] at hp
  split at hp
  next => cases hp
  next soaRecords soaFailed p₁ h₁ =>
    obtain ⟨soa, hsoa, -, rfl, hreport₁, hsent₁⟩ := s.check_inquires hz .soa host a.text h₁
    split at hp
    next => cases hp
    next served nsFailed p₂ h₂ =>
      obtain ⟨ns, hns, rfl, rfl, hreport₂, hsent₂⟩ := s.check_inquires hz .ns host a.text h₂
      have hzone : p₁.report.zone = p.report.zone := by rw [hreport₁, Report.addAll_zone]
      rw [hzone, hreport₁, Report.addAll_addAll] at hreport₂
      have hafter : p.session.network.Sent (s.probeCalls zone a) p₂.session.network :=
        hsent₁.trans hsent₂
      rw [s.question_sameButLog name .ns a.text hsent₁] at hns
      obtain ⟨i, rfl, rfl, rfl, rfl⟩ : ∃ i : Inquiry, i.host = host ∧ i.address = a ∧ i.soa = soa ∧
        i.ns = ns := ⟨⟨host, a, soa, ns⟩, rfl, rfl, rfl, rfl⟩
      cases hp
      refine ⟨i, rfl, hsoa, hns, rfl, ?_, ?_⟩
      · have hzone₂ : p₂.report.zone = p.report.zone := by rw [hreport₂, Report.addAll_zone]
        rw [Inquiry.findings, ← Report.addAll_addAll, Inquiry.failure, Inquiry.failure, ← hreport₂,
          Inquiry.difference, hzone₂, Inquiry.served]
        by_cases hdiffers :
            (!i.ns.failed && sortTexts ((targetsOf i.ns.1).map lowerText) != delegated) = true
        · rw [if_pos hdiffers, if_pos hdiffers]
          rfl
        · rw [if_neg hdiffers, if_neg hdiffers, Report.addAll_nil]
      · split <;> exact hafter

theorem skip_wasSkipped (step : Step) (p : Progress τ) : (s.skip step p).report.wasSkipped = true := by
  rw [skip]
  by_cases h : p.report.wasSkipped = true
  · rwa [if_pos h]
  · rw [if_neg h]
    simp [Progress.add, Progress.note, Progress.observe, Report.add, Report.observe, Report.wasSkipped]

/-- Probing all targets makes one inquiry of each up to the first that it is too late for, and adds
what these find and leave, one after another. -/
theorem probeAll_inquires {name : String} {zone : Name} (hz : Name.read name = .ok zone)
    {delegated : List String} {targets : List (String × Net.Address)} {h h' : Harvest}
    {p q : Progress τ} (hp : s.probeAll name delegated targets h p = (.ok h', q)) :
    ∃ inquiries os late, s.Inquired name zone inquiries p.session.network ∧
      inquiries.map Inquiry.target <+: targets ∧
      h' = ⟨inquiries.foldl (fun served i => merge [served, i.ns.1]) h.served,
        h.probes ++ inquiries.map Inquiry.entry⟩ ∧
      q.report = p.report.grow os
        (inquiries.flatMap (Inquiry.findings · p.report.zone delegated) ++ late) ∧
      LateNotes os late ∧
      p.session.network.Sent (inquiries.flatMap fun i => s.probeCalls zone i.address)
        q.session.network ∧
      (inquiries.map Inquiry.target = targets ∨ q.report.wasSkipped = true) := by
  induction targets generalizing h p with
  | nil =>
    cases hp
    exact ⟨[], [], [], trivial, List.prefix_refl _, by simp, by simp, .none, .refl _, .inl rfl⟩
  | cons target rest ih =>
    obtain ⟨host, a⟩ := target
    rw [probeAll] at hp
    split at hp
    next =>
      split at hp
      next => cases hp
      next h₁ p₁ he =>
        obtain ⟨i, htarget, hsoa, hns, rfl, hreport, hsent⟩ := s.probeOne_inquires hz he
        obtain ⟨inquiries, os, late, hinquired, hprefix, rfl, hreport', hlate, hsent', hall⟩ := ih hp
        have hzone : p₁.report.zone = p.report.zone := by
          rw [hreport, Report.addAll_zone, p.looked_report]
        cases htarget
        refine ⟨i :: inquiries, os, late, ⟨hsoa, hns, ?_⟩, ?_, ?_, ?_, hlate, ?_, ?_⟩
        · exact hinquired.sameButLog s (Network.SameButLog.symm hsent)
        · rw [List.map_cons]
          exact List.cons_prefix_cons.mpr ⟨rfl, hprefix⟩
        · simp
        · rw [hreport', hzone, hreport, Report.addAll_eq_grow, Report.grow_grow, p.looked_report]
          simp
        · rw [List.flatMap_cons]
          exact hsent.trans hsent'
        · refine hall.imp_left fun hrest => ?_
          rw [List.map_cons, hrest]
          rfl
    next =>
      obtain ⟨os, late, hreport, hlate⟩ := s.skip_grows .probes p.looked
      cases hp
      refine ⟨[], os, late, trivial, List.nil_prefix, by simp, by simpa using hreport, hlate, ?_,
        .inr (s.skip_wasSkipped .probes p.looked)⟩
      rw [List.flatMap_nil, skip]
      split
      · exact .refl _
      · exact Network.Sent.note (.refl _) _ _ _

theorem probe_inquires {name : String} {zone : Name} (hz : Name.read name = .ok zone)
    {p q : Progress τ} (hp : s.probe name p = (.ok (), q)) :
    ∃ inquiries os late, s.Inquired name zone inquiries p.session.network ∧
      inquiries.map Inquiry.target <+: targets p.report.nameservers ∧
      q.report = p.report.grow (os ++ [.probes (inquiries.map Inquiry.entry), .servedNames
          ((targetsOf (Inquiry.merged inquiries)).map lowerText)])
        (inquiries.flatMap (Inquiry.findings · p.report.zone (delegation p.report.nameservers)) ++
          late) ∧
      LateNotes os late ∧
      p.session.network.Sent (inquiries.flatMap fun i => s.probeCalls zone i.address)
        q.session.network ∧
      (inquiries.map Inquiry.target = targets p.report.nameservers ∨ q.report.wasSkipped = true) := by
  rw [probe] at hp
  split at hp
  next => cases hp
  next harvest p' he =>
    obtain ⟨inquiries, os, late, hinquired, hprefix, rfl, hreport, hlate, hsent, hall⟩ :=
      s.probeAll_inquires hz he
    cases hp
    refine ⟨inquiries, os, late, hinquired, hprefix, ?_, hlate, hsent, hall.imp_right fun hskipped => ?_⟩
    · simp [Progress.observe, Report.observe, hreport, Report.grow, Inquiry.merged]
    · exact Report.wasSkipped_observe (Report.wasSkipped_observe hskipped _) _

def probeKeys : List String := ["probes", "served_ns"]

/-- How a report with probes is put together, from what the inquiries found and what was read off the
nameservers; beside that it says only that there was no time left. -/
structure Probed (zone : Name) (session after : Session τ) (r : Report) (inquiries : List Inquiry) :
    Prop where
  found : r.nameservers ≠ []
  names : r.nameservers.map Nameserver.name =
    (delegatedTo s.client s.settings.resolver zone session.network).map Name.text
  asked : ∃ v, session.network.Leads v ∧ s.Inquired (absolute r.zone) zone inquiries v ∧
    v.Sent (inquiries.flatMap fun i => s.probeCalls zone i.address) after.network
  targets : inquiries.map Inquiry.target <+: Scan.targets r.nameservers
  all : inquiries.map Inquiry.target = Scan.targets r.nameservers ∨ r.wasSkipped = true
  entries : r.entries = inquiries.map Inquiry.entry
  observations : ∃ early late, (∀ o ∈ early ++ late, o.key ∉ probeKeys) ∧
    r.observations = early ++ [.probes (inquiries.map Inquiry.entry), .servedNames
      ((targetsOf (Inquiry.merged inquiries)).map lowerText)] ++ late
  findings : ∃ early late, (∀ f ∈ early ++ late, f.issue = .deadline) ∧
    r.findings = early ++ Topology.findings r.zone r.nameservers ++
      inquiries.flatMap (Inquiry.findings · r.zone (delegation r.nameservers)) ++ late

theorem Probed.stamped {zone : Name} {session after : Session τ} {r : Report}
    {inquiries : List Inquiry} (h : s.Probed zone session after r inquiries) (millis : Int) :
    s.Probed zone session after (r.finalize.observe (.timing millis)) inquiries where
  found := h.found
  names := h.names
  asked := h.asked
  targets := h.targets
  all := h.all.imp_right fun hskipped => Report.wasSkipped_observe (r := r.finalize) hskipped _
  entries := (Report.entries_stamped r millis).trans h.entries
  observations := by
    obtain ⟨early, late, hkeys, hobservations⟩ := h.observations
    refine ⟨early, late ++ [.timing millis], ?_, ?_⟩
    · intro o ho
      rw [← List.append_assoc] at ho
      rcases List.mem_append.mp ho with ho | ho
      · exact hkeys o ho
      · rw [List.mem_singleton.mp ho]
        simp [Observation.key, probeKeys]
    · change r.observations ++ [.timing millis] = _
      rw [hobservations, List.append_assoc]
  findings := h.findings

theorem LateNotes.key_not_mem_probeKeys {os : List Observation} {fs : List Finding} (h : LateNotes os fs)
    {o : Observation} (ho : o ∈ os) : o.key ∉ probeKeys := by
  obtain ⟨step, rfl⟩ := h.observations o ho
  simp [Observation.key, probeKeys]

theorem localObservations_key {nameservers : List Nameserver} {o : Observation}
    (ho : o ∈ localObservations nameservers) : o.key ∉ probeKeys := by
  rw [localObservations] at ho
  split at ho
  · cases ho
  · simp only [List.mem_cons, List.not_mem_nil, or_false] at ho
    rcases ho with rfl | rfl <;> simp [Observation.key, probeKeys]

theorem entries_localObservations (nameservers : List Nameserver) :
    (localObservations nameservers).flatMap Observation.entries = [] := by
  rw [localObservations]
  split <;> rfl

theorem examine_probed (hprobe : s.settings.probe = true) {zone : Name} {session : Session τ}
    {nameservers : List Nameserver} {p q : Progress τ} (hz : Name.read (absolute p.report.zone) = .ok zone)
    (hsome : nameservers ≠ []) (hnames : nameservers.map Nameserver.name =
      (delegatedTo s.client s.settings.resolver zone session.network).map Name.text)
    (hfresh : p.report.findings = [] ∧ p.report.observations = [])
    (hleads : session.network.Leads p.session.network)
    (h : s.examine (absolute p.report.zone) nameservers p = (.ok (), q)) :
    ∃ inquiries, s.Probed zone session q.session q.report inquiries := by
  have hgrows := s.enrich_grows nameservers p
  have hl := s.enrich_leads nameservers p
  rw [examine] at h
  split at h
  next => cases h
  next enriched p' he =>
    rw [he] at hgrows hl
    obtain ⟨os, early, hreport, hearly⟩ := hgrows
    rw [if_pos hprobe] at h
    have hlocal := inspect_report enriched p'
    obtain ⟨inquiries, os', late, hinquired, hprefix, hreport', hlate, hsent, hall⟩ :=
      s.probe_inquires hz h
    rw [inspect_nameservers] at hprefix hreport' hall
    rw [hlocal, hreport] at hreport'
    simp only [Report.grow, hfresh.1, hfresh.2, List.nil_append] at hreport'
    have hzone : q.report.zone = p.report.zone := by rw [hreport']
    have hfound : q.report.nameservers = enriched := by rw [hreport']
    have hhosts : enriched.map Nameserver.name = nameservers.map Nameserver.name := by
      have hmap := congrArg (List.map Prod.fst) (s.enrich_hosts he)
      rwa [List.map_map, List.map_map] at hmap
    refine ⟨inquiries, ?_, ?_, ?_, ?_, ?_, ?_, ?_, ?_⟩
    · rw [hfound]
      rintro rfl
      exact hsome (List.map_eq_nil_iff.mp hhosts.symm)
    · rw [hfound, hhosts, hnames]
    · rw [hzone]
      exact ⟨p'.session.network, hleads.trans hl, hinquired, hsent⟩
    · rwa [hfound]
    · rwa [hfound]
    · rw [Report.entries, hreport']
      simp [entries_of_skipped hearly.observations,
        entries_of_skipped hlate.observations, entries_localObservations,
        Observation.entries]
    · refine ⟨os ++ localObservations enriched ++ os', [], ?_, ?_⟩
      · simp only [List.append_nil, List.mem_append]
        rintro o ((ho | ho) | ho)
        · exact hearly.key_not_mem_probeKeys ho
        · exact localObservations_key ho
        · exact hlate.key_not_mem_probeKeys ho
      · rw [hreport', List.append_nil, List.append_assoc (os ++ _)]
    · rw [hzone, hfound]
      refine ⟨early, late, ?_, ?_⟩
      · intro f hf
        exact (List.mem_append.mp hf).elim (hearly.findings f) (hlate.findings f)
      · rw [hreport', List.append_assoc (early ++ _)]

/-- A survey with probes that comes to an end found no nameservers, or its report is put together from
what its inquiries found. -/
theorem survey_probed (hprobe : s.settings.probe = true) {zone : String} {session : Session τ}
    {p : Progress τ} (h : s.survey zone session = (.ok (), p)) :
    (p.report.nameservers = [] ∧ p.report.observations = [] ∧
      p.report.findings.map Finding.issue = [.noNameservers]) ∨
    ∃ name inquiries, Name.read (absolute zone) = .ok name ∧
      s.Probed name session p.session p.report inquiries := by
  have hl := discover_leads s.client s.settings.resolver (absolute zone) session.network
  unfold survey at h
  split at h
  next e w hd =>
    dsimp only at h
    split at h
    · cases h
      exact .inl ⟨rfl, rfl, rfl⟩
    · cases h
  next nameservers w hd =>
    rw [hd] at hl
    obtain ⟨hsome, name, hname, hnames⟩ := discover_names hd
    obtain ⟨inquiries, hprobed⟩ := s.examine_probed hprobe
      (p := s.begin zone { session with network := w }) hname hsome hnames ⟨rfl, rfl⟩ hl h
    exact .inr ⟨name, inquiries, hname, hprobed⟩

end Scan

/-- Of a zone without nameservers a report with probes observes nothing but the time. -/
theorem auditZone_reports [Instant τ] {settings : Settings τ} (hprobe : settings.probe = true)
    {target : String} {session after : Session τ} {r : Report}
    (h : auditZone settings target session = (.ok r, after)) :
    (r.nameservers = [] ∧ (∃ millis, r.observations = [.timing millis]) ∧
      r.findings.map Finding.issue = [.noNameservers]) ∨
    ∃ zone inquiries, Name.read (absolute (Zone.normalize target)) = .ok zone ∧
      (Scan.start settings session.network.clock).Probed zone session after r inquiries := by
  obtain ⟨p, millis, hs, rfl⟩ := survey_of_report (congrArg Prod.fst h)
  have hafter : after = p.session := by
    have hsession := auditZone_session settings target session
    rw [h, hs] at hsession
    exact hsession
  rw [hafter]
  obtain ⟨hnobody, hnothing, hissue⟩ | ⟨zone, inquiries, hz, hprobed⟩ :=
    (Scan.start settings session.network.clock).survey_probed hprobe hs
  · refine .inl ⟨hnobody, ⟨millis, ?_⟩, hissue⟩
    change p.report.observations ++ [.timing millis] = _
    rw [hnothing, List.nil_append]
  · exact .inr ⟨zone, inquiries, hz, hprobed.stamped _ millis⟩

theorem auditZone_probed [Instant τ] {settings : Settings τ} (hprobe : settings.probe = true)
    {target : String} {session after : Session τ} {r : Report}
    (h : auditZone settings target session = (.ok r, after)) :
    (r.nameservers = [] ∧ r.entries = [] ∧ r.findings.map Finding.issue = [.noNameservers]) ∨
    ∃ zone inquiries, Name.read (absolute (Zone.normalize target)) = .ok zone ∧
      (Scan.start settings session.network.clock).Probed zone session after r inquiries := by
  refine (auditZone_reports hprobe h).imp_left ?_
  rintro ⟨hnobody, ⟨millis, htime⟩, hissue⟩
  refine ⟨hnobody, ?_, hissue⟩
  rw [Report.entries, htime]
  rfl

end DelegationAudit
