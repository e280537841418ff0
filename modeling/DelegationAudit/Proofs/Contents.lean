import DelegationAudit.Proofs.Isolation
import DelegationAudit.Proofs.Scoring

namespace DelegationAudit

/-- The findings that an audit makes. -/
inductive Finding.Made (τ : Type) [Instant τ] : Finding → Prop
  | noNameservers (s : Scan τ) (zone name : String) (cause : Failure) :
      Made τ (s.noNameservers zone name cause)
  | deadline (s : Scan τ) (zone : String) (step : Step) : Made τ (s.deadlineFinding zone step)
  | noAddress (zone : String) (ns : Nameserver) : Made τ (Topology.noAddress zone ns)
  | privateAddress (zone : String) (ns : Nameserver) (a : Net.Address) :
      Made τ (Topology.privateAddress zone ns a)
  | singleNameserver (zone : String) (nameservers : List Nameserver) :
      Made τ (Topology.singleNameserver zone nameservers)
  | sameSubnet (zone : String) (v4 : List Net.IPv4) : Made τ (Topology.oneSubnet zone v4)
  | singleNetwork (zone : String) (asn : Int) : Made τ (Topology.oneNetwork zone asn)
  | checkFailed (c : Check) (e : Failure) : Made τ (c.failure e)
  | inconsistent (zone host address : String) (delegated served : List String) :
      Made τ (Scan.inconsistent zone host address delegated served)

/-- The observations that an audit makes are of its own kinds. -/
def Observation.Made : Observation → Prop
  | note _ _ => False
  | _ => True

/-- Owners are kept under the texts of addresses, each under one. -/
structure Nameserver.Keyed (ns : Nameserver) : Prop where
  texts : ∀ key ∈ ns.ownership.map Prod.fst, ∃ a ∈ ns.addresses, key = a.text
  once : (ns.ownership.map Prod.fst).Nodup

theorem Nameserver.Keyed.of_unowned {ns : Nameserver} (h : ns.ownership = []) : ns.Keyed := by
  constructor
  · simp [h]
  · simp [h]

/-- A report with nothing in it that an audit would not put there. -/
structure Report.Made (τ : Type) [Instant τ] (r : Report) : Prop where
  findings : ∀ f ∈ r.findings, f.Made τ
  observations : ∀ o ∈ r.observations, o.Made
  nameservers : ∀ ns ∈ r.nameservers, ns.Keyed

variable {τ : Type} [Instant τ]

namespace Finding.Made

variable {f : Finding} (h : f.Made τ)

include h

theorem severity : f.severity ∈ Severity.graded := by
  have hhigh : Severity.high ∈ Severity.graded := by decide
  have hmedium : Severity.medium ∈ Severity.graded := by decide
  have hlow : Severity.low ∈ Severity.graded := by decide
  cases h with
  | noNameservers | privateAddress | singleNameserver | sameSubnet | checkFailed => exact hhigh
  | deadline | noAddress => exact hmedium
  | singleNetwork | inconsistent => exact hlow

theorem issue : f.issue ∈ Issue.known := by
  cases h with
  | noNameservers => exact (by decide : Issue.noNameservers ∈ Issue.known)
  | deadline => exact (by decide : Issue.deadline ∈ Issue.known)
  | noAddress => exact (by decide : Issue.noAddress ∈ Issue.known)
  | privateAddress => exact (by decide : Issue.privateAddress ∈ Issue.known)
  | singleNameserver => exact (by decide : Issue.singleNameserver ∈ Issue.known)
  | sameSubnet => exact (by decide : Issue.sameSubnet ∈ Issue.known)
  | singleNetwork => exact (by decide : Issue.singleNetwork ∈ Issue.known)
  | checkFailed => exact (by decide : Issue.checkFailed ∈ Issue.known)
  | inconsistent => exact (by decide : Issue.inconsistent ∈ Issue.known)

end Finding.Made

namespace Report.Made

variable {r : Report}

theorem start (zone resolver parent : String) : (Report.start zone resolver parent).Made τ := by
  constructor <;> simp [Report.start]

theorem graded (h : r.Made τ) : ∀ f ∈ r.findings, f.severity ∈ Severity.graded :=
  fun f hf => (h.findings f hf).severity

theorem grow (h : r.Made τ) {os : List Observation} {fs : List Finding} (hos : ∀ o ∈ os, o.Made)
    (hfs : ∀ f ∈ fs, f.Made τ) : (r.grow os fs).Made τ where
  findings f hf := (List.mem_append.mp hf).elim (h.findings f) (hfs f)
  observations o ho := (List.mem_append.mp ho).elim (h.observations o) (hos o)
  nameservers := h.nameservers

theorem addAll (h : r.Made τ) {fs : List Finding} (hfs : ∀ f ∈ fs, f.Made τ) :
    (r.addAll fs).Made τ := by
  rw [addAll_eq_grow]
  exact h.grow (by simp) hfs

theorem add (h : r.Made τ) {f : Finding} (hf : f.Made τ) : (r.add f).Made τ := by
  rw [add_eq_addAll]
  exact h.addAll (by simpa using hf)

theorem observe (h : r.Made τ) {o : Observation} (ho : o.Made) : (r.observe o).Made τ where
  findings := h.findings
  observations o' hm := (List.mem_append.mp hm).elim (h.observations o') fun hm => by
    rw [List.mem_singleton.mp hm]
    exact ho
  nameservers := h.nameservers

theorem finalize (h : r.Made τ) : r.finalize.Made τ := ⟨h.findings, h.observations, h.nameservers⟩

end Report.Made

namespace Topology

theorem made_of_mem_findings {zone : String} {nameservers : List Nameserver} {f : Finding}
    (h : f ∈ findings zone nameservers) : f.Made τ := by
  rcases mem_findings h with ⟨ns, -, rfl⟩ | ⟨ns, -, a, -, rfl⟩ | rfl | ⟨v4, rfl⟩ | ⟨asn, rfl⟩
  · exact .noAddress zone ns
  · exact .privateAddress zone ns a
  · exact .singleNameserver zone nameservers
  · exact .sameSubnet zone v4
  · exact .singleNetwork zone asn

end Topology

theorem Discovery.nameservers_unowned {client : Client τ} {server : String} {hosts : List String}
    {w v : Network τ} {found : List Nameserver}
    (h : nameservers client server hosts w = (.ok found, v)) : ∀ ns ∈ found, ns.ownership = [] := by
  induction hosts generalizing w v found with
  | nil =>
    cases h
    simp
  | cons host rest ih =>
    rw [nameservers] at h
    split at h
    next => cases h
    next ns u hns =>
      split at h
      next => cases h
      next more u' hmore =>
        cases h
        have hfirst : ns.ownership = [] := by
          rw [nameserver] at hns
          split at hns
          next => cases hns
          next =>
            split at hns
            next => cases hns
            next =>
              cases hns
              rfl
        intro m hm
        rcases List.mem_cons.mp hm with rfl | hm
        · exact hfirst
        · exact ih hmore m hm

theorem discover_unowned {client : Client τ} {server domain : String} {w v : Network τ}
    {found : List Nameserver} (h : discover client server domain w = (.ok found, v)) :
    ∀ ns ∈ found, ns.ownership = [] := by
  rw [discover] at h
  split at h
  next => cases h
  next =>
    split at h
    next => cases h
    next => cases h
    next hn =>
      cases h
      exact Discovery.nameservers_unowned hn

namespace Scan

theorem mem_keys_setOwner {key other : String} {o : Ownership} {known : List (String × Ownership)} :
    other ∈ (setOwner key o known).map Prod.fst ↔ other = key ∨ other ∈ known.map Prod.fst := by
  induction known with
  | nil => simp [setOwner]
  | cons entry rest ih =>
    obtain ⟨k, v⟩ := entry
    rw [setOwner]
    by_cases hk : k = key
    · subst hk
      simp
    · simp only [beq_iff_eq, hk, if_false, List.map_cons, List.mem_cons, ih]
      exact or_left_comm

theorem nodup_keys_setOwner {key : String} {o : Ownership} {known : List (String × Ownership)}
    (h : (known.map Prod.fst).Nodup) : ((setOwner key o known).map Prod.fst).Nodup := by
  induction known with
  | nil => simp [setOwner]
  | cons entry rest ih =>
    obtain ⟨k, v⟩ := entry
    obtain ⟨hnew, hrest⟩ := List.nodup_cons.mp h
    rw [setOwner]
    by_cases hk : k = key
    · subst hk
      simpa using h
    · simp only [beq_iff_eq, hk, if_false, List.map_cons]
      refine List.nodup_cons.mpr ⟨?_, ih hrest⟩
      intro hmem
      exact (mem_keys_setOwner.mp hmem).elim hk hnew

variable (s : Scan τ)

/-- Owners are written under the texts of the addresses that are looked up. -/
theorem owners_keys {host : String} {addresses : List Net.Address}
    {known found : List (String × Ownership)} {session session' : Session τ}
    (h : s.owners host addresses known session = (.ok found, session'))
    (hnodup : (known.map Prod.fst).Nodup) :
    (found.map Prod.fst).Nodup ∧ ∀ key ∈ found.map Prod.fst,
      key ∈ known.map Prod.fst ∨ ∃ a ∈ addresses, key = a.text := by
  -- What is known grows with every address, so the lemma is about any keys to begin with.
  induction addresses generalizing known session with
  | nil =>
    cases h
    exact ⟨hnodup, fun key hkey => .inl hkey⟩
  | cons a rest ih =>
    rw [owners] at h
    split at h
    next o v he =>
      obtain ⟨honce, htexts⟩ := ih h (nodup_keys_setOwner hnodup)
      refine ⟨honce, fun key hkey => ?_⟩
      rcases htexts key hkey with hknown | ⟨b, hb, hkey⟩
      · rcases mem_keys_setOwner.mp hknown with hkey | hknown
        · exact .inr ⟨a, by simp, hkey⟩
        · exact .inl hknown
      · exact .inr ⟨b, by simp [hb], hkey⟩
    next e v he =>
      split at h
      next =>
        obtain ⟨honce, htexts⟩ := ih h hnodup
        refine ⟨honce, fun key hkey => ?_⟩
        rcases htexts key hkey with hknown | ⟨b, hb, hkey⟩
        · exact .inl hknown
        · exact .inr ⟨b, by simp [hb], hkey⟩
      next => cases h

theorem enrichOne_keyed {ns found : Nameserver} {p q : Progress τ}
    (h : s.enrichOne ns p = (.ok found, q)) (hns : ns.Keyed) : found.Keyed := by
  rw [enrichOne] at h
  split at h
  next =>
    split at h
    next => cases h
    next known session ho =>
      cases h
      obtain ⟨honce, htexts⟩ := s.owners_keys ho List.nodup_nil
      exact ⟨fun key hkey => (htexts key hkey).resolve_left (by simp), honce⟩
  next =>
    cases h
    exact hns

theorem enrichAll_keyed {nameservers found : List Nameserver} {p q : Progress τ}
    (h : s.enrichAll nameservers p = (.ok found, q)) (hns : ∀ ns ∈ nameservers, ns.Keyed) :
    ∀ ns ∈ found, ns.Keyed := by
  induction nameservers generalizing p found with
  | nil =>
    cases h
    simp
  | cons ns rest ih =>
    rw [enrichAll] at h
    split at h
    next => cases h
    next ns' p' ho =>
      split at h
      next => cases h
      next more p'' hm =>
        cases h
        intro m hmem
        rcases List.mem_cons.mp hmem with rfl | hmem
        · exact s.enrichOne_keyed ho (hns ns (by simp))
        · exact ih hm (fun m hm => hns m (by simp [hm])) m hmem

theorem enrich_keyed {nameservers found : List Nameserver} {p q : Progress τ}
    (h : s.enrich nameservers p = (.ok found, q)) (hns : ∀ ns ∈ nameservers, ns.Keyed) :
    ∀ ns ∈ found, ns.Keyed := by
  rw [enrich] at h
  split at h
  · exact s.enrichAll_keyed h hns
  · cases h
    exact hns

theorem skip_made {p : Progress τ} (h : p.report.Made τ) (step : Step) :
    (s.skip step p).report.Made τ := by
  rw [skip]
  split
  · exact h
  · have hobserved : (p.report.observe (.skipped step)).Made τ := h.observe trivial
    exact hobserved.add (.deadline s p.report.zone step)

section Enriching

-- What the notes of a late scan keep.
variable {P : Report → Prop} (hskip : ∀ {p : Progress τ}, P p.report → ∀ step, P (s.skip step p).report)

include hskip

theorem enrichOne_keeps {p : Progress τ} (h : P p.report) (ns : Nameserver) :
    P (s.enrichOne ns p).2.report := by
  rw [enrichOne]
  split
  · split <;> exact h
  · exact hskip (p := p.looked) h .enrichment

theorem enrichAll_keeps {p : Progress τ} (h : P p.report) (nameservers : List Nameserver) :
    P (s.enrichAll nameservers p).2.report := by
  induction nameservers generalizing p with
  | nil => exact h
  | cons ns rest ih =>
    have ho := s.enrichOne_keeps hskip h ns
    rw [enrichAll]
    split
    next e q he => rwa [he] at ho
    next ns' q he =>
      rw [he] at ho
      have hr := ih ho
      split
      next e q' hq => rwa [hq] at hr
      next more q' hq => rwa [hq] at hr

/-- Looking up owners adds nothing to a report but that it is late. -/
theorem enrich_keeps {p : Progress τ} (h : P p.report) (nameservers : List Nameserver) :
    P (s.enrich nameservers p).2.report := by
  rw [enrich]
  split
  · exact s.enrichAll_keeps hskip h nameservers
  · exact h

end Enriching

omit [Instant τ] in
theorem made_localObservations (nameservers : List Nameserver) :
    ∀ o ∈ localObservations nameservers, o.Made := by
  intro o ho
  rw [localObservations] at ho
  split at ho
  · cases ho
  · rcases List.mem_cons.mp ho with rfl | ho
    · trivial
    · rw [List.mem_singleton.mp ho]
      trivial

theorem inspect_made {p : Progress τ} (h : p.report.Made τ) {nameservers : List Nameserver}
    (hns : ∀ ns ∈ nameservers, ns.Keyed) : (inspect nameservers p).report.Made τ := by
  rw [inspect_report]
  refine ⟨fun f hf => ?_, fun o ho => ?_, hns⟩
  · rcases List.mem_append.mp hf with hf | hf
    · exact h.findings f hf
    · exact Topology.made_of_mem_findings hf
  · rcases List.mem_append.mp ho with ho | ho
    · exact h.observations o ho
    · exact made_localObservations nameservers o ho

theorem classify_made {c : Check} {error : Option Failure} {found : Bool} {f : Finding}
    (h : (c.classify error found).finding = some f) : f.Made τ := by
  obtain ⟨e, -, rfl⟩ := classify_finding h
  exact .checkFailed c e

theorem check_made {p : Progress τ} (h : p.report.Made τ) (name : String) (type : Dns.RecordType)
    (host address : String) : (s.check name type host address p).2.report.Made τ := by
  rw [check]
  split
  · exact h
  · dsimp only
    rw [record_report]
    exact h.addAll fun f hf => classify_made (Option.mem_toList.mp hf)

theorem probeOne_made {p : Progress τ} (h : p.report.Made τ) (name : String) (delegated : List String)
    (host : String) (a : Net.Address) (harvest : Harvest) :
    (s.probeOne name delegated host a harvest p).2.report.Made τ := by
  have hsoa := s.check_made h name .soa host a.text
  rw [probeOne]
  split
  next e q he => rwa [he] at hsoa
  next soa soaFailed q he =>
    rw [he] at hsoa
    have hns := s.check_made hsoa name .ns host a.text
    split
    next e q' he' => rwa [he'] at hns
    next served nsFailed q' he' =>
      rw [he'] at hns
      dsimp only
      split
      · exact hns.add (.inconsistent _ _ _ _ _)
      · exact hns

theorem probeAll_made {p : Progress τ} (h : p.report.Made τ) (name : String) (delegated : List String)
    (targets : List (String × Net.Address)) (harvest : Harvest) :
    (s.probeAll name delegated targets harvest p).2.report.Made τ := by
  induction targets generalizing harvest p with
  | nil => exact h
  | cons target rest ih =>
    obtain ⟨host, a⟩ := target
    rw [probeAll]
    split
    next =>
      have ho := s.probeOne_made (p := p.looked) h name delegated host a harvest
      split
      next e q he => rwa [he] at ho
      next harvest' q he =>
        rw [he] at ho
        exact ih ho harvest'
    next => exact s.skip_made (p := p.looked) h .probes

theorem probe_made {p : Progress τ} (h : p.report.Made τ) (name : String) :
    (s.probe name p).2.report.Made τ := by
  have ha := s.probeAll_made h name (delegation p.report.nameservers) (targets p.report.nameservers)
    ⟨[], []⟩
  rw [probe]
  split
  next e q he => rwa [he] at ha
  next harvest q he =>
    rw [he] at ha
    have hprobes : (q.report.observe (.probes harvest.probes)).Made τ := ha.observe trivial
    exact hprobes.observe trivial

theorem examine_made {p : Progress τ} (h : p.report.Made τ) (name : String)
    {nameservers : List Nameserver} (hns : ∀ ns ∈ nameservers, ns.Keyed) :
    (s.examine name nameservers p).2.report.Made τ := by
  have he := s.enrich_keeps s.skip_made h nameservers
  rw [examine]
  split
  next e q hq => rwa [hq] at he
  next enriched q hq =>
    rw [hq] at he
    have hlocal : (inspect enriched q).report.Made τ := inspect_made he (s.enrich_keyed hq hns)
    split
    · exact s.probe_made hlocal name
    · exact hlocal

theorem survey_made (zone : String) (session : Session τ) :
    (s.survey zone session).2.report.Made τ := by
  have hbegin : ∀ session, (s.begin zone session).report.Made τ := fun _ => .start _ _ _
  unfold survey
  split
  next e w hd =>
    dsimp only
    split
    · have hadded := (hbegin { session with network := w }).add
        (.noNameservers s zone (Dns.absolute zone) (rootCause e))
      exact hadded
    · exact hbegin _
  next nameservers w hd =>
    have hkeyed : ∀ ns ∈ nameservers, ns.Keyed := fun ns hns => .of_unowned (discover_unowned hd ns hns)
    exact s.examine_made (hbegin { session with network := w }) _ hkeyed

end Scan

/-- A report that an audit returns, of any zone, with any settings and on any network. -/
def Report.Returned (τ : Type) [Instant τ] (r : Report) : Prop :=
  ∃ (settings : Settings τ) (target : String) (session : Session τ),
    (auditZone settings target session).1 = .ok r

theorem Report.Returned.made {r : Report} (h : r.Returned τ) : r.Made τ := by
  obtain ⟨settings, target, session, h⟩ := h
  obtain ⟨p, millis, hs, rfl⟩ := survey_of_report h
  have hsurvey := (Scan.start settings session.network.clock).survey_made (Zone.normalize target) session
  rw [hs] at hsurvey
  exact hsurvey.finalize.observe trivial

theorem Report.Returned.overall {r : Report} (h : r.Returned τ) :
    r.overall = .ofSeverities (r.findings.map Finding.severity) := by
  obtain ⟨settings, target, session, h⟩ := h
  obtain ⟨p, millis, hs, rfl⟩ := survey_of_report h
  rfl

end DelegationAudit
