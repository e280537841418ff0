import DelegationAudit.Audit.Scan

namespace DelegationAudit

namespace Report

/-- The report with more to observe and more found. -/
def grow (os : List Observation) (fs : List Finding) (r : Report) : Report :=
  { r with observations := r.observations ++ os, findings := r.findings ++ fs }

@[simp] theorem grow_nil (r : Report) : r.grow [] [] = r := by simp [grow]

@[simp] theorem grow_grow (os ps : List Observation) (fs gs : List Finding) (r : Report) :
    (r.grow os fs).grow ps gs = r.grow (os ++ ps) (fs ++ gs) := by simp [grow]

theorem addAll_eq_grow (fs : List Finding) (r : Report) : r.addAll fs = r.grow [] fs := by
  simp [addAll, grow]

@[simp] theorem addAll_nil (r : Report) : r.addAll [] = r := by simp [addAll]

@[simp] theorem addAll_addAll (fs gs : List Finding) (r : Report) :
    (r.addAll fs).addAll gs = r.addAll (fs ++ gs) := by simp [addAll]

theorem add_eq_addAll (f : Finding) (r : Report) : r.add f = r.addAll [f] := rfl

@[simp] theorem addAll_findings (fs : List Finding) (r : Report) :
    (r.addAll fs).findings = r.findings ++ fs := rfl

@[simp] theorem addAll_zone (fs : List Finding) (r : Report) : (r.addAll fs).zone = r.zone := rfl

@[simp] theorem addAll_nameservers (fs : List Finding) (r : Report) :
    (r.addAll fs).nameservers = r.nameservers := rfl

@[simp] theorem addAll_observations (fs : List Finding) (r : Report) :
    (r.addAll fs).observations = r.observations := rfl

def names (r : Report) : String × String := (r.zone, r.parent)

@[simp] theorem names_grow (os : List Observation) (fs : List Finding) (r : Report) :
    (r.grow os fs).names = r.names := rfl

end Report

/-- The probes that an observation lists, and those that a report lists. -/
def Observation.entries : Observation → List Probe
  | .probes ps => ps
  | _ => []

def Report.entries (r : Report) : List Probe := r.observations.flatMap Observation.entries

@[simp] theorem Report.entries_grow (os : List Observation) (fs : List Finding) (r : Report) :
    (r.grow os fs).entries = r.entries ++ os.flatMap Observation.entries := by
  simp [entries, grow]

theorem entries_of_skipped {os : List Observation} (h : ∀ o ∈ os, ∃ step, o = .skipped step) :
    os.flatMap Observation.entries = [] := by
  rw [List.flatMap_eq_nil_iff]
  intro o ho
  obtain ⟨step, rfl⟩ := h o ho
  rfl

theorem Report.entries_stamped (r : Report) (millis : Int) :
    (r.finalize.observe (.timing millis)).entries = r.entries := by
  simp [entries, finalize, observe, Observation.entries]

/-- A nameserver without what is known of the owners of its addresses. -/
def Nameserver.host (ns : Nameserver) : String × List Net.Address := (ns.name, ns.addresses)

/-- A finding about one address of one nameserver. -/
structure Finding.About (host address : String) (f : Finding) : Prop where
  issue : f.issue = .checkFailed ∨ f.issue = .inconsistent
  server : f.server = some (host ++ " (" ++ address ++ ")")

namespace Topology

/-- All that the nameservers show without a question to them. -/
def findings (zone : String) (nameservers : List Nameserver) : List Finding :=
  nameservers.flatMap (addressFindings zone) ++
    if nameservers.length < 2 then [singleNameserver zone nameservers]
    else subnetFindings zone nameservers ++ networkFindings zone nameservers

theorem mem_addressFindings {zone : String} {ns : Nameserver} {f : Finding}
    (h : f ∈ addressFindings zone ns) :
    f = noAddress zone ns ∨ ∃ a ∈ ns.addresses, f = privateAddress zone ns a := by
  rw [addressFindings] at h
  split at h
  · exact .inl (List.mem_singleton.mp h)
  · obtain ⟨a, ha, rfl⟩ := List.mem_map.mp h
    exact .inr ⟨a, (List.mem_filter.mp ha).1, rfl⟩

theorem mem_subnetFindings {zone : String} {nameservers : List Nameserver} {f : Finding}
    (h : f ∈ subnetFindings zone nameservers) : ∃ v4, f = oneSubnet zone v4 := by
  unfold subnetFindings at h
  dsimp only at h
  split at h
  · exact ⟨_, List.mem_singleton.mp h⟩
  · cases h

theorem mem_networkFindings {zone : String} {nameservers : List Nameserver} {f : Finding}
    (h : f ∈ networkFindings zone nameservers) : ∃ asn, f = oneNetwork zone asn := by
  rw [networkFindings] at h
  split at h
  · split at h
    · exact ⟨_, List.mem_singleton.mp h⟩
    · cases h
  · cases h

theorem mem_findings {zone : String} {nameservers : List Nameserver} {f : Finding}
    (h : f ∈ findings zone nameservers) :
    (∃ ns ∈ nameservers, f = noAddress zone ns) ∨
      (∃ ns ∈ nameservers, ∃ a ∈ ns.addresses, f = privateAddress zone ns a) ∨
      f = singleNameserver zone nameservers ∨ (∃ v4, f = oneSubnet zone v4) ∨
      ∃ asn, f = oneNetwork zone asn := by
  rcases List.mem_append.mp h with h | h
  · obtain ⟨ns, hns, hf⟩ := List.mem_flatMap.mp h
    exact (mem_addressFindings hf).imp (fun hn => ⟨ns, hns, hn⟩) fun hp => .inl ⟨ns, hns, hp⟩
  · split at h
    · exact .inr (.inr (.inl (List.mem_singleton.mp h)))
    · rcases List.mem_append.mp h with h | h
      · exact .inr (.inr (.inr (.inl (mem_subnetFindings h))))
      · exact .inr (.inr (.inr (.inr (mem_networkFindings h))))

theorem issue_of_mem_findings {zone : String} {nameservers : List Nameserver} {f : Finding}
    (h : f ∈ findings zone nameservers) :
    f.issue ∈ [.noAddress, .privateAddress, .singleNameserver, .sameSubnet, .singleNetwork] := by
  rcases mem_findings h with ⟨ns, -, rfl⟩ | ⟨ns, -, a, -, rfl⟩ | rfl | ⟨v4, rfl⟩ | ⟨asn, rfl⟩ <;>
    simp [noAddress, privateAddress, singleNameserver, oneSubnet, oneNetwork]

/-- A single nameserver is spoken of when there are fewer than two. -/
theorem single_mem_findings (zone : String) {nameservers : List Nameserver} :
    (∃ f ∈ findings zone nameservers, f.issue = .singleNameserver) ↔ nameservers.length < 2 := by
  constructor
  · rintro ⟨f, hf, hissue⟩
    refine Nat.lt_of_not_le fun hlength => ?_
    rw [findings, if_neg (Nat.not_lt.mpr hlength)] at hf
    rcases List.mem_append.mp hf with hf | hf
    · obtain ⟨ns, -, hf⟩ := List.mem_flatMap.mp hf
      rcases mem_addressFindings hf with rfl | ⟨a, -, rfl⟩ <;> cases hissue
    · rcases List.mem_append.mp hf with hf | hf
      · obtain ⟨v4, rfl⟩ := mem_subnetFindings hf
        cases hissue
      · obtain ⟨asn, rfl⟩ := mem_networkFindings hf
        cases hissue
  · intro hlength
    refine ⟨singleNameserver zone nameservers, ?_, rfl⟩
    rw [findings, if_pos hlength]
    simp

end Topology

namespace Scan

variable {τ : Type}

@[simp] theorem inspect_session (nameservers : List Nameserver) (p : Progress τ) :
    (inspect nameservers p).session = p.session := rfl

def localObservations (nameservers : List Nameserver) : List Observation :=
  if nameservers.length < 2 then []
  else [.ipv4Addresses (Net.ipv4Only (nameservers.flatMap Nameserver.addresses)),
    .asns (Topology.knownNetworks nameservers)]

theorem inspect_report (nameservers : List Nameserver) (p : Progress τ) :
    (inspect nameservers p).report = { p.report with
      nameservers := nameservers
      findings := p.report.findings ++ Topology.findings p.report.zone nameservers
      observations := p.report.observations ++ localObservations nameservers } := by
  unfold inspect Progress.apply Topology.checkTopology Topology.checkAddresses Topology.findings
    localObservations
  by_cases h : nameservers.length < 2
  · simp [h, Report.add, Report.addAll]
  · simp [h, Report.addAll, Report.observe, Report.addresses]

@[simp] theorem inspect_nameservers (nameservers : List Nameserver) (p : Progress τ) :
    (inspect nameservers p).report.nameservers = nameservers := by rw [inspect_report]

theorem record_report (v : Verdict) (p : Progress τ) :
    (record v p).report = p.report.addAll v.finding.toList := by
  cases hn : v.note <;> cases hf : v.finding <;>
    simp [record, hn, hf, Progress.note, Progress.add, Report.add_eq_addAll]

theorem classify_finding {c : Check} {error : Option Failure} {found : Bool} {f : Finding}
    (h : (c.classify error found).finding = some f) : ∃ e, error = some e ∧ f = c.failure e := by
  unfold Check.classify at h
  split at h
  next e =>
    dsimp only at h
    split at h
    · cases h
    · exact ⟨e, rfl, (Option.some.inj h).symm⟩
  next => split at h <;> cases h

theorem classify_about {c : Check} {error : Option Failure} {found : Bool} {f : Finding}
    (h : (c.classify error found).finding = some f) : f.About c.server c.address := by
  obtain ⟨e, -, rfl⟩ := classify_finding h
  exact ⟨.inl rfl, rfl⟩

variable [Instant τ] (s : Scan τ)

theorem check_adds (name : String) (type : Dns.RecordType) (host address : String)
    (p : Progress τ) :
    ∃ fs, (s.check name type host address p).2.report = p.report.addAll fs ∧
      ∀ f ∈ fs, f.About host address := by
  rw [check]
  split
  · exact ⟨[], by simp, by simp⟩
  · refine ⟨_, record_report _ _, ?_⟩
    intro f hf
    exact classify_about (Option.mem_toList.mp hf)

theorem probeOne_adds (name : String) (delegated : List String) (host : String)
    (address : Net.Address) (h : Harvest) (p : Progress τ) :
    ∃ fs, (s.probeOne name delegated host address h p).2.report = p.report.addAll fs ∧
      ∀ f ∈ fs, f.About host address.text := by
  obtain ⟨soa, hsoa, habout⟩ := s.check_adds name .soa host address.text p
  rw [probeOne]
  split
  next e q he =>
    rw [he] at hsoa
    exact ⟨soa, hsoa, habout⟩
  next records soaFailed q he =>
    rw [he] at hsoa
    obtain ⟨ns, hns, nabout⟩ := s.check_adds name .ns host address.text q
    have both : ∀ f ∈ soa ++ ns, f.About host address.text := by
      intro f hf
      exact (List.mem_append.mp hf).elim (habout f) (nabout f)
    split
    next e r hr =>
      rw [hr] at hns
      exact ⟨soa ++ ns, by rw [hns, hsoa, Report.addAll_addAll], both⟩
    next served nsFailed r hr =>
      rw [hr] at hns
      have hreport : r.report = p.report.addAll (soa ++ ns) := by
        rw [hns, hsoa, Report.addAll_addAll]
      dsimp only
      split
      · refine ⟨soa ++ ns ++ [_], by rw [Progress.add, hreport, Report.add_eq_addAll,
          Report.addAll_addAll], ?_⟩
        intro f hf
        rcases List.mem_append.mp hf with hf | hf
        · exact both f hf
        · rw [List.mem_singleton.mp hf]
          exact ⟨.inr rfl, rfl⟩
      · exact ⟨soa ++ ns, hreport, both⟩

theorem probeOne_probes {name : String} {delegated : List String} {host : String}
    {address : Net.Address} {h h' : Harvest} {p q : Progress τ}
    (hp : s.probeOne name delegated host address h p = (.ok h', q)) :
    ∃ entry, h'.probes = h.probes ++ [entry] ∧ entry.nameserver = host ∧
      entry.address = address.text := by
  rw [probeOne] at hp
  split at hp
  · cases hp
  · split at hp
    · cases hp
    · cases hp
      exact ⟨_, rfl, rfl, rfl⟩

/-- What a scan adds when it finds that it is late. -/
structure LateNotes (os : List Observation) (fs : List Finding) : Prop where
  observations : ∀ o ∈ os, ∃ step, o = .skipped step
  findings : ∀ f ∈ fs, f.issue = .deadline

theorem LateNotes.none : LateNotes [] [] := ⟨by simp, by simp⟩

theorem LateNotes.append {os ps : List Observation} {fs gs : List Finding} (h : LateNotes os fs)
    (h' : LateNotes ps gs) : LateNotes (os ++ ps) (fs ++ gs) where
  observations o ho := (List.mem_append.mp ho).elim (h.observations o) (h'.observations o)
  findings f hf := (List.mem_append.mp hf).elim (h.findings f) (h'.findings f)

theorem skip_grows (step : Step) (p : Progress τ) :
    ∃ os fs, (s.skip step p).report = p.report.grow os fs ∧ LateNotes os fs := by
  rw [skip]
  split
  · exact ⟨[], [], by simp, .none⟩
  · refine ⟨[.skipped step], [s.deadlineFinding p.report.zone step], rfl, ?_, ?_⟩
    · simp
    · simp [deadlineFinding]

theorem enrichOne_grows (ns : Nameserver) (p : Progress τ) :
    ∃ os fs, (s.enrichOne ns p).2.report = p.report.grow os fs ∧ LateNotes os fs := by
  rw [enrichOne]
  split
  · refine ⟨[], [], ?_, .none⟩
    split <;> simp
  · exact s.skip_grows .enrichment p.looked

theorem enrichAll_grows (nameservers : List Nameserver) (p : Progress τ) :
    ∃ os fs, (s.enrichAll nameservers p).2.report = p.report.grow os fs ∧ LateNotes os fs := by
  induction nameservers generalizing p with
  | nil => exact ⟨[], [], by simp [enrichAll], .none⟩
  | cons ns rest ih =>
    obtain ⟨os, fs, ho, hl⟩ := s.enrichOne_grows ns p
    rw [enrichAll]
    split
    next e q he =>
      rw [he] at ho
      exact ⟨os, fs, ho, hl⟩
    next ns' q he =>
      rw [he] at ho
      obtain ⟨ps, gs, hr, hl'⟩ := ih q
      refine ⟨os ++ ps, fs ++ gs, ?_, hl.append hl'⟩
      rw [← Report.grow_grow, ← ho]
      split
      next e r hr' => rw [hr'] at hr; exact hr
      next more r hr' => rw [hr'] at hr; exact hr

theorem enrich_grows (nameservers : List Nameserver) (p : Progress τ) :
    ∃ os fs, (s.enrich nameservers p).2.report = p.report.grow os fs ∧ LateNotes os fs := by
  rw [enrich]
  split
  · exact s.enrichAll_grows nameservers p
  · exact ⟨[], [], by simp, .none⟩

theorem probeAll_grows (name : String) (delegated : List String)
    (targets : List (String × Net.Address)) (h : Harvest) (p : Progress τ) :
    ∃ os fs, (s.probeAll name delegated targets h p).2.report = p.report.grow os fs ∧
      (∀ o ∈ os, ∃ step, o = .skipped step) ∧
      ∀ f ∈ fs, f.issue = .deadline ∨ ∃ t ∈ targets, f.About t.1 t.2.text := by
  induction targets generalizing h p with
  | nil => exact ⟨[], [], by simp [probeAll], by simp, by simp⟩
  | cons target rest ih =>
    obtain ⟨host, a⟩ := target
    rw [probeAll]
    split
    next =>
      obtain ⟨fs, hf, habout⟩ := s.probeOne_adds name delegated host a h p.looked
      have hfirst : ∀ f ∈ fs, f.issue = .deadline ∨
          ∃ t ∈ (host, a) :: rest, f.About t.1 t.2.text :=
        fun f hm => .inr ⟨(host, a), by simp, habout f hm⟩
      split
      next e q he =>
        rw [he, Report.addAll_eq_grow] at hf
        exact ⟨[], fs, hf, by simp, hfirst⟩
      next h' q he =>
        rw [he, Report.addAll_eq_grow] at hf
        obtain ⟨os, gs, hr, hos, hgs⟩ := ih h' q
        refine ⟨os, fs ++ gs, by rw [hr, hf, Report.grow_grow, List.nil_append, p.looked_report], hos, ?_⟩
        intro f hm
        rcases List.mem_append.mp hm with hm | hm
        · exact hfirst f hm
        · rcases hgs f hm with hd | ⟨t, ht, hat⟩
          · exact .inl hd
          · exact .inr ⟨t, by simp [ht], hat⟩
    next =>
      obtain ⟨os, fs, ho, hl⟩ := s.skip_grows .probes p.looked
      exact ⟨os, fs, ho, hl.observations, fun f hf => .inl (hl.findings f hf)⟩

theorem enrichAll_hosts {nameservers found : List Nameserver} {p q : Progress τ}
    (h : s.enrichAll nameservers p = (.ok found, q)) :
    found.map Nameserver.host = nameservers.map Nameserver.host := by
  induction nameservers generalizing p found q with
  | nil => cases h; rfl
  | cons ns rest ih =>
    rw [enrichAll] at h
    split at h
    next => cases h
    next ns' q' he =>
      split at h
      next => cases h
      next more r hr =>
        cases h
        have hone : ns'.host = ns.host := by
          rw [enrichOne] at he
          split at he
          · split at he <;> cases he
            rfl
          · cases he
            rfl
        simp only [List.map_cons, hone, ih hr]

theorem enrich_hosts {nameservers found : List Nameserver} {p q : Progress τ}
    (h : s.enrich nameservers p = (.ok found, q)) :
    found.map Nameserver.host = nameservers.map Nameserver.host := by
  rw [enrich] at h
  split at h
  · exact s.enrichAll_hosts h
  · cases h
    rfl

theorem examine_names (name : String) (nameservers : List Nameserver) (p : Progress τ) :
    (s.examine name nameservers p).2.report.names = p.report.names := by
  obtain ⟨os, fs, hr, -⟩ := s.enrich_grows nameservers p
  rw [examine]
  split
  next e q he =>
    rw [he] at hr
    rw [hr, Report.names_grow]
  next enriched q he =>
    rw [he] at hr
    have hlocal : (inspect enriched q).report.names = p.report.names := by
      rw [inspect_report, hr]
      rfl
    split
    next =>
      obtain ⟨os', gs, hr', -⟩ := s.probeAll_grows name
        (delegation (inspect enriched q).report.nameservers)
        (targets (inspect enriched q).report.nameservers) ⟨[], []⟩ (inspect enriched q)
      rw [probe]
      split
      next e q' hp =>
        rw [hp] at hr'
        rw [hr', Report.names_grow, hlocal]
      next harvest q' hp =>
        rw [hp] at hr'
        change q'.report.names = _
        rw [hr', Report.names_grow, hlocal]
    next => exact hlocal

theorem survey_names (zone : String) (session : Session τ) :
    (s.survey zone session).2.report.names = (zone, Dns.parentOf (Dns.absolute zone)) := by
  unfold survey
  split
  next e w hd =>
    dsimp only
    split
    · rfl
    · rfl
  next nameservers w hd =>
    rw [s.examine_names]
    rfl

end Scan

end DelegationAudit
