import DelegationAudit.Proofs.Completion
import DelegationAudit.Proofs.Inspection
import DelegationAudit.Proofs.Looks
import DelegationAudit.Proofs.Script

namespace DelegationAudit

def Report.probed (r : Report) : List (String × String) := r.entries.map Probe.place

namespace Scan

section Kept

variable {τ : Type} [LinearOrder τ] [Instant τ] {s : Scan τ} {given : List τ}

theorem begin_kept (s : Scan τ) (zone : String) (session : Session τ)
    (honward : session.network.readings.Pairwise (· ≤ ·)) :
    s.Kept session.network.readings [] (s.begin zone session) where
  told := rfl
  once := rfl
  late _ hl := nomatch hl
  read _ hl := nomatch hl
  order := List.Pairwise.nil
  onward := honward
  shown := .inl rfl

theorem inspect_kept {looks : List (Look τ)} {p : Progress τ} (h : s.Kept given looks p)
    (nameservers : List Nameserver) : s.Kept given looks (inspect nameservers p) := by
  refine h.local ?_ ?_ rfl rfl
  · have hl : (localObservations nameservers).filterMap Observation.step? = [] := by
      rw [localObservations]
      split <;> rfl
    rw [inspect_report, Report.skips, List.filterMap_append, hl, List.append_nil]
    rfl
  · have hf : ∀ f ∈ Topology.findings p.report.zone nameservers, f.issue ≠ .deadline := by
      intro f hf hd
      have hi := Topology.issue_of_mem_findings hf
      rw [hd] at hi
      simp at hi
    have hd := p.report.deadlines_addAll hf
    rw [inspect_report]
    exact hd

variable [AddCommGroup τ] [IsOrderedAddMonoid τ] [ExactTime τ]

theorem enrichedLogged_kept {p : Progress τ} (h : s.Kept given [] p) (nameservers : List Nameserver) :
    s.Kept given (s.enrichedLogged nameservers p).2 (s.enrichedLogged nameservers p).1.2 := by
  unfold enrichedLogged
  split
  · exact enrichLogged_kept h nameservers
  · exact h

theorem probesLogged_kept {looks : List (Look τ)} {p : Progress τ} (h : s.Kept given looks p)
    (name : String) :
    s.Kept given (looks ++ (s.probesLogged name p).2) (s.probesLogged name p).1.2 := by
  have hp := probeLogged_kept h name (delegation p.report.nameservers)
    (targets p.report.nameservers) ⟨[], []⟩
  rw [probesLogged]
  split
  next e q ls he => rw [he] at hp; exact hp
  next harvest q ls he =>
    rw [he] at hp
    refine hp.local ?_ rfl rfl rfl
    simp [Report.skips, Progress.observe, Report.observe, Observation.step?]

theorem examineLogged_kept {p : Progress τ} (h : s.Kept given [] p) (name : String)
    (nameservers : List Nameserver) :
    s.Kept given (s.examineLogged name nameservers p).2 (s.examineLogged name nameservers p).1.2 := by
  have he := enrichedLogged_kept h nameservers
  rw [examineLogged]
  split
  next e q looks hq => rw [hq] at he; exact he
  next enriched q looks hq =>
    rw [hq] at he
    split
    · exact probesLogged_kept (inspect_kept he enriched) name
    · exact inspect_kept he enriched

end Kept

variable {τ : Type} [Instant τ] {s : Scan τ}

theorem probesLogged_ok {name : String} {p q : Progress τ} {looks : List (Look τ)}
    (hp : s.probesLogged name p = ((.ok (), q), looks)) :
    ∃ os fs, q.report = p.report.grow os fs ∧
      (os.flatMap Observation.entries).map Probe.place = (looks.filter Look.begun).map Look.place ∧
      (looks.filter Look.begun).map Look.place <+: (targets p.report.nameservers).map targetPlace ∧
      ((∀ l ∈ looks, l.begun = true) →
        (looks.filter Look.begun).map Look.place = (targets p.report.nameservers).map targetPlace) := by
  rw [probesLogged] at hp
  split at hp
  next => cases hp
  next harvest q' ls hl =>
    obtain ⟨hplaces, hfront, hall⟩ := probeLogged_places hl
    have hgrows := s.probeAll_grows name (delegation p.report.nameservers)
      (targets p.report.nameservers) ⟨[], []⟩ p
    rw [← probeLogged_fst, hl] at hgrows
    obtain ⟨os, fs, hr, hos, -⟩ := hgrows
    dsimp only at hr
    cases hp
    refine ⟨os ++ [.probes harvest.probes,
      .servedNames ((Dns.targetsOf harvest.served).map lowerText)], fs, ?_, ?_, hfront, hall⟩
    · simp [Progress.observe, hr, Report.observe, Report.grow]
    · rw [List.flatMap_append, entries_of_skipped hos]
      simpa [Observation.entries] using hplaces

/-- How the report of a scan agrees with its looks. -/
structure Covered (s : Scan τ) (given : List Nameserver) (looks : List (Look τ)) (r : Report) :
    Prop where
  obtained : r.nameservers.map Nameserver.host = given.map Nameserver.host
  asked : (looks.filter (fun l => l.step == .enrichment)).map Look.host =
    if s.settings.enrich then given.map Nameserver.name else []
  probed : r.probed = (looks.filter (fun l => l.step == .probes && l.begun)).map Look.place
  front : r.probed <+: (targets r.nameservers).map targetPlace
  whole : s.settings.probe = true → (∀ l ∈ looks, l.begun = true) →
    r.probed = (targets r.nameservers).map targetPlace
  inspected : ∃ found seen, Topology.CalledFor r.nameservers r.zone found seen ∧ found <:+: r.findings
  staged : ∃ before after, looks = before ++ after ∧ (∀ l ∈ before, l.step = .enrichment) ∧
    ∀ l ∈ after, l.step = .probes

theorem enrichedLogged_ok {nameservers enriched : List Nameserver} {p q : Progress τ}
    {looks : List (Look τ)}
    (h : s.enrichedLogged nameservers p = ((.ok enriched, q), looks)) :
    (∀ l ∈ looks, l.step = .enrichment) ∧
      looks.map Look.host = (if s.settings.enrich then nameservers.map Nameserver.name else []) ∧
      enriched.map Nameserver.host = nameservers.map Nameserver.host ∧
      q.report.probed = p.report.probed := by
  have hfst := s.enrichedLogged_fst nameservers p
  rw [h] at hfst
  obtain ⟨os, fs, hr, hl⟩ := s.enrich_grows nameservers p
  rw [← hfst] at hr
  have hprobed : q.report.probed = p.report.probed := by
    rw [hr, Report.probed, Report.entries_grow, entries_of_skipped hl.observations, List.append_nil,
      Report.probed]
  have hosts := enrich_hosts s hfst.symm
  rw [enrichedLogged] at h
  split at h
  next he =>
    obtain ⟨hsteps, hhosts⟩ := enrichLogged_hosts nameservers p (s := s)
    rw [h] at hsteps hhosts
    exact ⟨hsteps, by rw [if_pos he, ← hhosts enriched rfl], hosts, hprobed⟩
  next he =>
    cases h
    exact ⟨by simp, by rw [if_neg he, List.map_nil], hosts, hprobed⟩

theorem probesLogged_steps (name : String) (p : Progress τ) :
    ∀ l ∈ (s.probesLogged name p).2, l.step = .probes := by
  have h := probeLogged_steps name (delegation p.report.nameservers)
    (targets p.report.nameservers) ⟨[], []⟩ p (s := s)
  rw [probesLogged]
  split
  next he => rw [he] at h; exact h
  next he => rw [he] at h; exact h

/-- A scan that comes to an end has enriched, inspected, and then probed what it had time for. -/
theorem examineLogged_ok {name : String} {nameservers : List Nameserver} {p q : Progress τ}
    {looks : List (Look τ)} (h : s.examineLogged name nameservers p = ((.ok (), q), looks)) :
    ∃ enriched p' before after os fs,
      s.enrichedLogged nameservers p = ((.ok enriched, p'), before) ∧
      looks = before ++ after ∧ (∀ l ∈ after, l.step = .probes) ∧
      q.report = (inspect enriched p').report.grow os fs ∧
      (os.flatMap Observation.entries).map Probe.place = (after.filter Look.begun).map Look.place ∧
      (after.filter Look.begun).map Look.place <+: (targets enriched).map targetPlace ∧
      (s.settings.probe = true → (∀ l ∈ after, l.begun = true) →
        (after.filter Look.begun).map Look.place = (targets enriched).map targetPlace) := by
  rw [examineLogged] at h
  split at h
  next => cases h
  next enriched p' before he =>
    split at h
    next hprobe =>
      have hsteps := probesLogged_steps name (inspect enriched p') (s := s)
      cases hl : s.probesLogged name (inspect enriched p') with
      | mk r after =>
        rw [hl] at h hsteps
        cases h
        obtain ⟨os, fs, hr, hplaces, hfront, hall⟩ := probesLogged_ok hl
        rw [inspect_nameservers] at hfront hall
        exact ⟨enriched, p', before, after, os, fs, he, rfl, hsteps, hr, hplaces, hfront,
          fun _ => hall⟩
    next hprobe =>
      cases h
      refine ⟨enriched, p', looks, [], [], [], he, by simp, by simp, by simp, rfl, ?_, ?_⟩
      · exact List.nil_prefix
      · exact fun hp => absurd hp hprobe

omit [Instant τ] in
/-- The looks before enriching and those before probing can be told apart by their steps. -/
theorem staged_filters {before after : List (Look τ)} (hfirst : ∀ l ∈ before, l.step = .enrichment)
    (hlast : ∀ l ∈ after, l.step = .probes) :
    (before ++ after).filter (fun l => l.step == .enrichment) = before ∧
      (before ++ after).filter (fun l => l.step == .probes && l.begun) = after.filter Look.begun := by
  constructor
  · have hb : before.filter (fun l => l.step == .enrichment) = before := by
      rw [List.filter_eq_self]
      intro l hl
      simp [hfirst l hl]
    have ha : after.filter (fun l => l.step == .enrichment) = [] := by
      rw [List.filter_eq_nil_iff]
      intro l hl
      simp [hlast l hl]
    rw [List.filter_append, hb, ha, List.append_nil]
  · have hb : before.filter (fun l => l.step == .probes && l.begun) = [] := by
      rw [List.filter_eq_nil_iff]
      intro l hl
      simp [hfirst l hl]
    have ha : after.filter (fun l => l.step == .probes && l.begun) = after.filter Look.begun := by
      apply List.filter_congr
      intro l hl
      simp [hlast l hl]
    rw [List.filter_append, hb, ha, List.nil_append]

theorem examineLogged_covered {name : String} {nameservers : List Nameserver} {p q : Progress τ}
    {looks : List (Look τ)} (hp : p.report.probed = [])
    (h : s.examineLogged name nameservers p = ((.ok (), q), looks)) :
    s.Covered nameservers looks q.report := by
  obtain ⟨enriched, p', before, after, os, fs, he, rfl, hlast, hr, hplaces, hfront, hall⟩ :=
    examineLogged_ok h
  obtain ⟨hfirst, hhosts, hsame, hprobed⟩ := enrichedLogged_ok he
  have hlocal : (localObservations enriched).flatMap Observation.entries = [] := by
    rw [localObservations]
    split <;> rfl
  have hnameservers : q.report.nameservers = enriched := by
    rw [hr, inspect_report]
    rfl
  have hplaced : q.report.probed = (after.filter Look.begun).map Look.place := by
    rw [hr, Report.probed, Report.entries_grow, List.map_append, hplaces, inspect_report,
      Report.entries, List.flatMap_append, hlocal, List.append_nil]
    change p'.report.probed ++ _ = _
    rw [hprobed, hp, List.nil_append]
  refine ⟨?_, ?_, ?_, ?_, ?_, ?_, before, after, rfl, hfirst, hlast⟩
  · rw [hnameservers, hsame]
  · rw [(staged_filters hfirst hlast).1, hhosts]
  · rw [hplaced, (staged_filters hfirst hlast).2]
  · rw [hplaced, hnameservers]
    exact hfront
  · intro hprobe hbegun
    rw [hplaced, hnameservers]
    exact hall hprobe fun l hl => hbegun l (List.mem_append_right before hl)
  · refine ⟨_, _, Topology.findings_calledFor q.report.nameservers q.report.zone,
      p'.report.findings, fs, ?_⟩
    rw [hr, inspect_report]
    rfl

end Scan

/-- What a deadline asks of a run that began at a moment, had these readings of the clock, took these
looks, ended in this report and sent these messages. A look that is not begun is one that it was too late
for, and the finding about the deadline is added at the first of these. -/
structure Punctual {τ : Type} [AddCommGroup τ] [LinearOrder τ] (settings : Settings τ) (started : τ)
    (readings : List τ) (looks : List (Look τ)) (report : Report) (sent : List (Call τ)) : Prop where
  shown : looks.map Look.reading <+: readings ∨ readings <+: looks.map Look.reading
  once : report.deadlines.length ≤ 1
  told : report.deadlines ≠ [] ↔
    0 < settings.deadline ∧ ∃ l ∈ looks, started + settings.deadline ≤ l.reading
  silent : 0 < settings.deadline → ∀ l ∈ looks, started + settings.deadline ≤ l.reading → l.sent = sent
  early : ∀ l ∈ looks, l.begun = true ↔
    (0 < settings.deadline → l.reading < started + settings.deadline)
  asked : (looks.filter (fun l => l.step == .enrichment)).map Look.host =
    if settings.enrich then report.nameservers.map Nameserver.name else []
  probed : report.probed = (looks.filter (fun l => l.step == .probes && l.begun)).map Look.place
  front : report.probed <+: (Scan.targets report.nameservers).map targetPlace
  unprobed : .enrichment ∈ report.skips → report.probed = []
  inspected : report.nameservers ≠ [] → ∃ found seen,
    Topology.CalledFor report.nameservers report.zone found seen ∧ found <:+: report.findings
  unlimited : settings.deadline ≤ 0 → report.deadlines = [] ∧
    (settings.probe = true → report.probed = (Scan.targets report.nameservers).map targetPlace)

section Exact

variable {τ : Type} [AddCommGroup τ] [LinearOrder τ] {settings : Settings τ} {started : τ}
  {readings : List τ} {looks : List (Look τ)}

theorem Punctual.stamped {r : Report} {sent : List (Call τ)}
    (h : Punctual settings started readings looks r sent) (millis : Int) :
    Punctual settings started readings looks (r.finalize.observe (.timing millis)) sent := by
  have hskips : (r.finalize.observe (.timing millis)).skips = r.skips := by
    simp [Report.skips, Report.observe, Report.finalize, Observation.step?]
  have hprobed : (r.finalize.observe (.timing millis)).probed = r.probed := by
    simp [Report.probed, Report.entries, Report.observe, Report.finalize, Observation.entries]
  refine ⟨h.shown, h.once, h.told, h.silent, h.early, h.asked, ?_, ?_, ?_, h.inspected, ?_⟩
  · rw [hprobed]
    exact h.probed
  · rw [hprobed]
    exact h.front
  · rw [hskips, hprobed]
    exact h.unprobed
  · rw [hprobed]
    exact h.unlimited

variable [Instant τ]

theorem Scan.abandon_punctual (zone : String) (e : Failure) (session : Session τ) :
    Punctual settings started readings []
      ((Scan.start settings started).abandon zone e
        ((Scan.start settings started).begin zone session)).report
      session.network.calls where
  shown := .inl List.nil_prefix
  once := Nat.zero_le 1
  told := by simp [abandon, begin, Progress.add, Progress.note, Report.start, Report.add, Report.deadlines,
      noNameservers]
  silent _ l hl := nomatch hl
  early l hl := nomatch hl
  asked := by cases settings.enrich <;> rfl
  probed := rfl
  front := List.nil_prefix
  unprobed _ := rfl
  inspected h := absurd rfl h
  unlimited _ := ⟨rfl, fun _ => rfl⟩

omit [AddCommGroup τ] in
theorem Scan.Kept.told_iff {s : Scan τ} {p : Progress τ} (hk : s.Kept readings looks p) :
    p.report.deadlines ≠ [] ↔ ∃ l ∈ looks, l.begun = false := by
  rw [← List.length_pos_iff, hk.once, hk.told]
  cases hf : looks.find? (fun l => !l.begun) with
  | none =>
    rw [List.find?_eq_none] at hf
    have hn : ¬ ∃ l ∈ looks, l.begun = false := by
      rintro ⟨l, hl, hb⟩
      exact hf l hl (by simp [hb])
    simp [hn]
  | some l =>
    have hb : l.begun = false := by simpa using List.find?_some hf
    simp only [Option.map_some, Option.toList_some, List.length_singleton, Nat.one_pos, true_iff]
    exact ⟨l, List.mem_of_find?_eq_some hf, hb⟩

omit [AddCommGroup τ] in
theorem Scan.Kept.unprobed {s : Scan τ} {p : Progress τ} {given : List Nameserver}
    (hk : s.Kept readings looks p) (hc : s.Covered given looks p.report)
    (h : .enrichment ∈ p.report.skips) : p.report.probed = [] := by
  obtain ⟨before, after, rfl, hfirst, hlast⟩ := hc.staged
  have hlate : ∃ l ∈ before, l.begun = false := by
    rw [hk.told, Option.mem_toList, Option.map_eq_some_iff] at h
    obtain ⟨l, hf, hstep⟩ := h
    have hb : l.begun = false := by simpa using List.find?_some hf
    rcases List.mem_append.mp (List.mem_of_find?_eq_some hf) with hl | hl
    · exact ⟨l, hl, hb⟩
    · rw [hlast l hl] at hstep
      cases hstep
  obtain ⟨l, hl, hb⟩ := hlate
  rw [hc.probed, List.map_eq_nil_iff, List.filter_eq_nil_iff]
  intro l' hl'
  rcases List.mem_append.mp hl' with hm | hm
  · simp [hfirst l' hm]
  · have horder := (List.pairwise_append.mp hk.order).2.2 l hl l' hm
    intro hbegun
    have hbegun : l'.begun = true := by simpa [hlast l' hm] using hbegun
    rw [horder hbegun] at hb
    cases hb

variable [IsOrderedAddMonoid τ] [ExactTime τ]

theorem Scan.timely_start (settings : Settings τ) (started t : τ) :
    (Scan.start settings started).timely t = true ↔
      (0 < settings.deadline → t < started + settings.deadline) := by
  rw [Scan.timely, Scan.start]
  by_cases h : 0 < settings.deadline
  · have hb : Instant.before Instant.zero settings.deadline = true := by
      rw [ExactTime.before_iff, ExactTime.zero_eq]
      exact h
    simp only [hb, if_true, ExactTime.before_iff, ExactTime.add_eq, h, true_implies]
  · have hb : Instant.before Instant.zero settings.deadline = false := by
      rw [before_eq_false, ExactTime.zero_eq]
      exact not_lt.mp h
    simp [hb, h]

theorem Scan.Kept.begun_iff {p : Progress τ} (hk : (Scan.start settings started).Kept readings looks p)
    {l : Look τ} (hl : l ∈ looks) :
    l.begun = true ↔ (0 < settings.deadline → l.reading < started + settings.deadline) := by
  rw [hk.read l hl]
  exact Scan.timely_start settings started l.reading

theorem Scan.Kept.late_iff {p : Progress τ} (hk : (Scan.start settings started).Kept readings looks p)
    {l : Look τ} (hl : l ∈ looks) :
    l.begun = false ↔ 0 < settings.deadline ∧ started + settings.deadline ≤ l.reading := by
  rw [← Bool.not_eq_true, hk.begun_iff hl, Classical.not_imp, not_lt]

theorem Scan.Kept.punctual {p : Progress τ} {given : List Nameserver}
    (hk : (Scan.start settings started).Kept readings looks p)
    (hc : (Scan.start settings started).Covered given looks p.report) :
    Punctual settings started readings looks p.report p.session.network.calls where
  shown := hk.shown.imp_left fun hall => ⟨_, hall⟩
  once := by
    rw [hk.once, hk.told]
    cases looks.find? (fun l => !l.begun) <;> simp
  told := by
    rw [hk.told_iff]
    constructor
    · rintro ⟨l, hl, hb⟩
      obtain ⟨hpos, hle⟩ := (hk.late_iff hl).mp hb
      exact ⟨hpos, l, hl, hle⟩
    · rintro ⟨hpos, l, hl, hle⟩
      exact ⟨l, hl, (hk.late_iff hl).mpr ⟨hpos, hle⟩⟩
  silent hpos l hl hle := (hk.late l hl ((hk.late_iff hl).mpr ⟨hpos, hle⟩)).2
  early l hl := hk.begun_iff hl
  asked := by
    have hnames := congrArg (List.map Prod.fst) hc.obtained
    simp only [List.map_map] at hnames
    change p.report.nameservers.map Nameserver.name = given.map Nameserver.name at hnames
    rw [hc.asked, hnames]
    rfl
  probed := hc.probed
  front := hc.front
  unprobed := hk.unprobed hc
  inspected _ := hc.inspected
  unlimited hle := by
    have hbegun : ∀ l ∈ looks, l.begun = true :=
      fun l hl => (hk.begun_iff hl).mpr fun hpos => absurd hpos (not_lt.mpr hle)
    constructor
    · by_contra hd
      obtain ⟨l, hl, hb⟩ := hk.told_iff.mp hd
      rw [hbegun l hl] at hb
      cases hb
    · exact fun hprobe => hc.whole hprobe hbegun

theorem Scan.surveyLogged_punctual {zone : String} {session : Session τ} {p : Progress τ}
    (honward : session.network.readings.Pairwise (· ≤ ·))
    (h : (Scan.start settings started).surveyLogged zone session = ((.ok (), p), looks)) :
    Punctual settings started session.network.readings looks p.report p.session.network.calls ∧
      ∀ found w, discover (Scan.start settings started).client settings.resolver
          (Dns.absolute zone) session.network = (.ok found, w) →
        p.report.nameservers.map Nameserver.host = found.map Nameserver.host := by
  have hl := discover_leads (Scan.start settings started).client settings.resolver
    (Dns.absolute zone) session.network
  unfold surveyLogged at h
  cases hd : discover (Scan.start settings started).client settings.resolver (Dns.absolute zone)
      session.network with
  | mk r w =>
    have hresolver : (Scan.start settings started).settings.resolver = settings.resolver := rfl
    rw [hresolver, hd] at h
    cases r with
    | error e =>
      dsimp only at h
      split at h
      · cases h
        refine ⟨abandon_punctual zone e _, ?_⟩
        intro found w' hf
        cases hf
      · cases h
    | ok nameservers =>
      dsimp only at h
      rw [hd] at hl
      have hreadings : w.readings = session.network.readings := hl.readings
      have hbegin := (Scan.start settings started).begin_kept zone { session with network := w }
        (hreadings ▸ honward)
      have hk := examineLogged_kept hbegin (Dns.absolute zone) nameservers
      rw [h, hreadings] at hk
      have hc := examineLogged_covered rfl h
      refine ⟨hk.punctual hc, ?_⟩
      intro found w' hf
      cases hf
      exact hc.obtained

/-- An audit keeps to its deadline: a record of its looks at the clock does not change it, it gives a
report on an orderly network, and its report is that of a punctual run, about the nameservers that
were found. The clock is any that never goes back from one look to the next. -/
theorem auditLogged_punctual (settings : Settings τ) (target : String) (session : Session τ)
    (honward : session.network.readings.Pairwise (· ≤ ·)) :
    (auditLogged settings target session).1 = auditZone settings target session ∧
    (session.network.Orderly → ∃ report, (auditZone settings target session).1 = .ok report) ∧
    ∀ report after looks, auditLogged settings target session = ((.ok report, after), looks) →
      Punctual settings session.network.clock session.network.readings looks report
          after.network.calls ∧
      ∀ found w, discover ⟨settings.timeout, settings.port⟩ settings.resolver
          (Dns.absolute (Zone.normalize target)) session.network = (.ok found, w) →
        report.nameservers.map Nameserver.host = found.map Nameserver.host := by
  refine ⟨auditLogged_fst settings target session, ?_, ?_⟩
  · intro horderly
    obtain ⟨p, hp⟩ := (Scan.start settings session.network.clock).survey_ok
      (Zone.normalize target) horderly
    rw [auditZone_of_survey hp]
    obtain ⟨millis, hm⟩ :=
      ExactTime.millis_ok (Instant.sub p.session.network.clock session.network.clock)
    exact (Scan.stamp_ok_iff _ _).mpr ⟨millis, hm⟩
  · intro report after looks h
    unfold auditLogged at h
    dsimp only at h
    split at h
    next => cases h
    next p ls hl =>
      obtain ⟨hpunctual, hfound⟩ := Scan.surveyLogged_punctual honward hl
      obtain ⟨millis, hm⟩ :=
        ExactTime.millis_ok (Instant.sub p.session.network.clock session.network.clock)
      rw [Scan.finish, hm] at h
      cases h
      exact ⟨hpunctual.stamped millis, hfound⟩

end Exact

/-- One nameserver with two addresses. The messages cost no time. -/
def instantly : Network ℚ :=
  let a : Dns.Name := .single 97
  .start 0 0 [
    .always none "example.com." "NS" (.ok ⟨.noError, [⟨a, 60, [.ns a]⟩]⟩),
    .always none "a." "A" (.ok ⟨.noError, [⟨a, 60, [.a (.ofNat 0xC0000201), .a (.ofNat 0xC6336401)]⟩]⟩)]
    []

/-- Time passes between the messages: the looks show one second, two seconds and seven. -/
def unhurried : Session ℚ := ⟨{ instantly with readings := [1, 2, 7] }, []⟩

/-- Time for the first probe and not for the second. -/
def hasty : Settings ℚ := ⟨defaultResolver, 53, 2, 6, true, true, 3600, "info"⟩

theorem unhurried_orderly : unhurried.network.Orderly := by
  have hrules : ∀ r ∈ instantly.rules, r.Orderly := Network.forall_start (by simp)
  exact Network.orderly_of_replies hrules

theorem auditLogged_punctual_cut :
    unhurried.network.Orderly ∧ unhurried.network.readings.Pairwise (· ≤ ·) ∧ ∃ report after looks,
      auditLogged hasty "example.com" unhurried = ((.ok report, after), looks) ∧
      report.deadlines.length = 1 ∧ report.probed = [("a.", "192.0.2.1")] ∧
      looks.map (fun l => (l.reading, l.begun)) = [(1, true), (2, true), (7, false)] ∧
      Punctual hasty 0 [1, 2, 7] looks report after.network.calls := by
  have honward : unhurried.network.readings.Pairwise (· ≤ ·) := by decide
  obtain ⟨hfst, hok, hall⟩ := auditLogged_punctual hasty "example.com" unhurried honward
  obtain ⟨report, hr⟩ := hok unhurried_orderly
  have hd : (auditZone hasty "example.com" unhurried).1.toOption.map (fun r =>
      (r.deadlines.length, r.probed)) = some (1, [("a.", "192.0.2.1")]) := by decide +kernel
  rw [hr, Except.toOption, Option.map_some, Option.some_inj, Prod.mk.injEq] at hd
  have hl : auditLogged hasty "example.com" unhurried = ((.ok report,
      (auditZone hasty "example.com" unhurried).2), (auditLogged hasty "example.com" unhurried).2) := by
    rw [← hr, ← hfst]
  exact ⟨unhurried_orderly, honward, report, _, _, hl, hd.1, hd.2, by decide +kernel,
    (hall _ _ _ hl).1⟩

end DelegationAudit
