import DelegationAudit.Proofs.ExactTime
import DelegationAudit.Proofs.Findings

namespace DelegationAudit

/-- A look at the clock: what was to be done, the time it showed, the messages sent by then, and
whether the step was begun. -/
structure Look (τ : Type) where
  step : Step
  host : String
  address : Option Net.Address
  reading : τ
  sent : List (Call τ)
  begun : Bool

variable {τ : Type} [Instant τ]

namespace Scan

variable (s : Scan τ)

def look (step : Step) (host : String) (address : Option Net.Address) (p : Progress τ) : Look τ :=
  ⟨step, host, address, p.reading, p.session.network.calls, s.inTime p⟩

def enrichOneLogged (ns : Nameserver) (p : Progress τ) :
    (Except Failure Nameserver × Progress τ) × Look τ :=
  (s.enrichOne ns p, s.look .enrichment ns.name none p)

def enrichLogged : List Nameserver → Progress τ →
    (Except Failure (List Nameserver) × Progress τ) × List (Look τ)
  | [], p => ((.ok [], p), [])
  | ns :: rest, p =>
    match s.enrichOneLogged ns p with
    | ((.error e, p'), look) => ((.error e, p'), [look])
    | ((.ok ns', p'), look) =>
      match enrichLogged rest p' with
      | ((.error e, p''), looks) => ((.error e, p''), look :: looks)
      | ((.ok more, p''), looks) => ((.ok (ns' :: more), p''), look :: looks)

def probeLogged (name : String) (delegated : List String) :
    List (String × Net.Address) → Harvest → Progress τ →
      (Except Failure Harvest × Progress τ) × List (Look τ)
  | [], h, p => ((.ok h, p), [])
  | (host, a) :: rest, h, p =>
    if s.inTime p then
      match s.probeOne name delegated host a h p.looked with
      | (.error e, p') => ((.error e, p'), [s.look .probes host a p])
      | (.ok h', p') =>
        let r := probeLogged name delegated rest h' p'
        (r.1, s.look .probes host a p :: r.2)
    else ((.ok h, s.skip .probes p.looked), [s.look .probes host a p])

/-- The record of the looks changes nothing. -/
theorem enrichOneLogged_fst (ns : Nameserver) (p : Progress τ) :
    (s.enrichOneLogged ns p).1 = s.enrichOne ns p := rfl

theorem enrichLogged_fst (nameservers : List Nameserver) (p : Progress τ) :
    (s.enrichLogged nameservers p).1 = s.enrichAll nameservers p := by
  induction nameservers generalizing p with
  | nil => rfl
  | cons ns rest ih =>
    rw [enrichLogged, enrichAll]
    rw [← s.enrichOneLogged_fst ns p]
    obtain ⟨⟨r, q⟩, look⟩ := s.enrichOneLogged ns p
    cases r with
    | error e => rfl
    | ok ns' =>
      dsimp only
      rw [← ih q]
      obtain ⟨⟨r, t⟩, looks⟩ := s.enrichLogged rest q
      cases r <;> rfl

theorem probeLogged_fst (name : String) (delegated : List String)
    (targets : List (String × Net.Address)) (h : Harvest) (p : Progress τ) :
    (s.probeLogged name delegated targets h p).1 = s.probeAll name delegated targets h p := by
  induction targets generalizing h p with
  | nil => rfl
  | cons target rest ih =>
    obtain ⟨host, a⟩ := target
    rw [probeLogged, probeAll]
    split
    · cases s.probeOne name delegated host a h p.looked with
      | mk r q =>
        cases r with
        | error e => rfl
        | ok h' => exact ih h' q
    · rfl

def enrichedLogged (nameservers : List Nameserver) (p : Progress τ) :
    (Except Failure (List Nameserver) × Progress τ) × List (Look τ) :=
  if s.settings.enrich then s.enrichLogged nameservers p else ((.ok nameservers, p), [])

def probesLogged (name : String) (p : Progress τ) :
    (Except Failure Unit × Progress τ) × List (Look τ) :=
  match s.probeLogged name (delegation p.report.nameservers) (targets p.report.nameservers)
      ⟨[], []⟩ p with
  | ((.error e, p'), looks) => ((.error e, p'), looks)
  | ((.ok h, p'), looks) =>
    ((.ok (), (p'.observe (.probes h.probes)).observe
      (.servedNames ((Dns.targetsOf h.served).map lowerText))), looks)

def examineLogged (name : String) (nameservers : List Nameserver) (p : Progress τ) :
    (Except Failure Unit × Progress τ) × List (Look τ) :=
  match s.enrichedLogged nameservers p with
  | ((.error e, p'), looks) => ((.error e, p'), looks)
  | ((.ok enriched, p'), looks) =>
    if s.settings.probe then
      let r := s.probesLogged name (inspect enriched p')
      (r.1, looks ++ r.2)
    else ((.ok (), inspect enriched p'), looks)

def surveyLogged (zone : String) (session : Session τ) :
    (Except Failure Unit × Progress τ) × List (Look τ) :=
  match discover s.client s.settings.resolver (Dns.absolute zone) session.network with
  | (.error e, w) =>
    let p := s.begin zone { session with network := w }
    if isNoNameservers e then ((.ok (), s.abandon zone e p), []) else ((.error e, p), [])
  | (.ok nameservers, w) =>
    s.examineLogged (Dns.absolute zone) nameservers (s.begin zone { session with network := w })

theorem enrichedLogged_fst (nameservers : List Nameserver) (p : Progress τ) :
    (s.enrichedLogged nameservers p).1 = s.enrich nameservers p := by
  rw [enrichedLogged, enrich]
  split
  · exact s.enrichLogged_fst nameservers p
  · rfl

theorem probesLogged_fst (name : String) (p : Progress τ) :
    (s.probesLogged name p).1 = s.probe name p := by
  rw [probesLogged, probe]
  rw [← probeLogged_fst]
  obtain ⟨⟨r, q⟩, looks⟩ := s.probeLogged name (delegation p.report.nameservers)
    (targets p.report.nameservers) ⟨[], []⟩ p
  cases r <;> rfl

theorem examineLogged_fst (name : String) (nameservers : List Nameserver) (p : Progress τ) :
    (s.examineLogged name nameservers p).1 = s.examine name nameservers p := by
  unfold examineLogged examine
  rw [← enrichedLogged_fst]
  obtain ⟨⟨r, q⟩, looks⟩ := s.enrichedLogged nameservers p
  cases r with
  | error e => rfl
  | ok enriched =>
    dsimp only
    split
    · exact s.probesLogged_fst name _
    · rfl

theorem surveyLogged_fst (zone : String) (session : Session τ) :
    (s.surveyLogged zone session).1 = s.survey zone session := by
  unfold surveyLogged survey
  obtain ⟨r, w⟩ := discover s.client s.settings.resolver (Dns.absolute zone) session.network
  cases r with
  | error e =>
    dsimp only
    cases isNoNameservers e <;> rfl
  | ok nameservers => exact s.examineLogged_fst (Dns.absolute zone) nameservers _

/-- Whether a moment comes before the deadline. -/
def timely (t : τ) : Bool :=
  match s.expires with
  | none => true
  | some e => Instant.before t e

theorem inTime_eq (p : Progress τ) : s.inTime p = s.timely p.reading := rfl

end Scan

def auditLogged (settings : Settings τ) (target : String) (session : Session τ) :
    (Except Failure Report × Session τ) × List (Look τ) :=
  let started := session.network.clock
  match (Scan.start settings started).surveyLogged (Zone.normalize target) session with
  | ((.error e, p), looks) => ((.error e, p.session), looks)
  | ((.ok (), p), looks) => (Scan.finish started p, looks)

theorem auditLogged_fst (settings : Settings τ) (target : String) (session : Session τ) :
    (auditLogged settings target session).1 = auditZone settings target session := by
  unfold auditLogged auditZone
  dsimp only
  rw [← Scan.surveyLogged_fst]
  obtain ⟨⟨r, p⟩, looks⟩ := (Scan.start settings session.network.clock).surveyLogged
    (Zone.normalize target) session
  cases r <;> rfl

def Observation.step? : Observation → Option Step
  | .skipped step => some step
  | _ => none

def Report.skips (r : Report) : List Step := r.observations.filterMap Observation.step?

def Report.deadlines (r : Report) : List Finding := r.findings.filter (fun f => f.issue == .deadline)

theorem Report.wasSkipped_eq (r : Report) : r.wasSkipped = !r.skips.isEmpty := by
  rw [wasSkipped, skips]
  induction r.observations with
  | nil => rfl
  | cons o rest ih => cases o <;> simp [List.filterMap_cons, Observation.step?, ih]

theorem Report.deadlines_addAll (r : Report) {fs : List Finding} (h : ∀ f ∈ fs, f.issue ≠ .deadline) :
    (r.addAll fs).deadlines = r.deadlines := by
  have hn : fs.filter (fun f => f.issue == .deadline) = [] := by
    rw [List.filter_eq_nil_iff]
    intro f hf
    simpa using h f hf
  simp [deadlines, hn]

namespace Scan

variable (s : Scan τ)

theorem skip_of_skipped {step : Step} {p : Progress τ} (h : p.report.skips ≠ []) :
    s.skip step p = p := by
  have hw : p.report.wasSkipped = true := by simpa [Report.wasSkipped_eq] using h
  rw [skip, if_pos hw]

theorem skip_first (step : Step) {p : Progress τ} (h : p.report.skips = []) :
    (s.skip step p).report.skips = [step] ∧
      (s.skip step p).report.deadlines.length = p.report.deadlines.length + 1 := by
  have hw : p.report.wasSkipped = false := by simp [Report.wasSkipped_eq, h]
  have ho : (s.skip step p).report.observations = p.report.observations ++ [.skipped step] := by
    rw [skip, hw]
    rfl
  have hf : (s.skip step p).report.findings =
      p.report.findings ++ [s.deadlineFinding p.report.zone step] := by
    rw [skip, hw]
    rfl
  constructor
  · have hs : p.report.skips ++ [step] = [step] := by rw [h]; rfl
    rw [← hs, Report.skips, ho, List.filterMap_append]
    rfl
  · simp [Report.deadlines, hf, deadlineFinding]

theorem skip_keeps (step : Step) (p : Progress τ) :
    (s.skip step p).readings = p.readings ∧ s.inTime (s.skip step p) = s.inTime p ∧
      (s.skip step p).session.network.calls = p.session.network.calls := by
  rw [skip]
  split <;> exact ⟨rfl, rfl, rfl⟩

omit [Instant τ] in
theorem record_readings (v : Verdict) (p : Progress τ) : (record v p).readings = p.readings := by
  cases hn : v.note <;> cases hf : v.finding <;> simp [record, hn, hf, Progress.note, Progress.add]

theorem check_readings (name : String) (type : Dns.RecordType) (host address : String)
    (p : Progress τ) : (s.check name type host address p).2.readings = p.readings := by
  rw [check]
  split
  · rfl
  · exact record_readings _ _

theorem probeOne_readings (name : String) (delegated : List String) (host : String)
    (a : Net.Address) (h : Harvest) (p : Progress τ) :
    (s.probeOne name delegated host a h p).2.readings = p.readings := by
  have hsoa := s.check_readings name .soa host a.text p
  rw [probeOne]
  split
  next e q he => rwa [he] at hsoa
  next soa soaFailed q he =>
    rw [he] at hsoa
    have hns := s.check_readings name .ns host a.text q
    split
    next e r hr => rw [hr] at hns; exact hns.trans hsoa
    next served nsFailed r hr =>
      rw [hr] at hns
      dsimp only
      split <;> exact hns.trans hsoa

end Scan

section Exact

variable {τ : Type} [AddCommGroup τ] [LinearOrder τ] [IsOrderedAddMonoid τ] [Instant τ] [ExactTime τ]

namespace Progress

omit [AddCommGroup τ] [IsOrderedAddMonoid τ] [Instant τ] [ExactTime τ]

/-- A clock that never goes back shows no less at the next look. -/
theorem reading_le_looked {p : Progress τ} (h : p.readings.Pairwise (· ≤ ·)) :
    p.reading ≤ p.looked.reading := by
  obtain ⟨report, session, readings⟩ := p
  match readings with
  | [] => exact le_rfl
  | [t] => exact le_rfl
  | t :: next :: rest => exact List.rel_of_pairwise_cons h List.mem_cons_self

theorem looked_onward {p : Progress τ} (h : p.readings.Pairwise (· ≤ ·)) :
    p.looked.readings.Pairwise (· ≤ ·) := by
  obtain ⟨report, session, readings⟩ := p
  match readings with
  | [] => exact h
  | [t] => exact h
  | t :: next :: rest => exact h.of_cons

omit [LinearOrder τ] in
/-- The looks show the readings in their order; those that are left come next, or none is. -/
theorem shown_looked {p : Progress τ} {given : List τ} {looks : List (Look τ)} {l : Look τ}
    (hl : l.reading = p.reading)
    (h : looks.map Look.reading ++ p.readings = given ∨ given <+: looks.map Look.reading) :
    (looks ++ [l]).map Look.reading ++ p.looked.readings = given ∨
      given <+: (looks ++ [l]).map Look.reading := by
  rw [List.map_append, List.map_singleton, hl]
  rcases h with rfl | h
  · obtain ⟨report, session, readings⟩ := p
    match readings with
    | [] => exact .inr (List.append_nil _ ▸ List.prefix_append _ _)
    | [t] => exact .inr (List.prefix_refl _)
    | t :: next :: rest => exact .inl (List.append_assoc _ _ _)
  · exact .inr (h.trans (List.prefix_append _ _))

end Progress

namespace Scan

variable {s : Scan τ}

/-- Too late stays too late. -/
theorem inTime_looked {p : Progress τ} (honward : p.readings.Pairwise (· ≤ ·))
    (h : s.inTime p = false) : s.inTime p.looked = false := by
  rw [inTime] at h ⊢
  cases he : s.expires with
  | none =>
    rw [he] at h
    cases h
  | some t =>
    rw [he] at h
    exact (before_eq_false _ _).mpr
      (((before_eq_false _ _).mp h).trans (Progress.reading_le_looked honward))

variable (s)

/-- What holds between the readings that were given, the looks taken so far and the progress: the looks
show the readings in turn; the report names the step of the first late look, in one finding; and since
a late look the deadline has been past and nothing was sent. -/
structure Kept (given : List τ) (looks : List (Look τ)) (p : Progress τ) : Prop where
  told : p.report.skips = ((looks.find? (fun l => !l.begun)).map Look.step).toList
  once : p.report.deadlines.length = p.report.skips.length
  late : ∀ l ∈ looks, l.begun = false →
    s.inTime p = false ∧ l.sent = p.session.network.calls
  read : ∀ l ∈ looks, l.begun = s.timely l.reading
  order : looks.Pairwise fun l l' => l'.begun = true → l.begun = true
  onward : p.readings.Pairwise (· ≤ ·)
  shown : looks.map Look.reading ++ p.readings = given ∨ given <+: looks.map Look.reading

variable {s} {given : List τ}

omit [AddCommGroup τ] [IsOrderedAddMonoid τ] [ExactTime τ] in
/-- Nothing is said about the deadline, and network and clock stand still. -/
theorem Kept.local {looks : List (Look τ)} {p q : Progress τ} (h : s.Kept given looks p)
    (hs : q.report.skips = p.report.skips) (hd : q.report.deadlines = p.report.deadlines)
    (hn : q.session.network = p.session.network) (hr : q.readings = p.readings) :
    s.Kept given looks q where
  told := hs.trans h.told
  once := by rw [hd, hs, h.once]
  late l hl hb := by
    rw [inTime_eq, Progress.reading, hn, hr]
    exact h.late l hl hb
  read := h.read
  order := h.order
  onward := by rw [hr]; exact h.onward
  shown := by rw [hr]; exact h.shown

omit [AddCommGroup τ] [IsOrderedAddMonoid τ] [ExactTime τ] in
theorem Kept.read_look {looks : List (Look τ)} {p : Progress τ} (h : s.Kept given looks p) (step : Step)
    (host : String) (address : Option Net.Address) :
    ∀ l ∈ looks ++ [s.look step host address p], l.begun = s.timely l.reading := by
  intro l hl
  rcases List.mem_append.mp hl with hl | hl
  · exact h.read l hl
  · rw [List.mem_singleton.mp hl]
    rfl

omit [AddCommGroup τ] [IsOrderedAddMonoid τ] [ExactTime τ] in
theorem Kept.shows {looks : List (Look τ)} {p q : Progress τ} (h : s.Kept given looks p)
    (hr : q.readings = p.looked.readings) (step : Step) (host : String)
    (address : Option Net.Address) :
    q.readings.Pairwise (· ≤ ·) ∧
      ((looks ++ [s.look step host address p]).map Look.reading ++ q.readings = given ∨
        given <+: (looks ++ [s.look step host address p]).map Look.reading) := by
  rw [hr]
  exact ⟨Progress.looked_onward h.onward, Progress.shown_looked rfl h.shown⟩

omit [AddCommGroup τ] [IsOrderedAddMonoid τ] [ExactTime τ] in
/-- A step that was begun in time: no look was late so far, so whatever is sent comes after none. -/
theorem Kept.begun {looks : List (Look τ)} {p q : Progress τ} (h : s.Kept given looks p)
    (ht : s.inTime p = true) (hs : q.report.skips = p.report.skips)
    (hd : q.report.deadlines = p.report.deadlines) (hr : q.readings = p.looked.readings) (step : Step)
    (host : String) (address : Option Net.Address) :
    s.Kept given (looks ++ [s.look step host address p]) q := by
  have early : ∀ l ∈ looks, l.begun = true := by
    intro l hl
    cases hb : l.begun with
    | true => rfl
    | false =>
      have hlate := (h.late l hl hb).1
      rw [ht] at hlate
      cases hlate
  have none : looks.find? (fun l => !l.begun) = .none := by
    rw [List.find?_eq_none]
    intro l hl
    simp [early l hl]
  have hnow : (s.look step host address p).begun = true := ht
  have hfind : (looks ++ [s.look step host address p]).find? (fun l => !l.begun) = .none := by
    rw [List.find?_append, none]
    simp [hnow]
  obtain ⟨honward, hshown⟩ := h.shows hr step host address
  refine ⟨?_, by rw [hd, hs, h.once], ?_, h.read_look step host address, ?_, honward, hshown⟩
  · rw [hs, h.told, none, hfind]
  · intro l hl hb
    rcases List.mem_append.mp hl with hl | hl
    · rw [early l hl] at hb
      cases hb
    · rw [List.mem_singleton.mp hl, hnow] at hb
      cases hb
  · refine List.pairwise_append.mpr ⟨h.order, List.pairwise_singleton _ _, ?_⟩
    intro l hl _ _ _
    exact early l hl

/-- A step that it was too late for. The clock never goes back, so it is too late for all that follow. -/
theorem Kept.passed {looks : List (Look τ)} {p : Progress τ} (h : s.Kept given looks p)
    (ht : s.inTime p = false) (step : Step) (host : String) (address : Option Net.Address) :
    s.Kept given (looks ++ [s.look step host address p]) (s.skip step p.looked) := by
  obtain ⟨hreadings, htime, hcalls⟩ := s.skip_keeps step p.looked
  have hpast : s.inTime (s.skip step p.looked) = false := htime.trans (inTime_looked h.onward ht)
  have hnow : (s.look step host address p).begun = false := ht
  have hlast : ∀ l ∈ looks ++ [s.look step host address p], l.begun = false →
      s.inTime (s.skip step p.looked) = false ∧
        l.sent = (s.skip step p.looked).session.network.calls := by
    intro l hl hb
    refine ⟨hpast, ?_⟩
    rw [hcalls]
    rcases List.mem_append.mp hl with hl | hl
    · exact (h.late l hl hb).2
    · rw [List.mem_singleton.mp hl]
      rfl
  have horder : (looks ++ [s.look step host address p]).Pairwise
      fun l l' => l'.begun = true → l.begun = true := by
    refine List.pairwise_append.mpr ⟨h.order, List.pairwise_singleton _ _, ?_⟩
    intro l _ l' hl' hb
    rw [List.mem_singleton.mp hl', hnow] at hb
    cases hb
  obtain ⟨honward, hshown⟩ := h.shows hreadings step host address
  have hread := h.read_look step host address
  have htold := h.told
  by_cases hs : p.report.skips = []
  · obtain ⟨hskips, hcount⟩ := s.skip_first step (p := p.looked) hs
    have none : looks.find? (fun l => !l.begun) = .none := by
      rw [hs] at htold
      cases hf : looks.find? (fun l => !l.begun) with
      | none => rfl
      | some l => rw [hf] at htold; cases htold
    refine ⟨?_, ?_, hlast, hread, horder, honward, hshown⟩
    · rw [hskips, List.find?_append, none]
      simp [ht, look]
    · rw [hcount, hskips, p.looked_report, h.once, hs]
      rfl
  · rw [s.skip_of_skipped (p := p.looked) hs] at hlast honward hshown ⊢
    refine ⟨?_, h.once, hlast, hread, horder, honward, hshown⟩
    cases hf : looks.find? (fun l => !l.begun) with
    | none => rw [hf] at htold; exact absurd htold hs
    | some l => rw [List.find?_append, hf, p.looked_report, htold, hf]; rfl

theorem enrichOneLogged_kept {looks : List (Look τ)} {p : Progress τ} (h : s.Kept given looks p)
    (ns : Nameserver) :
    s.Kept given (looks ++ [(s.enrichOneLogged ns p).2]) (s.enrichOneLogged ns p).1.2 := by
  rw [enrichOneLogged, enrichOne]
  split
  next ht =>
    dsimp only
    split
    · refine h.begun ht ?_ ?_ ?_ .enrichment ns.name none <;> rfl
    · refine h.begun ht ?_ ?_ ?_ .enrichment ns.name none <;> rfl
  next ht => exact h.passed (by simpa using ht) .enrichment ns.name none

theorem enrichLogged_kept {looks : List (Look τ)} {p : Progress τ} (h : s.Kept given looks p)
    (nameservers : List Nameserver) :
    s.Kept given (looks ++ (s.enrichLogged nameservers p).2) (s.enrichLogged nameservers p).1.2 := by
  induction nameservers generalizing looks p with
  | nil => simpa [enrichLogged] using h
  | cons ns rest ih =>
    have ho := enrichOneLogged_kept h ns
    rw [enrichLogged]
    split
    next e q look he =>
      rw [he] at ho
      exact ho
    next ns' q look he =>
      rw [he] at ho
      have hr := ih ho
      rw [List.append_assoc] at hr
      split
      next e r ls hr' => rw [hr'] at hr; exact hr
      next more r ls hr' => rw [hr'] at hr; exact hr

omit [AddCommGroup τ] [LinearOrder τ] [IsOrderedAddMonoid τ] [Instant τ] [ExactTime τ] in
theorem Finding.About.issue_ne {host address : String} {f : Finding} (h : f.About host address) :
    f.issue ≠ .deadline := by
  rcases h.issue with hi | hi <;> simp [hi]

theorem probeLogged_kept {looks : List (Look τ)} {p : Progress τ} (h : s.Kept given looks p)
    (name : String) (delegated : List String) (targets : List (String × Net.Address))
    (harvest : Harvest) :
    s.Kept given (looks ++ (s.probeLogged name delegated targets harvest p).2)
      (s.probeLogged name delegated targets harvest p).1.2 := by
  induction targets generalizing looks p harvest with
  | nil => simpa [probeLogged] using h
  | cons target rest ih =>
    obtain ⟨host, a⟩ := target
    rw [probeLogged]
    split
    next ht =>
      obtain ⟨fs, hf, habout⟩ := s.probeOne_adds name delegated host a harvest p.looked
      have hd : (s.probeOne name delegated host a harvest p.looked).2.report.deadlines =
          p.report.deadlines := by
        rw [hf, Report.deadlines_addAll _ fun f hm => Finding.About.issue_ne (habout f hm),
          p.looked_report]
      have hs : (s.probeOne name delegated host a harvest p.looked).2.report.skips = p.report.skips := by
        rw [hf]
        rfl
      have hr := s.probeOne_readings name delegated host a harvest p.looked
      have hb := h.begun ht hs hd hr .probes host a
      split
      next e q he => rw [he] at hb; exact hb
      next h' q he =>
        rw [he] at hb
        have hr := ih hb h'
        rw [List.append_assoc] at hr
        exact hr
    next ht => exact h.passed (by simpa using ht) .probes host a

end Scan

end Exact

namespace Scan

variable {s : Scan τ}

theorem enrichLogged_hosts (nameservers : List Nameserver) (p : Progress τ) :
    (∀ l ∈ (s.enrichLogged nameservers p).2, l.step = .enrichment) ∧
      ∀ found, (s.enrichLogged nameservers p).1.1 = .ok found →
        (s.enrichLogged nameservers p).2.map Look.host = nameservers.map Nameserver.name := by
  induction nameservers generalizing p with
  | nil => simp [enrichLogged]
  | cons ns rest ih =>
    have hl : (s.enrichOneLogged ns p).2.step = .enrichment ∧
        (s.enrichOneLogged ns p).2.host = ns.name := ⟨rfl, rfl⟩
    rw [enrichLogged]
    split
    next e q look he =>
      rw [he] at hl
      dsimp only at hl
      simp [hl.1]
    next ns' q look he =>
      rw [he] at hl
      dsimp only at hl
      obtain ⟨hsteps, hhosts⟩ := ih q
      split
      next e r ls hr =>
        rw [hr] at hsteps
        dsimp only at hsteps
        exact ⟨by simpa [hl.1] using hsteps, by simp⟩
      next more r ls hr =>
        rw [hr] at hsteps hhosts
        dsimp only at hsteps hhosts
        refine ⟨by simpa [hl.1] using hsteps, fun _ _ => ?_⟩
        simp only [List.map_cons, hl.2, hhosts more rfl]

end Scan

/-- The place that a probe, a target or a look is about. -/
def Probe.place (p : Probe) : String × String := (p.nameserver, p.address)

def targetPlace (t : String × Net.Address) : String × String := (t.1, t.2.text)

def Look.place (l : Look τ) : String × String := (l.host, (l.address.map Net.Address.text).getD "")

namespace Scan

variable {s : Scan τ}

theorem probeLogged_steps (name : String) (delegated : List String)
    (targets : List (String × Net.Address)) (h : Harvest) (p : Progress τ) :
    ∀ l ∈ (s.probeLogged name delegated targets h p).2, l.step = .probes := by
  induction targets generalizing h p with
  | nil => simp [probeLogged]
  | cons target rest ih =>
    obtain ⟨host, a⟩ := target
    rw [probeLogged]
    split
    next =>
      split
      next e q he => simp [look]
      next h' q he =>
        intro l hl
        rcases List.mem_cons.mp hl with rfl | hl
        · rfl
        · exact ih h' q l hl
    next => simp [look]

/-- Each probe that is begun leaves one entry; they are a front part of the targets, and all of them
when no look is late. -/
theorem probeLogged_places {name : String} {delegated : List String}
    {targets : List (String × Net.Address)} {h h' : Harvest} {p q : Progress τ}
    {looks : List (Look τ)}
    (hp : s.probeLogged name delegated targets h p = ((.ok h', q), looks)) :
    h'.probes.map Probe.place =
        h.probes.map Probe.place ++ (looks.filter Look.begun).map Look.place ∧
      (looks.filter Look.begun).map Look.place <+: targets.map targetPlace ∧
      ((∀ l ∈ looks, l.begun = true) →
        (looks.filter Look.begun).map Look.place = targets.map targetPlace) := by
  induction targets generalizing h p looks with
  | nil => cases hp; simp
  | cons target rest ih =>
    obtain ⟨host, a⟩ := target
    rw [probeLogged] at hp
    split at hp
    next ht =>
      split at hp
      next => cases hp
      next h₁ p₁ he =>
        obtain ⟨entry, hentry, hhost, haddress⟩ := s.probeOne_probes he
        cases hr : s.probeLogged name delegated rest h₁ p₁ with
        | mk r ls =>
          rw [hr] at hp
          cases hp
          obtain ⟨hplaces, hprefix, hall⟩ := ih hr
          have hplace : entry.place = targetPlace (host, a) := by
            rw [Probe.place, hhost, haddress, targetPlace]
          have hbegun : (s.look .probes host a p :: ls).filter Look.begun =
              s.look .probes host a p :: ls.filter Look.begun := List.filter_cons_of_pos ht
          have hlook : (s.look .probes host a p).place = targetPlace (host, a) := rfl
          rw [hbegun, List.map_cons, List.map_cons, hlook]
          refine ⟨?_, List.cons_prefix_cons.mpr ⟨rfl, hprefix⟩, ?_⟩
          · rw [hplaces, hentry]
            simp [hplace]
          · intro hb
            rw [hall fun l hl => hb l (by simp [hl])]
    next ht =>
      have hnone : [s.look .probes host a p].filter Look.begun = [] := List.filter_cons_of_neg ht
      cases hp
      rw [hnone]
      refine ⟨by simp, List.nil_prefix, ?_⟩
      intro hb
      exact absurd (hb _ List.mem_cons_self) ht

end Scan

end DelegationAudit
