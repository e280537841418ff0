import DelegationAudit.Proofs.Contents

namespace DelegationAudit

namespace Overall

variable {ss : List Severity}

theorem ofSeverities_eq (ss : List Severity) :
    ofSeverities ss = if Severity.high ∈ ss then .broken
      else if Severity.medium ∈ ss ∨ Severity.low ∈ ss then .warning else .ok := by
  simp only [ofSeverities, List.contains_iff_mem, Bool.or_eq_true]

theorem ofSeverities_eq_broken_iff : ofSeverities ss = .broken ↔ Severity.high ∈ ss := by
  rw [ofSeverities_eq]
  split
  next hhigh => simp [hhigh]
  next hhigh => split <;> simp [hhigh]

theorem ofSeverities_eq_warning_iff :
    ofSeverities ss = .warning ↔
      Severity.high ∉ ss ∧ (Severity.medium ∈ ss ∨ Severity.low ∈ ss) := by
  rw [ofSeverities_eq]
  split
  next hhigh => simp [hhigh]
  next hhigh => split <;> simp [*]

theorem ofSeverities_eq_ok_iff :
    ofSeverities ss = .ok ↔ Severity.high ∉ ss ∧ ¬ (Severity.medium ∈ ss ∨ Severity.low ∈ ss) := by
  rw [ofSeverities_eq]
  split
  next hhigh => simp [hhigh]
  next hhigh => split <;> simp [*]

theorem ofSeverities_mem (ss : List Severity) : ofSeverities ss ∈ [ok, warning, broken] := by
  rw [ofSeverities_eq]
  split
  · decide
  · split <;> decide

end Overall

namespace Report

variable {r : Report}

theorem tally_pos_iff {s : Severity} : 0 < r.tally s ↔ s ∈ r.findings.map Finding.severity :=
  List.count_pos_iff

/-- Where all findings weigh, none is found when nothing is counted. -/
theorem findings_eq_nil_iff (h : ∀ f ∈ r.findings, f.severity ∈ Severity.graded) :
    r.findings = [] ↔ r.tally .high = 0 ∧ r.tally .medium = 0 ∧ r.tally .low = 0 := by
  constructor
  · intro hnone
    simp [tally, hnone]
  · rintro ⟨hhigh, hmedium, hlow⟩
    rw [List.eq_nil_iff_forall_not_mem]
    intro f hf
    have hpos : 0 < r.tally f.severity := tally_pos_iff.mpr (List.mem_map_of_mem hf)
    have hgraded := h f hf
    simp only [Severity.graded, List.mem_cons, List.not_mem_nil, or_false] at hgraded
    rcases hgraded with hs | hs | hs <;> rw [hs] at hpos <;> omega

end Report

/-- A summary of a report: the counts of its findings by severity, and a score. -/
structure Report.SummedUp (r : Report) (summary : List (String × Json)) (score : Nat) : Prop where
  high : Json.find? "high" summary = some (.int (r.tally .high))
  medium : Json.find? "medium" summary = some (.int (r.tally .medium))
  low : Json.find? "low" summary = some (.int (r.tally .low))
  info : Json.find? "info" summary = some (.int 0)
  unknown : Json.find? "unknown" summary = some (.int 0)
  score : Json.find? "score" summary = some (.int score)

/-- A verdict on a report, its counts and a score that say the same. -/
structure Report.Weighed (r : Report) (score : Nat) : Prop where
  broken : r.overall = .broken ↔ 1 ≤ r.tally .high
  warning : r.overall = .warning ↔ r.tally .high = 0 ∧ 1 ≤ r.tally .medium + r.tally .low
  ok : r.overall = .ok ↔ r.findings = []
  full : r.findings = [] ↔ score = 100
  decided : r.overall ≠ .unknown
  amount : (score : Int) =
    max 0 ((100 : Int) - 25 * r.tally .high - 10 * r.tally .medium - 5 * r.tally .low)
  ofBroken : r.overall = .broken → score ≤ 75
  ofWarning : r.overall = .warning → score ≤ 95

theorem Report.summary_summedUp (r : Report) :
    r.SummedUp r.summary
      (100 - (25 * r.tally .high + 10 * r.tally .medium + 5 * r.tally .low)) := by
  constructor <;> rfl

theorem Report.weighed_of_graded {r : Report} (h : ∀ f ∈ r.findings, f.severity ∈ Severity.graded)
    (hoverall : r.overall = .ofSeverities (r.findings.map Finding.severity)) :
    r.Weighed (100 - (25 * r.tally .high + 10 * r.tally .medium + 5 * r.tally .low)) := by
  have hnone := findings_eq_nil_iff h
  have hbroken : r.overall = .broken ↔ 1 ≤ r.tally .high := by
    rw [hoverall, Overall.ofSeverities_eq_broken_iff, ← tally_pos_iff]
    exact Iff.rfl
  have hwarning : r.overall = .warning ↔ r.tally .high = 0 ∧ 1 ≤ r.tally .medium + r.tally .low := by
    rw [hoverall, Overall.ofSeverities_eq_warning_iff, ← tally_pos_iff, ← tally_pos_iff,
      ← tally_pos_iff]
    omega
  have hok : r.overall = .ok ↔ r.findings = [] := by
    rw [hnone, hoverall, Overall.ofSeverities_eq_ok_iff, ← tally_pos_iff, ← tally_pos_iff,
      ← tally_pos_iff]
    omega
  have hdecided : r.overall ≠ .unknown := by
    intro hunknown
    have hmem := Overall.ofSeverities_mem (r.findings.map Finding.severity)
    rw [← hoverall, hunknown] at hmem
    exact absurd hmem (by decide)
  refine ⟨hbroken, hwarning, hok, ?_, hdecided, ?_, ?_, ?_⟩
  · rw [hnone]
    omega
  · omega
  · rw [hbroken]
    omega
  · rw [hwarning]
    omega

theorem Report.exists_response {r : Report} (h : ∀ f ∈ r.findings, f.severity ∈ Severity.graded)
    (subject check : String) (about : Json) :
    ∃ response, Response.build subject [(check, .report r)] about = .ok response ∧
      r.SummedUp response.summary
        (100 - (25 * r.tally .high + 10 * r.tally .medium + 5 * r.tally .low)) := by
  refine ⟨_, Response.build_report subject check r about, ?_⟩
  dsimp only
  rw [summarize_entries check h]
  exact r.summary_summedUp

variable {τ : Type} [Instant τ]

/-- The response to a returned report counts its findings, and its verdict and the score agree. -/
theorem auditZone_weighed {settings : Settings τ} {target : String} {session : Session τ} {r : Report}
    (h : (auditZone settings target session).1 = .ok r) (subject check : String) (about : Json) :
    ∃ response score, Response.build subject [(check, .report r)] about = .ok response ∧
      r.SummedUp response.summary score ∧ r.Weighed score := by
  have hreturned : r.Returned τ := ⟨settings, target, session, h⟩
  have hgraded := hreturned.made.graded
  obtain ⟨response, hbuilt, hsummed⟩ := Report.exists_response hgraded subject check about
  exact ⟨response, _, hbuilt, hsummed, Report.weighed_of_graded hgraded hreturned.overall⟩

/-- Asked, the two addresses show more than by themselves. -/
theorem astray_asked :
    ∃ r, (auditZone endless "example.com" ⟨twoAddresses astray, []⟩).1 = .ok r ∧
      r.findings.length = 4 ∧ r.tally .high = 3 ∧ r.tally .medium = 0 ∧ r.tally .low = 1 := by
  have hcounts : (auditZone endless "example.com" ⟨twoAddresses astray, []⟩).1.toOption.map
      (fun r => (r.findings.length, r.tally .high, r.tally .medium, r.tally .low)) =
        some (4, 3, 0, 1) := by decide +kernel
  obtain ⟨r, hr, hr_counts⟩ := exists_of_map_toOption hcounts
  simp only [Prod.mk.injEq] at hr_counts
  exact ⟨r, hr, hr_counts⟩

theorem astray_unasked :
    ∃ r, (auditZone { endless with probe := false } "example.com" ⟨twoAddresses astray, []⟩).1 = .ok r ∧
      r.findings.length = 1 := by
  have hcount : (auditZone { endless with probe := false } "example.com"
      ⟨twoAddresses astray, []⟩).1.toOption.map (fun r => r.findings.length) = some 1 := by
    decide +kernel
  exact exists_of_map_toOption hcount

/-- Three findings of weight and a slight one: a broken zone, and a score of 20. -/
theorem auditZone_weighed_astray :
    ∃ r response, (auditZone endless "example.com" ⟨twoAddresses astray, []⟩).1 = .ok r ∧
      r.tally .high = 3 ∧ r.tally .low = 1 ∧ r.overall = .broken ∧
      Response.build "example.com" [("delegation", .report r)] .null = .ok response ∧
      r.SummedUp response.summary 20 ∧ r.Weighed 20 := by
  obtain ⟨r, hr, -, hhigh, hmedium, hlow⟩ := astray_asked
  obtain ⟨response, score, hbuilt, hsummed, hweighed⟩ :=
    auditZone_weighed hr "example.com" "delegation" .null
  have hscore : score = 20 := by
    have hamount := hweighed.amount
    rw [hhigh, hmedium, hlow] at hamount
    omega
  subst hscore
  exact ⟨r, response, hr, hhigh, hlow, hweighed.broken.mpr (by omega), hbuilt, hsummed, hweighed⟩

end DelegationAudit
