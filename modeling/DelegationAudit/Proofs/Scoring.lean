import DelegationAudit.Proofs.AnyOrder
import DelegationAudit.Response.Assembly
import Mathlib.Data.List.Count

namespace DelegationAudit

namespace Summary

theorem increment_of_mem {key : String} {counts : Counts} (hmem : key ∈ counts.map Prod.fst)
    (hnodup : (counts.map Prod.fst).Nodup) :
    increment key counts = counts.map fun c => (c.1, if c.1 = key then c.2 + 1 else c.2) := by
  induction counts with
  | nil => cases hmem
  | cons c rest ih =>
    obtain ⟨k, n⟩ := c
    rw [List.map_cons, List.nodup_cons] at hnodup
    obtain ⟨hk, hrest⟩ := hnodup
    rw [increment, List.map_cons]
    by_cases he : k = key
    · subst he
      have hsame : rest.map (fun c => (c.1, if c.1 = k then c.2 + 1 else c.2)) = rest := by
        rw [List.map_congr_left (g := id), List.map_id]
        intro c hc
        have hne : c.1 ≠ k := fun h => hk (List.mem_map.mpr ⟨c, hc, h⟩)
        simp [hne]
      simp [hsame]
    · have hin : key ∈ rest.map Prod.fst := by
        rw [List.map_cons, List.mem_cons] at hmem
        exact hmem.resolve_left fun h => he h.symm
      simp [he, ih hin hrest]

theorem foldl_increment {keys : List String} {counts : Counts}
    (hmem : ∀ key ∈ keys, key ∈ counts.map Prod.fst) (hnodup : (counts.map Prod.fst).Nodup) :
    keys.foldl (fun counts key => increment key counts) counts =
      counts.map fun c => (c.1, c.2 + keys.count c.1) := by
  induction keys generalizing counts with
  | nil => simp
  | cons key rest ih =>
    have hkeys : (increment key counts).map Prod.fst = counts.map Prod.fst := by
      rw [increment_of_mem (hmem key (by simp)) hnodup, List.map_map]
      rfl
    rw [List.foldl_cons, ih, increment_of_mem (hmem key (by simp)) hnodup, List.map_map]
    · refine List.map_congr_left fun c _ => ?_
      by_cases hc : c.1 = key
      · simp [hc, Nat.add_assoc, Nat.add_comm 1]
      · simp [hc, Ne.symm hc]
    · intro k hk
      rw [hkeys]
      exact hmem k (by simp [hk])
    · rw [hkeys]
      exact hnodup

theorem total_increment (key : String) (counts : Counts) :
    total (increment key counts) = total counts + 1 := by
  induction counts with
  | nil => rfl
  | cons c rest ih =>
    obtain ⟨k, n⟩ := c
    rw [increment]
    split
    · simp only [total]
      omega
    · simp only [total, ih]
      omega

theorem total_countAll (findings : List (List (String × Json))) :
    total (countAll findings) = findings.length := by
  have hfrom : ∀ counts : Counts, total (findings.foldl (fun counts f =>
      increment (severityOf f) counts) counts) = total counts + findings.length := by
    induction findings with
    | nil => simp
    | cons f rest ih =>
      intro counts
      rw [List.foldl_cons, ih, total_increment, List.length_cons]
      omega
  rw [countAll, hfrom]
  simp [initial, total]

/-- The counts of findings whose severities all have a place from the start. -/
theorem countAll_eq {findings : List (List (String × Json))}
    (h : ∀ f ∈ findings, severityOf f ∈ initial.map Prod.fst) :
    countAll findings =
      initial.map fun c => (c.1, c.2 + (findings.map severityOf).count c.1) := by
  have hkeys : ∀ key ∈ findings.map severityOf, key ∈ initial.map Prod.fst := by
    intro key hkey
    obtain ⟨f, hf, rfl⟩ := List.mem_map.mp hkey
    exact h f hf
  rw [← foldl_increment hkeys (by decide), List.foldl_map]
  rfl

end Summary

namespace Json

theorem cleanItems_eq_map (items : List Json) : cleanItems items = items.map clean := by
  induction items with
  | nil => rfl
  | cons j rest ih => rw [cleanItems, ih, List.map_cons]

theorem find?_cleanFields {key : String} (h : "_sa".isPrefixOf key = false)
    (fields : List (String × Json)) : find? key (cleanFields fields) = (find? key fields).map clean := by
  induction fields with
  | nil => rfl
  | cons f rest ih =>
    obtain ⟨k, v⟩ := f
    rw [cleanFields]
    by_cases hk : k = key
    · subst hk
      simp [h, find?]
    · split
      · simpa [find?, hk] using ih
      · simpa [find?, hk] using ih

theorem set_of_not_mem {key : String} (value : Json) {fields : List (String × Json)}
    (h : key ∉ fields.map Prod.fst) : set key value fields = fields ++ [(key, value)] := by
  induction fields with
  | nil => rfl
  | cons f rest ih =>
    obtain ⟨k, v⟩ := f
    rw [List.map_cons, List.mem_cons, not_or] at h
    obtain ⟨hk, hrest⟩ := h
    rw [set, ih hrest]
    simp [Ne.symm hk]

theorem ofFields_eq_self {fields : List (String × Json)} (h : (fields.map Prod.fst).Nodup) :
    ofFields fields = fields := by
  induction fields using List.reverseRecOn with
  | nil => rfl
  | append_singleton rest f ih =>
    rw [List.map_append, List.nodup_append] at h
    obtain ⟨hrest, -, hne⟩ := h
    have hnew : f.1 ∉ rest.map Prod.fst := fun hmem => hne f.1 hmem f.1 (by simp) rfl
    have hlast : ofFields (rest ++ [f]) = set f.1 f.2 (ofFields rest) := by
      rw [ofFields, List.foldl_append]
      rfl
    rw [hlast, ih hrest, set_of_not_mem f.2 hnew]

end Json

namespace Response

/-- A finding of a report as it stands in the response. -/
def entry (check : String) (f : Finding) : List (String × Json) :=
  Json.set "recommendation" (.str (adviceOn f.issue.text)) (tag check (Json.cleanFields f.toJson))

theorem findingsOf_report (r : Report) :
    findingsOf (CheckResult.report r).toJson =
      .ok (r.findings.map fun f => Json.cleanFields f.toJson) := by
  have hfindings : Json.find? "findings" (Json.cleanFields r.toJson) =
      some (.arr (r.findings.map fun f => .obj (Json.cleanFields f.toJson))) := by
    rw [Json.find?_cleanFields (by decide +kernel)]
    simp only [Report.toJson, Json.find?, Json.clean, Json.cleanItems_eq_map, List.map_map,
      Option.map_some, String.reduceBEq, Bool.false_eq_true, if_false, if_true]
    rfl
  rw [CheckResult.toJson, Json.clean, findingsOf, hfindings, Json.itemsOf]
  cases hr : r.findings with
  | nil => rfl
  | cons f rest => simp [Json.isVoid, Json.items, Except.map, List.filterMap_map]

theorem find?_tag {key check : String} (h : key ≠ "check") (finding : List (String × Json)) :
    Json.find? key (tag check finding) = Json.find? key finding := Json.find?_set_ne h _ _

theorem advise_tag (check : String) (f : Finding) :
    advise (tag check (Json.cleanFields f.toJson)) = .ok (entry check f) := by
  have hissue : Json.find? "issue" (tag check (Json.cleanFields f.toJson)) =
      some (.str f.issue.text) := by
    rw [find?_tag (by decide), Json.find?_cleanFields (by decide +kernel)]
    rfl
  rw [advise, adviceFor, hissue]
  rfl

theorem severityOf_entry (check : String) (f : Finding) :
    Summary.severityOf (entry check f) = String.ofList (Text.lower f.severity.text.toList) := by
  have hseverity : Json.find? "severity" (entry check f) = some (.str f.severity.text) := by
    rw [entry, Json.find?_set_ne (by decide), find?_tag (by decide),
      Json.find?_cleanFields (by decide +kernel)]
    rfl
  rw [Summary.severityOf, hseverity]

theorem collect_reports (checks : List (String × Report)) :
    collect (checks.map fun c => (c.1, (CheckResult.report c.2).toJson)) =
      .ok (checks.flatMap fun c => c.2.findings.map fun f => tag c.1 (Json.cleanFields f.toJson)) := by
  induction checks with
  | nil => rfl
  | cons c rest ih =>
    rw [List.map_cons, collect, findingsOf_report, ih]
    simp [bind, Except.bind, pure, Except.pure]

/-- The findings of reports as they stand in the response, those of one check behind those of another. -/
def entries (checks : List (String × Report)) : List (List (String × Json)) :=
  checks.flatMap fun c => c.2.findings.map (entry c.1)

/-- The response to reports is always made, and its summary is one of all findings. -/
theorem build_reports (target : String) {checks : List (String × Report)}
    (h : (checks.map Prod.fst).Nodup) (about : Json) :
    build target (checks.map fun c => (c.1, .report c.2)) about = .ok {
      target := target
      findings := (entries checks).map Json.cleanFields
      summary := Json.cleanFields (summarize (entries checks))
      about := (orEmpty about).clean
      checks := Json.cleanFields (checks.map fun c => (c.1, (CheckResult.report c.2).toJson)) } := by
  have hkeys : ((checks.map fun c => (c.1, (CheckResult.report c.2).toJson)).map Prod.fst).Nodup := by
    rw [List.map_map]
    exact h
  have hresults : results (checks.map fun c => (c.1, .report c.2)) =
      checks.map fun c => (c.1, (CheckResult.report c.2).toJson) := by
    rw [results, List.map_map]
    exact Json.ofFields_eq_self hkeys
  have hadvise : (checks.flatMap fun c => c.2.findings.map fun f =>
      tag c.1 (Json.cleanFields f.toJson)).mapM advise = .ok (entries checks) := by
    simp [mapM_eq_ok_iff, entries, List.map_flatMap, Function.comp_def, advise_tag]
  rw [build, hresults]
  dsimp only [bind, Except.bind]
  rw [collect_reports]
  dsimp only
  rw [hadvise]
  rfl

theorem build_report (target check : String) (r : Report) (about : Json) :
    build target [(check, .report r)] about = .ok {
      target := target
      findings := (r.findings.map (entry check)).map Json.cleanFields
      summary := Json.cleanFields (summarize (r.findings.map (entry check)))
      about := (orEmpty about).clean
      checks := Json.cleanFields [(check, (CheckResult.report r).toJson)] } := by
  have hkey : ([(check, r)].map Prod.fst).Nodup := List.nodup_singleton check
  simpa [entries] using build_reports target hkey about

end Response

def Report.tally (r : Report) (s : Severity) : Nat := (r.findings.map Finding.severity).count s

/-- The summary of a report, from the numbers of findings of each severity. -/
def Report.summary (r : Report) : List (String × Json) := [
  ("issues", .int r.findings.length),
  ("high", .int (r.tally .high)),
  ("medium", .int (r.tally .medium)),
  ("low", .int (r.tally .low)),
  ("info", .int 0),
  ("unknown", .int 0),
  ("score", .int (100 - (25 * r.tally .high + 10 * r.tally .medium + 5 * r.tally .low) : Nat))]

/-- Severities that an audit finds. -/
def Severity.graded : List Severity := [.high, .medium, .low]

namespace Report

variable {r : Report} (check : String) (h : ∀ f ∈ r.findings, f.severity ∈ Severity.graded)

include h

theorem severityOf_mem {entry : List (String × Json)}
    (he : entry ∈ r.findings.map (Response.entry check)) :
    Summary.severityOf entry ∈ Severity.graded.map Severity.text := by
  obtain ⟨f, hf, rfl⟩ := List.mem_map.mp he
  have hgraded := h f hf
  rw [Response.severityOf_entry]
  simp only [Severity.graded, List.mem_cons, List.not_mem_nil, or_false] at hgraded
  rcases hgraded with hs | hs | hs <;> rw [hs] <;> decide

/-- The count under a severity that an audit finds is the number of findings of that severity. -/
theorem count_severityOf {s : Severity} (hs : s ∈ Severity.graded) :
    ((r.findings.map (Response.entry check)).map Summary.severityOf).count s.text = r.tally s := by
  rw [tally, List.map_map, List.count, List.count, List.countP_map, List.countP_map]
  refine List.countP_congr fun f hf => ?_
  have hgraded := h f hf
  simp only [Function.comp_apply, beq_iff_eq, Response.severityOf_entry]
  generalize f.severity = g at hgraded ⊢
  simp only [Severity.graded, List.mem_cons, List.not_mem_nil, or_false] at hgraded hs
  rcases hgraded with rfl | rfl | rfl <;> rcases hs with rfl | rfl | rfl <;> decide

theorem countAll_entries :
    Summary.countAll (r.findings.map (Response.entry check)) =
      Severity.graded.map (fun s => (s.text, r.tally s)) ++ [("info", 0), ("unknown", 0)] := by
  have hnone : ∀ key, key ∉ Severity.graded.map Severity.text →
      ((r.findings.map (Response.entry check)).map Summary.severityOf).count key = 0 := by
    intro key hkey
    rw [List.count_eq_zero]
    intro hmem
    obtain ⟨entry, he, rfl⟩ := List.mem_map.mp hmem
    exact hkey (severityOf_mem check h he)
  have hplace : ∀ key ∈ Severity.graded.map Severity.text, key ∈ Summary.initial.map Prod.fst := by
    decide
  rw [Summary.countAll_eq fun entry he => hplace _ (severityOf_mem check h he)]
  simp only [Summary.initial, Severity.graded, List.map_cons, List.map_nil, List.cons_append,
    List.nil_append, Nat.zero_add, ← count_severityOf check h (s := .high) (by decide),
    ← count_severityOf check h (s := .medium) (by decide),
    ← count_severityOf check h (s := .low) (by decide), hnone "info" (by decide),
    hnone "unknown" (by decide)]
  rfl

theorem summarize_entries :
    Json.cleanFields (summarize (r.findings.map (Response.entry check))) = r.summary := by
  have htotal := Summary.total_countAll (r.findings.map (Response.entry check))
  rw [List.length_map] at htotal
  unfold summarize
  dsimp only
  rw [htotal, countAll_entries check h]
  simp [summary, Severity.graded, Severity.text, Json.set, Summary.score, Summary.totalPenalty,
    Summary.penalty, Json.cleanFields, String.isPrefixOf, Json.clean, Nat.add_assoc]

end Report

end DelegationAudit
