import DelegationAudit.Proofs.Assembly
import Mathlib.Algebra.BigOperators.Group.List.Lemmas
import Mathlib.Algebra.BigOperators.Ring.Finset
import Mathlib.Data.List.Dedup

namespace DelegationAudit

namespace Summary

theorem lookup_increment (key other : String) (counts : Counts) :
    (increment key counts).lookup other =
      if other = key then some ((counts.lookup key).getD 0 + 1) else counts.lookup other := by
  induction counts with
  | nil => by_cases ho : other = key <;> simp [increment, List.lookup_cons, ho, beq_eq_decide]
  | cons c rest ih =>
    obtain ⟨k, n⟩ := c
    rw [increment]
    by_cases hk : k = key
    · subst hk
      by_cases ho : other = k <;> simp [List.lookup_cons, ho, beq_eq_decide]
    · by_cases ho : other = k
      · subst ho
        simp [hk]
      · simp [List.lookup_cons, hk, Ne.symm hk, ho, beq_eq_decide, ih]

theorem lookup_foldl_increment (keys : List String) (other : String) (counts : Counts) :
    (keys.foldl (fun counts key => increment key counts) counts).lookup other =
      if other ∈ keys then some ((counts.lookup other).getD 0 + keys.count other)
      else counts.lookup other := by
  induction keys generalizing counts with
  | nil => simp
  | cons key rest ih =>
    rw [List.foldl_cons, ih, lookup_increment]
    by_cases ho : other = key
    · subst ho
      by_cases hr : other ∈ rest
      · simp [hr, Nat.add_assoc, Nat.add_comm 1]
      · simp [hr, List.count_eq_zero.mpr hr]
    · simp [ho, Ne.symm ho]

theorem keys_increment (key : String) (counts : Counts) :
    (increment key counts).map Prod.fst =
      if key ∈ counts.map Prod.fst then counts.map Prod.fst else counts.map Prod.fst ++ [key] := by
  induction counts with
  | nil => rfl
  | cons c rest ih =>
    obtain ⟨k, n⟩ := c
    rw [increment]
    by_cases hk : k = key
    · simp [hk]
    · have hmem : key ∈ k :: rest.map Prod.fst ↔ key ∈ rest.map Prod.fst := by
        simp [Ne.symm hk]
      simp only [beq_iff_eq, hk, if_false, List.map_cons, ih, hmem]
      split <;> rfl

theorem nodup_keys_increment (key : String) {counts : Counts} (h : (counts.map Prod.fst).Nodup) :
    ((increment key counts).map Prod.fst).Nodup := by
  rw [keys_increment]
  split
  next => exact h
  next hnew => exact List.concat_eq_append ▸ h.concat hnew

def severities (findings : List (List (String × Json))) : List String := findings.map severityOf

/-- A severity that no finding has stands with zero if it has a place from the start. -/
theorem lookup_countAll (findings : List (List (String × Json))) (severity : String) :
    (countAll findings).lookup severity =
      if severity ∈ severities findings then some ((severities findings).count severity)
      else initial.lookup severity := by
  have hzero : (initial.lookup severity).getD 0 = 0 := by
    have hall : ∀ c ∈ initial, c.2 = 0 := by decide
    cases hfound : initial.lookup severity with
    | none => rfl
    | some n => exact hall (severity, n) (mem_of_lookup hfound)
  have hfold : countAll findings =
      (severities findings).foldl (fun counts key => increment key counts) initial := by
    rw [severities, List.foldl_map]
    rfl
  rw [hfold, lookup_foldl_increment, hzero, Nat.zero_add]

theorem nodup_keys_countAll (findings : List (List (String × Json))) :
    ((countAll findings).map Prod.fst).Nodup := by
  have hfrom : ∀ counts : Counts, (counts.map Prod.fst).Nodup → ((findings.foldl (fun counts f =>
      increment (severityOf f) counts) counts).map Prod.fst).Nodup := by
    induction findings with
    | nil => exact fun _ h => h
    | cons f rest ih => exact fun _ h => ih _ (nodup_keys_increment (severityOf f) h)
  exact hfrom initial (by decide)

/-- The counts are set one behind another, over what was there under their keys. -/
theorem find?_foldl_set_counts {counts : Counts} (h : (counts.map Prod.fst).Nodup) (key : String)
    (fields : List (String × Json)) :
    Json.find? key (counts.foldl (fun acc c => Json.set c.1 (.int c.2) acc) fields) =
      ((counts.lookup key).map fun n => Json.int n).or (Json.find? key fields) := by
  induction counts generalizing fields with
  | nil => rfl
  | cons c rest ih =>
    obtain ⟨k, n⟩ := c
    rw [List.map_cons, List.nodup_cons] at h
    obtain ⟨hk, hrest⟩ := h
    rw [List.foldl_cons]
    by_cases hkey : key = k
    · subst hkey
      rw [Json.find?_foldl_set hk, Json.find?_set]
      simp
    · have hb : (key == k) = false := by simpa using hkey
      rw [ih hrest, Json.find?_set_ne hkey, List.lookup_cons, hb]

/-- What stands under a key other than that of the score. -/
theorem find?_summarize (findings : List (List (String × Json))) {key : String} (h : key ≠ "score") :
    Json.find? key (summarize findings) =
      (((countAll findings).lookup key).map fun n => Json.int n).or
        (Json.find? key [("issues", .int findings.length)]) := by
  rw [summarize, Json.find?_set_ne h, find?_foldl_set_counts (nodup_keys_countAll findings),
    total_countAll]

theorem find?_severity (findings : List (List (String × Json))) {severity : String}
    (hmem : severity ∈ severities findings) (h : severity ≠ "score") :
    Json.find? severity (summarize findings) =
      some (.int ((severities findings).count severity)) := by
  rw [find?_summarize findings h, lookup_countAll, if_pos hmem]
  rfl

/-- The total is written over by the count of findings whose severity has its name. -/
theorem find?_total (findings : List (List (String × Json))) :
    Json.find? "issues" (summarize findings) =
      some (.int (if "issues" ∈ severities findings then (severities findings).count "issues"
        else findings.length)) := by
  by_cases hmem : "issues" ∈ severities findings
  · rw [find?_severity findings hmem (by decide), if_pos hmem]
  · have hnone : initial.lookup "issues" = none := by decide
    rw [find?_summarize findings (by decide), lookup_countAll, if_neg hmem, if_neg hmem, hnone]
    rfl

/-- The score of a summary of findings. -/
def scoreOf (findings : List (List (String × Json))) : Nat := score (countAll findings)

theorem find?_score (findings : List (List (String × Json))) :
    Json.find? "score" (summarize findings) = some (.int (scoreOf findings)) :=
  Json.find?_set _ _ _

def amount (key : String) (summary : List (String × Json)) : Int :=
  match Json.find? key summary with
  | some (.int n) => n
  | _ => 0

/-- A summary that adds up: its total is the number of findings, every severity that occurs stands with
the number of findings that have it, and these numbers make up the total. -/
structure AddsUp (findings : List (List (String × Json))) : Prop where
  total : Json.find? "issues" (summarize findings) = some (.int findings.length)
  entry : ∀ severity ∈ severities findings, Json.find? severity (summarize findings) =
    some (.int ((severities findings).count severity))
  sum : ((severities findings).dedup.map fun severity => amount severity (summarize findings)).sum =
    amount "issues" (summarize findings)

theorem sum_entries {findings : List (List (String × Json))}
    (h : ∀ severity ∈ severities findings, Json.find? severity (summarize findings) =
      some (.int ((severities findings).count severity))) :
    ((severities findings).dedup.map fun severity => amount severity (summarize findings)).sum =
      findings.length := by
  have hamount : (severities findings).dedup.map (fun severity => amount severity (summarize findings)) =
      ((severities findings).dedup.map fun severity => (severities findings).count severity).map
        Nat.cast := by
    rw [List.map_map]
    refine List.map_congr_left fun severity hmem => ?_
    rw [amount, h severity (List.mem_dedup.mp hmem)]
    rfl
  rw [hamount, ← Nat.cast_list_sum, List.sum_map_count_dedup_eq_length, severities, List.length_map]

/-- Each severity stands with the number of findings that have it, those that none has with zero if they
have a place from the start. So the summary adds up, unless a severity has the name of the total and not
all findings have it, or one has the name of the score and its findings are not as many as the score. -/
theorem summarize_addsUp_iff (findings : List (List (String × Json))) :
    (∀ severity ∈ severities findings, severity ≠ "score" →
      Json.find? severity (summarize findings) =
        some (.int ((severities findings).count severity))) ∧
    (∀ severity ∈ initial.map Prod.fst, severity ∉ severities findings →
      Json.find? severity (summarize findings) = some (.int 0)) ∧
    Json.find? "issues" (summarize findings) =
      some (.int (if "issues" ∈ severities findings then (severities findings).count "issues"
        else findings.length)) ∧
    Json.find? "score" (summarize findings) = some (.int (scoreOf findings)) ∧
    (AddsUp findings ↔
      ("issues" ∈ severities findings → ∀ severity ∈ severities findings, severity = "issues") ∧
      ("score" ∈ severities findings → scoreOf findings = (severities findings).count "score")) := by
  have hlength : (severities findings).length = findings.length := List.length_map _
  refine ⟨fun severity => find?_severity findings, ?_, find?_total findings, find?_score findings, ?_⟩
  · intro severity hplace hnone
    have hscore : severity ≠ "score" := by
      rintro rfl
      exact absurd hplace (by decide)
    have hzero : ∀ key ∈ initial.map Prod.fst, initial.lookup key = some 0 := by decide
    rw [find?_summarize findings hscore, lookup_countAll, if_neg hnone, hzero severity hplace]
    rfl
  · constructor
    · intro h
      constructor
      · intro hmem severity hseverity
        have htotal := h.total
        rw [find?_total, if_pos hmem, ← hlength] at htotal
        have hall : (severities findings).count "issues" = (severities findings).length := by
          have hint := Json.int.inj (Option.some.inj htotal)
          omega
        exact (List.count_eq_length.mp hall severity hseverity).symm
      · intro hmem
        have hentry := h.entry "score" hmem
        rw [find?_score] at hentry
        have hint := Json.int.inj (Option.some.inj hentry)
        omega
    · rintro ⟨hissues, hscore⟩
      have htotal : Json.find? "issues" (summarize findings) = some (.int findings.length) := by
        rw [find?_total]
        split
        next hmem =>
          have hall : ∀ severity ∈ severities findings, "issues" = severity :=
            fun severity hseverity => (hissues hmem severity hseverity).symm
          rw [List.count_eq_length.mpr hall, hlength]
        next => rfl
      have hentry : ∀ severity ∈ severities findings,
          Json.find? severity (summarize findings) =
            some (.int ((severities findings).count severity)) := by
        intro severity hmem
        by_cases hs : severity = "score"
        · subst hs
          rw [find?_score, hscore hmem]
        · exact find?_severity findings hmem hs
      refine ⟨htotal, hentry, ?_⟩
      rw [sum_entries hentry, amount, htotal]

/-- A finding whose severity has the name of the total, and one of weight. -/
def namesake : List (List (String × Json)) := [[("severity", .str "issues")], [("severity", .str "high")]]

/-- Two findings are summed up as one. -/
theorem summarize_addsUp_iff_namesake :
    Json.find? "issues" (summarize namesake) = some (.int 1) ∧
      Json.find? "high" (summarize namesake) = some (.int 1) ∧ ¬ AddsUp namesake := by
  have hseverities : severities namesake = ["issues", "high"] := by decide +kernel
  obtain ⟨hentry, -, htotal, -, hiff⟩ := summarize_addsUp_iff namesake
  rw [hseverities] at hentry htotal hiff
  refine ⟨htotal, hentry "high" (by decide) (by decide), ?_⟩
  intro h
  exact absurd ((hiff.mp h).1 (by decide) "high" (by decide)) (by decide)

/-- What findings take off the score: twenty-five for each of high severity, ten for each of medium and
five for each of low severity. -/
def burden (findings : List (List (String × Json))) : Nat :=
  25 * (severities findings).count "high" + 10 * (severities findings).count "medium" +
    5 * (severities findings).count "low"

theorem totalPenalty_increment (key : String) (counts : Counts) :
    totalPenalty (increment key counts) = totalPenalty counts + penalty key := by
  induction counts with
  | nil => simp [increment, totalPenalty]
  | cons c rest ih =>
    obtain ⟨k, n⟩ := c
    rw [increment]
    split
    next hk =>
      rw [beq_iff_eq.mp hk, totalPenalty, totalPenalty, Nat.mul_add]
      omega
    next =>
      rw [totalPenalty, totalPenalty, ih]
      omega

theorem burden_append (findings more : List (List (String × Json))) :
    burden (findings ++ more) = burden findings + burden more := by
  simp only [burden, severities, List.map_append, List.count_append]
  omega

theorem burden_singleton (f : List (String × Json)) : burden [f] = penalty (severityOf f) := by
  rw [burden, severities, List.map_singleton, penalty]
  by_cases hhigh : severityOf f = "high"
  · simp [hhigh]
  · by_cases hmedium : severityOf f = "medium"
    · simp [hmedium]
    · by_cases hlow : severityOf f = "low"
      · simp [hlow]
      · simp [hhigh, hmedium, hlow]

theorem burden_cons (f : List (String × Json)) (findings : List (List (String × Json))) :
    burden (f :: findings) = penalty (severityOf f) + burden findings := by
  rw [← burden_singleton, ← burden_append]
  rfl

theorem totalPenalty_countAll (findings : List (List (String × Json))) :
    totalPenalty (countAll findings) = burden findings := by
  have hfrom : ∀ counts : Counts, totalPenalty (findings.foldl (fun counts f =>
      increment (severityOf f) counts) counts) = totalPenalty counts + burden findings := by
    induction findings with
    | nil => simp [burden, severities]
    | cons f rest ih =>
      intro counts
      rw [List.foldl_cons, ih, totalPenalty_increment, burden_cons]
      omega
  rw [countAll, hfrom]
  simp [initial, totalPenalty]

theorem burden_perm {findings others : List (List (String × Json))} (h : findings.Perm others) :
    burden findings = burden others := by
  have hs : (severities findings).Perm (severities others) := h.map severityOf
  simp only [burden, hs.count_eq]

theorem burden_eq_zero_iff {findings : List (List (String × Json))} :
    burden findings = 0 ↔ ∀ severity ∈ severities findings, severity ∉ ["high", "medium", "low"] := by
  have hzero : burden findings = 0 ↔ (severities findings).count "high" = 0 ∧
      (severities findings).count "medium" = 0 ∧ (severities findings).count "low" = 0 := by
    rw [burden]
    omega
  rw [hzero, List.count_eq_zero, List.count_eq_zero, List.count_eq_zero]
  simp only [List.mem_cons, List.not_mem_nil, or_false]
  constructor
  · rintro ⟨hhigh, hmedium, hlow⟩ severity hmem (rfl | rfl | rfl)
    exacts [hhigh hmem, hmedium hmem, hlow hmem]
  · intro h
    exact ⟨fun hmem => h _ hmem (.inl rfl), fun hmem => h _ hmem (.inr (.inl rfl)),
      fun hmem => h _ hmem (.inr (.inr rfl))⟩

theorem scoreOf_eq (findings : List (List (String × Json))) :
    scoreOf findings = 100 - burden findings := by
  rw [scoreOf, score, totalPenalty_countAll]

/-- The score of two lists together is what both leave of a hundred, if anything. So it lies between zero
and a hundred, does not depend on the order of the findings, never rises with one more, and is a hundred
just where none is of high, medium or low severity. -/
theorem summarize_score {findings others : List (List (String × Json))} (h : findings.Perm others)
    (more : List (List (String × Json))) (f : List (String × Json)) :
    (∀ all, Json.find? "score" (summarize all) = some (.int (scoreOf all))) ∧
    (scoreOf (findings ++ more) : Int) = max 0 (100 - burden findings - burden more) ∧
    scoreOf findings ≤ 100 ∧
    Json.find? "score" (summarize others) = Json.find? "score" (summarize findings) ∧
    scoreOf (findings ++ f :: more) ≤ scoreOf (findings ++ more) ∧
    (scoreOf findings = 100 ↔
      ∀ severity ∈ severities findings, severity ∉ ["high", "medium", "low"]) := by
  refine ⟨find?_score, ?_, ?_, ?_, ?_, ?_⟩
  · rw [scoreOf_eq, burden_append]
    omega
  · rw [scoreOf_eq]
    omega
  · rw [find?_score, find?_score, scoreOf_eq, scoreOf_eq, burden_perm h]
  · rw [scoreOf_eq, scoreOf_eq, burden_append, burden_append, burden_cons]
    omega
  · rw [← burden_eq_zero_iff, scoreOf_eq]
    omega

/-- A finding of high and one of low severity in other letters, and one of no severity. -/
def unlike : List (List (String × Json)) := [[("severity", .str "HIGH")], [("severity", .str "Low")], []]

/-- In either order they leave seventy. -/
theorem summarize_score_unlike :
    unlike.Perm unlike.reverse ∧ Json.find? "score" (summarize unlike) = some (.int 70) ∧
      Json.find? "score" (summarize unlike.reverse) = some (.int 70) := by
  have hburden : burden unlike = 30 := by decide +kernel
  obtain ⟨hscore, hboth, -, hperm, -⟩ :=
    summarize_score (List.reverse_perm unlike).symm [] []
  have hseventy : scoreOf unlike = 70 := by
    rw [List.append_nil, hburden] at hboth
    simp [burden, severities] at hboth
    omega
  have hfirst : Json.find? "score" (summarize unlike) = some (.int 70) := by
    rw [hscore, hseventy]
    rfl
  exact ⟨(List.reverse_perm unlike).symm, hfirst, hperm.trans hfirst⟩

end Summary

end DelegationAudit
