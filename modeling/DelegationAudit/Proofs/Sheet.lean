import DelegationAudit.Proofs.Printing

namespace DelegationAudit

namespace Finding

def pageLine (f : Finding) : String :=
  "- [" ++ f.severity.text ++ "] " ++ f.issue.text ++ between " " "" f.server ++ between ": " "" f.detail

def adviceLine (f : Finding) : String := "    Recommendation: " ++ f.issue.advice

end Finding

namespace Report

def header (r : Report) : String :=
  "== " ++ r.zone ++ " == (parent " ++ r.parent ++ ", resolver " ++ r.resolver ++ ")"

def verdictLine (r : Report) : String :=
  "Overall: " ++ r.overall.text ++ " | Issues: " ++ Number.natString r.findings.length ++
    " | High: " ++ Number.natString (r.tally .high) ++ " | Medium: " ++ Number.natString (r.tally .medium) ++
    " | Low: " ++ Number.natString (r.tally .low) ++ " | Score: " ++
    Number.natString (100 - (25 * r.tally .high + 10 * r.tally .medium + 5 * r.tally .low))

def findingLines (r : Report) : List String :=
  if r.findings = [] then ["No findings."] else r.findings.flatMap fun f => [f.pageLine, f.adviceLine]

/-- The lines that a page of this report is made of. -/
def sheet (r : Report) : List String :=
  ["", r.header] ++ r.nameservers.map Nameserver.pageLine ++ [r.verdictLine] ++ r.findingLines

theorem length_sheet (r : Report) : r.sheet.length =
    3 + r.nameservers.length + if r.findings = [] then 1 else 2 * r.findings.length := by
  have hfindings : r.findingLines.length = if r.findings = [] then 1 else 2 * r.findings.length := by
    rw [findingLines]
    split
    · rfl
    · rw [List.length_flatMap, Nat.mul_comm]
      simp
  simp only [sheet, List.length_append, List.length_map, List.length_cons, List.length_nil, hfindings]
  omega

end Report

namespace Page

theorem before_given (key mark : String) (s : Option String) {fields : List (String × Json)}
    (h : Json.find? key fields = some (.ofOption s)) :
    before mark (given key fields) = Finding.between mark "" s := by
  rw [given, h]
  cases s with
  | none => rfl
  | some s =>
    change before mark (if s.isEmpty then none else some s) = if s.isEmpty then "" else mark ++ s ++ ""
    split
    · rfl
    · simp [before]

theorem intString_natCast (n : Nat) : Number.intString n = Number.natString n := by
  have hnonneg : ¬ ((n : Int) < 0) := by omega
  rw [Number.intString, Number.intText, if_neg hnonneg, Int.natAbs_natCast]
  rfl

theorem fieldOr_count {key : String} {n : Nat} {fields : List (String × Json)}
    (h : Json.find? key fields = some (.int n)) (default : String) :
    fieldOr key default fields = Number.natString n := by
  rw [fieldOr, h]
  exact intString_natCast n

theorem verdict_line (r : Report) : verdict r.toJson r.summary = r.verdictLine := by
  have hsummed := r.summary_summedUp
  have hissues : Json.find? "issues" r.summary = some (.int r.findings.length) := rfl
  have hoverall : fieldOr "overall" "unknown" r.toJson = r.overall.text := rfl
  unfold verdict Report.verdictLine
  rw [hoverall, fieldOr_count hissues, fieldOr_count hsummed.high, fieldOr_count hsummed.medium,
    fieldOr_count hsummed.low, fieldOr_count hsummed.score]

theorem findingLines_advised (check : String) (f : Finding) :
    findingLines (.obj (Response.advised check f)) = .ok [f.pageLine, f.adviceLine] := by
  have hserver : Json.find? "server" (Response.advised check f) = some (.ofOption f.server) := rfl
  have hdetail : Json.find? "detail" (Response.advised check f) = some (.ofOption f.detail) := rfl
  have hline : findingLine (Response.advised check f) = f.pageLine := by
    rw [findingLine, before_given "server" " " f.server hserver, before_given "detail" ": " f.detail hdetail]
    rfl
  have hsome : f.issue.advice.isEmpty = false := by
    cases f.issue with
    | other text => exact (by decide +kernel : noAdvice.isEmpty = false)
    | _ => decide +kernel
  have hadvice : given "recommendation" (Response.advised check f) = some f.issue.advice := by
    change (if f.issue.advice.isEmpty then none else some f.issue.advice) = _
    rw [hsome, if_neg Bool.false_ne_true]
  have hopen : (Json.obj (Response.advised check f)).fields = .ok (Response.advised check f) := rfl
  rw [findingLines, hopen]
  simp only [bind, Except.bind, hadvice, hline]
  rfl

/-- A response that says of a report what there is to say shows the lines of the report. -/
theorem lines_sheet {response : Response} {r : Report} {check : String} (htarget : response.target = r.zone)
    (hfindings : response.findings = r.findings.map (Response.advised check))
    (hsummary : response.summary = r.summary)
    (hreport : Json.find? "delegation" response.checks = some (.obj r.toJson)) :
    lines response.toJson = .ok r.sheet := by
  have htold : ((r.findings.map (Response.advised check)).map Json.obj).mapM findingLines =
      .ok (r.findings.map fun f => [f.pageLine, f.adviceLine]) := by
    rw [mapM_eq_ok_iff, List.map_map, List.map_map, List.map_map]
    exact List.map_congr_left fun f _ => findingLines_advised check f
  have hlines : (if ((r.findings.map (Response.advised check)).map Json.obj).isEmpty then ["No findings."]
      else (r.findings.map fun f => [f.pageLine, f.adviceLine]).flatten) = r.findingLines := by
    rw [Report.findingLines, List.flatMap_def]
    cases r.findings <;> rfl
  have hchecks : Json.find? "checks" response.toJson = some (.obj response.checks) := rfl
  have hcounts : Json.find? "summary" response.toJson = some (.obj response.summary) := rfl
  have hitems : Json.find? "findings" response.toJson = some (.arr (response.findings.map .obj)) := rfl
  have hnameservers : Json.find? "nameservers" r.toJson =
      some (.arr (r.nameservers.map Nameserver.toJson)) := rfl
  have hname : fieldOr "target" "" response.toJson = r.zone := htarget
  have hheader : header r.zone r.toJson = r.header := rfl
  rw [lines]
  simp only [bind, Except.bind, hchecks, hcounts, hitems, hnameservers, hreport, Json.fieldsOf_obj,
    Json.itemsOf_arr, mapM_nameserverLine, hfindings, htold, hname, hheader, hsummary, verdict_line, hlines]
  rfl

end Page

namespace Response

variable {τ : Type} [Instant τ]

theorem build_sheet {r : Report} (h : r.Made τ) (about : Json) :
    ∃ response, build r.zone [("delegation", .report r)] about = .ok response ∧
      Page.text response.toJson = .ok (String.join (r.sheet.map (· ++ "\n"))) := by
  have hmade : ∀ c ∈ [("delegation", r)], c.2.Made τ := by simpa using h
  have hopen : ∀ c ∈ [("delegation", r)], "_sa".isPrefixOf c.1 = false := by simp [String.isPrefixOf]
  have hchecks := clean_checks hmade hopen
  have hentries := clean_entries hmade
  have hadvised := entries_eq_advised hmade
  simp only [entries, List.map_cons, List.map_nil, List.flatMap_singleton] at hchecks hentries hadvised
  refine ⟨_, build_report r.zone "delegation" r about, ?_⟩
  rw [Page.text, Page.lines_sheet rfl (hentries.trans hadvised)
    (Report.summarize_entries "delegation" h.graded) (congrArg (Json.find? "delegation") hchecks)]
  rfl

end Response

end DelegationAudit
