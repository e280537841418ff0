import DelegationAudit.Audit.Report
import DelegationAudit.Json.Shape
import DelegationAudit.Response.Advice
import DelegationAudit.Response.Summary

namespace DelegationAudit

inductive CheckResult
  | report (r : Report)
  | plain (data : Json)

def CheckResult.toJson : CheckResult → Json
  | report r => (Json.obj r.toJson).clean
  | plain data => data.clean

structure Response where
  target : String
  findings : List (List (String × Json))
  summary : List (String × Json)
  about : Json
  checks : List (String × Json)

namespace Response

/-- The findings of one check: what is no object among them is passed over. -/
def findingsOf (result : Json) : Except Failure (List (List (String × Json))) :=
  match result with
  | .obj fields =>
    (Json.itemsOf (Json.find? "findings" fields)).map fun js => js.filterMap fun
      | .obj fs => some fs
      | _ => none
  | _ => .ok []

/-- A finding may name its check itself. -/
def tag (check : String) (finding : List (String × Json)) : List (String × Json) :=
  Json.set "check" ((Json.find? "check" finding).getD (.str check)) finding

def collect : List (String × Json) → Except Failure (List (List (String × Json)))
  | [] => .ok []
  | (name, result) :: rest => do
    let own ← findingsOf result
    let more ← collect rest
    return own.map (tag name) ++ more

def adviceFor (finding : List (String × Json)) : Except Failure String :=
  match Json.find? "issue" finding with
  | some (.str s) => .ok (adviceOn s)
  | some j => if j.isVoid || j.isKey then .ok noAdvice else .error j.notKey
  | none => .ok noAdvice

def advise (finding : List (String × Json)) : Except Failure (List (String × Json)) :=
  (adviceFor finding).map fun s => Json.set "recommendation" (.str s) finding

def orEmpty (j : Json) : Json := if j.isVoid then .obj [] else j

/-- A check that comes again keeps its first place and takes its last result. -/
def results (checks : List (String × CheckResult)) : List (String × Json) :=
  Json.ofFields (checks.map fun c => (c.1, c.2.toJson))

def build (target : String) (checks : List (String × CheckResult)) (about : Json) :
    Except Failure Response := do
  let results := results checks
  let tagged ← collect results
  let findings ← tagged.mapM advise
  return {
    target := target
    findings := findings.map Json.cleanFields
    summary := Json.cleanFields (summarize findings)
    about := (orEmpty about).clean
    checks := Json.cleanFields results }

def toJson (r : Response) : List (String × Json) := [
  ("target", .str r.target),
  ("findings", .arr (r.findings.map .obj)),
  ("summary", .obj r.summary),
  ("meta", r.about),
  ("checks", .obj r.checks)]

end Response

end DelegationAudit
