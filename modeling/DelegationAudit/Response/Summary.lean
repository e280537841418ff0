import DelegationAudit.Json.Basic
import DelegationAudit.Text.Case

namespace DelegationAudit

namespace Summary

abbrev Counts := List (String × Nat)

def initial : Counts := [("high", 0), ("medium", 0), ("low", 0), ("info", 0), ("unknown", 0)]

def increment (key : String) : Counts → Counts
  | [] => [(key, 1)]
  | (k, n) :: rest => if k == key then (k, n + 1) :: rest else (k, n) :: increment key rest

/-- The severity in small letters; what is no text is unknown. -/
def severityOf (finding : List (String × Json)) : String :=
  match Json.find? "severity" finding with
  | some (.str s) => String.ofList (Text.lower s.toList)
  | _ => "unknown"

def countAll (findings : List (List (String × Json))) : Counts :=
  findings.foldl (fun counts f => increment (severityOf f) counts) initial

def penalty (severity : String) : Nat :=
  if severity == "high" then 25
  else if severity == "medium" then 10
  else if severity == "low" then 5
  else 0

def totalPenalty : Counts → Nat
  | [] => 0
  | (k, n) :: rest => penalty k * n + totalPenalty rest

def score (counts : Counts) : Nat := 100 - totalPenalty counts

def total : Counts → Nat
  | [] => 0
  | (_, n) :: rest => n + total rest

end Summary

/-- The number of issues, the counts, and the score, which starts at 100. A count under the key of the
total replaces it, and the score replaces a count under its own. -/
def summarize (findings : List (List (String × Json))) : List (String × Json) :=
  let counts := Summary.countAll findings
  let fields := counts.foldl (fun acc c => Json.set c.1 (.int c.2) acc)
    [("issues", .int (Summary.total counts))]
  Json.set "score" (.int (Summary.score counts)) fields

end DelegationAudit
