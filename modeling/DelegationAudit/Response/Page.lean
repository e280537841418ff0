import DelegationAudit.Json.Shape

namespace DelegationAudit.Page

def fieldOr (key default : String) (fields : List (String × Json)) : String :=
  match Json.find? key fields with
  | some j => j.text
  | none => default

def given (key : String) (fields : List (String × Json)) : Option String :=
  match Json.find? key fields with
  | some j => if j.isVoid then none else some j.text
  | none => none

/-- What is known of the owner of an address, and its text where that is a text. -/
def ownerOf (address : Json) (ownership : List (String × Json)) : Except Failure (Option Json) :=
  match address with
  | .str s => .ok (Json.find? s ownership)
  | j => if j.isKey then .ok none else .error j.notKey

def attributed (address : Json) (asn : Json) (info : List (String × Json)) : String :=
  address.text ++ " [AS" ++ asn.text ++ " " ++ (given "country" info).getD "??" ++ " " ++
    (given "organization" info).getD "" ++ "]"

def addressItem (ownership : Option Json) (address : Json) : Except Failure Json := do
  let known ← Json.fieldsOf ownership
  match ← ownerOf address known with
  | none => return address
  | some info =>
    if info.isVoid then return address
    else
      let fields ← info.fields
      match Json.find? "asn" fields with
      | none | some .null => return address
      | some asn => return .str (attributed address asn fields)

/-- Puts texts together; anything else among them is an error. -/
def joinItems (index : Nat) : List Json → Except Failure (List String)
  | [] => .ok []
  | .str s :: rest => (joinItems (index + 1) rest).map (s :: ·)
  | j :: _ => .error (.plain .typeMismatch ("sequence item " ++ Number.natString index ++
      ": expected str instance, " ++ j.typeName ++ " found"))

def nameserverLine (ns : Json) : Except Failure String := do
  let fields ← ns.fields
  let addresses ← Json.itemsOf (Json.find? "addresses" fields)
  let items ← addresses.mapM (addressItem (Json.find? "ownership" fields))
  let texts ← joinItems 0 items
  let joined := Json.joinTexts ", " texts
  return "  NS " ++ ((Json.find? "name" fields).getD .null).text ++ ": " ++
    (if joined.isEmpty then "(no address)" else joined)

def header (target : String) (report : List (String × Json)) : String :=
  "== " ++ target ++ " == (parent " ++ fieldOr "parent" "?" report ++ ", resolver " ++
    fieldOr "resolver" "?" report ++ ")"

def verdict (report summary : List (String × Json)) : String :=
  "Overall: " ++ fieldOr "overall" "unknown" report ++
    " | Issues: " ++ fieldOr "issues" "0" summary ++
    " | High: " ++ fieldOr "high" "0" summary ++
    " | Medium: " ++ fieldOr "medium" "0" summary ++
    " | Low: " ++ fieldOr "low" "0" summary ++
    " | Score: " ++ fieldOr "score" "0" summary

def before (mark : String) : Option String → String
  | some s => mark ++ s
  | none => ""

def findingLine (f : List (String × Json)) : String :=
  "- [" ++ fieldOr "severity" "unknown" f ++ "] " ++ fieldOr "issue" "" f ++
    before " " (given "server" f) ++ before ": " (given "detail" f)

def findingLines (finding : Json) : Except Failure (List String) := do
  let f ← finding.fields
  match given "recommendation" f with
  | none => return [findingLine f]
  | some s => return [findingLine f, "    Recommendation: " ++ s]

def lines (response : List (String × Json)) : Except Failure (List String) := do
  let checks ← Json.fieldsOf (Json.find? "checks" response)
  let report ← Json.fieldsOf (Json.find? "delegation" checks)
  let nameservers ← Json.itemsOf (Json.find? "nameservers" report)
  let servers ← nameservers.mapM nameserverLine
  let summary ← Json.fieldsOf (Json.find? "summary" response)
  let findings ← Json.itemsOf (Json.find? "findings" response)
  let told ← findings.mapM findingLines
  return ["", header (fieldOr "target" "" response) report] ++ servers ++ [verdict report summary] ++
    (if findings.isEmpty then ["No findings."] else told.flatten)

def text (response : List (String × Json)) : Except Failure String :=
  (lines response).map fun ls => String.join (ls.map (· ++ "\n"))

end DelegationAudit.Page
