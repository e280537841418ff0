import DelegationAudit.Dns.Name.Reader
import DelegationAudit.Text.Case

namespace DelegationAudit.Zone

open Text Dns

inductive Rejection
  | blank
  | badName (e : NameError)
  | tooFewLabels
  | badLabel
  deriving DecidableEq, Repr

namespace Rejection

def message : Rejection → String
  | blank | badLabel => "Invalid domain format"
  | badName e => "Invalid domain format: " ++ e.message
  | tooFewLabels => "A registered domain needs at least two labels"

end Rejection

def normalizeChars (s : List Char) : List Char := lower (dropEnd (· == '.') (trim s))

/-- Surrounding blanks and trailing dots go, and letters become small. -/
def normalize (target : String) : String := String.ofList (normalizeChars target.toList)

def isSmallAlnum (b : Octet) : Bool := (97 ≤ b && b ≤ 122) || (48 ≤ b && b ≤ 57)

def isLabelInner (b : Octet) : Bool := isSmallAlnum b || b == 45

/-- A letter or digit at both ends, letters, digits and hyphens between, at most 63 in all. -/
def isHostCore (l : Label) : Bool :=
  l.length ≤ 63 && l.all isLabelInner && l.head?.any isSmallAlnum && l.getLast?.any isSmallAlnum

def dropUnderscore : Label → Label
  | 95 :: rest => rest
  | l => l

/-- A line break at the end does not count. -/
def dropBreak (l : Label) : Label := if l.getLast? == some 10 then l.dropLast else l

def isZoneLabel (l : Label) : Bool := isHostCore (dropUnderscore (dropBreak l))

def octetChars (l : Label) : List Char := l.map (fun b => Char.ofNat b.toNat)

def acceptChars (s : List Char) : Except Rejection (List Char) :=
  let t := normalizeChars s
  if t.isEmpty || t.any isBlank then .error .blank
  else match Name.readUnicode t with
    | .error e => .error (.badName e)
    | .ok name =>
      if name.labels.length < 2 then .error .tooFewLabels
      else if name.labels.all isZoneLabel then .ok (joinWith ['.'] (name.labels.map octetChars))
      else .error .badLabel

def accept (target : String) : Except Rejection String :=
  (acceptChars target.toList).map String.ofList

end DelegationAudit.Zone
