import DelegationAudit.Text.Blank
import DelegationAudit.Text.Digit

namespace DelegationAudit.Dns

open Text

def endsInDot (s : List Char) : Bool := s.getLast? == some '.'

def absoluteChars (s : List Char) : List Char :=
  let t := trim s
  if t.isEmpty then ['.'] else if endsInDot t then t else t ++ ['.']

/-- A dot behind a backslash does not end a label, nor does one written as three digits. -/
def parentChars : List Char → List Char
  | [] => ['.']
  | '\\' :: a :: b :: c :: rest =>
    if isDigit a && isDigit b && isDigit c then parentChars rest else parentChars (b :: c :: rest)
  | '\\' :: _ :: rest => parentChars rest
  | '\\' :: [] => ['.']
  | c :: rest => if c == '.' then (if rest.isEmpty then ['.'] else rest) else parentChars rest

def absolute (name : String) : String := String.ofList (absoluteChars name.toList)

def parentOf (name : String) : String := String.ofList (parentChars name.toList)

theorem absoluteChars_endsInDot (s : List Char) : endsInDot (absoluteChars s) = true := by
  unfold absoluteChars
  dsimp only
  split
  · rfl
  · split
    · assumption
    · simp [endsInDot]

end DelegationAudit.Dns
