import DelegationAudit.Number.Integer
import DelegationAudit.Text.Quoted

namespace DelegationAudit.Idna

open Text

inductive Fault
  | tooLong
  | mappingTooLong
  | emptyLabel
  | notComposed
  | innerHyphens
  | outerHyphen
  | leadingMark
  | notMapped (code position : Nat) (label : List Nat)
  | disallowed (code position : Nat) (label : List Nat)
  | context (code position : Nat) (label : List Nat)
  | joiner (code position : Nat) (label : List Nat)
  | joinerNeighbour (code position : Nat) (label : List Nat)
  | unknownDirection (position : Nat) (label : List Nat)
  | badStart (label : List Nat)
  | badDirection (rtl : Bool) (position : Nat)
  | mixedDigits
  | badEnding
  | noContent
  | hyphenAtEnd
  | undecodable
  | notCanonical
  deriving DecidableEq, Repr

def codeText (n : Nat) : String :=
  let s := (Nat.toDigits 16 n).map Char.toUpper
  "U+" ++ String.ofList (List.replicate (4 - s.length) '0' ++ s)

def labelText (label : List Nat) : String := String.ofList (quotedCodes label)

def Fault.message : Fault → String
  | tooLong => "Label too long"
  | mappingTooLong => "Domain too long"
  | emptyLabel => "Empty Label"
  | notComposed => "Label must be in Normalization Form C"
  | innerHyphens => "Label has disallowed hyphens in 3rd and 4th position"
  | outerHyphen => "Label must not start or end with a hyphen"
  | leadingMark => "Label begins with an illegal combining character"
  | notMapped n p l =>
    "Codepoint " ++ codeText n ++ " not allowed at position " ++ Number.natString p ++ " in " ++ labelText l
  | disallowed n p l =>
    "Codepoint " ++ codeText n ++ " at position " ++ Number.natString p ++ " of " ++ labelText l ++ " not allowed"
  | context n p l =>
    "Codepoint " ++ codeText n ++ " not allowed at position " ++ Number.natString p ++ " in " ++ labelText l
  | joiner n p l =>
    "Joiner " ++ codeText n ++ " not allowed at position " ++ Number.natString p ++ " in " ++ labelText l
  | joinerNeighbour n p l =>
    "Unknown codepoint adjacent to joiner " ++ codeText n ++ " at position " ++ Number.natString p ++
      " in " ++ labelText l
  | unknownDirection p l =>
    "Unknown directionality in label " ++ labelText l ++ " at position " ++ Number.natString p
  | badStart l => "First codepoint in label " ++ labelText l ++ " must be directionality L, R or AL"
  | badDirection rtl p =>
    "Invalid direction for codepoint at position " ++ Number.natString p ++
      (if rtl then " in a right-to-left label" else " in a left-to-right label")
  | mixedDigits => "Can not mix numeral types in a right-to-left label"
  | badEnding => "Label ends with illegal codepoint directionality"
  | noContent => "Malformed A-label, no Punycode eligible content found"
  | hyphenAtEnd => "A-label must not end with a hyphen"
  | undecodable => "Invalid A-label"
  | notCanonical => "A-label is not the canonical Punycode encoding of its U-label"

end DelegationAudit.Idna
