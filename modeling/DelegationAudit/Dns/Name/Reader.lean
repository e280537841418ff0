import DelegationAudit.Dns.Name
import DelegationAudit.Number.Integer

namespace DelegationAudit.Dns

open Text

inductive Piece
  | separator
  | code (n : Nat)
  | broken
  deriving DecidableEq, Repr

def escaped? (a b c : Char) : Option Nat :=
  let n := Number.ofDigits ([a, b, c].map fun d => d.toNat - 48)
  if [a, b, c].all Char.isDigit && n ≤ 255 then some n else none

def piece (isStop : Char → Bool) (c : Char) : Piece := if isStop c then .separator else .code c.toNat

/-- Only the digits of ASCII start an escape of three digits. -/
def pieces (isStop : Char → Bool) : List Char → List Piece
  | [] => []
  | '\\' :: a :: b :: c :: rest =>
    if a.isDigit then
      match escaped? a b c with
      | some n => .code n :: pieces isStop rest
      | none => [.broken]
    else .code a.toNat :: pieces isStop (b :: c :: rest)
  | '\\' :: a :: rest => if a.isDigit then [.broken] else .code a.toNat :: pieces isStop rest
  | '\\' :: [] => [.broken]
  | c :: rest => piece isStop c :: pieces isStop rest

/-- Each label is encoded where it ends, so the first fault from the left is the one found. -/
def group (encode : List Nat → Except NameError Label) : List Nat → List Piece → Except NameError (List Label)
  | [], [] => .ok []
  | label, [] => (encode label).map ([·])
  | label, .code n :: rest => group encode (label ++ [n]) rest
  | _, .broken :: _ => .error .badEscape
  | [], .separator :: _ => .error .emptyLabel
  | label, .separator :: rest =>
    match encode label with
    | .error e => .error e
    | .ok l => (group encode [] rest).map (l :: ·)

def octetLabel (label : List Nat) : Except NameError Label := .ok (label.map UInt8.ofNat)

def unicodeLabel (label : List Nat) : Except NameError Label :=
  match Idna.encodeLabel label with
  | .ok s => .ok (s.map (fun c => UInt8.ofNat c.toNat))
  | .error .tooLong => .error .labelTooLong
  | .error e => .error (.idna e)

def isDot (c : Char) : Bool := c == '.'

/-- The full stops of East Asian scripts separate labels as well. -/
def isFullStop (c : Char) : Bool := c == '.' || c == '。' || c == '．' || c == '｡'

def readLabels (isStop : Char → Bool) (encode : List Nat → Except NameError Label) (s : List Char) :
    Except NameError Name :=
  let standsForRoot := s == ['@'] || match s with
    | [c] => isStop c
    | _ => false
  if standsForRoot then .ok Name.root
  else match group encode [] (pieces isStop s) with
    | .error e => .error e
    | .ok labels => Name.ofLabels labels

namespace Name

/-- Reads a text of characters, labels in any script. -/
def readUnicode (s : List Char) : Except NameError Name := readLabels isFullStop unicodeLabel s

def readOctets (s : List Char) : Except NameError Name := readLabels isDot octetLabel s

def readChars (s : List Char) : Except NameError Name :=
  if isAscii s then readOctets s else readUnicode s

def read (s : String) : Except NameError Name := readChars s.toList

end Name

end DelegationAudit.Dns
