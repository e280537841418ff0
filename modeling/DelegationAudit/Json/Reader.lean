import DelegationAudit.Json.Basic
import DelegationAudit.Number.Reading
import DelegationAudit.Text.Quoted

namespace DelegationAudit.Json

open Number Text

def isGap (c : Char) : Bool := c == ' ' || c == '\n' || c == '\r' || c == '\t'

def skipGaps (s : List Char) : List Char := s.dropWhile isGap

def hexUnit (a b c d : Char) : Option Nat := do
  let w ← hexValue? a
  let x ← hexValue? b
  let y ← hexValue? c
  let z ← hexValue? d
  return ((w * 16 + x) * 16 + y) * 16 + z

def isHighUnit (n : Nat) : Bool := 0xD800 ≤ n && n < 0xDC00

def isLowUnit (n : Nat) : Bool := 0xDC00 ≤ n && n < 0xE000

def simpleEscape? (c : Char) : Option Char :=
  match c with
  | 'n' => some '\n'
  | 'r' => some '\r'
  | 't' => some '\t'
  | 'b' => some '\x08'
  | 'f' => some '\x0c'
  | '"' => some '"'
  | '\\' => some '\\'
  | '/' => some '/'
  | _ => none

/-- A string body up to its closing quote. Code units of characters beyond the first plane come in
pairs; a single one of a pair stands for no character. -/
def readString : List Char → Option (List Char × List Char)
  | [] => none
  | '"' :: rest => some ([], rest)
  | '\\' :: 'u' :: a :: b :: c :: d :: '\\' :: 'u' :: e :: f :: g :: h :: rest =>
    match hexUnit a b c d, hexUnit e f g h with
    | some m, some n =>
      if isHighUnit m && isLowUnit n then
        (readString rest).map fun r =>
          (Char.ofNat (0x10000 + (m - 0xD800) * 1024 + (n - 0xDC00)) :: r.1, r.2)
      else
        (readString ('\\' :: 'u' :: e :: f :: g :: h :: rest)).map fun r => (unitChar m :: r.1, r.2)
    | _, _ => none
  | '\\' :: 'u' :: a :: b :: c :: d :: rest =>
    match hexUnit a b c d with
    | some m => (readString rest).map fun r => (unitChar m :: r.1, r.2)
    | none => none
  | '\\' :: c :: rest =>
    match simpleEscape? c with
    | some e => (readString rest).map fun r => (e :: r.1, r.2)
    | none => none
  | c :: rest => (readString rest).map fun r => (c :: r.1, r.2)
where
  unitChar (n : Nat) : Char :=
    if isHighUnit n || isLowUnit n then Char.ofNat 0xFFFD else Char.ofNat n

def isNumberChar (c : Char) : Bool :=
  c.isDigit || c == '-' || c == '+' || c == '.' || c == 'e' || c == 'E'

def numberOf (s : List Char) : Option Json :=
  if s.any (fun c => c == '.' || c == 'e' || c == 'E') then
    (readFloat s).map fun x => real (floatText x)
  else
    let signed := Sign.take s
    if signed.rest.isEmpty || !signed.rest.all Char.isDigit then none
    else some (int (applySign signed.negative (ofDigits (digitsOf signed.rest))))

def readWord (word : List Char) (value : Json) (s : List Char) : Option (Json × List Char) :=
  if word.isPrefixOf s then some (value, s.drop word.length) else none

mutual

/-- Every step takes at least one character, so the length of the text is fuel enough. -/
def readValue : Nat → List Char → Option (Json × List Char)
  | 0, _ => none
  | fuel + 1, s =>
    match skipGaps s with
    | [] => none
    | '"' :: rest => (readString rest).map fun r => (str (String.ofList r.1), r.2)
    | '[' :: rest =>
      match skipGaps rest with
      | ']' :: after => some (arr [], after)
      | _ => (readItems fuel rest).map fun r => (arr r.1, r.2)
    | '\x7b' :: rest =>
      match skipGaps rest with
      | '\x7d' :: after => some (obj [], after)
      | _ => (readFields fuel rest).map fun r => (obj (ofFields r.1), r.2)
    | 't' :: rest => readWord "true".toList (bool true) ('t' :: rest)
    | 'f' :: rest => readWord "false".toList (bool false) ('f' :: rest)
    | 'n' :: rest => readWord "null".toList null ('n' :: rest)
    | t => (numberOf (t.takeWhile isNumberChar)).map fun j => (j, t.dropWhile isNumberChar)

def readItems : Nat → List Char → Option (List Json × List Char)
  | 0, _ => none
  | fuel + 1, s =>
    match readValue fuel s with
    | none => none
    | some (j, rest) =>
      match skipGaps rest with
      | ',' :: more => (readItems fuel more).map fun r => (j :: r.1, r.2)
      | ']' :: after => some ([j], after)
      | _ => none

def readFields : Nat → List Char → Option (List (String × Json) × List Char)
  | 0, _ => none
  | fuel + 1, s =>
    match skipGaps s with
    | '"' :: body =>
      match readString body with
      | none => none
      | some (key, afterKey) =>
        match skipGaps afterKey with
        | ':' :: afterColon =>
          match readValue fuel afterColon with
          | none => none
          | some (j, rest) =>
            match skipGaps rest with
            | ',' :: more => (readFields fuel more).map fun r => ((String.ofList key, j) :: r.1, r.2)
            | '\x7d' :: after => some ([(String.ofList key, j)], after)
            | _ => none
        | _ => none
    | _ => none

end

def read (s : String) : Option Json :=
  let cs := s.toList
  match readValue (cs.length + 1) cs with
  | some (j, rest) => if (skipGaps rest).isEmpty then some j else none
  | none => none

end DelegationAudit.Json
