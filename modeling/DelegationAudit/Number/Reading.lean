import DelegationAudit.Number.Decimal

namespace DelegationAudit.Number

def log2Ratio (num den : Nat) : Int :=
  let guess : Int := (num.log2 : Int) - den.log2
  let above := if 0 ≤ guess then den * Nat.pow 2 guess.toNat ≤ num else den ≤ num * Nat.pow 2 (-guess).toNat
  if above then guess else guess - 1

/-- The bits of the double nearest to `num / den`; a carry out of the mantissa raises the exponent
by itself. -/
def nearestBits (num den : Nat) : Nat :=
  if num == 0 then 0
  else
    let e := if -1022 ≤ log2Ratio num den then log2Ratio num den - 52 else -1074
    let r := Binary.ratio 1 e
    let m := roundDiv (num * r.2) (den * r.1)
    let bits :=
      if m < Binary.hiddenBit then m
      else (e + 1075).toNat * Binary.hiddenBit + (m - Binary.hiddenBit)
    if bits < Binary.infinityBits then bits else Binary.infinityBits

def ofMagnitude (negative : Bool) (bits : Nat) : Float :=
  Float.ofBits (UInt64.ofNat (bits + if negative then Binary.signBit else 0))

/-- Past this many places every number is too large or too small for a double. -/
def farPlaces : Int := 400

def ofDecimal (negative : Bool) (n : Nat) (e : Int) : Float :=
  let places : Int := (natText n).length + e
  ofMagnitude negative <|
    if n == 0 || places < -farPlaces then 0
    else if farPlaces < places then Binary.infinityBits
    else if 0 ≤ e then nearestBits (n * Nat.pow 10 e.toNat) 1
    else nearestBits n (Nat.pow 10 (-e).toNat)

def ofInt (n : Int) : Float := ofDecimal (decide (n < 0)) n.natAbs 0

def westernDigits (s : List Char) : List Char :=
  s.map fun c => match decimalValue? c with
    | some d => Char.ofNat (48 + d)
    | none => c
where decimalValue? := Text.decimalValue?

/-- Removes underscores between digits; any other underscore makes the text no number. -/
def dropUnderscores (before : Bool) : List Char → Option (List Char)
  | [] => some []
  | '_' :: rest =>
    match rest with
    | c :: more => if before && c.isDigit then (dropUnderscores true more).map (c :: ·) else none
    | [] => none
  | c :: rest => (dropUnderscores c.isDigit rest).map (c :: ·)

def digitsOf (s : List Char) : List Nat := s.map (fun c => c.toNat - 48)

def readExponent (s : List Char) : Option Int :=
  let signed := Sign.take s
  if signed.rest.isEmpty || !signed.rest.all Char.isDigit then none
  else some (applySign signed.negative (ofDigits (digitsOf signed.rest)))

def isExponentMark (c : Char) : Bool := c == 'e' || c == 'E'

/-- Digits with at most one point among them, then an exponent or nothing. -/
def readDecimal (negative : Bool) (s : List Char) : Option Float :=
  let whole := s.takeWhile Char.isDigit
  let afterWhole := s.dropWhile Char.isDigit
  let afterPoint := match afterWhole with
    | '.' :: rest => rest
    | _ => []
  let hasPoint := match afterWhole with
    | '.' :: _ => true
    | _ => false
  let places := if hasPoint then afterPoint.takeWhile Char.isDigit else []
  let rest := if hasPoint then afterPoint.dropWhile Char.isDigit else afterWhole
  if whole.isEmpty && places.isEmpty then none
  else
    let n := ofDigits (digitsOf (whole ++ places))
    match rest with
    | [] => some (ofDecimal negative n (-(places.length : Int)))
    | c :: more =>
      if isExponentMark c then
        (readExponent more).map fun e => ofDecimal negative n (e - places.length)
      else none

def readFloat (s : List Char) : Option Float := do
  let plain ← dropUnderscores false (westernDigits (Text.trimBy isPadding s))
  let signed := Sign.take plain
  let word := Text.asciiLower signed.rest
  if word == "inf".toList || word == "infinity".toList then
    some (ofMagnitude signed.negative Binary.infinityBits)
  else if word == "nan".toList then some (ofMagnitude false (Binary.infinityBits + Binary.hiddenBit / 2))
  else readDecimal signed.negative signed.rest

end DelegationAudit.Number
