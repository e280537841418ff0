import DelegationAudit.Number.Binary
import DelegationAudit.Number.Integer

namespace DelegationAudit.Number

/-- The quotient to the nearest whole number; a tie goes to the even one. -/
def roundDiv (num den : Nat) : Nat :=
  let q := num / den
  let r := num % den
  if 2 * r < den then q
  else if den < 2 * r then q + 1
  else q + q % 2

/-- The value `digits * 10 ^ (point - count)`, where `count` is the number of the digits: `point`
says how many of them stand before the decimal point. -/
structure Decimal where
  digits : List Char
  point : Int
  deriving DecidableEq, Repr

/-- The number of digits before the point of `num / den`, by steps from a guess. -/
def raisePoint (num den : Nat) : Nat → Int → Int
  | 0, p => p
  | fuel + 1, p =>
    let above := if 0 ≤ p then num < den * Nat.pow 10 p.toNat else num * Nat.pow 10 (-p).toNat < den
    if above then p else raisePoint num den fuel (p + 1)

def pointOf (num den : Nat) : Int := raisePoint num den 700 (-330)

/-- `num / den` in units of `10 ^ e`, as numerator and denominator. -/
def inUnits (num den : Nat) (e : Int) : Nat × Nat :=
  if 0 ≤ e then (num, den * Nat.pow 10 e.toNat) else (num * Nat.pow 10 (-e).toNat, den)

def dropZeros (ds : List Char) : List Char := Text.dropEnd (· == '0') ds

/-- The decimal with `count` digits that is a rounding of `n` units: a carry moves the point. -/
def Decimal.ofUnits (n count : Nat) (point : Int) : Decimal :=
  let s := natText n
  ⟨s, if count < s.length then point + 1 else point⟩

/-- What rounds to the double `m * 2 ^ e` lies between these two bounds, in quarters of its unit;
at a power of two the gap below is half as wide. -/
def quarterBounds (m : Nat) (e : Int) : Nat × Nat :=
  (if m == Binary.hiddenBit && -1074 < e then 4 * m - 1 else 4 * m - 2, 4 * m + 2)

/-- The interval of what rounds to one double, its centre, and the unit of a decimal grid, all in
one measure. The ends belong to it if `closed`. -/
structure Gauge where
  low : Nat
  centre : Nat
  high : Nat
  unit : Nat
  closed : Bool

namespace Gauge

def of (m : Nat) (e k : Int) : Gauge :=
  let two := Binary.ratio 1 (e - 2)
  let ten := if 0 ≤ k then (Nat.pow 10 k.toNat, 1) else (1, Nat.pow 10 (-k).toNat)
  let bounds := quarterBounds m e
  let scale := two.1 * ten.2
  ⟨bounds.1 * scale, 4 * m * scale, bounds.2 * scale, ten.1 * two.2, m % 2 == 0⟩

def holds (g : Gauge) (d : Nat) : Bool :=
  if g.closed then g.low ≤ d * g.unit && d * g.unit ≤ g.high
  else g.low < d * g.unit && d * g.unit < g.high

def near (g : Gauge) : Nat := roundDiv g.centre g.unit

/-- The neighbour of the centre on the grid that is not `near`. -/
def far (g : Gauge) : Nat :=
  let floor := g.centre / g.unit
  if g.near == floor then floor + 1 else floor

end Gauge

/-- Tries more and more digits. Of the two neighbours on a grid of decimals the nearer one that
reads back is taken, and of two at one distance the even one. -/
def searchDigits (m : Nat) (e point : Int) : Nat → Nat → Decimal
  | 0, count => Decimal.ofUnits (Gauge.of m e (point - count)).near count point
  | fuel + 1, count =>
    let g := Gauge.of m e (point - count)
    if g.holds g.near then Decimal.ofUnits g.near count point
    else if g.holds g.far then Decimal.ofUnits g.far count point
    else searchDigits m e point fuel (count + 1)

def shortest (m : Nat) (e : Int) : Decimal :=
  let r := Binary.ratio m e
  searchDigits m e (pointOf r.1 r.2) 16 1

/-- The point among the digits, with zeros where there are none. -/
def positional (d : Decimal) (keepsPlace : Bool) : List Char :=
  let n : Int := d.digits.length
  if d.point ≤ 0 then '0' :: '.' :: (List.replicate (-d.point).toNat '0' ++ d.digits)
  else if d.point < n then d.digits.take d.point.toNat ++ '.' :: d.digits.drop d.point.toNat
  else d.digits ++ List.replicate (d.point - n).toNat '0' ++ (if keepsPlace then ['.', '0'] else [])

/-- The exponent has a sign and at least two digits. -/
def withExponent (d : Decimal) : List Char :=
  let x := d.point - 1
  let mantissa := match d.digits with
    | [] => ['0']
    | [c] => [c]
    | c :: rest => c :: '.' :: rest
  mantissa ++ 'e' :: (if x < 0 then '-' else '+') :: padded 2 x.natAbs

/-- How a decimal is laid out: positional while the point is in the range, else with an exponent. -/
structure Layout where
  lowest : Int
  highest : Int
  keepsPlace : Bool

namespace Layout

/-- Plain numbers show a place after the point, and an exponent from `1e16` on and below `1e-4`. -/
def plain : Layout := ⟨-3, 16, true⟩

def brief : Layout := ⟨-3, 6, false⟩

def render (l : Layout) (d : Decimal) : List Char :=
  if l.lowest ≤ d.point && d.point ≤ l.highest then positional d l.keepsPlace else withExponent d

end Layout

def signed (negative : Bool) (s : List Char) : List Char := if negative then '-' :: s else s

/-- The text of a number that is not finite. -/
def special (b : Binary) (finite : Bool → Nat → Int → List Char) : List Char :=
  match b with
  | .nan => "nan".toList
  | .infinite negative => signed negative "inf".toList
  | .finite negative m e => signed negative (finite negative m e)

def floatText (x : Float) : String :=
  String.ofList (special (Binary.ofFloat x) fun _ m e =>
    if m == 0 then ['0', '.', '0']
    else
      let d := shortest m e
      Layout.plain.render ⟨dropZeros d.digits, d.point⟩)

def floatBrief (x : Float) : String :=
  String.ofList (special (Binary.ofFloat x) fun _ m e =>
    if m == 0 then ['0']
    else
      let r := Binary.ratio m e
      let point := pointOf r.1 r.2
      let u := inUnits r.1 r.2 (point - 6)
      let d := Decimal.ofUnits (roundDiv u.1 u.2) 6 point
      Layout.brief.render ⟨dropZeros d.digits, d.point⟩)

def floatPlaces (x : Float) : String :=
  String.ofList (special (Binary.ofFloat x) fun _ m e =>
    let r := Binary.ratio m e
    let s := padded 4 (roundDiv (r.1 * 1000) r.2)
    s.take (s.length - 3) ++ '.' :: s.drop (s.length - 3))

end DelegationAudit.Number
