namespace DelegationAudit.Number

inductive Binary
  | nan
  | infinite (negative : Bool)
  | finite (negative : Bool) (mantissa : Nat) (exponent : Int)
  deriving DecidableEq, Repr

inductive NotFinite
  | nan
  | infinite
  deriving DecidableEq, Repr

namespace Binary

def hiddenBit : Nat := Nat.pow 2 52

def signBit : Nat := Nat.pow 2 63

def infinityBits : Nat := 2047 * hiddenBit

/-- Splits the sixty-four bits of the double format: sign, eleven bits of exponent, fraction. -/
def ofBits (bits : Nat) : Binary :=
  let negative := decide (signBit ≤ bits)
  let biased : Nat := bits / hiddenBit % 2048
  let fraction : Nat := bits % hiddenBit
  if biased == 2047 then (if fraction == 0 then .infinite negative else .nan)
  else if biased == 0 then .finite negative fraction (-1074)
  else .finite negative (hiddenBit + fraction) ((biased : Int) - 1075)

def ofFloat (x : Float) : Binary := ofBits x.toBits.toNat

def ratio (m : Nat) (e : Int) : Nat × Nat :=
  if 0 ≤ e then (m * Nat.pow 2 e.toNat, 1) else (m, Nat.pow 2 (-e).toNat)

def truncate : Binary → Except NotFinite Int
  | nan => .error .nan
  | infinite _ => .error .infinite
  | finite negative m e =>
    let r := ratio m e
    .ok (if negative then -((r.1 / r.2 : Nat) : Int) else (r.1 / r.2 : Nat))

def floor : Binary → Except NotFinite Int
  | nan => .error .nan
  | infinite _ => .error .infinite
  | finite negative m e =>
    let r := ratio m e
    .ok (if negative then -(((r.1 + (r.2 - 1)) / r.2 : Nat) : Int) else (r.1 / r.2 : Nat))

end Binary

def floor? (x : Float) : Option Int := (Binary.ofFloat x).floor.toOption

end DelegationAudit.Number
