import DelegationAudit.Number.Integer
import DelegationAudit.Text.Blank

namespace DelegationAudit.Net

open Text

structure IPv4 where
  value : BitVec 32
  deriving DecidableEq

/-- The zone names the link of an address that holds on one link only. -/
structure IPv6 where
  value : BitVec 128
  zone : Option String
  deriving DecidableEq

inductive Address
  | v4 (a : IPv4)
  | v6 (a : IPv6)
  deriving DecidableEq

/-- Digits of a number in a base, the most significant first, `count` of them. -/
def digitsIn (base : Nat) : Nat → Nat → List Nat
  | 0, _ => []
  | count + 1, n => digitsIn base count (n / base) ++ [n % base]

theorem digitsIn_length (base count n : Nat) : (digitsIn base count n).length = count := by
  induction count generalizing n with
  | zero => rfl
  | succ k ih => simp [digitsIn, ih]

def fromDigits (base : Nat) (ds : List Nat) : Nat := ds.foldl (fun n d => base * n + d) 0

theorem fromDigits_append (base : Nat) (ds : List Nat) (d : Nat) :
    fromDigits base (ds ++ [d]) = base * fromDigits base ds + d := by
  simp [fromDigits]

theorem fromDigits_digitsIn (base count n : Nat) (h : n < Nat.pow base count) :
    fromDigits base (digitsIn base count n) = n := by
  induction count generalizing n with
  | zero => simp [digitsIn, fromDigits] at *; omega
  | succ k ih =>
    have hk : n / base < Nat.pow base k :=
      Nat.div_lt_of_lt_mul (by rw [Nat.mul_comm]; exact h)
    rw [digitsIn, fromDigits_append, ih _ hk, Nat.div_add_mod]

namespace IPv4

def ofNat (n : Nat) : IPv4 := ⟨BitVec.ofNat 32 n⟩

def octets (a : IPv4) : List Nat := digitsIn 256 4 a.value.toNat

def chars (a : IPv4) : List Char := joinWith ['.'] (a.octets.map Number.natText)

def text (a : IPv4) : String := String.ofList a.chars

end IPv4

structure ZeroRun where
  start : Nat
  length : Nat
  deriving DecidableEq

/-- The longest run of zeros, the first of those of one length. `here` is the run that ends at
`index`. -/
def longestRun (best here : ZeroRun) (index : Nat) : List Nat → ZeroRun
  | [] => best
  | g :: rest =>
    if g == 0 then
      let run : ZeroRun := if here.length == 0 then ⟨index, 1⟩ else ⟨here.start, here.length + 1⟩
      longestRun (if best.length < run.length then run else best) run (index + 1) rest
    else longestRun best ⟨index, 0⟩ (index + 1) rest

def zeroRun (groups : List Nat) : ZeroRun := longestRun ⟨0, 0⟩ ⟨0, 0⟩ 0 groups

def groupText (g : Nat) : List Char := Nat.toDigits 16 g

def joinGroups (groups : List Nat) : List Char := joinWith [':'] (groups.map groupText)

namespace IPv6

def groups (a : IPv6) : List Nat := digitsIn 65536 8 a.value.toNat

/-- A run of at least two zeros is left out between two colons. -/
def plainChars (a : IPv6) : List Char :=
  let run := zeroRun a.groups
  if run.length ≤ 1 then joinGroups a.groups
  else
    joinGroups (a.groups.take run.start) ++ ':' :: ':' ::
      joinGroups (a.groups.drop (run.start + run.length))

def chars (a : IPv6) : List Char :=
  match a.zone with
  | none => a.plainChars
  | some z => a.plainChars ++ '%' :: z.toList

def text (a : IPv6) : String := String.ofList a.chars

end IPv6

namespace Address

def text : Address → String
  | v4 a => a.text
  | v6 a => a.text

def toV4? : Address → Option IPv4
  | v4 a => some a
  | v6 _ => none

def toV6? : Address → Option IPv6
  | v4 _ => none
  | v6 a => some a

end Address

def ipv4Only (addresses : List Address) : List IPv4 := addresses.filterMap Address.toV4?

def ipv6Only (addresses : List Address) : List IPv6 := addresses.filterMap Address.toV6?

end DelegationAudit.Net
