namespace DelegationAudit.Text

def packedDigit (c : Char) : Nat :=
  if 'A' ≤ c && c ≤ 'Z' then c.toNat - 65
  else if 'a' ≤ c && c ≤ 'z' then c.toNat - 71
  else if '0' ≤ c && c ≤ '9' then c.toNat + 4
  else if c == '-' then 62
  else 63

def unpackStep (state : Array Nat × Nat) (c : Char) : Array Nat × Nat :=
  let d := packedDigit c
  if d < 32 then (state.1.push (state.2 * 32 + d), 0)
  else (state.1, state.2 * 32 + (d - 32))

def unpack (lines : List String) : List Nat :=
  (lines.foldl (fun st line => line.toList.foldl unpackStep st) (#[], 0)).1.toList

/-- A set of code points as disjoint ascending ranges, both ends included. -/
structure RangeSet where
  ranges : Array (Nat × Nat)

namespace RangeSet

/-- Reads pairs of a gap after the last range and a length less one. -/
def build : Nat → List Nat → List (Nat × Nat)
  | at_, gap :: len :: rest => (at_ + gap, at_ + gap + len) :: build (at_ + gap + len + 1) rest
  | _, _ => []

def ofLines (lines : List String) : RangeSet := ⟨(build 0 (unpack lines)).toArray⟩

def mem (s : RangeSet) (n : Nat) : Bool := s.ranges.any (fun r => r.1 ≤ n && n ≤ r.2)

end RangeSet

/-- A partial map on code points that moves whole runs by one distance. -/
structure ShiftMap where
  runs : Array (Nat × Nat × Nat × Nat)

namespace ShiftMap

/-- Reads runs of a gap, a count less one, a step less one, and twice the distance moved, one less
than twice for a move downwards. -/
def build : Nat → List Nat → List (Nat × Nat × Nat × Nat)
  | at_, gap :: count :: step :: move :: rest =>
      (at_ + gap, at_ + gap + count * (step + 1), step + 1, move) :: build (at_ + gap) rest
  | _, _ => []

def ofLines (lines : List String) : ShiftMap := ⟨(build 0 (unpack lines)).toArray⟩

def moveBy (n move : Nat) : Nat := if move % 2 == 0 then n + move / 2 else n - (move + 1) / 2

def find? (m : ShiftMap) (n : Nat) : Option Nat :=
  (m.runs.find? (fun r => r.1 ≤ n && n ≤ r.2.1 && (n - r.1) % r.2.2.1 == 0)).map
    (fun r => moveBy n r.2.2.2)

end ShiftMap

end DelegationAudit.Text
