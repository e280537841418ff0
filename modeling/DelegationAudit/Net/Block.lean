import DelegationAudit.Net.Address

namespace DelegationAudit.Net

structure Block where
  base : IPv4
  length : Nat
  length_le : length ≤ 32 := by decide

namespace Block

def size (b : Block) : Nat := Nat.pow 2 (32 - b.length)

def contains (b : Block) (a : IPv4) : Bool := a.value.toNat / b.size == b.base.value.toNat / b.size

end Block

def privateBlocks : List Block :=
  [⟨IPv4.ofNat 0x0A000000, 8, by decide⟩, ⟨IPv4.ofNat 0xAC100000, 12, by decide⟩,
    ⟨IPv4.ofNat 0xC0A80000, 16, by decide⟩]

/-- Only addresses of version four have private blocks here. -/
def Address.isPrivate : Address → Bool
  | v4 a => privateBlocks.any (·.contains a)
  | v6 _ => false

def neighbourhood (a : IPv4) : Block := ⟨a, 24, by decide⟩

/-- Every address of version four lies in the neighbourhood of every other one. -/
def sameSubnet (addresses : List Address) : Bool :=
  let v4 := ipv4Only addresses
  (v4.map neighbourhood).all fun b => v4.all b.contains

end DelegationAudit.Net
