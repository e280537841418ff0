import DelegationAudit.Net.Address.Reader
import DelegationAudit.Proofs.AddressText
import DelegationAudit.Proofs.AnyOrder
import DelegationAudit.Proofs.Inspection

namespace DelegationAudit.Net

open Text

/-- As many ones as the length says, and zeros behind them. -/
def maskOf (length : Nat) : BitVec 32 := BitVec.allOnes 32 ^^^ (BitVec.allOnes 32 >>> length)

/-- A network by its lowest address and the mask of the bits that its addresses share. -/
structure Subnet where
  base : BitVec 32
  mask : BitVec 32
  deriving DecidableEq

def readLength (s : List Char) : Option Nat :=
  if !s.isEmpty && s.all Char.isDigit && decimalOf s ≤ 32 then some (decimalOf s) else none

namespace Subnet

/-- The network of an address: what is not under the mask does not count. -/
def around (a : IPv4) (length : Nat) : Subnet := ⟨a.value &&& maskOf length, maskOf length⟩

def ofChars? (s : List Char) : Option Subnet :=
  match fields (· == '/') s with
  | [address, length] =>
    match readIPv4 address, readLength length with
    | .ok a, some n => some (around a n)
    | _, _ => none
  | _ => none

def contains (n : Subnet) (a : IPv4) : Bool := a.value &&& n.mask == n.base

end Subnet

/-- A mask clears the bits behind it. -/
theorem toNat_and_maskOf (a : BitVec 32) {length : Nat} (h : length ≤ 32) :
    (a &&& maskOf length).toNat = a.toNat / 2 ^ (32 - length) * 2 ^ (32 - length) := by
  have hshift : a &&& maskOf length = a >>> (32 - length) <<< (32 - length) := by
    apply BitVec.eq_of_getLsbD_eq
    intro i hi
    simp only [maskOf, BitVec.getLsbD_and, BitVec.getLsbD_xor, BitVec.getLsbD_allOnes,
      BitVec.getLsbD_ushiftRight, BitVec.getLsbD_shiftLeft]
    by_cases hlow : i < 32 - length
    · have hsum : length + i < 32 := by omega
      simp [hi, hlow, hsum]
    · have hsum : ¬ length + i < 32 := by omega
      have hback : 32 - length + (i - (32 - length)) = i := by omega
      simp [hi, hlow, hsum, hback]
  have hfits : a.toNat / 2 ^ (32 - length) * 2 ^ (32 - length) < 2 ^ 32 :=
    Nat.lt_of_le_of_lt (Nat.div_mul_le_self _ _) a.isLt
  rw [hshift, BitVec.toNat_shiftLeft, BitVec.toNat_ushiftRight, Nat.shiftRight_eq_div_pow,
    Nat.shiftLeft_eq, Nat.mod_eq_of_lt hfits]

/-- Two addresses are alike under a mask just when they have one quotient. -/
theorem and_maskOf_eq_iff (a b : BitVec 32) {length : Nat} (h : length ≤ 32) :
    a &&& maskOf length = b &&& maskOf length ↔
      a.toNat / 2 ^ (32 - length) = b.toNat / 2 ^ (32 - length) := by
  rw [← BitVec.toNat_inj, toNat_and_maskOf a h, toNat_and_maskOf b h]
  exact Nat.mul_left_inj (Nat.two_pow_pos _).ne'

theorem Block.around_contains (b : Block) (a : IPv4) :
    (Subnet.around b.base b.length).contains a = b.contains a := by
  rw [Bool.eq_iff_iff, Subnet.contains, Block.contains, beq_iff_eq, beq_iff_eq]
  exact and_maskOf_eq_iff a.value b.base.value b.length_le

theorem readOctet_natText : ∀ n < 256, readOctet (Number.natText n) = .ok n := by decide +kernel

theorem readLength_natText : ∀ n ≤ 32, readLength (Number.natText n) = some n := by decide +kernel

theorem IPv4.slash_not_mem_chars (a : IPv4) : '/' ∉ a.chars := by
  intro h
  rcases mem_chars h with hdot | ⟨d, hdigit⟩
  · exact absurd hdot (by decide)
  · exact Nat.digitChar_ne '/' (by decide) hdigit.symm

/-- The text of an address is read as that address. -/
theorem readIPv4_chars (a : IPv4) : readIPv4 a.chars = .ok a := by
  have hslash : a.chars.contains '/' = false := by
    rw [List.contains_eq_mem, decide_eq_false_iff_not]
    exact a.slash_not_mem_chars
  have hsome : a.chars.isEmpty = false := List.isEmpty_eq_false_iff_exists_mem.mpr ⟨_, a.dot_mem_chars⟩
  have hcount : ((a.octets.map Number.natText).length != 4) = false := by
    rw [List.length_map, IPv4.octets, digitsIn_length]
    rfl
  have hoctets : (a.octets.map Number.natText).mapM readOctet = .ok a.octets := by
    rw [mapM_eq_ok_iff, List.map_map]
    refine List.map_congr_left fun n hn => ?_
    exact readOctet_natText n (mem_digitsIn (by decide) hn)
  have hvalue : fromDigits 256 a.octets = a.value.toNat := fromDigits_digitsIn 256 4 _ a.value.isLt
  rw [readIPv4, hslash, if_neg Bool.false_ne_true, hsome, if_neg Bool.false_ne_true, a.fields_chars]
  dsimp only
  rw [hcount, if_neg Bool.false_ne_true, hoctets]
  dsimp only
  rw [hvalue, IPv4.ofNat, BitVec.ofNat_toNat, BitVec.setWidth_eq]

/-- A block as it is written. -/
def Block.chars (b : Block) : List Char := b.base.chars ++ '/' :: Number.natText b.length

theorem Subnet.ofChars?_chars (b : Block) : ofChars? b.chars = some (around b.base b.length) := by
  have haddress : ∀ c ∈ b.base.chars, (c == '/') = false := by
    intro c hc
    rw [beq_eq_false_iff_ne]
    rintro rfl
    exact b.base.slash_not_mem_chars hc
  have hlength : ∀ c ∈ Number.natText b.length, (c == '/') = false := by
    intro c hc
    rw [beq_eq_false_iff_ne]
    rintro rfl
    exact Number.not_mem_toDigits (by decide) _ (fun d => Nat.digitChar_ne '/' (by decide)) hc
  have hparts : fields (· == '/') b.chars = [b.base.chars, Number.natText b.length] := by
    rw [Block.chars, fields_append rfl, fields_of_not_mem haddress, fields_of_not_mem hlength]
    rfl
  rw [ofChars?, hparts]
  dsimp only
  rw [readIPv4_chars, readLength_natText b.length b.length_le]

/-- As the question is put: every address is in the network that is read from the text of every other. -/
theorem sameSubnet_iff_read (addresses : List Address) :
    sameSubnet addresses = true ↔ ∀ a ∈ ipv4Only addresses, ∃ n : Subnet,
      Subnet.ofChars? (a.chars ++ "/24".toList) = some n ∧
        ∀ b ∈ ipv4Only addresses, n.contains b = true := by
  have htext : '/' :: Number.natText 24 = "/24".toList := by decide +kernel
  have hread : ∀ a : IPv4,
      Subnet.ofChars? (a.chars ++ "/24".toList) = some (Subnet.around a 24) := by
    intro a
    rw [← htext]
    exact Subnet.ofChars?_chars (neighbourhood a)
  have hcontains : ∀ a b : IPv4, (Subnet.around a 24).contains b = (neighbourhood a).contains b :=
    fun a => (neighbourhood a).around_contains
  simp only [sameSubnet, List.all_eq_true, List.mem_map, forall_exists_index, and_imp,
    forall_apply_eq_imp_iff₂, hread, Option.some.injEq, exists_eq_left', hcontains]

theorem sameSubnet_iff_front {addresses : List Address} {first : IPv4}
    (hfirst : first ∈ ipv4Only addresses) :
    sameSubnet addresses = true ↔ ∀ a ∈ ipv4Only addresses, a.front = first.front := by
  rw [sameSubnet_iff]
  constructor
  · intro h a ha
    exact h first hfirst a ha
  · intro h a ha b hb
    rw [h a ha, h b hb]

theorem sameSubnet_of_subset {addresses more : List Address} (h : addresses ⊆ more)
    (hmore : sameSubnet more = true) : sameSubnet addresses = true := by
  rw [sameSubnet_iff] at hmore ⊢
  intro a ha b hb
  exact hmore a (mem_ipv4Only.mpr (h (mem_ipv4Only.mp ha))) b (mem_ipv4Only.mpr (h (mem_ipv4Only.mp hb)))

/-- The question is which addresses of version four there are, not in which order or how often. -/
theorem sameSubnet_congr {addresses others : List Address}
    (h : ∀ a : IPv4, .v4 a ∈ others ↔ .v4 a ∈ addresses) : sameSubnet others = sameSubnet addresses := by
  have hmem : ∀ a, a ∈ ipv4Only others ↔ a ∈ ipv4Only addresses := by
    intro a
    rw [mem_ipv4Only, mem_ipv4Only, h]
  rw [Bool.eq_iff_iff, sameSubnet_iff, sameSubnet_iff]
  simp only [hmem]

theorem sameSubnet_perm {addresses addresses' : List Address} (h : addresses.Perm addresses') :
    sameSubnet addresses = sameSubnet addresses' :=
  sameSubnet_congr fun _ => h.mem_iff

/-- Asking of every pair whether one address is in the network that is read from the text of the other is
asking whether all have one number of network, or that of the first of them. Order, repeated addresses
and those of version six change nothing, and addresses that are apart stay so when others are added. -/
theorem sameSubnet_oneNumber (addresses : List Address) :
    (sameSubnet addresses = true ↔ ∀ a ∈ ipv4Only addresses, ∃ n : Subnet,
      Subnet.ofChars? (a.chars ++ "/24".toList) = some n ∧
        ∀ b ∈ ipv4Only addresses, n.contains b = true) ∧
    (sameSubnet addresses = true ↔ ∃ number : Nat, ∀ a ∈ ipv4Only addresses,
      a.value.toNat / 256 = number) ∧
    (sameSubnet addresses = true ↔ ∀ first ∈ (ipv4Only addresses).head?, ∀ a ∈ ipv4Only addresses,
      a.value.toNat / 256 = first.value.toNat / 256) ∧
    (∀ others, addresses.Perm others → sameSubnet others = sameSubnet addresses) ∧
    (∀ repeated, repeated ⊆ addresses → ∀ others, others.Perm (repeated ++ addresses) →
      sameSubnet others = sameSubnet addresses) ∧
    (∀ before after six, addresses = before ++ after →
      sameSubnet (before ++ .v6 six :: after) = sameSubnet addresses) ∧
    (∀ more, addresses ⊆ more → sameSubnet addresses = false → sameSubnet more = false) := by
  refine ⟨sameSubnet_iff_read addresses, ?_, ?_, ?_, ?_, ?_, ?_⟩
  · rw [sameSubnet_iff]
    constructor
    · intro h
      cases hall : ipv4Only addresses with
      | nil => exact ⟨0, by simp⟩
      | cons first rest =>
        rw [hall] at h
        exact ⟨first.front, fun a ha => h first List.mem_cons_self a ha⟩
    · rintro ⟨number, h⟩ a ha b hb
      exact (h b hb).trans (h a ha).symm
  · cases hall : ipv4Only addresses with
    | nil => simp [sameSubnet_iff, hall]
    | cons first rest =>
      have hfirst : first ∈ ipv4Only addresses := hall ▸ List.mem_cons_self
      rw [sameSubnet_iff_front hfirst, hall]
      simp only [List.head?_cons, Option.mem_def, Option.some.injEq, forall_eq']
      exact Iff.rfl
  · intro others h
    exact (sameSubnet_perm h).symm
  · intro repeated hsub others h
    rw [sameSubnet_perm h]
    refine sameSubnet_congr fun a => ?_
    rw [List.mem_append]
    exact ⟨fun ha => ha.elim (fun ha => hsub ha) id, .inr⟩
  · rintro before after six rfl
    exact sameSubnet_congr fun a => by simp
  · intro more hsub h
    rw [Bool.eq_false_iff] at h ⊢
    exact fun hmore => h (sameSubnet_of_subset hsub hmore)

/-- Two neighbours with an address of version six between them, and one past the end of their network. -/
theorem sameSubnet_oneNumber_border :
    let near : List Address := [.v4 (.ofNat 0x0A000001), .v6 ⟨1, none⟩, .v4 (.ofNat 0x0A0000FF)]
    sameSubnet near = true ∧ sameSubnet (.v4 (.ofNat 0x0A000100) :: near) = false ∧
      sameSubnet (.v4 (.ofNat 0x7F000001) :: .v4 (.ofNat 0x0A000100) :: near) = false := by
  intro near
  obtain ⟨-, hnear, -, -, -, -, -⟩ := sameSubnet_oneNumber near
  obtain ⟨-, -, hfirst, -, -, -, hmore⟩ := sameSubnet_oneNumber (.v4 (.ofNat 0x0A000100) :: near)
  have hapart : sameSubnet (.v4 (.ofNat 0x0A000100) :: near) = false := by
    rw [Bool.eq_false_iff]
    intro h
    exact absurd (hfirst.mp h (.ofNat 0x0A000100) rfl (.ofNat 0x0A000001) (by decide)) (by decide)
  exact ⟨hnear.mpr ⟨0x0A0000, by decide⟩, hapart, hmore _ (List.subset_cons_self _ _) hapart⟩

end DelegationAudit.Net
