import DelegationAudit.Proofs.Findings
import Mathlib.Data.List.Basic

namespace DelegationAudit

namespace Net

/-- The number of an address that is written with these four octets. -/
def dotted (a b c d : Nat) : Nat := fromDigits 256 [a, b, c, d]

/-- The addresses from one to another, both included. -/
def IPv4.Within (low high : Nat) (a : IPv4) : Prop := low ≤ a.value.toNat ∧ a.value.toNat ≤ high

instance (low high : Nat) (a : IPv4) : Decidable (a.Within low high) :=
  inferInstanceAs (Decidable (_ ∧ _))

def IPv4.Private (a : IPv4) : Prop :=
  a.Within (dotted 10 0 0 0) (dotted 10 255 255 255) ∨
    a.Within (dotted 172 16 0 0) (dotted 172 31 255 255) ∨
    a.Within (dotted 192 168 0 0) (dotted 192 168 255 255)

instance (a : IPv4) : Decidable a.Private := inferInstanceAs (Decidable (_ ∨ _ ∨ _))

/-- Only addresses of version four are private. -/
def Address.Private : Address → Prop
  | v4 a => a.Private
  | v6 _ => False

instance : (a : Address) → Decidable a.Private
  | .v4 a => inferInstanceAs (Decidable a.Private)
  | .v6 _ => inferInstanceAs (Decidable False)

/-- The first twenty-four bits of an address, as a number. -/
def IPv4.front (a : IPv4) : Nat := a.value.toNat / 256

/-- A block is the range of the numbers with one quotient. -/
theorem Block.contains_iff (b : Block) (a : IPv4) :
    b.contains a = true ↔
      a.Within (b.base.value.toNat / b.size * b.size) (b.base.value.toNat / b.size * b.size + (b.size - 1)) := by
  have hpos : 0 < b.size := Nat.pow_pos (by decide)
  rw [contains, beq_iff_eq, Nat.div_eq_iff hpos, IPv4.Within, and_comm]
  generalize b.base.value.toNat / b.size * b.size = low
  omega

theorem IPv4.private_iff (a : IPv4) : privateBlocks.any (·.contains a) = true ↔ a.Private := by
  simp only [privateBlocks, List.any_cons, List.any_nil, Bool.or_eq_true, Block.contains_iff,
    Bool.false_eq_true, or_false]
  exact Iff.rfl

theorem Address.isPrivate_iff (a : Address) : a.isPrivate = true ↔ a.Private := by
  cases a with
  | v4 a => exact a.private_iff
  | v6 a => simp [isPrivate, Address.Private]

theorem neighbourhood_contains (a b : IPv4) :
    (neighbourhood a).contains b = true ↔ b.front = a.front := by
  rw [Block.contains, beq_iff_eq]
  exact Iff.rfl

theorem mem_ipv4Only {addresses : List Address} {a : IPv4} :
    a ∈ ipv4Only addresses ↔ .v4 a ∈ addresses := by
  rw [ipv4Only, List.mem_filterMap]
  constructor
  · rintro ⟨b, hb, ha⟩
    cases b with
    | v4 b =>
      cases ha
      exact hb
    | v6 b => cases ha
  · intro ha
    exact ⟨.v4 a, ha, rfl⟩

/-- All pairs lie together just when all have the same first bits. -/
theorem sameSubnet_iff (addresses : List Address) :
    sameSubnet addresses = true ↔
      ∀ a ∈ ipv4Only addresses, ∀ b ∈ ipv4Only addresses, b.front = a.front := by
  simp only [sameSubnet, List.all_eq_true, List.mem_map, forall_exists_index, and_imp,
    forall_apply_eq_imp_iff₂, neighbourhood_contains]

theorem sameSubnet_iff_v4 (addresses : List Address) :
    sameSubnet addresses = true ↔
      ∀ a b, .v4 a ∈ addresses → .v4 b ∈ addresses → b.front = a.front := by
  simp only [sameSubnet_iff, mem_ipv4Only]
  exact ⟨fun h a b ha hb => h a ha b hb, fun h a ha b hb => h a b ha hb⟩

def Address.isFour : Address → Bool
  | v4 _ => true
  | v6 _ => false

theorem map_ipv4Only (addresses : List Address) :
    (ipv4Only addresses).map .v4 = addresses.filter Address.isFour := by
  induction addresses with
  | nil => rfl
  | cons a rest ih =>
    cases a with
    | v4 a => exact congrArg (Address.v4 a :: ·) ih
    | v6 a => exact ih

theorem two_le_length_ipv4Only (addresses : List Address) :
    2 ≤ (ipv4Only addresses).length ↔ ∃ a b, [Address.v4 a, .v4 b].Sublist addresses := by
  have hmap := map_ipv4Only addresses
  constructor
  · intro hmany
    match hfour : ipv4Only addresses with
    | [] | [_] =>
      rw [hfour] at hmany
      simp at hmany
    | a :: b :: rest =>
      rw [hfour] at hmap
      have hfront : [Address.v4 a, .v4 b].Sublist (addresses.filter Address.isFour) := by
        rw [← hmap]
        exact (List.sublist_append_left [Address.v4 a, .v4 b] _)
      exact ⟨a, b, hfront.trans List.filter_sublist⟩
  · rintro ⟨a, b, hpair⟩
    have hlength := (hpair.filter Address.isFour).length_le
    rw [← hmap, List.length_map] at hlength
    exact hlength

end Net

namespace Topology

theorem mem_insertNumber {n m : Int} {ns : List Int} : m ∈ insertNumber n ns ↔ m = n ∨ m ∈ ns := by
  induction ns with
  | nil => simp [insertNumber]
  | cons k rest ih =>
    rw [insertNumber]
    split
    · simp
    · split
      next he =>
        rw [beq_iff_eq] at he
        simp [he]
      next => simp only [List.mem_cons, ih, or_left_comm]

theorem insertNumber_ascending {n : Int} {ns : List Int} (h : ns.Pairwise (· < ·)) :
    (insertNumber n ns).Pairwise (· < ·) := by
  induction ns with
  | nil => simp [insertNumber]
  | cons k rest ih =>
    obtain ⟨hk, hrest⟩ := List.pairwise_cons.mp h
    rw [insertNumber]
    split
    next hlt =>
      refine List.pairwise_cons.mpr ⟨?_, h⟩
      intro m hm
      rcases List.mem_cons.mp hm with rfl | hm
      · exact hlt
      · exact Int.lt_trans hlt (hk m hm)
    next hlt =>
      split
      · exact h
      next hne =>
        refine List.pairwise_cons.mpr ⟨?_, ih hrest⟩
        intro m hm
        rcases mem_insertNumber.mp hm with rfl | hm
        · rw [beq_iff_eq] at hne
          omega
        · exact hk m hm

/-- The owner of an address is known, and this is the number of its network. -/
def Attributed (ns : Nameserver) (a : Net.Address) (asn : Int) : Prop :=
  ∃ o, ns.ownerOf? a = some o ∧ o.asn = some asn

theorem attributed_iff {ns : Nameserver} {a : Net.Address} {asn : Int} :
    (ns.ownerOf? a).bind Ownership.asn = some asn ↔ Attributed ns a asn := Option.bind_eq_some_iff

variable (nameservers : List Nameserver)

theorem mem_networks {x : Option Int} :
    x ∈ networks nameservers ↔
      ∃ ns ∈ nameservers, ∃ a ∈ ns.addresses, (ns.ownerOf? a).bind Ownership.asn = x := by
  simp [networks]

theorem mem_knownNetworks {asn : Int} :
    asn ∈ knownNetworks nameservers ↔
      ∃ ns ∈ nameservers, ∃ a ∈ ns.addresses, Attributed ns a asn := by
  have hfold : ∀ ns : List Int, asn ∈ ns.foldr insertNumber [] ↔ asn ∈ ns := by
    intro ns
    induction ns with
    | nil => rfl
    | cons n rest ih => rw [List.foldr_cons, mem_insertNumber, ih, List.mem_cons]
  rw [knownNetworks, hfold, List.mem_filterMap]
  simp only [id_eq, exists_eq_right, mem_networks, attributed_iff]

theorem knownNetworks_ascending : (knownNetworks nameservers).Pairwise (· < ·) := by
  rw [knownNetworks]
  induction (networks nameservers).filterMap id with
  | nil => exact .nil
  | cons n rest ih => exact insertNumber_ascending ih

theorem networks_eq_nil : networks nameservers = [] ↔ ∀ ns ∈ nameservers, ns.addresses = [] := by
  simp [networks]

theorem allKnown_iff :
    allKnown nameservers = true ↔ (∃ ns ∈ nameservers, ns.addresses ≠ []) ∧
      ∀ ns ∈ nameservers, ∀ a ∈ ns.addresses, ∃ asn, Attributed ns a asn := by
  rw [allKnown, Bool.and_eq_true, Bool.not_eq_true', List.isEmpty_eq_false_iff, ne_eq,
    networks_eq_nil, List.all_eq_true]
  refine and_congr ?_ ?_
  · simp only [not_forall, exists_prop, ne_eq]
  · constructor
    · intro h ns hns a ha
      obtain ⟨asn, hasn⟩ := Option.isSome_iff_exists.mp
        (h _ ((mem_networks nameservers).mpr ⟨ns, hns, a, ha, rfl⟩))
      exact ⟨asn, attributed_iff.mp hasn⟩
    · intro h x hx
      obtain ⟨ns, hns, a, ha, rfl⟩ := (mem_networks nameservers).mp hx
      obtain ⟨asn, hasn⟩ := h ns hns a ha
      rw [attributed_iff.mpr hasn]
      rfl

def published : List Net.Address := nameservers.flatMap Nameserver.addresses

/-- At least two addresses of version four occur, and all have the same first bits. -/
def OneSubnet : Prop :=
  (∃ a b, [Net.Address.v4 a, .v4 b].Sublist (published nameservers)) ∧
    ∀ a b, .v4 a ∈ published nameservers → .v4 b ∈ published nameservers → b.front = a.front

/-- There is an address, and all addresses are attributed to one network. -/
def OneNetwork (asn : Int) : Prop :=
  (∃ ns ∈ nameservers, ns.addresses ≠ []) ∧
    ∀ ns ∈ nameservers, ∀ a ∈ ns.addresses, Attributed ns a asn

/-- An ascending list without any other member than one holds it once. -/
theorem eq_singleton_iff {n : Int} {ns : List Int} (h : ns.Pairwise (· < ·)) :
    ns = [n] ↔ n ∈ ns ∧ ∀ m ∈ ns, m = n := by
  refine ⟨fun he => by simp [he], fun ⟨hmem, hall⟩ => ?_⟩
  match ns with
  | [] => cases hmem
  | [m] => rw [hall m (by simp)]
  | m :: k :: rest =>
    have hlt : m < k := (List.pairwise_cons.mp h).1 k (by simp)
    rw [hall m (by simp), hall k (by simp)] at hlt
    exact absurd hlt (Int.lt_irrefl n)

theorem oneNetwork_iff {asn : Int} :
    OneNetwork nameservers asn ↔
      knownNetworks nameservers = [asn] ∧ allKnown nameservers = true := by
  rw [eq_singleton_iff (knownNetworks_ascending nameservers), allKnown_iff]
  constructor
  · rintro ⟨⟨ns, hns, hne⟩, hall⟩
    obtain ⟨a, ha⟩ := List.exists_mem_of_ne_nil _ hne
    refine ⟨⟨(mem_knownNetworks nameservers).mpr ⟨ns, hns, a, ha, hall ns hns a ha⟩, ?_⟩,
      ⟨ns, hns, hne⟩, fun m hm b hb => ⟨asn, hall m hm b hb⟩⟩
    intro k hk
    obtain ⟨m, hm, b, hb, hk⟩ := (mem_knownNetworks nameservers).mp hk
    obtain ⟨o, ho, hasn⟩ := hall m hm b hb
    obtain ⟨o', ho', hk⟩ := hk
    rw [ho, Option.some_inj] at ho'
    rw [← ho', hasn, Option.some_inj] at hk
    exact hk.symm
  · rintro ⟨⟨-, honly⟩, hsome, hknown⟩
    refine ⟨hsome, fun ns hns a ha => ?_⟩
    obtain ⟨k, hk⟩ := hknown ns hns a ha
    have hkasn : k = asn := honly k ((mem_knownNetworks nameservers).mpr ⟨ns, hns, a, ha, hk⟩)
    exact hkasn ▸ hk

/-- What the addresses of one nameserver call for: a word that it has none, or one on each that is
private. -/
def own (zone : String) (ns : Nameserver) : List Finding :=
  if ns.addresses = [] then [noAddress zone ns]
  else (ns.addresses.filter fun a => decide a.Private).map (privateAddress zone ns)

theorem addressFindings_eq (zone : String) (ns : Nameserver) :
    addressFindings zone ns = own zone ns := by
  have hprivate : Net.Address.isPrivate = fun a => decide a.Private := by
    funext a
    rw [Bool.eq_iff_iff, a.isPrivate_iff, decide_eq_true_iff]
  rw [addressFindings, own, hprivate]
  simp only [List.isEmpty_iff]

/-- The findings that nameservers call for in their order, and what is observed of them: nothing of
one nameserver alone, and otherwise the addresses of version four and the networks known. -/
structure CalledFor (zone : String) (found : List Finding) (seen : List Observation) : Prop where
  alone : nameservers.length < 2 →
    found = nameservers.flatMap (own zone) ++ [singleNameserver zone nameservers] ∧ seen = []
  several : 2 ≤ nameservers.length → ∃ subnet network fours asns,
    found = nameservers.flatMap (own zone) ++ (subnet ++ network) ∧
    seen = [.ipv4Addresses fours, .asns asns] ∧
    fours.map .v4 = (published nameservers).filter Net.Address.isFour ∧
    (OneSubnet nameservers → subnet = [oneSubnet zone fours]) ∧
    (¬ OneSubnet nameservers → subnet = []) ∧
    (∀ asn, OneNetwork nameservers asn → network = [oneNetwork zone asn]) ∧
    ((∀ asn, ¬ OneNetwork nameservers asn) → network = []) ∧
    asns.Pairwise (· < ·) ∧
    ∀ asn, asn ∈ asns ↔ ∃ ns ∈ nameservers, ∃ a ∈ ns.addresses, Attributed ns a asn

theorem subnetFindings_of_oneSubnet (zone : String) (h : OneSubnet nameservers) :
    subnetFindings zone nameservers = [oneSubnet zone (Net.ipv4Only (published nameservers))] := by
  have hmany := (Net.two_le_length_ipv4Only _).mpr h.1
  have hsame := (Net.sameSubnet_iff_v4 _).mpr h.2
  rw [published] at hmany hsame
  simp [subnetFindings, hmany, hsame, published]

theorem subnetFindings_eq_nil (zone : String) (h : ¬ OneSubnet nameservers) :
    subnetFindings zone nameservers = [] := by
  unfold subnetFindings
  dsimp only
  split
  next hboth =>
    rw [Bool.and_eq_true, decide_eq_true_iff, Net.two_le_length_ipv4Only,
      Net.sameSubnet_iff_v4] at hboth
    exact absurd hboth h
  next => rfl

theorem networkFindings_of_oneNetwork (zone : String) {asn : Int} (h : OneNetwork nameservers asn) :
    networkFindings zone nameservers = [oneNetwork zone asn] := by
  obtain ⟨hknown, hall⟩ := (oneNetwork_iff nameservers).mp h
  simp [networkFindings, hknown, hall]

theorem networkFindings_eq_nil (zone : String) (h : ∀ asn, ¬ OneNetwork nameservers asn) :
    networkFindings zone nameservers = [] := by
  unfold networkFindings
  split
  next asn hknown =>
    rw [if_neg]
    exact fun hall => h asn ((oneNetwork_iff nameservers).mpr ⟨hknown, hall⟩)
  next => rfl

theorem findings_calledFor (zone : String) :
    CalledFor nameservers zone (findings zone nameservers) (Scan.localObservations nameservers) := by
  have hown : addressFindings zone = own zone := funext (addressFindings_eq zone)
  rw [findings, Scan.localObservations, hown]
  constructor
  · intro hfew
    rw [if_pos hfew, if_pos hfew]
    exact ⟨rfl, rfl⟩
  · intro hmany
    rw [if_neg (Nat.not_lt.mpr hmany), if_neg (Nat.not_lt.mpr hmany)]
    exact ⟨_, _, _, _, rfl, rfl, Net.map_ipv4Only _, subnetFindings_of_oneSubnet _ _,
      subnetFindings_eq_nil _ _,
      fun _ => networkFindings_of_oneNetwork _ _, networkFindings_eq_nil _ _,
      knownNetworks_ascending _, fun _ => mem_knownNetworks _⟩

/-- The local checks add to a report what its nameservers call for, in this order, and change nothing
else of it. -/
theorem checkTopology_checkAddresses (r : Report) :
    ∃ found seen, checkTopology (checkAddresses r) = r.grow seen found ∧
      CalledFor r.nameservers r.zone found seen := by
  refine ⟨_, _, ?_, findings_calledFor r.nameservers r.zone⟩
  unfold checkTopology checkAddresses findings Scan.localObservations
  by_cases hfew : r.nameservers.length < 2
  · simp [hfew, Report.add, Report.addAll, Report.grow]
  · simp [hfew, Report.addAll, Report.observe, Report.grow, Report.addresses]

/-- Two nameservers next to each other in a private block, and a third address of version six, all in one
network. -/
def sideBySide : Report :=
  let owner : Ownership := ⟨none, some 64496, none, none⟩
  { Report.start "example.com" "8.8.8.8" "com." with
    nameservers := [
      ⟨"a.", [.v4 (.ofNat 0xC0A80001)], [("192.168.0.1", owner)]⟩,
      ⟨"b.", [.v4 (.ofNat 0xC0A800FF), .v6 ⟨1, none⟩], [("192.168.0.255", owner), ("::1", owner)]⟩] }

/-- A nameserver without an address. -/
def nowhere : Report :=
  { Report.start "example.com" "8.8.8.8" "com." with nameservers := [⟨"a.", [], []⟩] }

/-- What is found of them, by its codes. -/
theorem checkTopology_checkAddresses_sideBySide :
    (∃ found seen, checkTopology (checkAddresses sideBySide) = sideBySide.grow seen found ∧
      CalledFor sideBySide.nameservers "example.com" found seen ∧
      found.map (fun f => (f.issue.text, f.severity.text, f.server)) = [
        ("PRIVATE_ADDRESS", "high", some "a."), ("PRIVATE_ADDRESS", "high", some "b."),
        ("SAME_SUBNET", "high", none), ("SINGLE_ASN", "low", none)]) ∧
    ∃ found seen, checkTopology (checkAddresses nowhere) = nowhere.grow seen found ∧
      CalledFor nowhere.nameservers "example.com" found seen ∧
      found.map (fun f => (f.issue.text, f.severity.text, f.server)) =
        [("NS_NO_ADDRESS", "medium", some "a."), ("SINGLE_NAMESERVER", "high", none)] := by
  have hfound : ∀ {r : Report} {seen found}, r.findings = [] →
      checkTopology (checkAddresses r) = r.grow seen found →
        found = (checkTopology (checkAddresses r)).findings := by
    intro r seen found hnone hr
    rw [hr, Report.grow, hnone, List.nil_append]
  constructor
  · obtain ⟨found, seen, hr, hcalled⟩ := checkTopology_checkAddresses sideBySide
    refine ⟨found, seen, hr, hcalled, ?_⟩
    rw [hfound rfl hr]
    decide +kernel
  · obtain ⟨found, seen, hr, hcalled⟩ := checkTopology_checkAddresses nowhere
    refine ⟨found, seen, hr, hcalled, ?_⟩
    rw [hfound rfl hr]
    decide +kernel

end Topology

end DelegationAudit
