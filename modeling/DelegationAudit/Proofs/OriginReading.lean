import DelegationAudit.Proofs.HostGrammar
import DelegationAudit.Proofs.OriginName
import DelegationAudit.Proofs.RecordText

namespace DelegationAudit.Ownership

open Text Zone

/-- How the origins of one kind of address are published: as so many digits in a base, one a label, under
a zone. -/
structure Publication where
  base : Nat
  count : Nat
  zone : List Dns.Label
  write : Nat → List Char
  read : List Char → Option Nat

namespace Publication

/-- Octets in decimal. -/
def octets : Publication where
  base := 256
  count := 4
  zone := ["origin", "asn", "cymru", "com"].map fun s => Dns.labelOf s.toList
  write := Number.natText
  read s := (Net.readOctet s).toOption

def hexDigit? : List Char → Option Nat
  | [c] => hexValue? c
  | _ => none

/-- Half octets as single hexadecimal digits. -/
def nibbles : Publication where
  base := 16
  count := 32
  zone := ["origin6", "asn", "cymru", "com"].map fun s => Dns.labelOf s.toList
  write d := [hexDigit d]
  read := hexDigit?

/-- A name of digits, one a label, in front of the zone. -/
def Spells (p : Publication) (n : Dns.Name) : Prop :=
  ∃ digits : List Nat, digits.length = p.count ∧ (∀ d ∈ digits, d < p.base) ∧
    n.labels = digits.map (fun d => Dns.labelOf (p.write d)) ++ p.zone

/-- The number that the labels in front of the zone come to, read from the last to the first. -/
def number? (p : Publication) (n : Dns.Name) : Option Nat :=
  if n.labels.drop p.count = p.zone then
    ((n.labels.take p.count).reverse.mapM fun l => p.read (octetChars l)).map (Net.fromDigits p.base)
  else none

/-- Every digit is written in small letters of ASCII and reads back. -/
structure Faithful (p : Publication) : Prop where
  back : ∀ d < p.base, p.read (p.write d) = some d
  ascii : ∀ d < p.base, ∀ c ∈ p.write d, c.toNat < 128
  small : ∀ d < p.base, Dns.lowerLabel (Dns.labelOf (p.write d)) = Dns.labelOf (p.write d)
  zone : p.zone.map Dns.lowerLabel = p.zone

variable {p : Publication}

theorem octets_faithful : octets.Faithful where
  back := by
    have all : ∀ d < 256, (Net.readOctet (Number.natText d)).toOption = some d := by decide +kernel
    exact all
  ascii d hd c hc := ((natText_plainLabel hd).plain c hc).1
  small := by
    have all : ∀ d < 256, Dns.lowerLabel (Dns.labelOf (Number.natText d)) =
        Dns.labelOf (Number.natText d) := by decide +kernel
    exact all
  zone := by decide +kernel

theorem nibbles_faithful : nibbles.Faithful where
  back := hexValue?_hexDigit
  ascii d hd c hc := ((hexDigit_plainLabel hd).plain c hc).1
  small := by
    have all : ∀ d < 16, Dns.lowerLabel (Dns.labelOf [hexDigit d]) = Dns.labelOf [hexDigit d] := by
      decide
    exact all
  zone := by decide +kernel

theorem mapM_write (hp : p.Faithful) {digits : List Nat} (h : ∀ d ∈ digits, d < p.base) :
    (digits.map fun d => Dns.labelOf (p.write d)).mapM (fun l => p.read (octetChars l)) =
      some digits := by
  induction digits with
  | nil => rfl
  | cons d digits ih =>
    obtain ⟨hd, hdigits⟩ := List.forall_mem_cons.mp h
    rw [List.map_cons, List.mapM_cons, octetChars_labelOf (hp.ascii d hd), hp.back d hd, ih hdigits]
    rfl

variable {k : Nat} {n : Dns.Name}
  (hlabels : n.labels =
    (Net.digitsIn p.base p.count k).reverse.map (fun d => Dns.labelOf (p.write d)) ++ p.zone)

include hlabels

theorem spells (hb : 0 < p.base) : p.Spells n :=
  ⟨(Net.digitsIn p.base p.count k).reverse, by rw [List.length_reverse, Net.digitsIn_length],
    fun _ hd => Net.mem_digitsIn hb (List.mem_reverse.mp hd), hlabels⟩

theorem number?_eq (hp : p.Faithful) (hb : 0 < p.base) (hk : k < Nat.pow p.base p.count) :
    p.number? n = some k := by
  have hcount : ((Net.digitsIn p.base p.count k).reverse.map fun d => Dns.labelOf (p.write d)).length =
      p.count := by
    rw [List.length_map, List.length_reverse, Net.digitsIn_length]
  have hdigits : ∀ d ∈ Net.digitsIn p.base p.count k, d < p.base := fun _ => Net.mem_digitsIn hb
  rw [number?, hlabels, List.drop_left' hcount, List.take_left' hcount, if_pos rfl,
    ← List.map_reverse, List.reverse_reverse,
    mapM_write hp hdigits, Option.map_some, Net.fromDigits_digitsIn _ _ _ hk]

theorem lowered_eq (hp : p.Faithful) (hb : 0 < p.base) : n.lowered = n := by
  apply Dns.Name.ext
  change n.labels.map Dns.lowerLabel = n.labels
  rw [hlabels, List.map_append, List.map_map, hp.zone]
  congr 1
  refine List.map_congr_left fun d hd => ?_
  exact hp.small d (Net.mem_digitsIn hb (List.mem_reverse.mp hd))

end Publication

def publication : Net.Address → Publication
  | .v4 _ => .octets
  | .v6 _ => .nibbles

def numberOf : Net.Address → Nat
  | .v4 a => a.value.toNat
  | .v6 a => a.value.toNat

theorem publication_faithful (a : Net.Address) : (publication a).Faithful := by
  cases a with
  | v4 a => exact Publication.octets_faithful
  | v6 a => exact Publication.nibbles_faithful

theorem publication_base_pos (a : Net.Address) : 0 < (publication a).base := by
  cases a with
  | v4 a => exact Nat.zero_lt_succ 255
  | v6 a => exact Nat.zero_lt_succ 15

theorem numberOf_lt (a : Net.Address) :
    numberOf a < Nat.pow (publication a).base (publication a).count := by
  cases a with
  | v4 a =>
    have hlt : a.value.toNat < Nat.pow 256 4 := a.value.isLt
    exact hlt
  | v6 a =>
    have hlt : a.value.toNat < Nat.pow 16 32 := a.value.isLt
    exact hlt

theorem labels_originOf (a : Net.Address) :
    (originOf a).labels =
      (Net.digitsIn (publication a).base (publication a).count (numberOf a)).reverse.map
        (fun d => Dns.labelOf ((publication a).write d)) ++ (publication a).zone := by
  rw [originOf]
  cases a with
  | v4 a =>
    dsimp only [originLabels]
    rw [List.map_map]
    rfl
  | v6 a =>
    dsimp only [originLabels]
    rw [List.map_map]
    rfl

theorem number?_originOf (a : Net.Address) :
    (publication a).number? (originOf a) = some (numberOf a) :=
  Publication.number?_eq (labels_originOf a) (publication_faithful a) (publication_base_pos a)
    (numberOf_lt a)

/-- The address whose origin is published under a name. -/
def publishedAt? (n : Dns.Name) : Option Net.Address :=
  ((Publication.octets.number? n).map fun k => .v4 (.ofNat k)).or
    ((Publication.nibbles.number? n).map fun k => .v6 ⟨BitVec.ofNat 128 k, none⟩)

theorem publishedAt?_originOf {a : Net.Address} (ha : a.Unzoned) : publishedAt? (originOf a) = some a := by
  cases a with
  | v4 a =>
    have hnumber : Publication.octets.number? (originOf (.v4 a)) = some a.value.toNat :=
      number?_originOf (.v4 a)
    rw [publishedAt?, hnumber, Option.map_some, Option.some_or, Net.IPv4.ofNat, BitVec.ofNat_toNat,
      BitVec.setWidth_eq]
  | v6 a =>
    have hnumber : Publication.nibbles.number? (originOf (.v6 a)) = some a.value.toNat :=
      number?_originOf (.v6 a)
    -- Behind four labels of such a name there are digits left, and no zone of four labels.
    have hother : Publication.octets.number? (originOf (.v6 a)) = none := by
      rw [Publication.number?, if_neg]
      intro hzone
      have hlength := congrArg List.length hzone
      rw [labels_originOf, List.length_drop, List.length_append, List.length_map, List.length_reverse,
        Net.digitsIn_length] at hlength
      simp [publication, Publication.nibbles, Publication.octets] at hlength
    obtain ⟨value, zone⟩ := a
    obtain rfl : zone = none := ha
    rw [publishedAt?, hother, hnumber, Option.map_none, Option.none_or, Option.map_some,
      BitVec.ofNat_toNat, BitVec.setWidth_eq]

theorem lowered_originOf (a : Net.Address) : (originOf a).lowered = originOf a :=
  Publication.lowered_eq (labels_originOf a) (publication_faithful a) (publication_base_pos a)

theorem endsInDot_originLabels (a : Net.Address) :
    Dns.endsInDot (joinWith ['.'] (originLabels a ++ [publishedIn a])) = true := by
  obtain ⟨front, hfront⟩ := suffix_joinWith ['.'] (originLabels a) (publishedIn a)
  have hlast : (publishedIn a).getLast? = some '.' := by
    cases a <;> dsimp only [publishedIn] <;> decide
  rw [Dns.endsInDot, ← hfront, List.getLast?_append, hlast, Option.some_or]
  rfl

/-- The origin of an address is published under an absolute name, which reads as four decimal octets or
thirty-two hexadecimal digits in front of the zone. Read from the last to the first these give the address
back, and no other address has a name that is the same but for the case of letters. -/
theorem originName_faithful {a : Net.Address} (ha : a.Unzoned) :
    ∃ text name, originName a = .ok text ∧ Dns.endsInDot text.toList = true ∧
      Dns.Name.read text = .ok name ∧ (publication a).Spells name ∧ publishedAt? name = some a ∧
      ∀ b text' name', b.Unzoned → originName b = .ok text' → Dns.Name.read text' = .ok name' →
        name.same name' = true → a = b := by
  have htext := originName_eq ha
  refine ⟨_, originOf a, htext, ?_, read_originName ha htext,
    Publication.spells (labels_originOf a) (publication_base_pos a), publishedAt?_originOf ha, ?_⟩
  · rw [String.toList_ofList]
    exact endsInDot_originLabels a
  · intro b text' name' hb htext' hname' hsame
    rw [read_originName hb htext'] at hname'
    cases hname'
    rw [Dns.Name.same_iff, lowered_originOf, lowered_originOf] at hsame
    have hread := publishedAt?_originOf ha
    rw [hsame, publishedAt?_originOf hb] at hread
    exact (Option.some.inj hread).symm

/-- An address with zeros at the front of most of its groups. -/
def mostlyZeros : Net.IPv6 := ⟨0x20010db8000000000000000000000001, none⟩

/-- None of its zeros is lost. -/
theorem originName_faithful_zeros :
    (Net.Address.v6 mostlyZeros).Unzoned ∧ ∃ name,
      originName (.v6 mostlyZeros) = .ok
        "1.0.0.0.0.0.0.0.0.0.0.0.0.0.0.0.0.0.0.0.0.0.0.0.8.b.d.0.1.0.0.2.origin6.asn.cymru.com." ∧
      Dns.Name.read
        "1.0.0.0.0.0.0.0.0.0.0.0.0.0.0.0.0.0.0.0.0.0.0.0.8.b.d.0.1.0.0.2.origin6.asn.cymru.com." =
        .ok name ∧
      Publication.nibbles.Spells name ∧ publishedAt? name = some (.v6 mostlyZeros) := by
  have hwritten : String.ofList (origin6Chars mostlyZeros) =
      "1.0.0.0.0.0.0.0.0.0.0.0.0.0.0.0.0.0.0.0.0.0.0.0.8.b.d.0.1.0.0.2.origin6.asn.cymru.com." := by
    decide +kernel
  have hname : originName (.v6 mostlyZeros) = .ok (String.ofList (origin6Chars mostlyZeros)) := rfl
  obtain ⟨text, name, htext, -, hread, hspells, hback, -⟩ :=
    originName_faithful (a := .v6 mostlyZeros) rfl
  rw [hname, hwritten] at htext
  cases htext
  exact ⟨rfl, name, hname.trans (congrArg Except.ok hwritten), hread, hspells, hback⟩

end DelegationAudit.Ownership
