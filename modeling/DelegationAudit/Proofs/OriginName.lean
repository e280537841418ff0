import DelegationAudit.Ownership.Origin
import DelegationAudit.Proofs.Completion
import DelegationAudit.Proofs.NameText

namespace DelegationAudit

open Text

namespace Dns

/-- The octets of a text in ASCII. -/
def labelOf (s : List Char) : Label := s.map fun c => UInt8.ofNat c.toNat

theorem octetLabel_codes (s : List Char) : octetLabel (s.map Char.toNat) = .ok (labelOf s) := by
  simp [octetLabel, labelOf, Function.comp_def]

theorem wireSize_append (ls ms : List Label) :
    wireSize (ls ++ ms) + 1 = wireSize ls + wireSize ms := by
  induction ls with
  | nil => simp [wireSize]; omega
  | cons l ls ih =>
    simp only [List.cons_append, wireSize]
    omega

theorem wireSize_le {ls : List Label} {k : Nat} (h : ∀ l ∈ ls, l.length ≤ k) :
    wireSize ls ≤ ls.length * (k + 1) + 1 := by
  induction ls with
  | nil => simp [wireSize]
  | cons l ls ih =>
    have hl := h l (by simp)
    have hls := ih fun m hm => h m (by simp [hm])
    simp only [wireSize, List.length_cons, Nat.add_one_mul]
    omega

end Dns

namespace Ownership

/-- The part of the name that the address decides, label by label. -/
def originLabels : Net.Address → List (List Char)
  | .v4 a => a.octets.reverse.map Number.natText
  | .v6 a => (Net.digitsIn 16 32 a.value.toNat).reverse.map fun d => [hexDigit d]

/-- The zone that origins are published in, by the kind of address. -/
def publishedIn : Net.Address → List Char
  | .v4 _ => originZone
  | .v6 _ => origin6Zone

def originSuffix : Net.Address → List Dns.Label
  | .v4 _ => ["origin", "asn", "cymru", "com"].map fun s => Dns.labelOf s.toList
  | .v6 _ => ["origin6", "asn", "cymru", "com"].map fun s => Dns.labelOf s.toList

theorem originSuffix_bounds (a : Net.Address) :
    (∀ l ∈ originSuffix a, 1 ≤ l.length ∧ l.length ≤ 63) ∧ Dns.wireSize (originSuffix a) ≤ 24 := by
  cases a <;> dsimp only [originSuffix] <;> decide

theorem publishedIn_ascii (a : Net.Address) : ∀ c ∈ publishedIn a, c.toNat < 128 := by
  have hall : isAscii (publishedIn a) = true := by
    cases a <;> dsimp only [publishedIn] <;> decide +kernel
  exact isAscii_iff.mp hall

theorem labelCodes_publishedIn (a : Net.Address) :
    Dns.labelCodes [] (Dns.pieces Dns.isDot (publishedIn a)) =
      some ((originSuffix a).map (List.map UInt8.toNat)) := by
  cases a <;> dsimp only [publishedIn, originSuffix] <;> decide +kernel

/-- A label of such a name is short and has nothing in it that names give a meaning. -/
structure PlainLabel (s : List Char) : Prop where
  pos : 1 ≤ s.length
  short : s.length ≤ 3
  plain : ∀ c ∈ s, c.toNat < 128 ∧ c ≠ '\\' ∧ Dns.isDot c = false

theorem natText_plainLabel {n : Nat} (h : n < 256) : PlainLabel (Number.natText n) where
  pos := Nat.length_toDigits_pos
  short := (Nat.length_toDigits_le_iff (by decide) (by decide)).mpr (by omega)
  plain := by
    have all : ∀ n < 256, ((Number.natText n).all fun c =>
        c.toNat < 128 && c != '\\' && !Dns.isDot c) = true := by decide +kernel
    simpa [and_assoc] using all n h

theorem hexDigit_plainLabel {d : Nat} (h : d < 16) : PlainLabel [hexDigit d] where
  pos := Nat.le_refl 1
  short := by simp
  plain c hc := by
    have all : ∀ d < 16, (hexDigit d).toNat < 128 ∧ hexDigit d ≠ '\\' ∧
        Dns.isDot (hexDigit d) = false := by decide
    rw [List.mem_singleton] at hc
    rw [hc]
    exact all d h

theorem originLabels_plain (a : Net.Address) : ∀ s ∈ originLabels a, PlainLabel s := by
  intro s hs
  cases a with
  | v4 a =>
    obtain ⟨n, hn, rfl⟩ := List.mem_map.mp hs
    exact natText_plainLabel (Net.mem_digitsIn (by decide) (List.mem_reverse.mp hn))
  | v6 a =>
    obtain ⟨d, hd, rfl⟩ := List.mem_map.mp hs
    exact hexDigit_plainLabel (Net.mem_digitsIn (by decide) (List.mem_reverse.mp hd))

theorem originLabels_size (a : Net.Address) :
    Dns.wireSize ((originLabels a).map Dns.labelOf) ≤ 65 := by
  cases a with
  | v4 a =>
    have hle : ∀ l ∈ (originLabels (.v4 a)).map Dns.labelOf, l.length ≤ 3 := by
      intro l hl
      obtain ⟨s, hs, rfl⟩ := List.mem_map.mp hl
      rw [Dns.labelOf, List.length_map]
      exact (originLabels_plain _ s hs).short
    have hsize := Dns.wireSize_le hle
    simp only [originLabels, Net.IPv4.octets, List.length_map, List.length_reverse,
      Net.digitsIn_length] at hsize ⊢
    omega
  | v6 a =>
    have hle : ∀ l ∈ (originLabels (.v6 a)).map Dns.labelOf, l.length ≤ 1 := by
      intro l hl
      obtain ⟨s, hs, rfl⟩ := List.mem_map.mp hl
      obtain ⟨d, -, rfl⟩ := List.mem_map.mp hs
      exact Nat.le_refl 1
    have hsize := Dns.wireSize_le hle
    simp only [originLabels, List.length_map, List.length_reverse, Net.digitsIn_length] at hsize ⊢
    omega

/-- The name that holds what is known of the origin of an address. -/
def originOf (a : Net.Address) : Dns.Name where
  labels := (originLabels a).map Dns.labelOf ++ originSuffix a
  label_bounds l hl := by
    rcases List.mem_append.mp hl with hl | hl
    · obtain ⟨s, hs, rfl⟩ := List.mem_map.mp hl
      have hp := originLabels_plain a s hs
      rw [Dns.labelOf, List.length_map]
      exact ⟨hp.pos, Nat.le_trans hp.short (by decide)⟩
    · exact (originSuffix_bounds a).1 l hl
  size_le := by
    have happend := Dns.wireSize_append ((originLabels a).map Dns.labelOf) (originSuffix a)
    have hlabels := originLabels_size a
    have hsuffix := (originSuffix_bounds a).2
    omega

theorem originName_eq {a : Net.Address} (h : a.Unzoned) :
    originName a = .ok (String.ofList (joinWith ['.'] (originLabels a ++ [publishedIn a]))) := by
  cases a with
  | v4 a => rfl
  | v6 a =>
    have hz : a.zone = none := h
    rw [originName, hz]
    rfl

theorem read_originName {a : Net.Address} {s : String} (ha : a.Unzoned) (h : originName a = .ok s) :
    Dns.Name.read s = .ok (originOf a) := by
  rw [originName_eq ha] at h
  cases h
  have hplain := originLabels_plain a
  have hlabels : ∀ s ∈ originLabels a, s ≠ [] ∧ ∀ c ∈ s, c ≠ '\\' ∧ Dns.isDot c = false :=
    fun s hs => ⟨List.ne_nil_of_length_pos (hplain s hs).pos, fun c hc => ((hplain s hs).plain c hc).2⟩
  have hcodes := Dns.labelCodes_joinWith Dns.isDot_stops (publishedIn a) hlabels
  rw [labelCodes_publishedIn, Option.map_some] at hcodes
  have hascii : isAscii (joinWith ['.'] (originLabels a ++ [publishedIn a])) = true := by
    rw [isAscii_iff]
    intro c hc
    rcases mem_joinWith hc with rfl | ⟨s, hs, hc⟩
    · decide
    · rcases List.mem_append.mp hs with hs | hs
      · exact ((hplain s hs).plain c hc).1
      · rw [List.mem_singleton] at hs
        exact publishedIn_ascii a c (hs ▸ hc)
  have hlength : 2 ≤ (publishedIn a).length := by
    cases a <;> dsimp only [publishedIn] <;> decide
  rw [Dns.Name.read, String.toList_ofList, Dns.Name.readChars, hascii, if_pos rfl, Dns.Name.readOctets,
    Dns.readLabels_eq_ok]
  refine .inr ⟨Dns.standsForRoot_of_length ?_, _, hcodes, ?_⟩
  · exact Nat.le_trans hlength (suffix_joinWith ['.'] (originLabels a) (publishedIn a)).length_le
  · apply List.rel_append
    · rw [List.forall₂_map_left_iff, List.forall₂_map_right_iff, List.forall₂_same]
      exact fun s _ => Dns.octetLabel_codes s
    · rw [List.forall₂_map_left_iff, List.forall₂_same]
      exact fun l _ => Dns.Name.octetLabel_toNat l

end Ownership

end DelegationAudit
