import DelegationAudit.Idna.Label
import Mathlib.Data.List.Basic

namespace DelegationAudit

namespace Text

theorem ascii_forall {P : Char → Prop} (h : ∀ n < 128, P (Char.ofNat n)) {c : Char}
    (hc : c.toNat < 128) : P c := by
  have := h c.toNat hc
  rwa [Char.ofNat_toNat] at this

theorem toNat_ofNat_of_valid {n : Nat} (h : n.isValidChar) : (Char.ofNat n).toNat = n := by
  rw [Char.ofNat, dif_pos h]
  rfl

/-- The numbers of a packed text, the first of which is under way. -/
def numbersFrom (sofar : Nat) : List Char → List Nat
  | [] => []
  | c :: cs =>
    if packedDigit c < 32 then (sofar * 32 + packedDigit c) :: numbersFrom 0 cs
    else numbersFrom (sofar * 32 + (packedDigit c - 32)) cs

theorem unpackStep_numbers (chars : List Char) (done : Array Nat) (sofar : Nat) :
    (chars.foldl unpackStep (done, sofar)).1.toList = done.toList ++ numbersFrom sofar chars := by
  induction chars generalizing done sofar with
  | nil => simp [numbersFrom]
  | cons c cs ih =>
    rw [List.foldl_cons, unpackStep, numbersFrom]
    dsimp only
    split
    · rw [ih]
      simp
    · rw [ih]

theorem unpack_eq (lines : List String) :
    unpack lines = numbersFrom 0 (lines.flatMap String.toList) := by
  have hfold : lines.foldl (fun st line => line.toList.foldl unpackStep st) (#[], 0) =
      (lines.flatMap String.toList).foldl unpackStep (#[], 0) := List.foldl_flatMap.symm
  rw [unpack, hfold, unpackStep_numbers]
  rfl

/-- Lines and their characters, one line after another. -/
inductive Lines : List String → List Char → Prop
  | nil : Lines [] []
  | cons (line : List Char) {lines : List String} {chars : List Char} (h : Lines lines chars) :
      Lines (String.ofList line :: lines) (line ++ chars)

theorem Lines.unpack_eq {lines : List String} {chars : List Char} (h : Lines lines chars) :
    unpack lines = numbersFrom 0 chars := by
  have hchars : lines.flatMap String.toList = chars := by
    induction h with
    | nil => rfl
    | cons line h ih => rw [List.flatMap_cons, String.toList_ofList, ih]
  rw [Text.unpack_eq, hchars]

theorem RangeSet.mem_ofLines (lines : List String) (n : Nat) :
    (ofLines lines).mem n = (build 0 (unpack lines)).any (fun r => r.1 ≤ n && n ≤ r.2) := by
  rw [mem, ofLines, List.any_toArray]

end Text

namespace Idna

open Text

/-- The least code point of the letters of ASCII, and of all signs that tables give a part in
compositions. -/
theorem pairTable_ge : ∀ r ∈ pairTable, 60 ≤ r.1 ∧ 60 ≤ r.2.1 ∧ 60 ≤ r.2.2 := by
  have h : ((pairsFrom 0 (unpack pairLines)).all fun r => 60 ≤ r.1 && 60 ≤ r.2.1 && 60 ≤ r.2.2) =
      true := by
    rw [Lines.unpack_eq (by unfold pairLines; repeat' constructor)]
    decide +kernel
  intro r hr
  have hr' := List.all_eq_true.mp h r (by simpa [pairTable] using hr)
  simp only [Bool.and_eq_true, decide_eq_true_eq] at hr'
  exact ⟨hr'.1.1, hr'.1.2, hr'.2⟩

theorem classTable_ge : ∀ r ∈ classTable, 60 ≤ r.1 := by
  have h : ((valuesFrom 0 (unpack classLines)).all fun r => 60 ≤ r.1) = true := by
    rw [Lines.unpack_eq (by unfold classLines; repeat' constructor)]
    decide +kernel
  intro r hr
  exact of_decide_eq_true (List.all_eq_true.mp h r (by simpa [classTable] using hr))

/-- The keys of a table with entries of different sizes; some numbers of an entry are yet to come. -/
def keysFrom (last : Nat) : Nat → List Nat → List Nat
  | skip + 1, _ :: rest => keysFrom last skip rest
  | 0, gap :: n :: rest => (last + gap) :: keysFrom (last + gap) n rest
  | _, _ => []

theorem keysFrom_drop (last skip : Nat) (codes : List Nat) :
    keysFrom last skip codes = keysFrom last 0 (codes.drop skip) := by
  induction skip generalizing codes with
  | zero => rfl
  | succ skip ih =>
    cases codes with
    | nil => rfl
    | cons n codes => exact ih codes

theorem entriesFrom_keys (last : Nat) (codes : List Nat) :
    (entriesFrom last codes).map Prod.fst = keysFrom last 0 codes := by
  fun_induction entriesFrom last codes with
  | case1 last gap n rest ih =>
    rw [List.map_cons, ih, keysFrom, keysFrom_drop _ n]
    rfl
  | case2 last codes h =>
    match codes with
    | [] => rfl
    | [_] => rfl
    | gap :: n :: rest => exact absurd rfl (h gap n rest)

theorem onewayTable_ge : ∀ e ∈ onewayTable, 60 ≤ e.1 := by
  have h : ((keysFrom 0 0 (unpack onewayLines)).all fun n => 60 ≤ n) = true := by
    rw [Lines.unpack_eq (by unfold onewayLines; repeat' constructor)]
    decide +kernel
  intro e he
  rw [← entriesFrom_keys] at h
  have hm : e ∈ entriesFrom 0 (unpack onewayLines) := by simpa [onewayTable] using he
  exact of_decide_eq_true (List.all_eq_true.mp h e.1 (List.mem_map_of_mem hm))

theorem keptTable_low {n : Nat} (h : n < 60) : keptTable.mem n = true := by
  have hfirst : ∀ chars, (RangeSet.build 0 (numbersFrom 0 chars)).head? = some (0, 64) →
      (RangeSet.build 0 (numbersFrom 0 chars)).any (fun r => r.1 ≤ n && n ≤ r.2) = true := by
    intro chars hhead
    rw [List.any_eq_true]
    refine ⟨(0, 64), List.mem_of_mem_head? hhead, ?_⟩
    simp only [Bool.and_eq_true, decide_eq_true_eq]
    omega
  unfold keptTable
  rw [RangeSet.mem_ofLines, Lines.unpack_eq (by repeat' constructor)]
  exact hfirst _ (by decide +kernel)

theorem allowedTable_low {n : Nat} (h : n < 45) : allowedTable.mem n = false := by
  have habove : ∀ chars, ((RangeSet.build 0 (numbersFrom 0 chars)).all fun r => 45 ≤ r.1) = true →
      (RangeSet.build 0 (numbersFrom 0 chars)).any (fun r => r.1 ≤ n && n ≤ r.2) = false := by
    intro chars hall
    rw [List.any_eq_false]
    intro r hr
    have hle := of_decide_eq_true (List.all_eq_true.mp hall r hr)
    simp only [Bool.and_eq_true, decide_eq_true_eq]
    omega
  unfold allowedTable
  rw [RangeSet.mem_ofLines, Lines.unpack_eq (by repeat' constructor)]
  exact habove _ (by decide +kernel)

def wideBlanks : List Nat :=
  [0x85, 0xA0, 0x1680, 0x2000, 0x2001, 0x2002, 0x2003, 0x2004, 0x2005, 0x2006, 0x2007, 0x2008, 0x2009,
    0x200A, 0x2028, 0x2029, 0x202F, 0x205F, 0x3000]

theorem keptTable_wide : ∀ n ∈ wideBlanks, keptTable.mem n = false := by
  have hpass : ∀ chars, ((RangeSet.build 0 (numbersFrom 0 chars)).all fun r =>
      wideBlanks.all fun n => n < r.1 || r.2 < n) = true → ∀ n ∈ wideBlanks,
      (RangeSet.build 0 (numbersFrom 0 chars)).any (fun r => r.1 ≤ n && n ≤ r.2) = false := by
    intro chars hall n hn
    rw [List.any_eq_false]
    intro r hr
    have hout := List.all_eq_true.mp (List.all_eq_true.mp hall r hr) n hn
    simp only [Bool.or_eq_true, Bool.and_eq_true, decide_eq_true_eq] at hout ⊢
    omega
  intro n hn
  unfold keptTable
  rw [RangeSet.mem_ofLines, Lines.unpack_eq (by repeat' constructor)]
  exact hpass _ (by decide +kernel) n hn

/-- Those of them that have no place in names at all. -/
def banned : List Nat := [0x85, 0x1680, 0x2028, 0x2029]

theorem movedTable_wide : ∀ n ∈ wideBlanks,
    movedTable.find? n = if n ∈ banned then none else some 32 := by
  unfold movedTable
  simp only [ShiftMap.ofLines, ShiftMap.find?, List.find?_toArray]
  rw [Lines.unpack_eq (by repeat' constructor)]
  decide +kernel

theorem droppedTable_banned : ∀ n ∈ banned, droppedTable.mem n = false := by
  unfold droppedTable
  simp only [RangeSet.mem_ofLines]
  rw [Lines.unpack_eq (by repeat' constructor)]
  decide +kernel

theorem expandedTable_banned {n : Nat} (hn : n ∈ banned) :
    expandedTable.find? (fun e => e.1 == n) = none := by
  have h : ((keysFrom 0 0 (unpack expandedLines)).all fun k => !banned.contains k) = true := by
    rw [Lines.unpack_eq (by unfold expandedLines; repeat' constructor)]
    decide +kernel
  rw [← entriesFrom_keys] at h
  rw [expandedTable, List.find?_toArray, List.find?_eq_none]
  intro e he
  rw [beq_iff_eq]
  rintro rfl
  have hk := List.all_eq_true.mp h e.1 (List.mem_map_of_mem he)
  simp [hn] at hk

/-- A code point is mapped to itself below 60. -/
theorem mapCode_low {n : Nat} (h : n < 60) : mapCode n = some [n] := by
  rw [mapCode, keptTable_low h]
  rfl

/-- White space is mapped to white space of ASCII, or not at all. -/
theorem mapCode_wide {n : Nat} (h : n ∈ wideBlanks) : mapCode n = none ∨ mapCode n = some [32] := by
  rw [mapCode, keptTable_wide n h, movedTable_wide n h]
  by_cases hb : n ∈ banned
  · rw [if_pos hb, droppedTable_banned n hb, expandedTable_banned hb]
    exact .inl rfl
  · rw [if_neg hb]
    exact .inr rfl

/-- Takes no part in compositions and goes before no mark. -/
structure Inert (n : Nat) : Prop where
  starter : classOf n = 0
  whole : decompose 8 n = [n]
  left : ∀ m, composePair n m = none
  right : ∀ m, composePair m n = none

theorem classOf_low {n : Nat} (h : n < 60) : classOf n = 0 := by
  have hnone : classTable.find? (fun r => r.1 ≤ n && n ≤ r.2.1) = none := by
    rw [Array.find?_eq_none]
    intro r hr
    have hle := classTable_ge r hr
    simp only [Bool.and_eq_true, decide_eq_true_eq]
    omega
  rw [classOf, hnone]
  rfl

theorem parts?_low {n : Nat} (h : n < 60) : parts? n = none := by
  have hpair : pairTable.find? (fun r => r.1 == n) = none := by
    rw [Array.find?_eq_none]
    intro r hr
    have hle := (pairTable_ge r hr).1
    rw [beq_iff_eq]
    omega
  have honeway : onewayTable.find? (fun e => e.1 == n) = none := by
    rw [Array.find?_eq_none]
    intro e he
    have hle := onewayTable_ge e he
    rw [beq_iff_eq]
    omega
  rw [parts?, hpair, honeway]
  rfl

theorem isSyllable_low {n : Nat} (h : n < 60) : isSyllable n = false := by
  simp only [isSyllable, Bool.and_eq_false_iff, decide_eq_false_iff_not]
  omega

theorem composePair_low {m n : Nat} (h : m < 60 ∨ n < 60) : composePair m n = none := by
  have hhangul : composeHangul m n = none := by
    have hhead : (0x1100 ≤ m && m < 0x1113 && 0x1161 ≤ n && n < 0x1176) = false := by
      simp only [Bool.and_eq_false_iff, decide_eq_false_iff_not]
      omega
    have htail : (isSyllable m && (m - 0xAC00) % 28 == 0 && 0x11A7 < n && n < 0x11C3) = false := by
      simp only [isSyllable, Bool.and_eq_false_iff, decide_eq_false_iff_not]
      omega
    rw [composeHangul, hhead, htail]
    rfl
  have hpair : pairTable.find? (fun r => r.2.1 == m && r.2.2 == n) = none := by
    rw [Array.find?_eq_none]
    intro r hr
    have hle := (pairTable_ge r hr).2
    simp only [Bool.and_eq_true, beq_iff_eq]
    omega
  rw [composePair, hhangul, hpair]
  rfl

theorem inert_low {n : Nat} (h : n < 60) : Inert n where
  starter := classOf_low h
  whole := by rw [decompose, isSyllable_low h, parts?_low h]; rfl
  left _ := composePair_low (.inl h)
  right _ := composePair_low (.inr h)

end Idna

end DelegationAudit
