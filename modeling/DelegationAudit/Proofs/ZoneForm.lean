import DelegationAudit.Proofs.CodePoints
import DelegationAudit.Zone
import Mathlib.Data.List.DropRight

namespace DelegationAudit

namespace Text

theorem isBlank_cases {c : Char} (h : isBlank c = true) : c.toNat < 45 ∨ c.toNat ∈ Idna.wideBlanks := by
  simp only [isBlank, Bool.or_eq_true, Bool.and_eq_true, decide_eq_true_eq, beq_iff_eq] at h
  simp only [Idna.wideBlanks, List.mem_cons, List.not_mem_nil, or_false]
  omega

/-- A code point that no other character becomes when letters are made small. -/
def Unmade (n : Nat) : Prop := n < 97 ∨ n ∈ Idna.wideBlanks

theorem unmade_of_isBlank {c : Char} (h : isBlank c = true) : Unmade c.toNat :=
  (isBlank_cases h).imp_left (by omega)

instance : DecidablePred Unmade := fun n => inferInstanceAs (Decidable (n < 97 ∨ n ∈ Idna.wideBlanks))

theorem ShiftMap.moveBy_mono (move : Nat) {m n : Nat} (h : m ≤ n) : moveBy m move ≤ moveBy n move := by
  unfold moveBy
  split <;> omega

/-- Whether a run of a table moves to characters, and to none that is not made. -/
def makesLetters (r : Nat × Nat × Nat × Nat) : Bool :=
  let low := ShiftMap.moveBy r.1 r.2.2.2
  let high := ShiftMap.moveBy r.2.1 r.2.2.2
  97 ≤ low && (high < 0xD800 || (0xDFFF < low && high < 0x110000)) &&
    Idna.wideBlanks.all fun w => high < w || w < low

theorem makesLetters_moveBy {r : Nat × Nat × Nat × Nat} (h : makesLetters r = true) {n : Nat}
    (hle : r.1 ≤ n) (hge : n ≤ r.2.1) :
    ¬ Unmade (ShiftMap.moveBy n r.2.2.2) ∧ (ShiftMap.moveBy n r.2.2.2).isValidChar := by
  have hlow := ShiftMap.moveBy_mono r.2.2.2 hle
  have hhigh := ShiftMap.moveBy_mono r.2.2.2 hge
  simp only [makesLetters, Bool.and_eq_true, Bool.or_eq_true, decide_eq_true_eq, List.all_eq_true] at h
  obtain ⟨⟨hsign, hvalid⟩, hblanks⟩ := h
  constructor
  · rintro (hs | hb)
    · omega
    · have hbetween := hblanks _ hb
      omega
  · rw [Nat.isValidChar]
    omega

theorem lowerTable_made {n m : Nat} (h : lowerTable.find? n = some m) : ¬ Unmade m ∧ m.isValidChar := by
  have hruns : ∀ chars, ((ShiftMap.build 0 (numbersFrom 0 chars)).all makesLetters) = true →
      (((ShiftMap.build 0 (numbersFrom 0 chars)).find?
        fun r => r.1 ≤ n && n ≤ r.2.1 && (n - r.1) % r.2.2.1 == 0).map
        fun r => ShiftMap.moveBy n r.2.2.2) = some m → ¬ Unmade m ∧ m.isValidChar := by
    intro chars hall hfind
    obtain ⟨r, hr, rfl⟩ := Option.map_eq_some_iff.mp hfind
    have hin := List.find?_some hr
    simp only [Bool.and_eq_true, decide_eq_true_eq] at hin
    exact makesLetters_moveBy (List.all_eq_true.mp hall r (List.mem_of_find?_eq_some hr)) hin.1.1 hin.1.2
  unfold lowerTable at h
  rw [ShiftMap.find?, ShiftMap.ofLines, List.find?_toArray, Lines.unpack_eq (by repeat' constructor)] at h
  exact hruns _ (by decide +kernel) h

theorem sigma_made (final : Bool) : ¬ Unmade (Char.ofNat (if final then 0x3C2 else 0x3C3)).toNat := by
  cases final <;> decide

theorem mem_lowerChar {c d : Char} (hd : Unmade d.toNat) (h : d ∈ lowerChar c) : d = c := by
  rw [lowerChar] at h
  split at h
  next hascii =>
    have hsmall : c.toLower = c ∨ ¬ Unmade c.toLower.toNat :=
      ascii_forall (P := fun c => c.toLower = c ∨ ¬ Unmade c.toLower.toNat) (by decide +kernel) hascii
    rw [List.mem_singleton] at h
    subst h
    exact hsmall.resolve_right (not_not_intro hd)
  next =>
    split at h
    next =>
      rcases List.mem_cons.mp h with rfl | h
      · exact absurd hd (by decide)
      · rw [List.mem_singleton] at h
        subst h
        exact absurd hd (by decide)
    next =>
      split at h
      next n hn =>
        obtain ⟨hmade, hvalid⟩ := lowerTable_made hn
        rw [List.mem_singleton] at h
        rw [h, toNat_ofNat_of_valid hvalid] at hd
        exact absurd hd hmade
      next => exact List.mem_singleton.mp h

theorem lowerChar_ne_nil (c : Char) : lowerChar c ≠ [] := by
  rw [lowerChar]
  repeat' split
  all_goals simp

theorem mem_lowerFrom {d : Char} (hd : Unmade d.toNat) {before s : List Char}
    (h : d ∈ lowerFrom before s) : d ∈ s := by
  induction s generalizing before with
  | nil => exact h
  | cons c cs ih =>
    rw [lowerFrom] at h
    rcases List.mem_append.mp h with h | h
    · split at h
      · rw [List.mem_singleton] at h
        subst h
        exact absurd hd (sigma_made _)
      · simp [mem_lowerChar hd h]
    · exact List.mem_cons_of_mem _ (ih h)

theorem head_lowerFrom {d : Char} (hd : Unmade d.toNat) {before s : List Char}
    (h : (lowerFrom before s).head? = some d) : s.head? = some d := by
  cases s with
  | nil => exact h
  | cons c cs =>
    rw [lowerFrom] at h
    split at h
    · rw [List.singleton_append, List.head?_cons, Option.some.injEq] at h
      subst h
      exact absurd hd (sigma_made _)
    · have hmem : d ∈ lowerChar c := by
        rw [List.head?_append_of_ne_nil _ (lowerChar_ne_nil c)] at h
        exact List.mem_of_mem_head? h
      rw [mem_lowerChar hd hmem]
      rfl

theorem lower_eq_self {s : List Char} (h : ∀ c ∈ s, c.toNat < 128 ∧ c.toLower = c) : lower s = s := by
  have hascii : isAscii s = true := isAscii_iff.mpr fun c hc => (h c hc).1
  have hself : s.map Char.toLower = s.map id := List.map_congr_left fun c hc => (h c hc).2
  rw [lower, lowerFrom_ascii [] s hascii, hself, List.map_id]

theorem dropEnd_eq_rdropWhile (p : Char → Bool) (s : List Char) : dropEnd p s = s.rdropWhile p := rfl

theorem dropEnd_eq_self {p : Char → Bool} {s : List Char} (h : ∀ c, s.getLast? = some c → p c = false) :
    dropEnd p s = s := by
  rw [dropEnd_eq_rdropWhile, List.rdropWhile_eq_self_iff]
  intro hne
  simp [h _ (List.getLast?_eq_some_getLast hne)]

theorem head_dropEnd {p : Char → Bool} {s : List Char} {c : Char} (h : (dropEnd p s).head? = some c) :
    s.head? = some c := by
  obtain ⟨tail, htail⟩ := List.rdropWhile_prefix p (l := s)
  rw [dropEnd_eq_rdropWhile] at h
  rw [← htail, List.head?_append, h]
  rfl

theorem dropEnd_cons {p : Char → Bool} {c : Char} (h : p c = false) (s : List Char) :
    ∃ rest, dropEnd p (c :: s) = c :: rest := by
  have hne : (c :: s).rdropWhile p ≠ [] := by
    rw [ne_eq, List.rdropWhile_eq_nil_iff]
    exact fun hall => by simp [hall c (by simp)] at h
  obtain ⟨d, rest, hcons⟩ := List.exists_cons_of_ne_nil hne
  have hprefix := List.rdropWhile_prefix p (c :: s)
  rw [hcons, List.cons_prefix_cons] at hprefix
  exact ⟨rest, by rw [dropEnd_eq_rdropWhile, hcons, hprefix.1]⟩

theorem head_trim {s : List Char} {c : Char} (h : (trim s).head? = some c) : isBlank c = false := by
  have hhead := head_dropEnd h
  have hnot := List.head?_dropWhile_not isBlank s
  rw [hhead] at hnot
  exact hnot

theorem last_dropEnd {p : Char → Bool} {s : List Char} {c : Char}
    (h : (dropEnd p s).getLast? = some c) : p c = false := by
  rw [dropEnd_eq_rdropWhile] at h
  have hne : s.rdropWhile p ≠ [] := by
    intro hnil
    rw [hnil] at h
    cases h
  have hnot := List.rdropWhile_last_not p s hne
  rw [List.getLast?_eq_some_getLast hne, Option.some.injEq] at h
  rw [← h]
  simpa using hnot

theorem last_trim {s : List Char} {c : Char} (h : (trim s).getLast? = some c) : isBlank c = false :=
  last_dropEnd h

theorem dropBlanks_eq_self {s : List Char} (h : ∀ c, s.head? = some c → isBlank c = false) :
    s.dropWhile isBlank = s := by
  cases s with
  | nil => rfl
  | cons c cs => rw [List.dropWhile_cons_of_neg (by simp [h c rfl])]

/-- A text that begins with no blank has blanks at its end only. -/
theorem exists_trim_append {s : List Char} (h : ∀ c, s.head? = some c → isBlank c = false) :
    ∃ tail, s = trim s ++ tail ∧ ∀ c ∈ tail, isBlank c = true := by
  refine ⟨s.rtakeWhile isBlank, ?_, fun c hc => List.mem_rtakeWhile_imp hc⟩
  rw [trim, trimBy, dropBlanks_eq_self h, dropEnd_eq_rdropWhile, List.rdropWhile_append_rtakeWhile]

theorem trim_eq_self {s : List Char} (hhead : ∀ c, s.head? = some c → isBlank c = false)
    (hlast : ∀ c, s.getLast? = some c → isBlank c = false) : trim s = s := by
  rw [trim, trimBy, dropBlanks_eq_self hhead, dropEnd_eq_self hlast]

theorem mem_trim {s : List Char} {c : Char} (h : c ∈ trim s) : c ∈ s :=
  (List.dropWhile_suffix isBlank).subset ((List.rdropWhile_prefix isBlank _).subset h)

end Text

namespace Zone

open Text

theorem head_normalizeChars {s : List Char} {c : Char} (h : (normalizeChars s).head? = some c) :
    isBlank c = false := by
  by_contra hblank
  have hblank : isBlank c = true := by simpa using hblank
  have hdropped := head_lowerFrom (unmade_of_isBlank hblank) h
  rw [head_trim (head_dropEnd hdropped)] at hblank
  cases hblank

theorem mem_normalizeChars {s : List Char} {c : Char} (hc : Unmade c.toNat)
    (h : c ∈ normalizeChars s) : c ∈ s :=
  mem_trim ((List.rdropWhile_prefix _ _).subset (mem_lowerFrom hc h))

theorem normalizeChars_hyphen (s : List Char) : ∃ rest, normalizeChars ('-' :: s) = '-' :: rest := by
  obtain ⟨t, ht⟩ := dropEnd_cons (p := isBlank) (c := '-') (by decide) s
  obtain ⟨u, hu⟩ := dropEnd_cons (p := (· == '.')) (c := '-') (by decide) t
  have htrim : trim ('-' :: s) = '-' :: t := by
    rw [trim, trimBy, dropBlanks_eq_self (by simp; decide), ht]
  exact ⟨lowerFrom ['-'] u, by rw [normalizeChars, htrim, hu]; rfl⟩

theorem normalizeChars_eq_self {s : List Char} (hsmall : ∀ c ∈ s, c.toNat < 128 ∧ c.toLower = c)
    (hhead : ∀ c, s.head? = some c → isBlank c = false)
    (hlast : ∀ c, s.getLast? = some c → isBlank c = false ∧ c ≠ '.') : normalizeChars s = s := by
  rw [normalizeChars, trim_eq_self hhead fun c hc => (hlast c hc).1,
    dropEnd_eq_self fun c hc => by simp [(hlast c hc).2], lower_eq_self hsmall]

end Zone

end DelegationAudit
