import DelegationAudit.Number.Reading
import DelegationAudit.Proofs.AddressText
import DelegationAudit.Proofs.ZoneForm

namespace DelegationAudit

namespace Text

theorem trimBy_eq_self {p : Char → Bool} {s : List Char} (h : ∀ c ∈ s, p c = false) : trimBy p s = s := by
  have hfront : s.dropWhile p = s := by
    rw [List.dropWhile_eq_self_iff]
    intro hpos
    rw [h _ (List.getElem_mem hpos)]
    exact Bool.false_ne_true
  rw [trimBy, hfront]
  exact dropEnd_eq_self fun c hc => h c (List.mem_of_getLast? hc)

theorem not_isBlank_of_mem_words {s word : List Char} (h : word ∈ words s) :
    ∀ c ∈ word, isBlank c = false :=
  not_mem_of_mem_fields (List.mem_of_mem_filter h)

end Text

namespace Number

open Text

/-- Digits of any script, single underscores between them, with their values. -/
inductive Grouped : List Char → List Nat → Prop
  | last {c : Char} {d : Nat} (hc : decimalValue? c = some d) : Grouped [c] [d]
  | next {c : Char} {d : Nat} {s : List Char} {ds : List Nat} (hc : decimalValue? c = some d)
      (h : Grouped s ds) : Grouped (c :: s) (d :: ds)
  | under {c : Char} {d : Nat} {s : List Char} {ds : List Nat} (hc : decimalValue? c = some d)
      (h : Grouped s ds) : Grouped (c :: '_' :: s) (d :: ds)

/-- A sign or none before the digits, of which there are not too many. -/
inductive Numeral : List Char → Int → Prop
  | unsigned {s : List Char} {ds : List Nat} (h : Grouped s ds) (hfew : ds.length ≤ maxDigits) :
      Numeral s (ofDigits ds)
  | plus {s : List Char} {ds : List Nat} (h : Grouped s ds) (hfew : ds.length ≤ maxDigits) :
      Numeral ('+' :: s) (ofDigits ds)
  | minus {s : List Char} {ds : List Nat} (h : Grouped s ds) (hfew : ds.length ≤ maxDigits) :
      Numeral ('-' :: s) (-(ofDigits ds : Int))

theorem decimalValue?_mark : decimalValue? '_' = none ∧ decimalValue? '+' = none ∧
    decimalValue? '-' = none := by decide

theorem Grouped.head {s : List Char} {ds : List Nat} (h : Grouped s ds) :
    ∃ c rest d, s = c :: rest ∧ decimalValue? c = some d := by
  cases h with
  | last hc => exact ⟨_, _, _, rfl, hc⟩
  | next hc _ => exact ⟨_, _, _, rfl, hc⟩
  | under hc _ => exact ⟨_, _, _, rfl, hc⟩

theorem Grouped.ne_nil {s : List Char} {ds : List Nat} (h : Grouped s ds) : s ≠ [] ∧ ds ≠ [] := by
  cases h <;> exact ⟨List.cons_ne_nil _ _, List.cons_ne_nil _ _⟩

theorem takeDigits_of_grouped {s : List Char} {ds : List Nat} (h : Grouped s ds) :
    takeDigits s = some (ds, []) := by
  induction h with
  | last hc => rw [takeDigits, hc]
  | next hc h ih =>
    obtain ⟨e, rest, f, rfl, he⟩ := h.head
    have hne : e = '_' → False := by
      rintro rfl
      rw [decimalValue?_mark.1] at he
      cases he
    rw [takeDigits.eq_6 _ _ _ hne, hc]
    dsimp only
    rw [ih]
    rfl
  | under hc h ih =>
    obtain ⟨e, rest, f, rfl, he⟩ := h.head
    rw [takeDigits.eq_5 _ _ _ _ hc, he, ih]
    rfl

theorem grouped_of_takeDigits {s : List Char} {ds : List Nat} (h : takeDigits s = some (ds, []))
    (hne : s ≠ []) : Grouped s ds := by
  fun_induction takeDigits s generalizing ds with
  | case1 => exact absurd rfl hne
  | case2 c d hc =>
    cases h
    exact .last hc
  | case9 c d e more hc he ih =>
    obtain ⟨⟨fs, rest⟩, hmore, heq⟩ := Option.map_eq_some_iff.mp h
    cases heq
    exact .under hc (ih hmore (List.cons_ne_nil _ _))
  | case10 c e rest he d hc ih =>
    obtain ⟨⟨fs, rest⟩, hmore, heq⟩ := Option.map_eq_some_iff.mp h
    cases heq
    exact .next hc (ih hmore (List.cons_ne_nil _ _))
  | _ => cases h

theorem Grouped.take {s : List Char} {ds : List Nat} (h : Grouped s ds) : Sign.take s = ⟨false, s⟩ := by
  obtain ⟨c, rest, d, rfl, hc⟩ := h.head
  rw [Sign.take.eq_3]
  · intro more heq
    rw [(List.cons.inj heq).1, decimalValue?_mark.2.2] at hc
    cases hc
  · intro more heq
    rw [(List.cons.inj heq).1, decimalValue?_mark.2.1] at hc
    cases hc

/-- A numeral is read sign first. -/
theorem numeral_iff {s : List Char} {n : Int} : Numeral s n ↔
    ∃ ds, Grouped (Sign.take s).rest ds ∧ ds.length ≤ maxDigits ∧
      n = applySign (Sign.take s).negative (ofDigits ds) := by
  constructor
  · intro h
    cases h with
    | unsigned h hfew =>
      rw [h.take]
      exact ⟨_, h, hfew, rfl⟩
    | plus h hfew => exact ⟨_, h, hfew, rfl⟩
    | minus h hfew => exact ⟨_, h, hfew, rfl⟩
  · rintro ⟨ds, h, hfew, rfl⟩
    rw [Sign.take.eq_def] at h ⊢
    split at h
    · exact .minus h hfew
    · exact .plus h hfew
    · exact .unsigned h hfew

/-- The lenient reading takes numerals, with white space around them, and nothing else. -/
theorem readInteger_eq_ok_iff {s : List Char} {n : Int} :
    readInteger s = .ok n ↔ Numeral (trimBy isPadding s) n := by
  rw [numeral_iff, readInteger]
  generalize Sign.take (trimBy isPadding s) = signed
  constructor
  · intro h
    split at h
    next => cases h
    next ds rest htake =>
      split_ifs at h with hempty hmany hrest
      cases h
      rw [List.isEmpty_iff] at hempty hrest
      rw [hrest] at htake
      have hne : signed.rest ≠ [] := by
        intro hnil
        rw [hnil, takeDigits] at htake
        cases htake
        exact hempty rfl
      exact ⟨ds, grouped_of_takeDigits htake hne, Nat.le_of_not_lt hmany, rfl⟩
  · rintro ⟨ds, h, hfew, rfl⟩
    rw [takeDigits_of_grouped h]
    dsimp only
    rw [if_neg (by simpa using h.ne_nil.2), if_neg (Nat.not_lt.mpr hfew), List.isEmpty_nil, if_pos rfl]

theorem readInteger_word {s word : List Char} (h : word ∈ words s) {n : Int} :
    readInteger word = .ok n ↔ Numeral word n := by
  rw [readInteger_eq_ok_iff, trimBy_eq_self]
  intro c hc
  rw [isPadding, not_isBlank_of_mem_words h c hc, Bool.false_and]

theorem decimalValue?_of_isDigit {c : Char} (h : c.isDigit = true) :
    decimalValue? c = some (c.toNat - 48) := by
  have hascii : c.toNat < 128 := by
    obtain ⟨-, hle⟩ := Bool.and_eq_true_iff.mp h
    exact Nat.lt_of_le_of_lt (of_decide_eq_true hle) (by decide)
  rw [decimalValue?, if_pos hascii, if_pos h]

theorem grouped_of_isDigit {s : List Char} (hne : s ≠ []) (h : ∀ c ∈ s, c.isDigit = true) :
    Grouped s (digitsOf s) := by
  induction s with
  | nil => exact absurd rfl hne
  | cons c s ih =>
    obtain ⟨hc, hs⟩ := List.forall_mem_cons.mp h
    cases s with
    | nil => exact .last (decimalValue?_of_isDigit hc)
    | cons d s => exact .next (decimalValue?_of_isDigit hc) (ih (List.cons_ne_nil d s) hs)

/-- In ASCII digits alone a number is written in decimal. -/
theorem numeral_iff_of_isDigit {s : List Char} (h : ∀ c ∈ s, c.isDigit = true) {n : Int} :
    Numeral s n ↔ s ≠ [] ∧ s.length ≤ maxDigits ∧ n = ofDigits (digitsOf s) := by
  have hlength : (digitsOf s).length = s.length := List.length_map _
  constructor
  · intro hn
    cases hn with
    | unsigned hs hfew =>
      have htake := takeDigits_of_grouped hs
      rw [takeDigits_of_grouped (grouped_of_isDigit hs.ne_nil.1 h)] at htake
      cases htake
      exact ⟨hs.ne_nil.1, hlength ▸ hfew, rfl⟩
    | plus _ _ => exact absurd (h '+' List.mem_cons_self) (by decide)
    | minus _ _ => exact absurd (h '-' List.mem_cons_self) (by decide)
  · rintro ⟨hne, hfew, rfl⟩
    exact .unsigned (grouped_of_isDigit hne h) (hlength.trans_le hfew)

end Number

end DelegationAudit
