import DelegationAudit.Dns.Name.Printer
import DelegationAudit.Dns.Name.Reader
import DelegationAudit.Proofs.AddressText
import Mathlib.Data.List.Forall2

namespace DelegationAudit.Dns

open Text

/-- A law of all octets can be tried on their numbers. -/
theorem octet_forall {P : Octet → Prop} (h : ∀ n < 256, P (UInt8.ofNat n)) (b : Octet) : P b := by
  have := h b.toNat b.toNat_lt
  rwa [UInt8.ofNat_toNat] at this

/-- Characters that may end labels, none of which has a part in escapes. -/
structure Stops (isStop : Char → Bool) : Prop where
  dot : isStop '.' = true
  backslash : isStop '\\' = false
  digit : ∀ c : Char, c.isDigit = true → isStop c = false

theorem isDot_stops : Stops isDot where
  dot := rfl
  backslash := rfl
  digit c hc := by
    rw [isDot, beq_eq_false_iff_ne]
    rintro rfl
    cases hc

theorem isFullStop_stops : Stops isFullStop where
  dot := rfl
  backslash := rfl
  digit c hc := by
    have hne : ∀ d : Char, d.isDigit = false → (c == d) = false := by
      intro d hd
      rw [beq_eq_false_iff_ne]
      rintro rfl
      rw [hc] at hd
      cases hd
    simp only [isFullStop, hne '.' rfl, hne '。' rfl, hne '．' rfl, hne '｡' rfl, Bool.or_self]

theorem escaped?_digits {a b c : Char} {n : Nat} (h : escaped? a b c = some n) :
    a.isDigit = true ∧ b.isDigit = true ∧ c.isDigit = true ∧ n ≤ 255 := by
  unfold escaped? at h
  dsimp only at h
  split at h
  next hd =>
    cases h
    simp only [List.all_cons, List.all_nil, Bool.and_true, Bool.and_eq_true, decide_eq_true_eq] at hd
    exact ⟨hd.1.1, hd.1.2.1, hd.1.2.2, hd.2⟩
  next => cases h

/-- A text without a broken escape, and its pieces. -/
inductive Spells (isStop : Char → Bool) : List Char → List Piece → Prop
  | nil : Spells isStop [] []
  | char {c : Char} {s : List Char} {ps : List Piece} (hc : c ≠ '\\') (h : Spells isStop s ps) :
      Spells isStop (c :: s) (piece isStop c :: ps)
  | quoted {a : Char} {s : List Char} {ps : List Piece} (ha : a.isDigit = false)
      (h : Spells isStop s ps) : Spells isStop ('\\' :: a :: s) (.code a.toNat :: ps)
  | number {a b c : Char} {n : Nat} {s : List Char} {ps : List Piece}
      (hn : escaped? a b c = some n) (h : Spells isStop s ps) :
      Spells isStop ('\\' :: a :: b :: c :: s) (.code n :: ps)

section Pieces

variable {isStop : Char → Bool}

theorem pieces_char {c : Char} (hc : c ≠ '\\') (s : List Char) :
    pieces isStop (c :: s) = piece isStop c :: pieces isStop s := by
  rw [pieces]
  all_goals
    intros
    contradiction

theorem pieces_dot (hs : Stops isStop) : pieces isStop ['.'] = [.separator] := by
  rw [pieces_char (by decide), piece, if_pos hs.dot]
  rfl

theorem pieces_quoted {a : Char} (ha : a.isDigit = false) (s : List Char) :
    pieces isStop ('\\' :: a :: s) = .code a.toNat :: pieces isStop s := by
  match s with
  | [] => simp [pieces, ha]
  | [b] => simp [pieces, ha]
  | b :: c :: rest => simp [pieces, ha]

theorem pieces_number {a b c : Char} {n : Nat} (hn : escaped? a b c = some n) (s : List Char) :
    pieces isStop ('\\' :: a :: b :: c :: s) = .code n :: pieces isStop s := by
  have ha := (escaped?_digits hn).1
  simp [pieces, ha, hn]

theorem Spells.pieces_eq {s : List Char} {ps : List Piece} (h : Spells isStop s ps) :
    pieces isStop s = ps := by
  induction h with
  | nil => rfl
  | char hc _ ih => rw [pieces_char hc, ih]
  | quoted ha _ ih => rw [pieces_quoted ha, ih]
  | number hn _ ih => rw [pieces_number hn, ih]

theorem spells_pieces {s : List Char} (h : Piece.broken ∉ pieces isStop s) :
    Spells isStop s (pieces isStop s) := by
  fun_induction pieces isStop s with
  | case1 => exact .nil
  | case2 a b c rest ha n hn ih => exact .number hn (ih (List.not_mem_of_not_mem_cons h))
  | case3 => simp at h
  | case4 a b c rest ha ih =>
    exact .quoted (by simpa using ha) (ih (List.not_mem_of_not_mem_cons h))
  | case5 => simp at h
  | case6 a rest hshort ha ih =>
    exact .quoted (by simpa using ha) (ih (List.not_mem_of_not_mem_cons h))
  | case7 => simp at h
  | case8 c rest h3 h2 h1 ih =>
    refine .char ?_ (ih (List.not_mem_of_not_mem_cons h))
    intro hc
    cases rest with
    | nil => exact h1 hc rfl
    | cons a rest => exact h2 a rest hc rfl

theorem Spells.append {s t : List Char} {ps qs : List Piece} (hs : Spells isStop s ps)
    (ht : Spells isStop t qs) : Spells isStop (s ++ t) (ps ++ qs) := by
  induction hs with
  | nil => exact ht
  | char hc _ ih => exact .char hc ih
  | quoted ha _ ih => exact .quoted ha ih
  | number hn _ ih => exact .number hn ih

theorem Spells.pieces_append {s : List Char} {ps : List Piece} (h : Spells isStop s ps)
    (t : List Char) : pieces isStop (s ++ t) = ps ++ pieces isStop t := by
  induction h with
  | nil => rfl
  | char hc _ ih => rw [List.cons_append, pieces_char hc, ih, List.cons_append]
  | quoted ha _ ih =>
    rw [List.cons_append, List.cons_append, pieces_quoted ha, ih, List.cons_append]
  | number hn _ ih =>
    rw [List.cons_append, List.cons_append, List.cons_append, List.cons_append, pieces_number hn, ih,
      List.cons_append]

/-- A text that goes on with a plain character is spelled, or it ends in the backslash of an escape
that takes this character. -/
theorem Spells.of_append_char {s : List Char} {c : Char} {ps : List Piece} (hc : c.isDigit = false)
    (h : Spells isStop (s ++ [c]) ps) :
    (∃ qs, Spells isStop s qs) ∨ ∃ t qs, s = t ++ ['\\'] ∧ Spells isStop t qs := by
  generalize hr : s ++ [c] = r at h
  induction h generalizing s with
  | nil => simp at hr
  | @char d r ps hd h ih =>
    cases s with
    | nil => exact .inl ⟨[], .nil⟩
    | cons e s =>
      obtain ⟨rfl, htail⟩ := List.cons.inj hr
      rcases ih htail with ⟨qs, hs⟩ | ⟨t, qs, rfl, ht⟩
      · exact .inl ⟨_, .char hd hs⟩
      · exact .inr ⟨e :: t, _, rfl, .char hd ht⟩
  | @quoted a r ps ha h ih =>
    match s, hr with
    | [], hr => simp at hr
    | [d], hr =>
      obtain ⟨rfl, -⟩ := List.cons.inj hr
      exact .inr ⟨[], [], rfl, .nil⟩
    | d :: e :: s, hr =>
      simp only [List.cons_append, List.cons.injEq] at hr
      obtain ⟨rfl, rfl, htail⟩ := hr
      rcases ih htail with ⟨qs, hs⟩ | ⟨t, qs, rfl, ht⟩
      · exact .inl ⟨_, .quoted ha hs⟩
      · exact .inr ⟨'\\' :: e :: t, _, rfl, .quoted ha ht⟩
  | @number x y z n r ps hn h ih =>
    match s, hr with
    | [], hr => simp at hr
    | [d], hr => simp at hr
    | [d, e], hr => simp at hr
    | [d, e, f], hr =>
      simp only [List.cons_append, List.nil_append, List.cons.injEq] at hr
      obtain ⟨-, -, -, rfl, -⟩ := hr
      have hz := (escaped?_digits hn).2.2.1
      rw [hc] at hz
      cases hz
    | d :: e :: f :: g :: s, hr =>
      simp only [List.cons_append, List.cons.injEq] at hr
      obtain ⟨rfl, rfl, rfl, rfl, htail⟩ := hr
      rcases ih htail with ⟨qs, hs⟩ | ⟨t, qs, rfl, ht⟩
      · exact .inl ⟨_, .number hn hs⟩
      · exact .inr ⟨'\\' :: e :: f :: g :: t, _, rfl, .number hn ht⟩

theorem pieces_plain {s : List Char} (h : '\\' ∉ s) :
    pieces isStop s = s.map (piece isStop) := by
  induction s with
  | nil => rfl
  | cons c s ih =>
    rw [List.mem_cons, not_or] at h
    rw [pieces_char (Ne.symm h.1), ih h.2, List.map_cons]

/-- A text that no character of which is special spells one label. -/
theorem spells_plain {s : List Char} (h : ∀ c ∈ s, c ≠ '\\' ∧ isStop c = false) :
    Spells isStop s (s.map fun c => .code c.toNat) := by
  induction s with
  | nil => exact .nil
  | cons c s ih =>
    obtain ⟨hc, hstop⟩ := h c (by simp)
    have hp : piece isStop c = .code c.toNat := by rw [piece, hstop]; rfl
    rw [List.map_cons, ← hp]
    exact .char hc (ih fun d hd => h d (by simp [hd]))

end Pieces

/-- The codes of each label that the pieces of a text fall into, behind those of a label that is under
way; nothing where an escape is broken or a label empty. -/
def labelCodes : List Nat → List Piece → Option (List (List Nat))
  | [], [] => some []
  | label, [] => some [label]
  | label, .code n :: rest => labelCodes (label ++ [n]) rest
  | _, .broken :: _ => none
  | [], .separator :: _ => none
  | label, .separator :: rest => (labelCodes [] rest).map (label :: ·)

@[simp] theorem labelCodes_nil : labelCodes [] [] = some [] := rfl

theorem labelCodes_end {label : List Nat} (h : label ≠ []) : labelCodes label [] = some [label] := by
  cases label with
  | nil => exact absurd rfl h
  | cons n label => rfl

@[simp] theorem labelCodes_code (label : List Nat) (n : Nat) (ps : List Piece) :
    labelCodes label (.code n :: ps) = labelCodes (label ++ [n]) ps := by
  cases label <;> rfl

theorem labelCodes_separator {label : List Nat} (h : label ≠ []) (ps : List Piece) :
    labelCodes label (.separator :: ps) = (labelCodes [] ps).map (label :: ·) := by
  cases label with
  | nil => exact absurd rfl h
  | cons n label => rfl

theorem labelCodes_codes (label codes : List Nat) (ps : List Piece) :
    labelCodes label (codes.map .code ++ ps) = labelCodes (label ++ codes) ps := by
  induction codes generalizing label with
  | nil => simp
  | cons n codes ih => simp [ih]

theorem not_broken_of_labelCodes {label : List Nat} {ps : List Piece} {gs : List (List Nat)}
    (h : labelCodes label ps = some gs) : Piece.broken ∉ ps := by
  fun_induction labelCodes label ps generalizing gs with
  | case1 => simp
  | case2 => simp
  | case3 label n rest ih => simpa using ih h
  | case4 => cases h
  | case5 => cases h
  | case6 label rest hne ih =>
    obtain ⟨hs, hr, -⟩ := Option.map_eq_some_iff.mp h
    simpa using ih hr

theorem labelCodes_joinWith {isStop : Char → Bool} (hs : Stops isStop) (tail : List Char)
    {texts : List (List Char)}
    (h : ∀ s ∈ texts, s ≠ [] ∧ ∀ c ∈ s, c ≠ '\\' ∧ isStop c = false) :
    labelCodes [] (pieces isStop (joinWith ['.'] (texts ++ [tail]))) =
      (labelCodes [] (pieces isStop tail)).map (texts.map (List.map Char.toNat) ++ ·) := by
  induction texts with
  | nil =>
    rw [List.nil_append, joinWith, List.map_nil]
    cases labelCodes [] (pieces isStop tail) <;> rfl
  | cons s texts ih =>
    obtain ⟨hne, hplain⟩ := h s (by simp)
    have hspells : Spells isStop s ((s.map Char.toNat).map .code) := by
      rw [List.map_map]
      exact spells_plain hplain
    have hdot : piece isStop '.' = .separator := by rw [piece, hs.dot]; rfl
    have hjoin : joinWith ['.'] (s :: texts ++ [tail]) =
        s ++ '.' :: joinWith ['.'] (texts ++ [tail]) := by
      cases texts <;> simp [joinWith]
    rw [hjoin, hspells.pieces_append, labelCodes_codes, List.nil_append, pieces_char (by decide), hdot,
      labelCodes_separator (by simpa using hne), ih fun t ht => h t (by simp [ht]), Option.map_map]
    rfl

theorem labelCodes_plain {isStop : Char → Bool} {s : List Char} (hne : s ≠ [])
    (h : ∀ c ∈ s, c ≠ '\\' ∧ isStop c = false) :
    labelCodes [] (pieces isStop s) = some [s.map Char.toNat] := by
  have hcodes := labelCodes_codes [] (s.map Char.toNat) []
  rw [List.append_nil, List.nil_append, List.map_map, labelCodes_end (by simpa using hne)] at hcodes
  rw [(spells_plain h).pieces_eq]
  exact hcodes

theorem labelCodes_ne_nil {label : List Nat} {ps : List Piece} {gs : List (List Nat)}
    (h : labelCodes label ps = some gs) (hne : label ≠ [] ∨ ps ≠ []) : gs ≠ [] := by
  fun_induction labelCodes label ps generalizing gs with
  | case1 => simp at hne
  | case2 => cases h; simp
  | case3 label n rest ih => exact ih h (.inl (by simp))
  | case4 => cases h
  | case5 => cases h
  | case6 label rest hnl ih =>
    obtain ⟨hs, -, rfl⟩ := Option.map_eq_some_iff.mp h
    simp

/-- After some pieces, what follows finds some labels complete and one under way, or it is too late. -/
theorem labelCodes_append (label : List Nat) (ps : List Piece) :
    (∀ qs, labelCodes label (ps ++ qs) = none) ∨
      ∃ whole last, ∀ qs, labelCodes label (ps ++ qs) = (labelCodes last qs).map (whole ++ ·) := by
  fun_induction labelCodes label ps with
  | case1 => exact .inr ⟨[], [], fun qs => by simp⟩
  | case2 label _ => exact .inr ⟨[], label, fun qs => by simp⟩
  | case3 label n rest ih =>
    simpa using ih
  | case4 label rest => exact .inl fun qs => by cases label <;> rfl
  | case5 rest => exact .inl fun qs => rfl
  | case6 label rest hne ih =>
    have hcons : ∀ qs, labelCodes label (.separator :: rest ++ qs) =
        (labelCodes [] (rest ++ qs)).map (label :: ·) := fun qs => labelCodes_separator hne _
    rcases ih with hlate | ⟨whole, last, hend⟩
    · exact .inl fun qs => by rw [hcons, hlate]; rfl
    · refine .inr ⟨label :: whole, last, fun qs => ?_⟩
      rw [hcons, hend, Option.map_map]
      rfl

/-- Pieces that can be gone on with find some labels complete and one under way. -/
theorem labelCodes_front {label : List Nat} {ps qs : List Piece} {gs : List (List Nat)}
    (h : labelCodes label (ps ++ qs) = some gs) :
    ∃ whole last, ∀ qs, labelCodes label (ps ++ qs) = (labelCodes last qs).map (whole ++ ·) := by
  refine (labelCodes_append label ps).resolve_left fun hlate => ?_
  rw [hlate] at h
  cases h

theorem mem_labelCodes {label : List Nat} {ps : List Piece} {gs : List (List Nat)}
    (h : labelCodes label ps = some gs) {g : List Nat} (hg : g ∈ gs) {n : Nat} (hn : n ∈ g) :
    n ∈ label ∨ .code n ∈ ps := by
  fun_induction labelCodes label ps generalizing gs with
  | case1 => cases h; simp at hg
  | case2 label _ =>
    cases h
    rw [List.mem_singleton] at hg
    exact .inl (hg ▸ hn)
  | case3 label m rest ih =>
    rcases ih h hg with hl | hr
    · rw [List.mem_append, List.mem_singleton] at hl
      rcases hl with hl | rfl
      · exact .inl hl
      · exact .inr (by simp)
    · exact .inr (List.mem_cons_of_mem _ hr)
  | case4 => cases h
  | case5 => cases h
  | case6 label rest hne ih =>
    obtain ⟨more, hmore, rfl⟩ := Option.map_eq_some_iff.mp h
    rcases List.mem_cons.mp hg with rfl | hg
    · exact .inl hn
    · rcases ih hmore hg with hl | hr
      · simp at hl
      · exact .inr (List.mem_cons_of_mem _ hr)

theorem head_labelCodes {n : Nat} {label : List Nat} {ps : List Piece} {gs : List (List Nat)}
    (h : labelCodes (n :: label) ps = some gs) : ∃ g rest, gs = (n :: g) :: rest := by
  induction ps generalizing label with
  | nil =>
    cases h
    exact ⟨label, [], rfl⟩
  | cons p ps ih =>
    cases p with
    | separator =>
      obtain ⟨more, -, rfl⟩ := Option.map_eq_some_iff.mp h
      exact ⟨label, more, rfl⟩
    | code m => exact ih h
    | broken => cases h

theorem forall₂_exists_left {α β : Type} {R : α → β → Prop} {as : List α} {bs : List β}
    (h : List.Forall₂ R as bs) {b : β} (hb : b ∈ bs) : ∃ a ∈ as, R a b := by
  induction h with
  | nil => simp at hb
  | cons hr _ ih =>
    rcases List.mem_cons.mp hb with rfl | hb
    · exact ⟨_, by simp, hr⟩
    · obtain ⟨a, ha, hab⟩ := ih hb
      exact ⟨a, by simp [ha], hab⟩

theorem map_eq_ok {ε α β : Type} {f : α → β} {x : Except ε α} {b : β} :
    x.map f = .ok b ↔ ∃ a, x = .ok a ∧ f a = b := by
  cases x with
  | error e => simp [Except.map]
  | ok a => simp [Except.map]

theorem map_eq_error {ε α β : Type} {f : α → β} {x : Except ε α} {e : ε} :
    x.map f = .error e ↔ x = .error e := by
  cases x with
  | error e' => simp [Except.map]
  | ok a => simp [Except.map]

/-- Grouping succeeds when the pieces fall into labels and each of these can be encoded. -/
theorem group_eq_ok {encode : List Nat → Except NameError Label} {label : List Nat} {ps : List Piece}
    {ls : List Label} : group encode label ps = .ok ls ↔
      ∃ gs, labelCodes label ps = some gs ∧ List.Forall₂ (fun g l => encode g = .ok l) gs ls := by
  fun_induction labelCodes label ps generalizing ls with
  | case1 => simp [group, eq_comm]
  | case2 label hne =>
    rw [group, map_eq_ok]
    · constructor
      · rintro ⟨l, hl, rfl⟩
        exact ⟨[label], rfl, .cons hl .nil⟩
      · rintro ⟨gs, hgs, hread⟩
        cases hgs
        cases hread with
        | cons hl hnil =>
          cases hnil
          exact ⟨_, hl, rfl⟩
    · exact hne
  | case3 label n rest ih =>
    rw [← ih]
    cases label <;> rfl
  | case4 label rest => cases label <;> simp [group]
  | case5 rest => simp [group]
  | case6 label rest hne ih =>
    rw [group]
    · constructor
      · intro h
        split at h
        next => cases h
        next l hl =>
          obtain ⟨more, hmore, rfl⟩ := map_eq_ok.mp h
          obtain ⟨gs, hgs, hread⟩ := ih.mp hmore
          exact ⟨label :: gs, by rw [hgs]; rfl, .cons hl hread⟩
      · rintro ⟨gs, hgs, hread⟩
        obtain ⟨rest', hrest, rfl⟩ := Option.map_eq_some_iff.mp hgs
        cases hread with
        | cons hl hmore =>
          rw [hl]
          exact map_eq_ok.mpr ⟨_, ih.mpr ⟨rest', hrest, hmore⟩, rfl⟩
    · exact hne

/-- The texts that are read as the root although a label could be meant. -/
def standsForRoot (isStop : Char → Bool) (s : List Char) : Bool :=
  s == ['@'] || match s with
    | [c] => isStop c
    | _ => false

theorem exists_of_standsForRoot {isStop : Char → Bool} {s : List Char} (h : standsForRoot isStop s = true) :
    ∃ c, s = [c] ∧ (c = '@' ∨ isStop c = true) := by
  rcases s with _ | ⟨c, _ | ⟨d, s⟩⟩
  · cases h
  · exact ⟨c, rfl, by simpa [standsForRoot] using h⟩
  · simp [standsForRoot] at h

theorem standsForRoot_of_length {isStop : Char → Bool} {s : List Char} (h : 2 ≤ s.length) :
    standsForRoot isStop s = false := by
  rw [Bool.eq_false_iff]
  intro hroot
  obtain ⟨c, rfl, -⟩ := exists_of_standsForRoot hroot
  simp at h

theorem readLabels_eq (isStop : Char → Bool) (encode : List Nat → Except NameError Label) (s : List Char) :
    readLabels isStop encode s = if standsForRoot isStop s then .ok .root
      else (group encode [] (pieces isStop s)).bind Name.ofLabels := by
  change (if standsForRoot isStop s then _ else _) = _
  cases group encode [] (pieces isStop s) <;> rfl

theorem readLabels_eq_ok {isStop : Char → Bool} {encode : List Nat → Except NameError Label}
    {s : List Char} {n : Name} : readLabels isStop encode s = .ok n ↔
      (standsForRoot isStop s = true ∧ n = .root) ∨
      (standsForRoot isStop s = false ∧ ∃ gs, labelCodes [] (pieces isStop s) = some gs ∧
        List.Forall₂ (fun g l => encode g = .ok l) gs n.labels) := by
  rw [readLabels_eq]
  cases standsForRoot isStop s with
  | true => simp [eq_comm]
  | false =>
    simp only [Bool.false_eq_true, if_false, false_and, true_and, false_or]
    rw [← group_eq_ok]
    constructor
    · intro h
      cases hg : group encode [] (pieces isStop s) with
      | error e =>
        rw [hg] at h
        cases h
      | ok labels =>
        rw [hg] at h
        rw [Name.labels_of_ofLabels h]
    · intro h
      rw [h]
      exact Name.ofLabels_labels n

/-- A name that is read from any pieces is not the root. -/
theorem not_root_of_labelCodes {encode : List Nat → Except NameError Label} {ps : List Piece}
    {gs : List (List Nat)} {n : Name} (h : labelCodes [] ps = some gs) (hne : ps ≠ [])
    (hread : List.Forall₂ (fun g l => encode g = .ok l) gs n.labels) : n ≠ .root := by
  rintro rfl
  exact labelCodes_ne_nil h (.inr hne) (List.eq_nil_of_length_eq_zero hread.length_eq)

namespace Name

theorem pieces_octetText (b : Octet) : pieces isDot (octetText b) = [.code b.toNat] :=
  octet_forall (P := fun b => pieces isDot (octetText b) = [.code b.toNat]) (by decide +kernel) b

theorem octetText_ascii (b : Octet) : isAscii (octetText b) = true :=
  octet_forall (P := fun b => isAscii (octetText b) = true) (by decide +kernel) b

theorem length_le_labelText (l : Label) : l.length ≤ (labelText l).length := by
  induction l with
  | nil => simp
  | cons b l ih =>
    have hb : 1 ≤ (octetText b).length := by
      unfold octetText
      dsimp only
      split
      · simp
      · split <;> simp
    rw [labelText, List.flatMap_cons, List.length_append, List.length_cons]
    rw [labelText] at ih
    omega

theorem spells_labelText (l : Label) :
    Spells isDot (labelText l) ((l.map UInt8.toNat).map .code) := by
  induction l with
  | nil => exact .nil
  | cons b l ih =>
    have hb : Spells isDot (octetText b) [.code b.toNat] := by
      rw [← pieces_octetText b]
      apply spells_pieces
      rw [pieces_octetText b]
      simp
    exact hb.append ih

theorem labelCodes_chars {labels : List Label} (h : ∀ l ∈ labels, 1 ≤ l.length) :
    labelCodes [] (pieces isDot (labels.flatMap fun l => labelText l ++ ['.'])) =
      some (labels.map (List.map UInt8.toNat)) := by
  induction labels with
  | nil => rfl
  | cons l labels ih =>
    have hl : l.map UInt8.toNat ≠ [] := by
      have := h l (by simp)
      cases l with
      | nil => simp at this
      | cons b l => simp
    rw [List.flatMap_cons, List.append_assoc, (spells_labelText l).pieces_append, labelCodes_codes,
      List.nil_append, List.singleton_append, pieces_char (by decide)]
    change labelCodes _ (.separator :: _) = _
    rw [labelCodes_separator hl, ih fun m hm => h m (by simp [hm])]
    rfl

theorem octetLabel_toNat (l : Label) : octetLabel (l.map UInt8.toNat) = .ok l := by
  simp [octetLabel, Function.comp_def]

theorem isAscii_chars (n : Name) : isAscii n.chars = true := by
  rw [chars]
  split
  · rfl
  · rw [isAscii_iff]
    intro c hc
    obtain ⟨l, hl, hc⟩ := List.mem_flatMap.mp hc
    rcases List.mem_append.mp hc with hc | hc
    · obtain ⟨b, hb, hc⟩ := List.mem_flatMap.mp hc
      exact isAscii_iff.mp (octetText_ascii b) c hc
    · rw [List.mem_singleton.mp hc]
      decide

/-- Every name reads back from its text. -/
theorem read_text (n : Name) : read n.text = .ok n := by
  rw [read, text, String.toList_ofList, readChars, isAscii_chars, if_pos rfl, readOctets,
    readLabels_eq_ok]
  by_cases hn : n.labels = []
  · exact .inl ⟨by simp [chars, hn, standsForRoot, isDot], ext hn⟩
  · have hchars : n.chars = n.labels.flatMap fun l => labelText l ++ ['.'] := by simp [chars, hn]
    have hbounds : ∀ l ∈ n.labels, 1 ≤ l.length := fun l hl => (n.label_bounds l hl).1
    have hcodes := labelCodes_chars hbounds
    rw [hchars]
    refine .inr ⟨standsForRoot_of_length ?_, _, hcodes, ?_⟩
    · obtain ⟨l, labels, hl⟩ := List.exists_cons_of_ne_nil hn
      have hlength := length_le_labelText l
      have hbound := hbounds l (by simp [hl])
      rw [hl, List.flatMap_cons, List.length_append, List.length_append, List.length_singleton]
      omega
    · rw [List.forall₂_map_left_iff, List.forall₂_same]
      exact fun l _ => octetLabel_toNat l

end Name

end DelegationAudit.Dns
