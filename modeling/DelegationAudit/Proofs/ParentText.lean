import DelegationAudit.Dns.Presentation
import DelegationAudit.Proofs.LabelEncoding
import DelegationAudit.Proofs.NameText

namespace DelegationAudit.Dns

open Text Idna

/-- The first character that ends a label; one behind a backslash does not. -/
def firstStop (isStop : Char → Bool) : List Char → Option Char
  | [] => none
  | '\\' :: _ :: rest => firstStop isStop rest
  | c :: rest => if isStop c then some c else firstStop isStop rest

section Scanning

variable {isStop : Char → Bool}

theorem firstStop_char {c : Char} (hc : c ≠ '\\') (s : List Char) :
    firstStop isStop (c :: s) = if isStop c then some c else firstStop isStop s := by
  rw [firstStop]
  intros
  contradiction

theorem parentChars_char {c : Char} (hc : c ≠ '\\') (s : List Char) :
    parentChars (c :: s) =
      if c == '.' then (if s.isEmpty then ['.'] else s) else parentChars s := by
  rw [parentChars]
  all_goals
    intros
    contradiction

theorem parentChars_pass {c : Char} (hbackslash : c ≠ '\\') (hdot : c ≠ '.') (s : List Char) :
    parentChars (c :: s) = parentChars s := by
  rw [parentChars_char hbackslash, if_neg (by simpa using hdot)]

/-- Digits are passed over anyway, so it is as if every escape were of one character. -/
theorem parentChars_quoted (a : Char) (s : List Char) : parentChars ('\\' :: a :: s) = parentChars s := by
  rcases s with _ | ⟨b, _ | ⟨c, rest⟩⟩
  · rfl
  · rfl
  · rw [parentChars]
    split
    next h =>
      have hne : ∀ d : Char, isDigit d = true → d ≠ '\\' ∧ d ≠ '.' := by
        intro d hd
        constructor <;>
          · rintro rfl
            exact absurd hd (by decide)
      simp only [Bool.and_eq_true] at h
      rw [parentChars_pass (hne b h.1.2).1 (hne b h.1.2).2, parentChars_pass (hne c h.2).1 (hne c h.2).2]
    next => rfl

/-- The first label of a text and what follows it, or that nothing does. -/
theorem Spells.first_label (hs : Stops isStop) {s : List Char} {ps : List Piece}
    (h : Spells isStop s ps) :
    (∃ codes : List Nat, ps = codes.map .code ∧ firstStop isStop s = none ∧ parentChars s = ['.']) ∨
      ∃ (codes : List Nat) (c : Char) (front rest : List Char) (qs : List Piece),
        ps = codes.map .code ++ .separator :: qs ∧ s = front ++ c :: rest ∧ Spells isStop rest qs ∧
        firstStop isStop s = some c ∧
        parentChars s =
          if c == '.' then (if rest.isEmpty then ['.'] else rest) else parentChars rest := by
  induction h with
  | nil => exact .inl ⟨[], rfl, rfl, rfl⟩
  | @char c s ps hc h ih =>
    rw [firstStop_char hc, parentChars_char hc, piece]
    by_cases hstop : isStop c = true
    · right
      rw [if_pos hstop, if_pos hstop]
      exact ⟨[], c, [], s, ps, rfl, rfl, h, rfl, rfl⟩
    · have hdot : (c == '.') = false := by
        rw [beq_eq_false_iff_ne]
        rintro rfl
        exact hstop hs.dot
      rw [if_neg hstop, if_neg hstop, hdot, if_neg Bool.false_ne_true]
      rcases ih with ⟨codes, rfl, hfirst, hparent⟩ | ⟨codes, d, front, rest, qs, rfl, rfl, hq, hfirst, hparent⟩
      · exact .inl ⟨c.toNat :: codes, rfl, hfirst, hparent⟩
      · exact .inr ⟨c.toNat :: codes, d, c :: front, rest, qs, rfl, rfl, hq, hfirst, hparent⟩
  | @quoted a s ps ha h ih =>
    rw [parentChars_quoted, firstStop]
    rcases ih with ⟨codes, rfl, hfirst, hparent⟩ | ⟨codes, d, front, rest, qs, rfl, rfl, hq, hfirst, hparent⟩
    · exact .inl ⟨a.toNat :: codes, rfl, hfirst, hparent⟩
    · exact .inr ⟨a.toNat :: codes, d, '\\' :: a :: front, rest, qs, rfl, rfl, hq, hfirst, hparent⟩
  | @number a b c n s ps hn h ih =>
    obtain ⟨-, hb, hc, -⟩ := escaped?_digits hn
    have hpass : ∀ d : Char, d.isDigit = true → d ≠ '\\' ∧ d ≠ '.' ∧ isStop d = false := by
      intro d hd
      refine ⟨?_, ?_, hs.digit d hd⟩ <;>
        · rintro rfl
          exact absurd hd (by decide)
    obtain ⟨hb₁, hb₂, hb₃⟩ := hpass b hb
    obtain ⟨hc₁, hc₂, hc₃⟩ := hpass c hc
    rw [parentChars_quoted, parentChars_pass hb₁ hb₂, parentChars_pass hc₁ hc₂, firstStop,
      firstStop_char hb₁, hb₃, firstStop_char hc₁, hc₃, if_neg Bool.false_ne_true,
      if_neg Bool.false_ne_true]
    rcases ih with ⟨codes, rfl, hfirst, hparent⟩ | ⟨codes, d, front, rest, qs, rfl, rfl, hq, hfirst, hparent⟩
    · exact .inl ⟨n :: codes, rfl, hfirst, hparent⟩
    · exact .inr ⟨n :: codes, d, '\\' :: a :: b :: c :: front, rest, qs, rfl, rfl, hq, hfirst, hparent⟩

/-- The text of the parent is what follows some full stop, or the root. -/
theorem Spells.parent (hs : Stops isStop) {s : List Char} {ps : List Piece} (h : Spells isStop s ps) :
    parentChars s = ['.'] ∨
      ∃ front qs, ps = front ++ .separator :: qs ∧ Spells isStop (parentChars s) qs := by
  induction hl : s.length using Nat.strong_induction_on generalizing s ps with
  | _ k ih =>
    rcases h.first_label hs with ⟨-, -, -, hparent⟩ | ⟨codes, c, front, rest, qs, rfl, rfl, hq, -, hparent⟩
    · exact .inl hparent
    · rw [hparent]
      split
      · split
        · exact .inl rfl
        · exact .inr ⟨_, qs, rfl, hq⟩
      · have hlt : rest.length < k := by
          rw [← hl, List.length_append, List.length_cons]
          omega
        rcases ih _ hlt hq rfl with hroot | ⟨front', qs', rfl, hq'⟩
        · exact .inl hroot
        · refine .inr ⟨codes.map .code ++ .separator :: front', qs', ?_, hq'⟩
          simp

end Scanning

/-- The labels behind a separator are the last ones, and there is one before them. -/
theorem labelCodes_behind {label : List Nat} {front qs : List Piece} {gs : List (List Nat)}
    (h : labelCodes label (front ++ .separator :: qs) = some gs) :
    ∃ before after, gs = before ++ after ∧ before ≠ [] ∧ labelCodes [] qs = some after := by
  obtain ⟨whole, last, hend⟩ := labelCodes_front h
  rw [hend] at h
  cases last with
  | nil => cases h
  | cons n last =>
    rw [labelCodes_separator (by simp), Option.map_map] at h
    obtain ⟨after, hafter, rfl⟩ := Option.map_eq_some_iff.mp h
    exact ⟨whole ++ [n :: last], after, by simp, by simp, hafter⟩

theorem labelCodes_codes_end (codes : List Nat) :
    labelCodes [] (codes.map .code) = some (if codes = [] then [] else [codes]) := by
  have hcodes := labelCodes_codes [] codes []
  rw [List.append_nil, List.nil_append] at hcodes
  rw [hcodes]
  split
  next hnil => rw [hnil]; rfl
  next hne => exact labelCodes_end hne

theorem exists_mem_labelCodes {label : List Nat} {ps : List Piece} {gs : List (List Nat)}
    (h : labelCodes label ps = some gs) {n : Nat} (hn : n ∈ label ∨ .code n ∈ ps) :
    ∃ g ∈ gs, n ∈ g := by
  fun_induction labelCodes label ps generalizing gs with
  | case1 => simp at hn
  | case2 label _ =>
    cases h
    exact ⟨label, by simp, by simpa using hn⟩
  | case3 label m rest ih =>
    refine ih h ?_
    simpa [or_assoc] using hn
  | case4 => cases h
  | case5 => cases h
  | case6 label rest hne ih =>
    obtain ⟨more, hmore, rfl⟩ := Option.map_eq_some_iff.mp h
    rcases hn with hn | hn
    · exact ⟨label, by simp, hn⟩
    · obtain ⟨g, hg, hmem⟩ := ih hmore (.inr (by simpa using hn))
      exact ⟨g, by simp [hg], hmem⟩

/-- A separator ends the label that is under way, and the others come from what follows. -/
theorem labelCodes_first {codes : List Nat} {qs : List Piece} {gs : List (List Nat)}
    (h : labelCodes [] (codes.map .code ++ .separator :: qs) = some gs) :
    ∃ more, gs = codes :: more ∧ labelCodes [] qs = some more := by
  rw [labelCodes_codes, List.nil_append] at h
  cases codes with
  | nil => cases h
  | cons n codes =>
    rw [labelCodes_separator (by simp)] at h
    obtain ⟨more, hmore, rfl⟩ := Option.map_eq_some_iff.mp h
    exact ⟨more, rfl, hmore⟩

theorem eq_dot_of_standsForRoot {isStop : Char → Bool} {a : List Char} (hdot : endsInDot a = true)
    (h : standsForRoot isStop a = true) : a = ['.'] := by
  obtain ⟨c, rfl, -⟩ := exists_of_standsForRoot h
  simpa [endsInDot] using hdot

section Reading

variable {isStop : Char → Bool} {encode : List Nat → Except NameError Label}

/-- The labels but the first are read from what follows the first full stop, if there is one. -/
theorem parent_read (hs : Stops isStop) {a : List Char} {n : Name} (hdot : endsInDot a = true)
    (hn : readLabels isStop encode a = .ok n) :
    (parentChars a = ['.'] ∧ n.parent = .root ∧
        (firstStop isStop a = none ∨ firstStop isStop a = some '.')) ∨
      ∃ (c : Char) (rest : List Char) (gs : List (List Nat)), firstStop isStop a = some c ∧
        rest ≠ [] ∧ (∃ front, a = front ++ c :: rest) ∧ labelCodes [] (pieces isStop rest) = some gs ∧
        List.Forall₂ (fun g l => encode g = .ok l) gs n.parent.labels ∧
        parentChars a = if c == '.' then rest else parentChars rest := by
  rcases readLabels_eq_ok.mp hn with ⟨hroot, rfl⟩ | ⟨-, gs, hgs, hread⟩
  · rw [eq_dot_of_standsForRoot hdot hroot, firstStop_char (by decide), if_pos hs.dot]
    exact .inl ⟨rfl, rfl, .inr rfl⟩
  · have hspells := spells_pieces (not_broken_of_labelCodes hgs)
    rcases hspells.first_label hs with
      ⟨codes, hps, hfirst, hparent⟩ | ⟨codes, c, front, rest, qs, hps, ha, hq, hc, hparent⟩
    · left
      refine ⟨hparent, Name.ext ?_, .inl hfirst⟩
      rw [hps, labelCodes_codes_end, Option.some.injEq] at hgs
      have hlength := hread.length_eq
      have hle : n.labels.length ≤ 1 := by
        rw [← hlength, ← hgs]
        split <;> simp
      change n.labels.tail = []
      exact List.eq_nil_of_length_eq_zero (by rw [List.length_tail]; omega)
    · rw [hps] at hgs
      obtain ⟨more, rfl, hmore⟩ := labelCodes_first hgs
      rw [← hq.pieces_eq] at hmore
      obtain ⟨l, labels, -, htail, hlabels⟩ := List.forall₂_cons_left_iff.mp hread
      have hparents : n.parent.labels = labels := by
        change n.labels.tail = labels
        rw [hlabels, List.tail_cons]
      -- Nothing is behind the final dot only.
      by_cases hrest : rest = []
      · left
        subst hrest
        have hcdot : c = '.' := by simpa [endsInDot, ha] using hdot
        subst hcdot
        cases hmore
        cases htail
        exact ⟨hparent, Name.ext hparents, .inr hc⟩
      · right
        refine ⟨c, rest, more, hc, hrest, ⟨front, ha⟩, hmore, by rwa [hparents], ?_⟩
        have hsome : rest.isEmpty = false := by simpa using hrest
        rw [hparent, hsome, if_neg Bool.false_ne_true]

/-- Where the first full stop is a dot, the labels of the parent are those of its text. -/
theorem parent_labels (hs : Stops isStop) {a : List Char} {n : Name} (hdot : endsInDot a = true)
    (hn : readLabels isStop encode a = .ok n)
    (hfirst : firstStop isStop a = none ∨ firstStop isStop a = some '.') :
    (parentChars a = ['.'] ∧ n.parent = .root) ∨
      (standsForRoot isStop (parentChars a) = false ∧ ∃ gs,
        labelCodes [] (pieces isStop (parentChars a)) = some gs ∧
        List.Forall₂ (fun g l => encode g = .ok l) gs n.parent.labels) := by
  rcases parent_read hs hdot hn with ⟨hparent, hroot, -⟩ | ⟨c, rest, gs, hc, hne, ⟨front, ha⟩, hgs, hread, hparent⟩
  · exact .inl ⟨hparent, hroot⟩
  · have hcdot : c = '.' := by simpa [hc] using hfirst
    subst hcdot
    rw [if_pos (by rfl)] at hparent
    refine .inr ⟨?_, gs, by rwa [hparent], hread⟩
    rw [hparent, Bool.eq_false_iff]
    intro hroot
    have hlast : endsInDot rest = true := by
      rw [ha] at hdot
      obtain ⟨x, rest, rfl⟩ := List.exists_cons_of_ne_nil hne
      simpa [endsInDot] using hdot
    rw [eq_dot_of_standsForRoot hlast hroot, pieces_dot hs] at hgs
    cases hgs

/-- Behind another full stop the text has lost labels. -/
theorem parent_shorter (hs : Stops isStop) {a : List Char} {n : Name} (hdot : endsInDot a = true)
    (hn : readLabels isStop encode a = .ok n) {c : Char} (hc : firstStop isStop a = some c)
    (hne : c ≠ '.') {read : List Nat → Except NameError Label} :
    readLabels isStop read (parentChars a) ≠ .ok n.parent := by
  rcases parent_read hs hdot hn with ⟨-, -, hfirst⟩ | ⟨d, rest, gs, hd, hrest, -, hgs, hread, hparent⟩
  · exact absurd (by simpa [hc] using hfirst) hne
  · rw [hc, Option.some.injEq] at hd
    subst hd
    rw [if_neg (by simpa using hne)] at hparent
    have hlength := hread.length_eq
    intro hok
    have hspells := spells_pieces (not_broken_of_labelCodes hgs)
    rcases readLabels_eq_ok.mp hok with ⟨-, hroot⟩ | ⟨hnot, some', hcodes, hread'⟩
    · have hps : pieces isStop rest ≠ [] := by
        intro hnil
        rw [hnil] at hspells
        cases hspells
        exact hrest rfl
      exact not_root_of_labelCodes hgs hps hread hroot
    · rw [hparent] at hnot hcodes
      rcases hspells.parent hs with hdots | ⟨front, qs, hqs, hspells'⟩
      · rw [hdots, standsForRoot, Bool.or_eq_false_iff] at hnot
        rw [hs.dot] at hnot
        cases hnot.2
      · rw [hqs] at hgs
        obtain ⟨before, after, rfl, hbefore, hafter⟩ := labelCodes_behind hgs
        rw [hspells'.pieces_eq, hafter, Option.some.injEq] at hcodes
        have hlength' := hread'.length_eq
        have hpos := List.length_pos_of_ne_nil hbefore
        rw [← hcodes] at hlength'
        rw [List.length_append] at hlength
        omega

end Reading

theorem pieces_congr {p q : Char → Bool} {s : List Char} (h : ∀ c ∈ s, p c = q c) :
    pieces p s = pieces q s := by
  fun_induction pieces p s with
  | case1 => rfl
  | case2 a b c rest ha n hn ih =>
    rw [pieces_number hn, ih fun d hd => h d (by simp [hd])]
  | case3 a b c rest ha hn => simp [pieces, ha, hn]
  | case4 a b c rest ha ih =>
    rw [pieces_quoted (by simpa using ha), ih fun d hd => h d (List.mem_cons_of_mem _ (List.mem_cons_of_mem _ hd))]
  | case5 a rest hshort ha =>
    rcases rest with _ | ⟨b, _ | ⟨c, rest⟩⟩
    · simp [pieces, ha]
    · simp [pieces, ha]
    · exact absurd rfl (hshort b c rest)
  | case6 a rest hshort ha ih =>
    rw [pieces_quoted (by simpa using ha), ih fun d hd => h d (by simp [hd])]
  | case7 => rfl
  | case8 c rest h3 h2 h1 ih =>
    have hc : c ≠ '\\' := by
      intro hc
      cases rest with
      | nil => exact h1 hc rfl
      | cons a rest => exact h2 a rest hc rfl
    rw [pieces_char hc, piece, piece, h c (by simp), ih fun d hd => h d (by simp [hd])]

theorem readLabels_congr {p q : Char → Bool} {s : List Char} (h : ∀ c ∈ s, p c = q c)
    (encode : List Nat → Except NameError Label) : readLabels p encode s = readLabels q encode s := by
  have hroot : standsForRoot p s = standsForRoot q s := by
    rcases s with _ | ⟨c, _ | ⟨d, rest⟩⟩
    · rfl
    · rw [standsForRoot, standsForRoot, h c (by simp)]
    · rfl
  rw [readLabels_eq, readLabels_eq, hroot, pieces_congr h]

theorem isFullStop_ascii {s : List Char} (h : isAscii s = true) : ∀ c ∈ s, isFullStop c = isDot c := by
  intro c hc
  exact ascii_forall (P := fun c => isFullStop c = isDot c) (by decide +kernel) (isAscii_iff.mp h c hc)

/-- No octet beyond ASCII is written as an escape. -/
def PlainCodes (s : List Char) : Prop := ∀ n, .code n ∈ pieces isFullStop s → n < 128

theorem firstStop_dot {s : List Char} {c : Char} (h : firstStop isDot s = some c) : c = '.' := by
  fun_induction firstStop isDot s with
  | case1 => cases h
  | case2 _ _ ih => exact ih h
  | case3 c rest hne hc =>
    cases h
    exact beq_iff_eq.mp hc
  | case4 _ _ _ _ ih => exact ih h

theorem mem_parentChars {s : List Char} {c : Char} (h : c ∈ parentChars s) : c = '.' ∨ c ∈ s := by
  fun_induction parentChars s with
  | case1 => exact .inl (List.mem_singleton.mp h)
  | case2 x y z rest hd ih => exact (ih h).imp_right fun hc => by simp [hc]
  | case3 x y z rest hd ih => exact (ih h).imp_right fun hc => List.mem_cons_of_mem _ (List.mem_cons_of_mem _ hc)
  | case4 x rest hshort ih => exact (ih h).imp_right fun hc => by simp [hc]
  | case5 => exact .inl (List.mem_singleton.mp h)
  | case6 => exact .inl (List.mem_singleton.mp h)
  | case7 => exact .inr (List.mem_cons_of_mem _ h)
  | case8 d rest h1 h2 h3 hd ih => exact (ih h).imp_right (List.mem_cons_of_mem _)

theorem isAscii_parentChars {s : List Char} (h : isAscii s = true) : isAscii (parentChars s) = true := by
  rw [isAscii_iff] at h ⊢
  intro c hc
  rcases mem_parentChars hc with rfl | hc
  · decide
  · exact h c hc

/-- Codes in an ASCII text are those of octets. -/
theorem Spells.code_lt {isStop : Char → Bool} {s : List Char} {ps : List Piece} (h : Spells isStop s ps)
    (hs : isAscii s = true) {n : Nat} (hn : .code n ∈ ps) : n < 256 := by
  rw [isAscii_iff] at hs
  induction h with
  | nil => cases hn
  | @char c s ps hc _ ih =>
    rw [List.forall_mem_cons] at hs
    rcases List.mem_cons.mp hn with hcode | hn
    · rw [piece] at hcode
      split at hcode
      · cases hcode
      · cases hcode
        omega
    · exact ih hs.2 hn
  | quoted ha _ ih =>
    rw [List.forall_mem_cons, List.forall_mem_cons] at hs
    rcases List.mem_cons.mp hn with hcode | hn
    · cases hcode
      omega
    · exact ih hs.2.2 hn
  | number hm _ ih =>
    simp only [List.forall_mem_cons] at hs
    rcases List.mem_cons.mp hn with hcode | hn
    · cases hcode
      have hle := (escaped?_digits hm).2.2.2
      omega
    · exact ih hs.2.2.2.2 hn

theorem octetLabel_iff {g : List Nat} {l : Label} (h : unicodeLabel g = .ok l)
    (hg : ∀ n ∈ g, n < 256) : octetLabel g = .ok l ↔ ∀ n ∈ g, n < 128 := by
  rw [octetLabel, Except.ok.injEq, ← isAsciiLabel_iff]
  rcases unicodeLabel_eq_ok h with ⟨hascii, rfl⟩ | ⟨hwide, hlow, -, -⟩
  · simp [hascii]
  · rw [hwide]
    constructor
    · rintro rfl
      rw [← hwide, isAsciiLabel_iff]
      intro n hn
      have hoctet := (hlow _ (List.mem_map_of_mem hn)).2
      have hback : (UInt8.ofNat n).toNat = n := UInt8.toNat_ofNat_of_lt (hg n hn)
      rw [UInt8.lt_iff_toNat_lt, hback] at hoctet
      exact hoctet
    · intro hfalse
      cases hfalse

/-- Labels that are read both ways are the same when they are ASCII. -/
theorem octetLabels_iff {gs : List (List Nat)} {ls : List Label}
    (h : List.Forall₂ (fun g l => unicodeLabel g = .ok l) gs ls) (hgs : ∀ g ∈ gs, ∀ n ∈ g, n < 256) :
    List.Forall₂ (fun g l => octetLabel g = .ok l) gs ls ↔ ∀ g ∈ gs, ∀ n ∈ g, n < 128 := by
  induction h with
  | nil => simp
  | cons hl _ ih =>
    rw [List.forall_mem_cons] at hgs ⊢
    rw [List.forall₂_cons, octetLabel_iff hl hgs.1, ih hgs.2]

theorem plainCodes_iff {s : List Char} {gs : List (List Nat)}
    (h : labelCodes [] (pieces isFullStop s) = some gs) :
    PlainCodes s ↔ ∀ g ∈ gs, ∀ n ∈ g, n < 128 := by
  constructor
  · intro hall g hg n hn
    exact hall n ((mem_labelCodes h hg hn).resolve_left (by simp))
  · intro hall n hn
    obtain ⟨g, hg, hmem⟩ := exists_mem_labelCodes h (.inr hn)
    exact hall g hg n hmem

namespace Name

/-- An ASCII text whose labels are read as characters is read as these when no code is beyond ASCII. -/
theorem readChars_ascii_iff {s : List Char} {n : Name} {gs : List (List Nat)} (hascii : isAscii s = true)
    (hnot : standsForRoot isFullStop s = false) (hgs : labelCodes [] (pieces isFullStop s) = some gs)
    (hread : List.Forall₂ (fun g l => unicodeLabel g = .ok l) gs n.labels) :
    readChars s = .ok n ↔ PlainCodes s := by
  have hspells := spells_pieces (not_broken_of_labelCodes hgs)
  have hoctets : ∀ g ∈ gs, ∀ k ∈ g, k < 256 := by
    intro g hg k hk
    exact hspells.code_lt hascii ((mem_labelCodes hgs hg hk).resolve_left (by simp))
  rw [plainCodes_iff hgs, ← octetLabels_iff hread hoctets, readChars, if_pos hascii, readOctets,
    ← readLabels_congr (isFullStop_ascii hascii), readLabels_eq_ok, hnot, hgs]
  simp

/-- In ASCII the only full stop is the dot. -/
theorem readChars_parent_ascii {a : List Char} {n : Name} (hdot : endsInDot a = true)
    (hascii : isAscii a = true) (hn : readOctets a = .ok n) :
    readChars (parentChars a) = .ok n.parent := by
  have hfirst : firstStop isDot a = none ∨ firstStop isDot a = some '.' := by
    cases h : firstStop isDot a with
    | none => exact .inl rfl
    | some c => exact .inr (by rw [firstStop_dot h])
  rw [readChars, if_pos (isAscii_parentChars hascii)]
  rcases parent_labels isDot_stops hdot hn hfirst with ⟨hchars, hroot⟩ | ⟨hnot, gs, hgs, hread⟩
  · rw [hchars, hroot]
    rfl
  · exact readLabels_eq_ok.mpr (.inr ⟨hnot, gs, hgs, hread⟩)

/-- Behind a dot the same labels follow, but in ASCII they are read another way. -/
theorem readChars_parent_dot {a : List Char} {n : Name} (hdot : endsInDot a = true)
    (hn : readUnicode a = .ok n)
    (hfirst : firstStop isFullStop a = none ∨ firstStop isFullStop a = some '.') :
    readChars (parentChars a) = .ok n.parent ↔
      isAscii (parentChars a) = false ∨ PlainCodes (parentChars a) := by
  rcases parent_labels isFullStop_stops hdot hn hfirst with ⟨hchars, hroot⟩ | ⟨hnot, gs, hgs, hread⟩
  · refine iff_of_true (by rw [hchars, hroot]; rfl) (.inr ?_)
    intro k hk
    rw [hchars, pieces_dot isFullStop_stops] at hk
    simp at hk
  · cases hparent : isAscii (parentChars a) with
    | true => simp [readChars_ascii_iff hparent hnot hgs hread]
    | false =>
      refine iff_of_true ?_ (.inl rfl)
      rw [readChars, hparent, if_neg Bool.false_ne_true]
      exact readLabels_eq_ok.mpr (.inr ⟨hnot, gs, hgs, hread⟩)

theorem readChars_parent_stop {a : List Char} {n : Name} (hdot : endsInDot a = true)
    (hn : readUnicode a = .ok n) {c : Char} (hc : firstStop isFullStop a = some c) (hne : c ≠ '.') :
    readChars (parentChars a) ≠ .ok n.parent := by
  rw [readChars]
  split
  next hparent =>
    rw [readOctets, ← readLabels_congr (isFullStop_ascii hparent)]
    exact parent_shorter isFullStop_stops hdot hn hc hne
  next => exact parent_shorter isFullStop_stops hdot hn hc hne

/-- When the text that is cut off behind the first dot reads as the parent. -/
theorem readChars_parent_iff {a : List Char} {n : Name} (hdot : endsInDot a = true)
    (hn : readChars a = .ok n) :
    readChars (parentChars a) = .ok n.parent ↔
      isAscii a = true ∨
        (firstStop isFullStop a = none ∨ firstStop isFullStop a = some '.') ∧
          (isAscii (parentChars a) = false ∨ PlainCodes (parentChars a)) := by
  rw [readChars] at hn
  split at hn
  next hascii => exact iff_of_true (readChars_parent_ascii hdot hascii hn) (.inl hascii)
  next hwide =>
    rw [or_iff_right hwide]
    cases hfirst : firstStop isFullStop a with
    | none => simp [readChars_parent_dot hdot hn (.inl hfirst)]
    | some c =>
      by_cases hc : c = '.'
      · subst hc
        simp [readChars_parent_dot hdot hn (.inr hfirst)]
      · simp [readChars_parent_stop hdot hn hfirst hc, hc]

end Name

end DelegationAudit.Dns
