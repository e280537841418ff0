import DelegationAudit.Proofs.Isolation
import DelegationAudit.Proofs.LabelEncoding
import DelegationAudit.Proofs.NameText
import DelegationAudit.Proofs.ZoneForm

namespace DelegationAudit

namespace Zone

open Text Dns

/-- The letters of host names, digits, and the hyphen. -/
def isHostChar (c : Char) : Bool := ('a' ≤ c && c ≤ 'z') || ('0' ≤ c && c ≤ '9') || c == '-'

/-- A label as that of a host, perhaps behind one underscore. -/
structure ProperLabel (s : List Char) : Prop where
  short : s.length ≤ 63
  core : ∃ core, (s = core ∨ s = '_' :: core) ∧ core ≠ [] ∧ (∀ c ∈ core, isHostChar c = true) ∧
    core.head? ≠ some '-' ∧ core.getLast? ≠ some '-'

theorem ProperLabel.ne_nil {s : List Char} (h : ProperLabel s) : s ≠ [] := by
  obtain ⟨core, rfl | rfl, hne, -⟩ := h.core
  · exact hne
  · simp

theorem ProperLabel.mem {s : List Char} (h : ProperLabel s) {c : Char} (hc : c ∈ s) :
    c = '_' ∨ isHostChar c = true := by
  obtain ⟨core, rfl | rfl, -, hall, -⟩ := h.core
  · exact .inr (hall c hc)
  · exact (List.mem_cons.mp hc).imp_right (hall c)

theorem ProperLabel.head {s : List Char} (h : ProperLabel s) : s.head? ≠ some '-' := by
  obtain ⟨core, rfl | rfl, -, -, hhead, -⟩ := h.core
  · exact hhead
  · simp

theorem isHostChar_bounds {c : Char} (h : isHostChar c = true) : 45 ≤ c.toNat ∧ c.toNat ≤ 122 := by
  have hbounds : ('a' ≤ c ∧ c ≤ 'z') ∨ ('0' ≤ c ∧ c ≤ '9') ∨ c = '-' := by
    simpa [isHostChar, or_assoc] using h
  rcases hbounds with ⟨hle, hge⟩ | ⟨hle, hge⟩ | rfl
  · change 97 ≤ c.toNat at hle
    change c.toNat ≤ 122 at hge
    omega
  · change 48 ≤ c.toNat at hle
    change c.toNat ≤ 57 at hge
    omega
  · decide

theorem isBlank_of_isHostChar {c : Char} (h : isHostChar c = true) : isBlank c = false := by
  have hbounds := isHostChar_bounds h
  by_contra hblank
  rcases isBlank_cases (by simpa using hblank) with hlow | hwide
  · omega
  · have hge : ∀ n ∈ Idna.wideBlanks, 122 < n := by decide
    have hgt := hge _ hwide
    omega

def octetChar (b : Octet) : Char := Char.ofNat b.toNat

theorem octetChars_eq (l : Label) : octetChars l = l.map octetChar := rfl

theorem isLabelInner_octetChar {b : Octet} : isLabelInner b = true → isHostChar (octetChar b) = true :=
  octet_forall (P := fun b => isLabelInner b = true → isHostChar (octetChar b) = true)
    (by decide +kernel) b

theorem isSmallAlnum_octetChar {b : Octet} : isSmallAlnum b = true → octetChar b ≠ '-' :=
  octet_forall (P := fun b => isSmallAlnum b = true → octetChar b ≠ '-') (by decide +kernel) b

theorem isHostCore_iff (l : Label) : isHostCore l = true ↔
    l.length ≤ 63 ∧ (∀ b ∈ l, isLabelInner b = true) ∧ (∃ b, l.head? = some b ∧ isSmallAlnum b = true) ∧
      ∃ b, l.getLast? = some b ∧ isSmallAlnum b = true := by
  simp only [isHostCore, Bool.and_eq_true, decide_eq_true_eq, List.all_eq_true, Option.any_eq_true,
    and_assoc]

theorem dropUnderscore_cases (l : Label) : l = dropUnderscore l ∨ l = 95 :: dropUnderscore l := by
  unfold dropUnderscore
  split
  · exact .inr rfl
  · exact .inl rfl

theorem dropBreak_cases (l : Label) : l = dropBreak l ∨ l = dropBreak l ++ [10] := by
  rw [dropBreak]
  split
  next h =>
    obtain ⟨front, rfl⟩ := List.getLast?_eq_some_iff.mp (beq_iff_eq.mp h)
    exact .inr (by rw [List.dropLast_concat])
  next => exact .inl rfl

theorem isHostCore_proper {l : Label} (h : isHostCore (dropUnderscore l) = true)
    (hle : l.length ≤ 63) : ProperLabel (octetChars l) := by
  obtain ⟨-, hall, ⟨b, hhead, hb⟩, c, hlast, hc⟩ := (isHostCore_iff _).mp h
  have hcore : octetChars l = (dropUnderscore l).map octetChar ∨
      octetChars l = '_' :: (dropUnderscore l).map octetChar := by
    rcases dropUnderscore_cases l with hl | hl
    · exact .inl (by rw [octetChars_eq, ← hl])
    · exact .inr (by rw [hl, octetChars_eq, List.map_cons, ← hl]; rfl)
  refine ⟨by simpa [octetChars] using hle, _, hcore, ?_, ?_, ?_, ?_⟩
  · intro hnil
    rw [List.map_eq_nil_iff.mp hnil] at hhead
    cases hhead
  · intro d hd
    obtain ⟨o, ho, rfl⟩ := List.mem_map.mp hd
    exact isLabelInner_octetChar (hall o ho)
  · rw [List.head?_map, hhead]
    simpa using isSmallAlnum_octetChar hb
  · rw [List.getLast?_map, hlast]
    simpa using isSmallAlnum_octetChar hc

/-- A label of a host, or one with a line break behind it. -/
def Near (s : List Char) : Prop := ProperLabel s ∨ ∃ t, s = t ++ ['\n'] ∧ ProperLabel t

theorem isZoneLabel_near {l : Label} (h : isZoneLabel l = true) (hle : l.length ≤ 63) :
    Near (octetChars l) := by
  rcases dropBreak_cases l with hl | hl
  · left
    rw [isZoneLabel, ← hl] at h
    exact isHostCore_proper h hle
  · right
    have hshort : (dropBreak l).length ≤ 63 := by
      rw [hl, List.length_append] at hle
      omega
    refine ⟨octetChars (dropBreak l), ?_, isHostCore_proper h hshort⟩
    conv_lhs => rw [hl]
    rw [octetChars_eq, List.map_append]
    rfl

/-- When a text gets through the gate, and as what. -/
theorem acceptChars_eq_ok {s z : List Char} : acceptChars s = .ok z ↔
    (normalizeChars s ≠ [] ∧ ∀ c ∈ normalizeChars s, isBlank c = false) ∧
      ∃ name, Name.readUnicode (normalizeChars s) = .ok name ∧ 2 ≤ name.labels.length ∧
        (∀ l ∈ name.labels, isZoneLabel l = true) ∧
        z = joinWith ['.'] (name.labels.map octetChars) := by
  constructor
  · intro h
    rw [acceptChars] at h
    split at h
    next => cases h
    next hblank =>
      split at h
      next => cases h
      next name hname =>
        split at h
        next => cases h
        next hmany =>
          split at h
          next hall =>
            cases h
            exact ⟨by simpa using hblank, name, hname, by omega, List.all_eq_true.mp hall, rfl⟩
          next => cases h
  · rintro ⟨⟨hne, hplain⟩, name, hname, hmany, hall, rfl⟩
    have hblank : ((normalizeChars s).isEmpty || (normalizeChars s).any isBlank) = false := by
      simpa [hne] using hplain
    have hfew : ¬ name.labels.length < 2 := by omega
    rw [acceptChars]
    simp only [hblank, hname, hfew, List.all_eq_true.mpr hall, if_true, if_false, Bool.false_eq_true]

theorem length_joinWith_octetChars {labels : List Label} (h : labels ≠ []) :
    (joinWith ['.'] (labels.map octetChars)).length + 2 = wireSize labels := by
  induction labels with
  | nil => exact absurd rfl h
  | cons l labels ih =>
    cases labels with
    | nil => simp [joinWith, octetChars, wireSize]
    | cons m labels =>
      have hrest := ih (by simp)
      rw [wireSize, ← hrest]
      simp only [List.map_cons, joinWith, List.length_append, octetChars, List.length_map,
        List.length_singleton]
      omega

/-- The text of a zone that gets through the gate. -/
structure Accepted (labels : List (List Char)) (z : List Char) : Prop where
  text : z = joinWith ['.'] labels
  many : 2 ≤ labels.length
  short : z.length ≤ 253
  labels_short : ∀ s ∈ labels, s.length ≤ 63
  near : ∀ s ∈ labels, Near s

theorem accepted_of_labels {name : Name} (hmany : 2 ≤ name.labels.length)
    (hall : ∀ l ∈ name.labels, isZoneLabel l = true) :
    Accepted (name.labels.map octetChars) (joinWith ['.'] (name.labels.map octetChars)) := by
  have hshort : ∀ l ∈ name.labels, l.length ≤ 63 := fun l hl => (name.label_bounds l hl).2
  have hne : name.labels ≠ [] := by
    intro hnil
    simp [hnil] at hmany
  have hwire := length_joinWith_octetChars hne
  have hsize := name.size_le
  refine ⟨rfl, by simpa using hmany, by omega, ?_, ?_⟩
  · intro t ht
    obtain ⟨l, hl, rfl⟩ := List.mem_map.mp ht
    simpa [octetChars] using hshort l hl
  · intro t ht
    obtain ⟨l, hl, rfl⟩ := List.mem_map.mp ht
    exact isZoneLabel_near (hall l hl) (hshort l hl)

theorem Near.ne_nil {s : List Char} (h : Near s) : s ≠ [] := by
  rcases h with h | ⟨t, rfl, -⟩
  · exact h.ne_nil
  · simp

theorem Near.mem {s : List Char} (h : Near s) {c : Char} (hc : c ∈ s) :
    c = '_' ∨ isHostChar c = true ∨ c = '\n' := by
  rcases h with h | ⟨t, rfl, h⟩
  · exact (h.mem hc).imp_right .inl
  · rcases List.mem_append.mp hc with hc | hc
    · exact (h.mem hc).imp_right .inl
    · exact .inr (.inr (List.mem_singleton.mp hc))

theorem Near.proper_iff {s : List Char} (h : Near s) : ProperLabel s ↔ '\n' ∉ s := by
  constructor
  · intro hp hn
    rcases hp.mem hn with heq | hchar
    · exact absurd heq (by decide)
    · exact absurd hchar (by decide)
  · intro hn
    rcases h with h | ⟨t, rfl, -⟩
    · exact h
    · simp at hn

theorem Near.head {s : List Char} (h : Near s) {c : Char} (hc : s.head? = some c) :
    c = '_' ∨ (isHostChar c = true ∧ c ≠ '-') := by
  have hproper : ∀ t, ProperLabel t → t.head? = some c → c = '_' ∨ (isHostChar c = true ∧ c ≠ '-') := by
    intro t ht htc
    have hne : c ≠ '-' := by
      rintro rfl
      exact ht.head htc
    exact (ht.mem (List.mem_of_mem_head? htc)).imp_right fun hchar => ⟨hchar, hne⟩
  rcases h with h | ⟨t, rfl, h⟩
  · exact hproper s h hc
  · rw [List.head?_append_of_ne_nil _ h.ne_nil] at hc
    exact hproper t h hc

theorem ProperLabel.last {s : List Char} (h : ProperLabel s) {c : Char} (hc : s.getLast? = some c) :
    isHostChar c = true := by
  obtain ⟨core, hs, hne, hall, -⟩ := h.core
  have hcore : core.getLast? = some c := by
    rcases hs with rfl | rfl
    · exact hc
    · rwa [List.getLast?_cons_of_ne_nil hne] at hc
  exact hall c (List.mem_of_getLast? hcore)

theorem Near.last {s : List Char} (h : Near s) {c : Char} (hc : s.getLast? = some c) :
    isHostChar c = true ∨ c = '\n' := by
  rcases h with h | ⟨t, rfl, h⟩
  · exact .inl (h.last hc)
  · rw [List.getLast?_concat, Option.some.injEq] at hc
    exact .inr hc.symm

namespace Accepted

variable {labels : List (List Char)} {z : List Char} (h : Accepted labels z)

include h

theorem ne_nil : z ≠ [] := by
  obtain ⟨s, hs⟩ : ∃ s, s ∈ labels := List.exists_mem_of_length_pos (by have := h.many; omega)
  obtain ⟨c, hc⟩ := List.exists_mem_of_ne_nil _ (h.near s hs).ne_nil
  have hmem : c ∈ joinWith ['.'] labels := mem_joinWith_of_mem hs hc
  rw [← h.text] at hmem
  exact List.ne_nil_of_mem hmem

theorem mem {c : Char} (hc : c ∈ z) : c = '.' ∨ c = '_' ∨ isHostChar c = true ∨ c = '\n' := by
  rw [h.text] at hc
  rcases mem_joinWith hc with hdot | ⟨s, hs, hc⟩
  · exact .inl hdot
  · exact .inr ((h.near s hs).mem hc)

theorem proper_iff : (∀ s ∈ labels, ProperLabel s) ↔ '\n' ∉ z := by
  constructor
  · intro hall hn
    rw [h.text] at hn
    rcases mem_joinWith hn with hdot | ⟨s, hs, hn⟩
    · exact absurd hdot (by decide)
    · exact (h.near s hs).proper_iff.mp (hall s hs) hn
  · intro hn s hs
    rw [(h.near s hs).proper_iff]
    intro hc
    rw [h.text] at hn
    exact hn (mem_joinWith_of_mem hs hc)

theorem head {c : Char} (hc : z.head? = some c) : c = '_' ∨ (isHostChar c = true ∧ c ≠ '-') := by
  obtain ⟨s, t, rest, hlabels⟩ : ∃ s t rest, labels = s :: t :: rest := by
    match labels, h.many with
    | s :: t :: rest, _ => exact ⟨s, t, rest, rfl⟩
  have hs := h.near s (by simp [hlabels])
  rw [h.text, hlabels] at hc
  change (s ++ ['.'] ++ joinWith ['.'] (t :: rest)).head? = some c at hc
  rw [List.append_assoc, List.head?_append_of_ne_nil _ hs.ne_nil] at hc
  exact hs.head hc

theorem last {c : Char} (hc : z.getLast? = some c) : isHostChar c = true ∨ c = '\n' := by
  obtain ⟨front, s, hlabels⟩ : ∃ front s, labels = front ++ [s] := by
    have hne : labels ≠ [] := by
      rintro rfl
      exact absurd h.many (by simp)
    exact ⟨_, _, (List.dropLast_append_getLast hne).symm⟩
  have hs := h.near s (by simp [hlabels])
  obtain ⟨pre, hpre⟩ := suffix_joinWith ['.'] front s
  rw [h.text, hlabels, ← hpre, List.getLast?_append_of_ne_nil _ hs.ne_nil] at hc
  exact hs.last hc

theorem small {c : Char} (hc : c ∈ z) : c.toNat < 128 ∧ c.toLower = c := by
  have hhost : ∀ d : Char, isHostChar d = true → d.toNat < 128 ∧ d.toLower = d := by
    intro d hd
    have hlow : d.toNat < 128 := by have := isHostChar_bounds hd; omega
    refine ⟨hlow, ?_⟩
    revert hd
    exact ascii_forall (P := fun d => isHostChar d = true → d.toLower = d) (by decide +kernel) hlow
  rcases h.mem hc with rfl | rfl | hc | rfl
  · decide
  · decide
  · exact hhost c hc
  · decide

theorem isBlank_of_head {c : Char} (hc : z.head? = some c) : isBlank c = false := by
  rcases h.head hc with rfl | ⟨hc, -⟩
  · decide
  · exact isBlank_of_isHostChar hc

/-- A break at the end is the only thing that the form of a zone takes off. -/
theorem normalizeChars_iff : normalizeChars z = z ↔ z.getLast? ≠ some '\n' := by
  constructor
  · intro hself hlast
    obtain ⟨tail, hz, -⟩ := exists_trim_append fun c hc => h.isBlank_of_head hc
    have hascii : isAscii (dropEnd (· == '.') (trim z)) = true := by
      rw [isAscii_iff]
      intro c hc
      exact (h.small (mem_trim ((List.rdropWhile_prefix _ _).subset hc))).1
    have hle : z.length ≤ (trim z).length := by
      have hprefix := (List.rdropWhile_prefix (· == '.') (trim z)).length_le
      rw [← dropEnd_eq_rdropWhile] at hprefix
      rw [normalizeChars, lower, lowerFrom_ascii [] _ hascii] at hself
      rw [← congrArg List.length hself, List.length_map]
      exact hprefix
    have htail : tail = [] := by
      have hlength := congrArg List.length hz
      rw [List.length_append] at hlength
      exact List.length_eq_zero_iff.mp (by omega)
    rw [htail, List.append_nil] at hz
    rw [hz] at hlast
    exact absurd (last_trim hlast) (by decide)
  · intro hlast
    refine normalizeChars_eq_self (fun c hc => h.small hc) (fun c hc => h.isBlank_of_head hc) ?_
    intro c hc
    rcases h.last hc with hchar | rfl
    · refine ⟨isBlank_of_isHostChar hchar, ?_⟩
      rintro rfl
      exact absurd hchar (by decide)
    · exact absurd hc hlast

end Accepted

theorem octetChars_toNat (l : Label) : (octetChars l).map Char.toNat = l.map UInt8.toNat := by
  have hval : ∀ b ∈ l, (Char.toNat ∘ octetChar) b = b.toNat := fun b _ =>
    toNat_ofNat_of_valid (.inl (by have := b.toNat_lt; omega))
  rw [octetChars_eq, List.map_map, List.map_congr_left hval]

theorem ProperLabel.plain {s : List Char} (h : ProperLabel s) :
    s ≠ [] ∧ ∀ c ∈ s, c ≠ '\\' ∧ isFullStop c = false := by
  refine ⟨h.ne_nil, fun c hc => ?_⟩
  have hchar := h.mem hc
  have hne : ∀ d, d ≠ '_' → isHostChar d = false → c ≠ d := by
    rintro d hd hhost rfl
    rcases hchar with rfl | hchar
    · exact hd rfl
    · rw [hhost] at hchar
      cases hchar
  refine ⟨hne '\\' (by decide) (by decide), ?_⟩
  simp only [isFullStop, Bool.or_eq_false_iff, beq_eq_false_iff_ne]
  exact ⟨⟨⟨hne '.' (by decide) (by decide), hne '。' (by decide) (by decide)⟩,
    hne '．' (by decide) (by decide)⟩, hne '｡' (by decide) (by decide)⟩

theorem unicodeLabel_proper {l : Label} (h : ProperLabel (octetChars l)) :
    unicodeLabel ((octetChars l).map Char.toNat) = .ok l := by
  have hascii : Idna.isAsciiLabel ((octetChars l).map Char.toNat) = true := by
    rw [Idna.isAsciiLabel_iff]
    intro n hn
    obtain ⟨c, hc, rfl⟩ := List.mem_map.mp hn
    rcases h.mem hc with rfl | hchar
    · decide
    · have hbounds := isHostChar_bounds hchar
      omega
  rw [unicodeLabel_ascii hascii (by simpa using h.short), octetChars_toNat, List.map_map]
  simp [Function.comp_def]

theorem readUnicode_joinWith {name : Name} (hmany : 2 ≤ name.labels.length)
    (h : ∀ l ∈ name.labels, ProperLabel (octetChars l)) :
    Name.readUnicode (joinWith ['.'] (name.labels.map octetChars)) = .ok name := by
  have hne : name.labels ≠ [] := by
    intro hnil
    simp [hnil] at hmany
  obtain ⟨front, last, hlabels⟩ : ∃ front last, name.labels = front ++ [last] :=
    ⟨_, _, (List.dropLast_append_getLast hne).symm⟩
  have hlast := h last (by simp [hlabels])
  have hcodes : labelCodes [] (pieces isFullStop (joinWith ['.'] (name.labels.map octetChars))) =
      some (name.labels.map fun l => (octetChars l).map Char.toNat) := by
    rw [hlabels, List.map_append, List.map_singleton, labelCodes_joinWith isFullStop_stops]
    · rw [labelCodes_plain hlast.plain.1 hlast.plain.2]
      simp
    · intro s hs
      obtain ⟨l, hl, rfl⟩ := List.mem_map.mp hs
      exact (h l (by simp [hlabels, hl])).plain
  rw [Name.readUnicode, readLabels_eq_ok]
  refine .inr ⟨standsForRoot_of_length ?_, _, hcodes, ?_⟩
  · obtain ⟨l, m, rest, hlm⟩ : ∃ l m rest, name.labels = l :: m :: rest := by
      match name.labels, hmany with
      | l :: m :: rest, _ => exact ⟨l, m, rest, rfl⟩
    have hl := (name.label_bounds l (by simp [hlm])).1
    have hm := (name.label_bounds m (by simp [hlm])).1
    have hsize := length_joinWith_octetChars hne
    rw [hlm, wireSize, wireSize] at hsize
    rw [hlm]
    omega
  · rw [List.forall₂_map_left_iff, List.forall₂_same]
    exact fun l hl => unicodeLabel_proper (h l hl)

theorem readUnicode_labels {s : List Char} {name : Name} (h : Name.readUnicode s = .ok name) :
    ∀ l ∈ name.labels, ∃ gs g, labelCodes [] (pieces isFullStop s) = some gs ∧ g ∈ gs ∧
      unicodeLabel g = .ok l := by
  rcases readLabels_eq_ok.mp h with ⟨-, rfl⟩ | ⟨-, gs, hgs, hread⟩
  · exact fun l hl => absurd hl List.not_mem_nil
  · intro l hl
    obtain ⟨g, hg, hgl⟩ := forall₂_exists_left hread hl
    exact ⟨gs, g, hgs, hg, hgl⟩

theorem readUnicode_ascii {s : List Char} {name : Name} (h : Name.readUnicode s = .ok name) :
    ∀ l ∈ name.labels, ∀ b ∈ l, b < 128 := by
  intro l hl b hb
  obtain ⟨gs, g, -, -, hgl⟩ := readUnicode_labels h l hl
  rcases unicodeLabel_eq_ok hgl with ⟨hascii, rfl⟩ | ⟨-, hrange, -⟩
  · obtain ⟨n, hn, rfl⟩ := List.mem_map.mp hb
    have hlow := Idna.isAsciiLabel_iff.mp hascii n hn
    rw [UInt8.lt_iff_toNat_lt, toNat_octet hlow]
    exact hlow
  · exact (hrange b hb).2

/-- A line break comes from an escape. -/
theorem escape_of_break {s z : List Char} (h : acceptChars s = .ok z) (hn : '\n' ∈ z) : '\\' ∈ s := by
  obtain ⟨⟨-, hplain⟩, name, hname, -, -, rfl⟩ := acceptChars_eq_ok.mp h
  by_contra hescape
  have hpieces : pieces isFullStop (normalizeChars s) = (normalizeChars s).map (piece isFullStop) :=
    pieces_plain fun hin => hescape (mem_normalizeChars (by decide) hin)
  rcases mem_joinWith hn with hdot | ⟨t, ht, hn⟩
  · exact absurd hdot (by decide)
  obtain ⟨l, hl, rfl⟩ := List.mem_map.mp ht
  obtain ⟨b, hb, hbreak⟩ := List.mem_map.mp hn
  have hb10 : b = 10 := by
    revert hbreak
    exact octet_forall (P := fun b => Char.ofNat b.toNat = '\n' → b = 10) (by decide +kernel) b
  subst hb10
  obtain ⟨gs, g, hgs, hg, hgl⟩ := readUnicode_labels hname l hl
  have hcode : 10 ∈ g := by
    rcases unicodeLabel_eq_ok hgl with ⟨hascii, rfl⟩ | ⟨-, hrange, -⟩
    · obtain ⟨n, hn, h10⟩ := List.mem_map.mp hb
      have hlow := Idna.isAsciiLabel_iff.mp hascii n hn
      have hval := congrArg UInt8.toNat h10
      rw [toNat_octet hlow] at hval
      rwa [hval] at hn
    · exact absurd (hrange 10 hb).1 (by decide)
  have hmem := (mem_labelCodes hgs hg hcode).resolve_left List.not_mem_nil
  rw [hpieces] at hmem
  obtain ⟨c, hc, hcode⟩ := List.mem_map.mp hmem
  have hc10 : c = '\n' := by
    rw [piece] at hcode
    split at hcode
    · cases hcode
    · exact Char.toNat_inj.mp (Piece.code.inj hcode)
  have hblank := hplain c hc
  rw [hc10] at hblank
  cases hblank

theorem acceptChars_hyphen (s z : List Char) : acceptChars ('-' :: s) ≠ .ok z := by
  intro h
  obtain ⟨t, ht⟩ := normalizeChars_hyphen s
  obtain ⟨-, name, hname, hmany, hall, -⟩ := acceptChars_eq_ok.mp h
  rw [ht] at hname
  rcases readLabels_eq_ok.mp hname with ⟨-, rfl⟩ | ⟨-, gs, hgs, hread⟩
  · exact absurd hmany (by decide)
  rw [pieces_char (by decide)] at hgs
  change labelCodes [45] (pieces isFullStop t) = some gs at hgs
  obtain ⟨g, rest, rfl⟩ := head_labelCodes hgs
  obtain ⟨l, hl, hgl⟩ : ∃ l ∈ name.labels, unicodeLabel (45 :: g) = .ok l := by
    cases hlabels : name.labels with
    | nil =>
      rw [hlabels] at hread
      cases hread
    | cons l ls =>
      rw [hlabels] at hread
      exact ⟨l, by simp, (List.forall₂_cons.mp hread).1⟩
  have hhyphen : (octetChars l).head? = some '-' := by
    rcases unicodeLabel_eq_ok hgl with ⟨-, rfl⟩ | ⟨-, -, hclean, -⟩
    · rfl
    · exact absurd rfl hclean.head
  rcases (isZoneLabel_near (hall l hl) (name.label_bounds l hl).2).head hhyphen with heq | ⟨-, hne⟩
  · exact absurd heq (by decide)
  · exact hne rfl

theorem accept_eq_ok {target zone : String} :
    accept target = .ok zone ↔ acceptChars target.toList = .ok zone.toList := by
  rw [accept, map_eq_ok]
  constructor
  · rintro ⟨z, hz, rfl⟩
    rw [hz, String.toList_ofList]
  · exact fun h => ⟨_, h, String.ofList_toList⟩

theorem normalize_eq_self (zone : String) :
    normalize zone = zone ↔ normalizeChars zone.toList = zone.toList := by
  rw [normalize, String.ext_iff, String.toList_ofList]

theorem acceptChars_self_iff {s z : List Char} (h : acceptChars s = .ok z) :
    acceptChars z = .ok z ↔ '\n' ∉ z := by
  obtain ⟨-, name, -, hmany, hall, hz⟩ := acceptChars_eq_ok.mp h
  have haccepted := accepted_of_labels hmany hall
  rw [← hz] at haccepted
  constructor
  · intro hself hn
    rcases haccepted.mem (escape_of_break hself hn) with heq | heq | hchar | heq
    · exact absurd heq (by decide)
    · exact absurd heq (by decide)
    · exact absurd hchar (by decide)
    · exact absurd heq (by decide)
  · intro hn
    have hproper := haccepted.proper_iff.mpr hn
    have hread : Name.readUnicode z = .ok name := by
      rw [hz]
      exact readUnicode_joinWith hmany fun l hl => hproper _ (List.mem_map_of_mem hl)
    have hself : normalizeChars z = z :=
      haccepted.normalizeChars_iff.mpr fun hlast => hn (List.mem_of_getLast? hlast)
    rw [acceptChars_eq_ok, hself]
    refine ⟨⟨?_, ?_⟩, name, hread, hmany, hall, hz⟩
    · exact haccepted.ne_nil
    · intro c hc
      rcases haccepted.mem hc with rfl | rfl | hchar | rfl
      · decide
      · decide
      · exact isBlank_of_isHostChar hchar
      · exact absurd hc hn

end Zone

variable {τ : Type} [Instant τ]

/-- No label that can be read holds an octet beyond ASCII, so a text is refused or accepted and nothing
else. An accepted zone has two labels at least, each like that of a host or with a line break behind it;
the break can only come from an escape. Where there is none, all labels are as they should be, and then
only is the zone accepted as it is; its report is about it unless it ends in a break. -/
theorem accept_proper_iff (target : String) :
    (∀ name, Dns.Name.readUnicode (Zone.normalizeChars target.toList) = .ok name →
      ∀ l ∈ name.labels, ∀ b ∈ l, b < 128) ∧
    ∀ zone, Zone.accept target = .ok zone →
      (∃ labels : List (List Char), zone.toList = Text.joinWith ['.'] labels ∧ 2 ≤ labels.length ∧
        zone.length ≤ 253 ∧ (∀ s ∈ labels, s.length ≤ 63 ∧ Zone.Near s) ∧
        ((∀ s ∈ labels, Zone.ProperLabel s) ↔ '\n' ∉ zone.toList)) ∧
      ('\n' ∈ zone.toList → '\\' ∈ target.toList) ∧
      (Zone.accept zone = .ok zone ↔ '\n' ∉ zone.toList) ∧
      ∀ (settings : Settings τ) (session : Session τ) (r : Report),
        (auditZone settings zone session).1 = .ok r →
          (r.zone = zone ↔ zone.toList.getLast? ≠ some '\n') := by
  refine ⟨fun name hname => Zone.readUnicode_ascii hname, ?_⟩
  intro zone h
  have hchars := Zone.accept_eq_ok.mp h
  obtain ⟨-, name, -, hmany, hall, hz⟩ := Zone.acceptChars_eq_ok.mp hchars
  have haccepted := Zone.accepted_of_labels hmany hall
  rw [← hz] at haccepted
  refine ⟨⟨_, hz, haccepted.many, ?_, ?_, haccepted.proper_iff⟩, ?_, ?_, ?_⟩
  · rw [← String.length_toList]
    exact haccepted.short
  · exact fun s hs => ⟨haccepted.labels_short s hs, haccepted.near s hs⟩
  · exact Zone.escape_of_break hchars
  · rw [Zone.accept_eq_ok]
    exact Zone.acceptChars_self_iff hchars
  · intro settings session r hr
    rw [(auditZone_names hr).1, Zone.normalize_eq_self]
    exact haccepted.normalizeChars_iff

/-- A break that an escape brings in. -/
theorem accept_proper_iff_escape :
    (∃ name, Dns.Name.readUnicode (Zone.normalizeChars "a\\010.com".toList) = .ok name ∧
      ∀ l ∈ name.labels, ∀ b ∈ l, b < 128) ∧
    Zone.accept "a\\010.com" = .ok "a\n.com" ∧ Zone.accept "a\n.com" ≠ .ok "a\n.com" ∧
      ∃ r, (auditZone endless "a\n.com" ⟨twoAddresses [], []⟩).1 = .ok r ∧ r.zone = "a\n.com" := by
  have hname : Dns.Name.readUnicode (Zone.normalizeChars "a\\010.com".toList) =
      .ok ⟨[[97, 10], [99, 111, 109]], by decide, by decide⟩ := by
    decide +kernel
  have hzone : Zone.accept "a\\010.com" = .ok "a\n.com" := by decide +kernel
  obtain ⟨hascii, hall⟩ := accept_proper_iff (τ := Float) "a\\010.com"
  obtain ⟨-, -, hself, hreport⟩ := hall _ hzone
  refine ⟨⟨_, hname, hascii _ hname⟩, hzone, ?_, ?_⟩
  · rw [ne_eq, hself]
    decide
  · have hok : (auditZone endless "a\n.com" ⟨twoAddresses [], []⟩).1.isOk = true := by decide +kernel
    cases hr : (auditZone endless "a\n.com" ⟨twoAddresses [], []⟩).1 with
    | error e =>
      rw [hr] at hok
      cases hok
    | ok r => exact ⟨r, rfl, (hreport _ _ r hr).mpr (by decide)⟩

end DelegationAudit
