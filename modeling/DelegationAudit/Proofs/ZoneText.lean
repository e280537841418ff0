import DelegationAudit.Proofs.Isolation
import DelegationAudit.Proofs.Messages
import DelegationAudit.Proofs.ParentText
import DelegationAudit.Proofs.ZoneForm

namespace DelegationAudit

namespace Dns

open Text Idna

/-- A backslash at the end takes whatever is put behind it. -/
def opens : List Char → Bool
  | [] => false
  | ['\\'] => true
  | '\\' :: _ :: rest => opens rest
  | _ :: rest => opens rest

theorem opens_char {c : Char} (hc : c ≠ '\\') (s : List Char) : opens (c :: s) = opens s := by
  rw [opens]
  all_goals
    intros
    contradiction

section Spelling

variable {isStop : Char → Bool}

theorem Spells.opens_append {s : List Char} {ps : List Piece} (h : Spells isStop s ps)
    (t : List Char) : opens (s ++ t) = opens t := by
  induction h with
  | nil => rfl
  | char hc _ ih => rw [List.cons_append, opens_char hc, ih]
  | quoted ha _ ih => rw [List.cons_append, List.cons_append, opens, ih]
  | number hn _ ih =>
    have hpass : ∀ d : Char, d.isDigit = true → d ≠ '\\' := by
      rintro d hd rfl
      cases hd
    obtain ⟨-, hb, hc, -⟩ := escaped?_digits hn
    rw [List.cons_append, List.cons_append, List.cons_append, List.cons_append, opens,
      opens_char (hpass _ hb), opens_char (hpass _ hc), ih]

theorem Spells.not_opens {s : List Char} {ps : List Piece} (h : Spells isStop s ps) :
    opens s = false := by
  simpa [opens] using h.opens_append []

theorem Spells.opens_backslash {s : List Char} {ps : List Piece} (h : Spells isStop s ps) :
    opens (s ++ ['\\']) = true := by
  rw [h.opens_append]
  rfl

/-- What is read is spelled, unless it stands for the root as it is. -/
theorem spells_of_read {encode : List Nat → Except NameError Label} {s : List Char} {n : Name}
    (hs : Stops isStop) (h : readLabels isStop encode s = .ok n) : ∃ ps, Spells isStop s ps := by
  rcases readLabels_eq_ok.mp h with ⟨hroot, -⟩ | ⟨-, gs, hgs, -⟩
  · obtain ⟨c, rfl, hc⟩ := exists_of_standsForRoot hroot
    refine ⟨_, .char ?_ .nil⟩
    rintro rfl
    simp [hs.backslash] at hc
  · exact ⟨_, spells_pieces (not_broken_of_labelCodes hgs)⟩

theorem Spells.code_mem {s : List Char} {ps : List Piece} (h : Spells isStop s ps) {c : Char}
    (hc : c ∈ s) (hbackslash : c ≠ '\\') (hdigit : c.isDigit = false) (hstop : isStop c = false) :
    .code c.toNat ∈ ps := by
  induction h with
  | nil => cases hc
  | @char d s ps hd _ ih =>
    rcases List.mem_cons.mp hc with rfl | hc
    · rw [piece, hstop]
      exact List.mem_cons_self
    · exact List.mem_cons_of_mem _ (ih hc)
  | @quoted a s ps ha _ ih =>
    rcases List.mem_cons.mp hc with rfl | hc
    · exact absurd rfl hbackslash
    · rcases List.mem_cons.mp hc with rfl | hc
      · exact List.mem_cons_self
      · exact List.mem_cons_of_mem _ (ih hc)
  | @number a b d n s ps hn _ ih =>
    obtain ⟨ha, hb, hd, -⟩ := escaped?_digits hn
    have hne : ∀ e : Char, e.isDigit = true → c ≠ e := by
      rintro e he rfl
      rw [hdigit] at he
      cases he
    have hrest : c ∈ s := by
      simpa [hbackslash, hne a ha, hne b hb, hne d hd] using hc
    exact List.mem_cons_of_mem _ (ih hrest)

end Spelling

/-- The codes of a label can be told from what it is encoded as where they are low. -/
def Literal (encode : List Nat → Except NameError Label) : Prop :=
  ∀ (g x y : List Nat) (l : Label), encode (g ++ x) = .ok l → encode (g ++ y) = .ok l →
    (∃ n ∈ x, n < 45) → (∀ n ∈ y, n < 128) → x.map UInt8.ofNat = y.map UInt8.ofNat

theorem octetLabel_literal : Literal octetLabel := by
  intro g x y l hx hy _ _
  cases hx
  have hsame := Except.ok.inj hy
  rw [List.map_append, List.map_append] at hsame
  exact (List.append_cancel_left hsame).symm

theorem unicodeLabel_literal : Literal unicodeLabel := by
  intro g x y l hx hy ⟨n, hn, hlow⟩ hylow
  have hascii : isAsciiLabel (g ++ x) = true ∧ l = (g ++ x).map UInt8.ofNat := by
    rcases unicodeLabel_eq_ok hx with h | ⟨-, -, hclean, -⟩
    · exact h
    · have hle := hclean.above n (List.mem_append_right _ hn)
      omega
  have hwhole : isAsciiLabel (g ++ y) = true := by
    rw [isAsciiLabel_iff, List.forall_mem_append]
    exact ⟨fun k hk => isAsciiLabel_iff.mp hascii.1 k (List.mem_append_left _ hk), hylow⟩
  rcases unicodeLabel_eq_ok hy with ⟨-, hl⟩ | ⟨hwide, -⟩
  · rw [hascii.2, List.map_append, List.map_append] at hl
    exact List.append_cancel_left hl
  · rw [hwhole] at hwide
    cases hwide

theorem forall₂_last {α β : Type} {R : α → β → Prop} {front : List α} {a : α} {bs : List β}
    (h : List.Forall₂ R (front ++ [a]) bs) : ∃ b, bs.drop front.length = [b] ∧ R a b := by
  have hdrop := (List.forall₂_drop_append bs front [a] h.flip).flip
  obtain ⟨b, rest, hb, hnil, hbs⟩ := List.forall₂_cons_left_iff.mp hdrop
  cases hnil
  exact ⟨b, hbs, hb⟩

/-- Blanks at the end of a label make another label of it, and so they do where a backslash takes the
dot that would be there without them. -/
theorem Literal.blanks {encode : List Nat → Except NameError Label} (hliteral : Literal encode)
    {g x y : List Nat} {l : Label} (hne : x ≠ []) (hx : ∀ n ∈ x, n < 45) (hy : y = [] ∨ y = [46])
    (hencode : encode (g ++ x) = .ok l) : encode (g ++ y) ≠ .ok l := by
  intro hencode'
  obtain ⟨n, hn⟩ := List.exists_mem_of_ne_nil x hne
  have hlow := hx n hn
  have hylow : ∀ k ∈ y, k < 128 := by
    rcases hy with rfl | rfl <;> simp
  have hsame := hliteral g x y l hencode hencode' ⟨n, hn, hlow⟩ hylow
  have hmem : UInt8.ofNat n ∈ y.map UInt8.ofNat := hsame ▸ List.mem_map_of_mem hn
  rcases hy with rfl | rfl
  · cases hmem
  · have hval := congrArg UInt8.toNat (List.mem_singleton.mp hmem)
    rw [toNat_octet (by omega), toNat_octet (by omega)] at hval
    omega

/-- What a text may end in where it is made absolute: nothing more, the final dot, or a dot that a
backslash takes. -/
def Ending (suffix : List Piece) : Prop := suffix = [] ∨ suffix = [.separator] ∨ suffix = [.code 46]

theorem Ending.labelCodes {suffix : List Piece} (h : Ending suffix) {last : List Nat}
    {hs : List (List Nat)} (hcodes : labelCodes last suffix = some hs) :
    hs = [] ∨ ∃ y, (y = [] ∨ y = [46]) ∧ hs = [last ++ y] := by
  rcases h with rfl | rfl | rfl
  · cases last with
    | nil => exact .inl (by simpa using hcodes.symm)
    | cons n last => exact .inr ⟨[], .inl rfl, by simpa [labelCodes_end] using hcodes.symm⟩
  · cases last with
    | nil => cases hcodes
    | cons n last => exact .inr ⟨[], .inl rfl, by simpa [labelCodes_separator] using hcodes.symm⟩
  · exact .inr ⟨[46], .inr rfl, by simpa [labelCodes_end] using hcodes.symm⟩

/-- Blanks in place of such an ending give other labels. -/
theorem Literal.blanks_matter {encode : List Nat → Except NameError Label} (hliteral : Literal encode)
    {ps suffix : List Piece} {x : List Nat} (hne : x ≠ []) (hx : ∀ n ∈ x, n < 45)
    (hsuffix : Ending suffix) {gs gs' : List (List Nat)} {ls : List Label}
    (hz : labelCodes [] (ps ++ x.map .code) = some gs)
    (hread : List.Forall₂ (fun g l => encode g = .ok l) gs ls)
    (ha : labelCodes [] (ps ++ suffix) = some gs') :
    ¬ List.Forall₂ (fun g l => encode g = .ok l) gs' ls := by
  intro hread'
  obtain ⟨whole, last, hend⟩ := labelCodes_front hz
  have hgs : gs = whole ++ [last ++ x] := by
    have hcodes := labelCodes_codes last x []
    rw [List.append_nil, labelCodes_end (by simp [hne])] at hcodes
    rw [hend, hcodes] at hz
    exact (Option.some.inj hz).symm
  rw [hend] at ha
  obtain ⟨hs, hcodes, rfl⟩ := Option.map_eq_some_iff.mp ha
  have hlength := hread.length_eq
  rw [hgs] at hread
  rcases hsuffix.labelCodes hcodes with rfl | ⟨y, hy, rfl⟩
  · have hlength' := hread'.length_eq
    rw [← hlength, hgs, List.length_append, List.length_append] at hlength'
    simp at hlength'
  · -- There are as many labels either way, so the last ones would be encoded alike.
    obtain ⟨l, hl, hencode⟩ := forall₂_last hread
    obtain ⟨l', hl', hencode'⟩ := forall₂_last hread'
    rw [hl, List.singleton_inj] at hl'
    subst hl'
    exact hliteral.blanks hne hx hy hencode hencode'

theorem labelCodes_final_separator {ps : List Piece} {gs : List (List Nat)}
    (h : labelCodes [] (ps ++ [.separator]) = some gs) : labelCodes [] ps = some gs := by
  obtain ⟨whole, last, hend⟩ := labelCodes_front h
  have hwhole := hend []
  rw [hend] at h
  rw [List.append_nil] at hwhole
  cases last with
  | nil => cases h
  | cons n last =>
    rw [hwhole]
    exact h

/-- What comes before the hyphen has no part in escapes and ends no label. -/
theorem low_plain {c : Char} (h : c.toNat < 45) :
    c ≠ '\\' ∧ c.isDigit = false ∧ isFullStop c = false :=
  ascii_forall (P := fun c => c.toNat < 45 → c ≠ '\\' ∧ c.isDigit = false ∧ isFullStop c = false)
    (by decide +kernel) (by omega) h

section Reading

variable {isStop : Char → Bool} {encode : List Nat → Except NameError Label}

/-- A single full stop is no label, so of the texts that fall into labels one alone means the root. -/
theorem standsForRoot_of_codes {s : List Char} {gs : List (List Nat)}
    (h : labelCodes [] (pieces isStop s) = some gs) : standsForRoot isStop s = (s == ['@']) := by
  rcases s with _ | ⟨c, _ | ⟨d, rest⟩⟩
  · rfl
  · have hstop : isStop c = false := by
      rw [Bool.eq_false_iff]
      intro hstop
      by_cases hc : c = '\\'
      · rw [hc] at h
        cases h
      · rw [pieces_char hc, piece, if_pos hstop] at h
        cases h
    simp [standsForRoot, hstop]
  · simp [standsForRoot]

/-- Which texts read as they do with a dot behind them. -/
theorem readLabels_dot (hs : Stops isStop) {z : List Char} {n : Name} (hne : z ≠ [])
    (hn : readLabels isStop encode (z ++ ['.']) = .ok n) :
    readLabels isStop encode z = .ok n ↔ opens z = false ∧ z ≠ ['@'] := by
  obtain ⟨ps, hspells⟩ := spells_of_read hs hn
  have hlong : 2 ≤ (z ++ ['.']).length := by
    have hpos := List.length_pos_of_ne_nil hne
    rw [List.length_append, List.length_singleton]
    omega
  have hroot : standsForRoot isStop (z ++ ['.']) = false := standsForRoot_of_length hlong
  rcases readLabels_eq_ok.mp hn with ⟨hstands, -⟩ | ⟨-, gs, hgs, hread⟩
  · rw [hroot] at hstands
    cases hstands
  rcases hspells.of_append_char (by decide) with ⟨qs, hz⟩ | ⟨t, qs, rfl, ht⟩
  · rw [hz.pieces_append, pieces_dot hs] at hgs
    have hcodes := labelCodes_final_separator hgs
    rw [← hz.pieces_eq] at hcodes
    simp only [hz.not_opens, true_and]
    constructor
    · rintro hok rfl
      rcases readLabels_eq_ok.mp hok with ⟨-, rfl⟩ | ⟨hnot, -⟩
      · exact not_root_of_labelCodes hgs (by simp) hread rfl
      · simp [standsForRoot] at hnot
    · intro hsign
      exact readLabels_eq_ok.mpr (.inr ⟨by simpa [standsForRoot_of_codes hcodes], gs, hcodes, hread⟩)
  · -- The backslash took the dot, and without it is a broken escape.
    refine iff_of_false ?_ fun h => ?_
    · intro hok
      obtain ⟨rs, hrs⟩ := spells_of_read hs hok
      have hopens := ht.opens_backslash
      rw [hrs.not_opens] at hopens
      cases hopens
    · rw [ht.opens_backslash] at h
      cases h.1

theorem pieces_low {tail : List Char} (hlow : ∀ c ∈ tail, c.toNat < 45)
    (hstop : ∀ c ∈ tail, isStop c = false) :
    pieces isStop tail = (tail.map Char.toNat).map .code := by
  rw [List.map_map]
  exact (spells_plain fun c hc => ⟨(low_plain (hlow c hc)).1, hstop c hc⟩).pieces_eq

/-- The pieces of a text that blanks are put behind, and of the same text made absolute. -/
theorem pieces_blanks (hs : Stops isStop) {m tail dot : List Char} {ps : List Piece}
    (hspells : Spells isStop (m ++ dot) ps) (hne : tail ≠ []) (hlow : ∀ c ∈ tail, c.toNat < 45)
    (hstop : ∀ c ∈ tail, isStop c = false) (hdot : dot = [] ∨ dot = ['.']) :
    ∃ front suffix, pieces isStop (m ++ tail) = front ++ (tail.map Char.toNat).map .code ∧
      pieces isStop (m ++ dot) = front ++ suffix ∧ Ending suffix := by
  have htail := pieces_low hlow hstop
  rcases hdot with rfl | rfl
  · rw [List.append_nil] at hspells ⊢
    exact ⟨ps, [], by rw [hspells.pieces_append, htail], by simp [hspells.pieces_eq], .inl rfl⟩
  · rcases hspells.of_append_char (by decide) with ⟨qs, h⟩ | ⟨t, qs, rfl, h⟩
    · exact ⟨qs, [.separator], by rw [h.pieces_append, htail],
        by rw [h.pieces_append, pieces_dot hs], .inr (.inl rfl)⟩
    · -- The backslash at the end takes the first blank, or the dot if there is none.
      obtain ⟨b, rest, rfl⟩ := List.exists_cons_of_ne_nil hne
      obtain ⟨hb, hdigit, -⟩ := low_plain (hlow b (by simp))
      refine ⟨qs, [.code 46], ?_, ?_, .inr (.inr rfl)⟩
      · rw [List.append_assoc, List.singleton_append, h.pieces_append, pieces_quoted hdigit, ← htail,
          pieces_char hb, piece, hstop b (by simp)]
        rfl
      · rw [List.append_assoc, List.singleton_append, h.pieces_append, pieces_quoted (by decide)]
        rfl

/-- Blanks behind a text change what it reads as. -/
theorem readLabels_blanks (hs : Stops isStop) (hliteral : Literal encode) {m tail dot : List Char}
    {n : Name} (hm : m ≠ []) (hne : tail ≠ []) (hlow : ∀ c ∈ tail, c.toNat < 45)
    (hstop : ∀ c ∈ tail, isStop c = false) (hdot : dot = [] ∨ dot = ['.'])
    (hn : readLabels isStop encode (m ++ dot) = .ok n) :
    readLabels isStop encode (m ++ tail) ≠ .ok n := by
  intro hok
  obtain ⟨qs, hspells⟩ := spells_of_read hs hn
  obtain ⟨ps, suffix, hz, ha, hsuffix⟩ := pieces_blanks hs hspells hne hlow hstop hdot
  have hx : ∀ k ∈ tail.map Char.toNat, k < 45 := by simpa using hlow
  have hx' : tail.map Char.toNat ≠ [] := by simpa using hne
  rcases readLabels_eq_ok.mp hok with ⟨hstands, -⟩ | ⟨-, gs, hgs, hread⟩
  · have hpos := List.length_pos_of_ne_nil hm
    have hpos' := List.length_pos_of_ne_nil hne
    rw [standsForRoot_of_length (by rw [List.length_append]; omega)] at hstands
    cases hstands
  · rcases readLabels_eq_ok.mp hn with ⟨-, rfl⟩ | ⟨-, gs', hgs', hread'⟩
    · exact not_root_of_labelCodes hgs (by simp [hz, hne]) hread rfl
    · rw [hz] at hgs
      rw [ha] at hgs'
      exact hliteral.blanks_matter hx' hx hsuffix hgs hread hgs' hread'

end Reading

/-- How texts are read that are in ASCII, or how those are that are not. -/
structure Reads (ascii : Bool) (isStop : Char → Bool) (encode : List Nat → Except NameError Label) :
    Prop where
  stops : Stops isStop
  literal : Literal encode
  low {c : Char} (h : c.toNat < 45) : isStop c = false
  reads {s : List Char} (h : isAscii s = ascii) : Name.readChars s = readLabels isStop encode s

theorem exists_reads (ascii : Bool) : ∃ isStop encode, Reads ascii isStop encode := by
  cases ascii with
  | true =>
    refine ⟨isDot, octetLabel, isDot_stops, octetLabel_literal, ?_, ?_⟩
    · rintro c h
      rw [isDot, beq_eq_false_iff_ne]
      rintro rfl
      exact absurd h (by decide)
    · intro s h
      rw [Name.readChars, if_pos h, Name.readOctets]
  | false =>
    refine ⟨isFullStop, unicodeLabel, isFullStop_stops, unicodeLabel_literal, ?_, ?_⟩
    · exact fun h => (low_plain h).2.2
    · intro s h
      rw [Name.readChars, h, if_neg Bool.false_ne_true, Name.readUnicode]

namespace Name

theorem wideBlank_plain {c : Char} (h : c.toNat ∈ wideBlanks) :
    128 ≤ c.toNat ∧ c ≠ '\\' ∧ c ≠ '@' ∧ c.isDigit = false ∧ isFullStop c = false := by
  have all : ∀ n ∈ wideBlanks, 128 ≤ n ∧ Char.ofNat n ≠ '\\' ∧ Char.ofNat n ≠ '@' ∧
      (Char.ofNat n).isDigit = false ∧ isFullStop (Char.ofNat n) = false := by
    decide +kernel
  simpa using all c.toNat h

theorem blank_low {s : List Char} {n : Name} (h : readChars s = .ok n) {c : Char} (hc : c ∈ s)
    (hblank : isBlank c = true) : c.toNat < 45 := by
  refine (isBlank_cases hblank).resolve_right fun hwide => ?_
  obtain ⟨hhigh, hbackslash, hsign, hdigit, hstop⟩ := wideBlank_plain hwide
  have hnot : ¬ isAscii s = true := by
    rw [isAscii_iff]
    intro hall
    have hlow := hall c hc
    omega
  rw [readChars, if_neg hnot] at h
  obtain ⟨ps, hspells⟩ := spells_of_read isFullStop_stops h
  have hcode := hspells.code_mem hc hbackslash hdigit hstop
  rcases readLabels_eq_ok.mp h with ⟨hroot, -⟩ | ⟨-, gs, hgs, hread⟩
  · obtain ⟨d, rfl, hd⟩ := exists_of_standsForRoot hroot
    rw [← List.mem_singleton.mp hc, hstop] at hd
    exact hd.elim hsign (by simp)
  · rw [hspells.pieces_eq] at hgs
    obtain ⟨g, hg, hmem⟩ := exists_mem_labelCodes hgs (.inr hcode)
    obtain ⟨l, -, hl⟩ := forall₂_exists_left hread.flip hg
    rcases unicodeLabel_eq_ok hl with ⟨hascii, -⟩ | ⟨-, -, -, hclear⟩
    · have hlow := isAsciiLabel_iff.mp hascii _ hmem
      omega
    · exact hclear _ hwide hmem

/-- Blanks behind a text are read as part of it. -/
theorem readChars_blanks {m tail dot : List Char} {n : Name} (hm : m ≠ []) (hne : tail ≠ [])
    (htail : ∀ c ∈ tail, isBlank c = true) (hdot : dot = [] ∨ dot = ['.'])
    (hn : readChars (m ++ dot) = .ok n) : readChars (m ++ tail) ≠ .ok n := by
  intro hz
  have hlow : ∀ c ∈ tail, c.toNat < 45 := fun c hc =>
    blank_low hz (List.mem_append_right _ hc) (htail c hc)
  have hascii : isAscii tail = true := by
    rw [isAscii_iff]
    intro c hc
    have hlt := hlow c hc
    omega
  have hascii' : isAscii dot = true := by
    rcases hdot with rfl | rfl <;> rfl
  obtain ⟨isStop, encode, hreads⟩ := exists_reads (isAscii m)
  rw [hreads.reads (by rw [isAscii_append, hascii, Bool.and_true])] at hz
  rw [hreads.reads (by rw [isAscii_append, hascii', Bool.and_true])] at hn
  have hstop : ∀ c ∈ tail, isStop c = false := fun c hc => hreads.low (hlow c hc)
  exact readLabels_blanks hreads.stops hreads.literal hm hne hlow hstop hdot hn hz

theorem absoluteChars_cases {s : List Char} (h : trim s ≠ []) :
    ∃ dot, (dot = [] ∨ dot = ['.']) ∧ absoluteChars s = trim s ++ dot := by
  have hne : (trim s).isEmpty = false := by simpa using h
  rw [absoluteChars, hne, if_neg Bool.false_ne_true]
  split
  · exact ⟨[], .inl rfl, (List.append_nil _).symm⟩
  · exact ⟨['.'], .inr rfl, rfl⟩

theorem readChars_dot_iff {z : List Char} {n : Name} (hne : z ≠ [])
    (hn : readChars (z ++ ['.']) = .ok n) : readChars z = .ok n ↔ opens z = false ∧ z ≠ ['@'] := by
  have hdot : isAscii ['.'] = true := rfl
  obtain ⟨isStop, encode, hreads⟩ := exists_reads (isAscii z)
  rw [hreads.reads (by rw [isAscii_append, hdot, Bool.and_true])] at hn
  rw [hreads.reads rfl]
  exact readLabels_dot hreads.stops hne hn

theorem not_opens_of_read {s : List Char} {n : Name} (h : readChars s = .ok n) : opens s = false := by
  obtain ⟨isStop, encode, hreads⟩ := exists_reads (isAscii s)
  rw [hreads.reads rfl] at h
  obtain ⟨ps, hps⟩ := spells_of_read hreads.stops h
  exact hps.not_opens

theorem readChars_absolute_iff {z : List Char} {n : Name}
    (hhead : ∀ c, z.head? = some c → isBlank c = false) (hn : readChars (absoluteChars z) = .ok n) :
    readChars z = .ok n ↔ trim z = z ∧ opens z = false ∧ z ≠ ['@'] := by
  by_cases htrim : trim z = z
  · simp only [htrim, true_and]
    rw [absoluteChars, htrim] at hn
    split at hn
    next hnil =>
      rw [List.isEmpty_iff] at hnil
      subst hnil
      cases hn
      exact iff_of_true rfl ⟨rfl, by simp⟩
    next hne =>
      split at hn
      next hdot =>
        refine iff_of_true hn ⟨not_opens_of_read hn, ?_⟩
        rintro rfl
        cases hdot
      next => exact readChars_dot_iff (by simpa using hne) hn
  · refine iff_of_false ?_ fun h => htrim h.1
    obtain ⟨tail, hz, htail⟩ := exists_trim_append hhead
    have hne : tail ≠ [] := by
      rintro rfl
      exact htrim (by simpa using hz.symm)
    have hm : trim z ≠ [] := by
      intro hnil
      rw [hnil, List.nil_append] at hz
      obtain ⟨c, rest, hcons⟩ := List.exists_cons_of_ne_nil hne
      have hblank := htail c (by simp [hcons])
      rw [hhead c (by simp [hz, hcons])] at hblank
      cases hblank
    obtain ⟨dot, hdot, habsolute⟩ := absoluteChars_cases hm
    rw [habsolute] at hn
    have hreads := readChars_blanks hm hne htail hdot hn
    rwa [← hz] at hreads

end Name

end Dns

variable {τ : Type} [Instant τ]

theorem Scan.survey_begins (s : Scan τ) {zone : String} {name : Dns.Name}
    (hz : Dns.Name.read (Dns.absolute zone) = .ok name) (session : Session τ) :
    (session.network.exchange (s.client.message s.settings.resolver name .ns)).2.Leads
      (s.survey zone session).2.session.network := by
  have hquery : buildQuery (Dns.absolute zone) .ns false = .ok ⟨name, .ns, false⟩ := by
    rw [buildQuery, hz]
  exact (((s.client.exchange_leads_ask hquery s.settings.resolver session.network).trans
    (s.client.ask_leads_resolve _ _ _ _ _)).trans (resolve_leads_discover _ _ _ _)).trans
    (s.discover_leads_survey zone session)

/-- What is sent first is the question for the zone, under the text of the zone made absolute. -/
theorem auditZone_asks {settings : Settings τ} {target : String} {session : Session τ} {call : Call τ}
    {more : List (Call τ)} (h : (auditZone settings target session).2.network.calls =
      session.network.calls ++ call :: more) :
    ∃ name, Dns.Name.read (Dns.absolute (Zone.normalize target)) = .ok name ∧
      call = Client.message (Scan.client (Scan.start settings session.network.clock)) settings.resolver
        name .ns := by
  rw [auditZone_session] at h
  cases hz : Dns.Name.read (Dns.absolute (Zone.normalize target)) with
  | error fault =>
    obtain ⟨e, hs⟩ := (Scan.start settings session.network.clock).survey_unreadable _ session hz
    rw [hs] at h
    change session.network.calls = _ at h
    simp at h
  | ok name =>
    have hprefix :=
      ((Scan.start settings session.network.clock).survey_begins hz session).calls_grow
    rw [Network.exchange_calls, h, List.prefix_append_right_inj, List.cons_prefix_cons] at hprefix
    exact ⟨name, rfl, hprefix.1.symm⟩

/-- The text of the zone in a report reads as the name that was asked for unless it has blanks behind
it, ends in a backslash or is the sign of the root. The text of the parent reads as the parent of that
name if the zone is ASCII; if not, no other full stop must come before the first dot, and what is behind
it must not become ASCII with octets beyond ASCII in it. -/
theorem auditZone_names_iff {settings : Settings τ} {target : String} {session : Session τ} {r : Report}
    (hr : (auditZone settings target session).1 = .ok r) {call : Call τ} {more : List (Call τ)}
    (hsent : (auditZone settings target session).2.network.calls =
      session.network.calls ++ call :: more) :
    (call.server = settings.resolver ∧ call.port = settings.port ∧ call.query.type = .ns ∧
      Dns.Name.read (Dns.absolute r.zone) = .ok call.query.name) ∧
    (Dns.Name.read r.zone = .ok call.query.name ↔
      Text.trim r.zone.toList = r.zone.toList ∧ Dns.opens r.zone.toList = false ∧ r.zone ≠ "@") ∧
    (Dns.Name.read r.parent = .ok call.query.name.parent ↔
      Text.isAscii (Dns.absolute r.zone).toList = true ∨
        (Dns.firstStop Dns.isFullStop (Dns.absolute r.zone).toList = none ∨
          Dns.firstStop Dns.isFullStop (Dns.absolute r.zone).toList = some '.') ∧
        (Text.isAscii r.parent.toList = false ∨ Dns.PlainCodes r.parent.toList)) := by
  obtain ⟨name, hname, rfl⟩ := auditZone_asks hsent
  obtain ⟨hzone, hparent⟩ := auditZone_names hr
  rw [hparent, hzone]
  refine ⟨⟨rfl, rfl, rfl, hname⟩, ?_, ?_⟩
  · have hhead : ∀ c, (Zone.normalize target).toList.head? = some c → Text.isBlank c = false := by
      intro c hc
      rw [Zone.normalize, String.toList_ofList] at hc
      exact Zone.head_normalizeChars hc
    rw [Dns.Name.read, Dns.absolute, String.toList_ofList] at hname
    rw [Dns.Name.read, ne_eq, String.ext_iff]
    exact Dns.Name.readChars_absolute_iff hhead hname
  · have hdot := Dns.absoluteChars_endsInDot (Zone.normalize target).toList
    rw [Dns.Name.read, Dns.absolute, String.toList_ofList] at hname
    rw [Dns.Name.read, Dns.parentOf, Dns.absolute, String.toList_ofList, String.toList_ofList]
    exact Dns.Name.readChars_parent_iff hdot hname

/-- A blank before the final dot stays in the zone of the report, which then reads as another name. -/
theorem auditZone_names_iff_blank :
    ∃ (r : Report) (call : Call Float) (more : List (Call Float)),
      (auditZone endless "example.com ." ⟨twoAddresses [], []⟩).1 = .ok r ∧
      (auditZone endless "example.com ." ⟨twoAddresses [], []⟩).2.network.calls =
        (twoAddresses []).calls ++ call :: more ∧
      Dns.Name.read r.zone ≠ .ok call.query.name ∧
      Dns.Name.read r.parent = .ok call.query.name.parent := by
  have hzone : Zone.normalize "example.com ." = "example.com " := by decide +kernel
  have hlength : (auditZone endless "example.com ." ⟨twoAddresses [], []⟩).2.network.calls.length = 10 := by
    decide +kernel
  have hok : (auditZone endless "example.com ." ⟨twoAddresses [], []⟩).1.isOk = true := by decide +kernel
  obtain ⟨call, more, hcalls⟩ :=
    List.exists_cons_of_ne_nil (List.ne_nil_of_length_pos (by rw [hlength]; decide))
  cases hr : (auditZone endless "example.com ." ⟨twoAddresses [], []⟩).1 with
  | error e =>
    rw [hr] at hok
    cases hok
  | ok r =>
    obtain ⟨-, hread, hparent⟩ := auditZone_names_iff hr hcalls
    rw [(auditZone_names hr).1, hzone] at hread hparent
    refine ⟨r, call, more, rfl, hcalls, ?_, hparent.mpr (.inl (by decide +kernel))⟩
    rw [(auditZone_names hr).1, hzone, ne_eq, hread]
    exact fun h => absurd h.1 (by decide +kernel)

end DelegationAudit
