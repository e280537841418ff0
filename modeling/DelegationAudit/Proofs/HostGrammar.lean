import DelegationAudit.Proofs.OriginName
import DelegationAudit.Proofs.ParentText
import DelegationAudit.Proofs.ZoneGate

namespace DelegationAudit

namespace Zone

open Text Dns

def isAlnum (c : Char) : Bool := ('a' ≤ c && c ≤ 'z') || ('0' ≤ c && c ≤ '9')

/-- A letter or digit, or two of them with up to 61 letters, digits and hyphens between. -/
inductive HostCore : List Char → Prop
  | one {c : Char} (hc : isAlnum c = true) : HostCore [c]
  | more {first last : Char} {inner : List Char} (hfirst : isAlnum first = true)
      (hinner : ∀ c ∈ inner, isAlnum c = true ∨ c = '-') (hfew : inner.length ≤ 61)
      (hlast : isAlnum last = true) : HostCore (first :: inner ++ [last])

structure HostLabel (s : List Char) : Prop where
  bounds : 1 ≤ s.length ∧ s.length ≤ 63
  form : ∃ core, HostCore core ∧ (s = core ∨ s = '_' :: core)

/-- Two labels at least, one dot between each two, and at most 253 characters in all. -/
structure Hostname (s : List Char) : Prop where
  short : s.length ≤ 253
  form : ∃ labels : List (List Char),
    2 ≤ labels.length ∧ (∀ label ∈ labels, HostLabel label) ∧ s = joinWith ['.'] labels

theorem isHostChar_iff {c : Char} : isHostChar c = true ↔ isAlnum c = true ∨ c = '-' := by
  rw [isHostChar, isAlnum, Bool.or_eq_true, beq_iff_eq]

theorem isAlnum_of_ne {c : Char} (hc : isHostChar c = true) (hne : c ≠ '-') : isAlnum c = true :=
  (isHostChar_iff.mp hc).resolve_right hne

theorem ne_hyphen_of_isAlnum {c : Char} (hc : isAlnum c = true) : c ≠ '-' := by
  rintro rfl
  exact absurd hc (by decide)

theorem HostCore.proper {s : List Char} (h : HostCore s) :
    s ≠ [] ∧ (∀ c ∈ s, isHostChar c = true) ∧ s.head? ≠ some '-' ∧ s.getLast? ≠ some '-' := by
  cases h with
  | @one c hc =>
    have hne := ne_hyphen_of_isAlnum hc
    refine ⟨List.cons_ne_nil _ _, ?_, by simpa using hne, by simpa using hne⟩
    intro d hd
    rw [List.mem_singleton.mp hd]
    exact isHostChar_iff.mpr (.inl hc)
  | @more first last inner hfirst hinner _ hlast =>
    refine ⟨by simp, ?_, by simpa using ne_hyphen_of_isAlnum hfirst, ?_⟩
    · intro d hd
      rw [isHostChar_iff]
      rcases List.mem_append.mp hd with hd | hd
      · rcases List.mem_cons.mp hd with rfl | hd
        · exact .inl hfirst
        · exact hinner d hd
      · rw [List.mem_singleton.mp hd]
        exact .inl hlast
    · rw [List.getLast?_concat]
      simpa using ne_hyphen_of_isAlnum hlast

theorem hostCore_of_proper {s : List Char} (hle : s.length ≤ 63) (hne : s ≠ [])
    (hall : ∀ c ∈ s, isHostChar c = true) (hhead : s.head? ≠ some '-')
    (hlast : s.getLast? ≠ some '-') : HostCore s := by
  obtain ⟨first, rest, rfl⟩ := List.exists_cons_of_ne_nil hne
  have hfirst : isAlnum first = true := by
    refine isAlnum_of_ne (hall first (by simp)) ?_
    rintro rfl
    exact hhead rfl
  rcases List.eq_nil_or_concat rest with rfl | ⟨inner, last, rfl⟩
  · exact .one hfirst
  · rw [List.concat_eq_append] at hle hall hlast ⊢
    rw [← List.cons_append, List.getLast?_concat] at hlast
    refine .more hfirst ?_ ?_ ?_
    · intro c hc
      exact isHostChar_iff.mp (hall c (by simp [hc]))
    · simp only [List.length_cons, List.length_append, List.length_nil] at hle
      omega
    · refine isAlnum_of_ne (hall last (by simp)) ?_
      rintro rfl
      exact hlast rfl

theorem hostLabel_iff {s : List Char} : HostLabel s ↔ ProperLabel s := by
  constructor
  · rintro ⟨⟨-, hle⟩, core, hcore, hs⟩
    exact ⟨hle, core, hs, hcore.proper⟩
  · intro h
    obtain ⟨core, hs, hne, hall, hhead, hlast⟩ := h.core
    have hle : core.length ≤ 63 := by
      have hshort := h.short
      rcases hs with rfl | rfl
      · exact hshort
      · rw [List.length_cons] at hshort
        omega
    have hpos := List.length_pos_of_ne_nil h.ne_nil
    exact ⟨⟨hpos, h.short⟩, core, hostCore_of_proper hle hne hall hhead hlast, hs⟩

theorem octetChars_labelOf {s : List Char} (h : ∀ c ∈ s, c.toNat < 128) :
    octetChars (labelOf s) = s := by
  have hback : ∀ c ∈ s, octetChar (UInt8.ofNat c.toNat) = c := by
    intro c hc
    rw [octetChar, toNat_octet (h c hc), Char.ofNat_toNat]
  rw [octetChars_eq, labelOf, List.map_map]
  exact (List.map_congr_left hback).trans (List.map_id s)

/-- Splitting a text at its dots and joining it again gives it back, unless a dot ends it. -/
theorem joinWith_labelCodes {s : List Char} (hstop : ∀ c ∈ s, isFullStop c = isDot c)
    (hlast : s.getLast? ≠ some '.') {label : List Nat} {gs : List (List Nat)}
    (h : labelCodes label (s.map (piece isFullStop)) = some gs) :
    joinWith ['.'] (gs.map (List.map Char.ofNat)) = label.map Char.ofNat ++ s := by
  induction s generalizing label gs with
  | nil =>
    cases label with
    | nil =>
      cases h
      rfl
    | cons n label =>
      cases h
      simp [joinWith]
  | cons c s ih =>
    rw [List.forall_mem_cons] at hstop
    have hrest : s.getLast? ≠ some '.' := by
      intro hdot
      have hne : s ≠ [] := by
        rintro rfl
        cases hdot
      exact hlast (by rwa [List.getLast?_cons_of_ne_nil hne])
    rw [List.map_cons, piece, hstop.1] at h
    by_cases hc : c = '.'
    · subst hc
      rw [if_pos (by decide)] at h
      by_cases hlabel : label = []
      · rw [hlabel] at h
        cases h
      rw [labelCodes_separator hlabel] at h
      obtain ⟨more, hmore, rfl⟩ := Option.map_eq_some_iff.mp h
      have hjoin := ih hstop.2 hrest hmore
      cases more with
      | nil =>
        -- Nothing behind the dot: it would have been the last character.
        rw [List.map_nil, List.map_nil, List.nil_append] at hjoin
        rw [← hjoin] at hlast
        exact absurd rfl hlast
      | cons g more =>
        rw [List.map_nil, List.nil_append] at hjoin
        rw [List.map_cons, List.map_cons, joinWith]
        · rw [← List.map_cons, hjoin]
          simp
        · simp
    · rw [if_neg (by simpa [isDot] using hc), labelCodes_code] at h
      rw [ih hstop.2 hrest h]
      simp

theorem octetChars_of_codes {gs : List (List Nat)} {labels : List Label}
    (h : List.Forall₂ (fun g l => unicodeLabel g = .ok l) gs labels)
    (hascii : ∀ g ∈ gs, ∀ n ∈ g, n < 128) :
    labels.map octetChars = gs.map (List.map Char.ofNat) := by
  induction h with
  | nil => rfl
  | @cons g l gs labels hl _ ih =>
    rw [List.forall_mem_cons] at hascii
    have hlabel : octetChars l = g.map Char.ofNat := by
      rcases unicodeLabel_eq_ok hl with ⟨-, rfl⟩ | ⟨hwide, -⟩
      · rw [octetChars_eq, List.map_map]
        refine List.map_congr_left fun n hn => ?_
        rw [Function.comp_apply, octetChar, toNat_octet (hascii.1 n hn)]
      · rw [Idna.isAsciiLabel_iff.mpr hascii.1] at hwide
        cases hwide
    rw [List.map_cons, List.map_cons, hlabel, ih hascii.2]

/-- A plain text that reads as a name is the labels of the name with dots between. -/
theorem joinWith_labels {s : List Char} {name : Name} (hascii : isAscii s = true) (hplain : '\\' ∉ s)
    (hlast : s.getLast? ≠ some '.') (hname : Name.readUnicode s = .ok name) (hne : name ≠ .root) :
    joinWith ['.'] (name.labels.map octetChars) = s := by
  rcases readLabels_eq_ok.mp hname with ⟨-, hroot⟩ | ⟨-, gs, hgs, hread⟩
  · exact absurd hroot hne
  have hcodes : ∀ g ∈ gs, ∀ n ∈ g, n < 128 := by
    intro g hg n hn
    have hmem := (mem_labelCodes hgs hg hn).resolve_left List.not_mem_nil
    rw [pieces_plain hplain] at hmem
    obtain ⟨c, hc, hcode⟩ := List.mem_map.mp hmem
    rw [piece] at hcode
    split at hcode
    · cases hcode
    · cases hcode
      exact isAscii_iff.mp hascii c hc
  rw [pieces_plain hplain] at hgs
  rw [octetChars_of_codes hread hcodes]
  exact joinWith_labelCodes (isFullStop_ascii hascii) hlast hgs

/-- Without the blanks around it and the dots at its end, in small letters. -/
def plainForm (s : List Char) : List Char := asciiLower (dropEnd (· == '.') (trim s))

section Plain

variable {s : List Char} (hascii : isAscii s = true)

theorem mem_plainForm {c : Char} (hc : c ∈ plainForm s) : ∃ d ∈ s, c = d.toLower := by
  obtain ⟨d, hd, rfl⟩ := List.mem_map.mp hc
  exact ⟨d, mem_trim ((List.rdropWhile_prefix _ _).subset hd), rfl⟩

include hascii

theorem normalizeChars_ascii : normalizeChars s = plainForm s := by
  refine lowerFrom_ascii [] _ (isAscii_iff.mpr fun c hc => ?_)
  exact isAscii_iff.mp hascii c (mem_trim ((List.rdropWhile_prefix _ _).subset hc))

theorem isAscii_plainForm : isAscii (plainForm s) = true := by
  rw [isAscii_iff]
  intro c hc
  obtain ⟨d, hd, rfl⟩ := mem_plainForm hc
  exact ascii_forall (P := fun d => d.toLower.toNat < 128) (by decide +kernel)
    (isAscii_iff.mp hascii d hd)

theorem getLast?_plainForm : (plainForm s).getLast? ≠ some '.' := by
  intro hlast
  rw [plainForm, asciiLower, List.getLast?_map, Option.map_eq_some_iff] at hlast
  obtain ⟨d, hd, hdot⟩ := hlast
  have hne : d ≠ '.' := by simpa using last_dropEnd hd
  have hmem : d ∈ s := mem_trim ((List.rdropWhile_prefix _ _).subset (List.mem_of_getLast? hd))
  exact ascii_forall (P := fun d => d ≠ '.' → d.toLower ≠ '.') (by decide +kernel)
    (isAscii_iff.mp hascii d hmem) hne hdot

theorem not_mem_plainForm (hplain : '\\' ∉ s) : '\\' ∉ plainForm s := by
  intro hc
  rw [← normalizeChars_ascii hascii] at hc
  exact hplain (mem_normalizeChars (by decide) hc)

end Plain

theorem isLabelInner_of_octetChar {b : Octet} : isHostChar (octetChar b) = true → isLabelInner b = true :=
  octet_forall (P := fun b => isHostChar (octetChar b) = true → isLabelInner b = true)
    (by decide +kernel) b

theorem isSmallAlnum_of_octetChar {b : Octet} :
    isHostChar (octetChar b) = true → octetChar b ≠ '-' → isSmallAlnum b = true :=
  octet_forall
    (P := fun b => isHostChar (octetChar b) = true → octetChar b ≠ '-' → isSmallAlnum b = true)
    (by decide +kernel) b

theorem isHostCore_of_proper {l : Label} (hle : l.length ≤ 63) (hne : l ≠ [])
    (hall : ∀ c ∈ octetChars l, isHostChar c = true) (hhead : (octetChars l).head? ≠ some '-')
    (hlast : (octetChars l).getLast? ≠ some '-') : isHostCore l = true := by
  have hchar : ∀ b ∈ l, isHostChar (octetChar b) = true := fun b hb => hall _ (List.mem_map_of_mem hb)
  rw [isHostCore_iff]
  refine ⟨hle, fun b hb => isLabelInner_of_octetChar (hchar b hb), ?_, ?_⟩
  · have hb := List.head?_eq_some_head hne
    refine ⟨_, hb, isSmallAlnum_of_octetChar (hchar _ (List.head_mem hne)) ?_⟩
    intro hhyphen
    rw [octetChars_eq, List.head?_map, hb, Option.map_some, hhyphen] at hhead
    exact hhead rfl
  · have hb := List.getLast?_eq_some_getLast hne
    refine ⟨_, hb, isSmallAlnum_of_octetChar (hchar _ (List.getLast_mem hne)) ?_⟩
    intro hhyphen
    rw [octetChars_eq, List.getLast?_map, hb, Option.map_some, hhyphen] at hlast
    exact hlast rfl

theorem isZoneLabel_of_proper {l : Label} (h : ProperLabel (octetChars l)) : isZoneLabel l = true := by
  have hbreak : dropBreak l = l := by
    rw [dropBreak, if_neg]
    intro hlast
    have hten : (octetChars l).getLast? = some '\n' := by
      rw [octetChars_eq, List.getLast?_map, beq_iff_eq.mp hlast]
      rfl
    exact absurd (h.last hten) (by decide)
  have hle : l.length ≤ 63 := by simpa [octetChars] using h.short
  obtain ⟨core, hs, hne, hall, hhead, hlast⟩ := h.core
  rw [isZoneLabel, hbreak]
  rcases hs with rfl | hs
  · have hbare : dropUnderscore l = l := by
      rcases dropUnderscore_cases l with heq | heq
      · exact heq.symm
      · have hmem : '_' ∈ octetChars l := by
          rw [heq, octetChars_eq, List.map_cons]
          exact List.mem_cons_self
        exact absurd (hall _ hmem) (by decide)
    rw [hbare]
    refine isHostCore_of_proper hle ?_ hall hhead hlast
    rintro rfl
    exact hne rfl
  · cases l with
    | nil => cases hs
    | cons b rest =>
      rw [octetChars_eq, List.map_cons, List.cons.injEq] at hs
      obtain ⟨hb, rfl⟩ := hs
      have hunderscore : b = 95 := by
        revert hb
        exact octet_forall (P := fun b => octetChar b = '_' → b = 95) (by decide +kernel) b
      subst hunderscore
      have hrest : rest.length ≤ 63 := by
        rw [List.length_cons] at hle
        omega
      show isHostCore rest = true
      refine isHostCore_of_proper hrest ?_ hall hhead hlast
      rintro rfl
      exact hne rfl

/-- A host name is the labels of a name: with two octets more it still fits. -/
theorem Hostname.exists_name {s : List Char} (h : Hostname s) : ∃ name : Name,
    2 ≤ name.labels.length ∧ (∀ l ∈ name.labels, ProperLabel (octetChars l)) ∧
      s = joinWith ['.'] (name.labels.map octetChars) := by
  obtain ⟨labels, hmany, hlabels, hs⟩ := h.form
  have hproper : ∀ t ∈ labels, ProperLabel t := fun t ht => hostLabel_iff.mp (hlabels t ht)
  have hback : ∀ t ∈ labels, octetChars (labelOf t) = t := by
    intro t ht
    refine octetChars_labelOf fun c hc => ?_
    rcases (hproper t ht).mem hc with rfl | hchar
    · decide
    · have hbounds := isHostChar_bounds hchar
      omega
  have hchars : (labels.map labelOf).map octetChars = labels := by
    rw [List.map_map]
    exact (List.map_congr_left hback).trans (List.map_id labels)
  have hbounds : ∀ l ∈ labels.map labelOf, 1 ≤ l.length ∧ l.length ≤ 63 := by
    intro l hl
    obtain ⟨t, ht, rfl⟩ := List.mem_map.mp hl
    simpa [labelOf] using (hlabels t ht).bounds
  have hsize : wireSize (labels.map labelOf) ≤ 255 := by
    have hne : labels.map labelOf ≠ [] := by
      intro hnil
      rw [List.map_eq_nil_iff.mp hnil] at hmany
      exact absurd hmany (by decide)
    have hwire := length_joinWith_octetChars hne
    have hshort := h.short
    rw [hchars, ← hs] at hwire
    omega
  refine ⟨⟨labels.map labelOf, hbounds, hsize⟩, by simpa using hmany, ?_, by rw [hchars, hs]⟩
  intro l hl
  obtain ⟨t, ht, rfl⟩ := List.mem_map.mp hl
  rw [hback t ht]
  exact hproper t ht

/-- What gets through the gate of all plain texts. -/
theorem acceptChars_plain_iff {s z : List Char} (hascii : isAscii s = true) (hplain : '\\' ∉ s) :
    acceptChars s = .ok z ↔ Hostname (plainForm s) ∧ z = plainForm s := by
  rw [acceptChars_eq_ok, normalizeChars_ascii hascii]
  constructor
  · rintro ⟨⟨-, hblank⟩, name, hname, hmany, hall, rfl⟩
    have hroot : name ≠ .root := by
      rintro rfl
      exact absurd hmany (by decide)
    have hjoin := joinWith_labels (isAscii_plainForm hascii) (not_mem_plainForm hascii hplain)
      (getLast?_plainForm hascii) hname hroot
    have haccepted := accepted_of_labels hmany hall
    rw [hjoin] at haccepted ⊢
    have hproper := haccepted.proper_iff.mpr fun hbreak => absurd (hblank _ hbreak) (by decide)
    exact ⟨⟨haccepted.short, _, haccepted.many, fun t ht => hostLabel_iff.mpr (hproper t ht),
      haccepted.text⟩, rfl⟩
  · rintro ⟨hhost, rfl⟩
    obtain ⟨name, hmany, hproper, htext⟩ := hhost.exists_name
    have hall : ∀ l ∈ name.labels, isZoneLabel l = true := fun l hl => isZoneLabel_of_proper (hproper l hl)
    have haccepted := accepted_of_labels hmany hall
    have hread := readUnicode_joinWith hmany hproper
    rw [← htext] at haccepted hread
    have hbreak : '\n' ∉ plainForm s := by
      refine haccepted.proper_iff.mp fun t ht => ?_
      obtain ⟨l, hl, rfl⟩ := List.mem_map.mp ht
      exact hproper l hl
    refine ⟨⟨haccepted.ne_nil, fun c hc => ?_⟩, name, hread, hmany, hall, htext⟩
    rcases haccepted.mem hc with rfl | rfl | hchar | rfl
    · decide
    · decide
    · exact isBlank_of_isHostChar hchar
    · exact absurd hc hbreak

/-- In ASCII and without escapes the zones are the host names, each as the plain form of the target, and
every other target is rejected. -/
theorem accept_plain {target : String} (hascii : isAscii target.toList = true)
    (hplain : '\\' ∉ target.toList) :
    (∀ zone, accept target = .ok zone ↔
      Hostname (plainForm target.toList) ∧ zone.toList = plainForm target.toList) ∧
    (¬ Hostname (plainForm target.toList) → ∃ rejection, accept target = .error rejection) := by
  have hiff : ∀ zone, accept target = .ok zone ↔
      Hostname (plainForm target.toList) ∧ zone.toList = plainForm target.toList := by
    intro zone
    rw [accept_eq_ok, acceptChars_plain_iff hascii hplain]
  refine ⟨hiff, fun hno => ?_⟩
  cases h : accept target with
  | error rejection => exact ⟨rejection, rfl⟩
  | ok zone => exact absurd ((hiff zone).mp h).1 hno

/-- Blanks, capitals and dots at the end do not matter; a hyphen at the end of a label does. -/
theorem accept_plain_service :
    isAscii " _Sip.Example-1.COM.. ".toList = true ∧ '\\' ∉ " _Sip.Example-1.COM.. ".toList ∧
    accept " _Sip.Example-1.COM.. " = .ok "_sip.example-1.com" ∧
    Hostname "_sip.example-1.com".toList ∧
    isAscii "example-.com".toList = true ∧ '\\' ∉ "example-.com".toList ∧
    ¬ Hostname "example-.com".toList := by
  have hascii : isAscii " _Sip.Example-1.COM.. ".toList = true := by decide
  have hplain : '\\' ∉ " _Sip.Example-1.COM.. ".toList := by decide
  have hascii' : isAscii "example-.com".toList = true := by decide
  have hplain' : '\\' ∉ "example-.com".toList := by decide
  have hzone : accept " _Sip.Example-1.COM.. " = .ok "_sip.example-1.com" := by decide +kernel
  have hform : plainForm "example-.com".toList = "example-.com".toList := by decide +kernel
  have hrejected : accept "example-.com" ≠ .ok "example-.com" := by decide +kernel
  obtain ⟨hhost, htext⟩ := ((accept_plain hascii hplain).1 _).mp hzone
  refine ⟨hascii, hplain, hzone, htext ▸ hhost, hascii', hplain', ?_⟩
  intro hhost'
  exact hrejected (((accept_plain hascii' hplain').1 _).mpr ⟨hform.symm ▸ hhost', hform.symm⟩)

end Zone

end DelegationAudit
