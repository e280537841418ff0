import DelegationAudit.Dns.Record
import DelegationAudit.Proofs.NameText

namespace DelegationAudit

open Text

namespace Text

theorem asciiLower_append (s t : List Char) : asciiLower (s ++ t) = asciiLower s ++ asciiLower t :=
  List.map_append

theorem asciiLower_eq_self {s : List Char} (h : ∀ c ∈ s, c.toLower = c) : asciiLower s = s :=
  (List.map_congr_left h).trans (List.map_id s)

theorem asciiLower_flatMap {α : Type} (f : α → List Char) (items : List α) :
    asciiLower (items.flatMap f) = items.flatMap fun a => asciiLower (f a) :=
  List.map_flatMap

theorem asciiLower_joinWith (sep : List Char) (texts : List (List Char)) :
    asciiLower (joinWith sep texts) = joinWith (asciiLower sep) (texts.map asciiLower) := by
  induction texts with
  | nil => rfl
  | cons s rest ih =>
    cases rest with
    | nil => rfl
    | cons t rest =>
      change asciiLower (s ++ sep ++ joinWith sep (t :: rest)) = _
      rw [asciiLower_append, asciiLower_append, ih]
      rfl

theorem lower_eq_asciiLower {s : List Char} (h : isAscii s = true) : lower s = asciiLower s :=
  lowerFrom_ascii [] s h

theorem isAscii_joinWith {c : Char} (hc : c.toNat < 128) {texts : List (List Char)}
    (h : ∀ s ∈ texts, isAscii s = true) : isAscii (joinWith [c] texts) = true := by
  rw [isAscii_iff]
  intro d hd
  rcases mem_joinWith hd with rfl | ⟨s, hs, hd⟩
  · exact hc
  · exact isAscii_iff.mp (h s hs) d hd

end Text

namespace Number

/-- Beyond the sixteen digits there is just one more character. -/
theorem digitChar_induction {P : Char → Prop} (hdigit : ∀ d < 16, P (Nat.digitChar d)) (hstar : P '*')
    (d : Nat) : P (Nat.digitChar d) := by
  by_cases hd : d < 16
  · exact hdigit d hd
  · have hbeyond : Nat.digitChar d = '*' := by
      unfold Nat.digitChar
      repeat rw [if_neg (by omega)]
    rwa [hbeyond]

theorem toLower_digitChar (d : Nat) : (Nat.digitChar d).toLower = Nat.digitChar d :=
  digitChar_induction (P := fun c => c.toLower = c) (by decide) rfl d

theorem digitChar_lt (d : Nat) : (Nat.digitChar d).toNat < 128 :=
  digitChar_induction (P := fun c => c.toNat < 128) (by decide) (by decide) d

theorem isAscii_natText (n : Nat) : isAscii (natText n) = true := by
  rw [isAscii_iff]
  intro c hc
  obtain ⟨d, rfl⟩ := mem_toDigits (by decide) hc
  exact digitChar_lt d

theorem asciiLower_toDigits {base : Nat} (hb : 1 < base) (n : Nat) :
    asciiLower (Nat.toDigits base n) = Nat.toDigits base n := by
  apply asciiLower_eq_self
  intro c hc
  obtain ⟨d, rfl⟩ := mem_toDigits hb hc
  exact toLower_digitChar d

end Number

namespace Net

theorem IPv4.asciiLower_chars (a : IPv4) : asciiLower a.chars = a.chars := by
  apply asciiLower_eq_self
  intro c hc
  rcases mem_chars hc with rfl | ⟨d, rfl⟩
  · rfl
  · exact Number.toLower_digitChar d

theorem IPv4.isAscii_chars (a : IPv4) : isAscii a.chars = true := by
  rw [isAscii_iff]
  intro c hc
  rcases mem_chars hc with rfl | ⟨d, rfl⟩
  · decide
  · exact Number.digitChar_lt d

theorem IPv6.isAscii_plainChars (a : IPv6) : isAscii a.plainChars = true := by
  rw [isAscii_iff]
  intro c hc
  rcases mem_plainChars hc with rfl | ⟨d, rfl⟩
  · decide
  · exact Number.digitChar_lt d

theorem IPv6.asciiLower_plainChars (a : IPv6) : asciiLower a.plainChars = a.plainChars := by
  apply asciiLower_eq_self
  intro c hc
  rcases mem_plainChars hc with rfl | ⟨d, rfl⟩
  · rfl
  · exact Number.toLower_digitChar d

end Net

namespace Dns

theorem lowerLabel_length (l : Label) : (lowerLabel l).length = l.length := List.length_map _

theorem wireSize_map_lowerLabel (labels : List Label) :
    wireSize (labels.map lowerLabel) = wireSize labels := by
  induction labels with
  | nil => rfl
  | cons l rest ih => rw [List.map_cons, wireSize, wireSize, lowerLabel_length, ih]

theorem octetText_lowerOctet (b : Octet) : octetText (lowerOctet b) = asciiLower (octetText b) :=
  octet_forall (P := fun b => octetText (lowerOctet b) = asciiLower (octetText b)) (by decide +kernel) b

theorem quotedOctet_lowerOctet (b : Octet) :
    quotedOctet (lowerOctet b) = asciiLower (quotedOctet b) :=
  octet_forall (P := fun b => quotedOctet (lowerOctet b) = asciiLower (quotedOctet b))
    (by decide +kernel) b

theorem labelText_lowerLabel (l : Label) : labelText (lowerLabel l) = asciiLower (labelText l) := by
  rw [labelText, lowerLabel, List.flatMap_map, labelText, asciiLower_flatMap]
  simp only [octetText_lowerOctet]

theorem quotedOctets_lowerLabel (s : List Octet) :
    quotedOctets (lowerLabel s) = asciiLower (quotedOctets s) := by
  change '"' :: ((s.map lowerOctet).flatMap quotedOctet ++ ['"']) =
    '"' :: asciiLower (s.flatMap quotedOctet ++ ['"'])
  rw [List.flatMap_map, asciiLower_append, asciiLower_flatMap]
  simp only [quotedOctet_lowerOctet]
  rfl

namespace Name

def lowered (n : Name) : Name where
  labels := n.folded
  label_bounds l hl := by
    obtain ⟨m, hm, rfl⟩ := List.mem_map.mp hl
    rw [lowerLabel_length]
    exact n.label_bounds m hm
  size_le := by
    rw [folded, wireSize_map_lowerLabel]
    exact n.size_le

theorem same_iff {a b : Name} : a.same b = true ↔ a.lowered = b.lowered := by
  rw [same, beq_iff_eq]
  exact ⟨fun h => ext h, fun h => congrArg labels h⟩

theorem chars_lowered (n : Name) : n.lowered.chars = asciiLower n.chars := by
  have hempty : n.lowered.labels.isEmpty = n.labels.isEmpty := List.isEmpty_map
  rw [chars, chars, hempty]
  split
  · rfl
  · change (n.labels.map lowerLabel).flatMap _ = _
    rw [List.flatMap_map, asciiLower_flatMap]
    simp only [labelText_lowerLabel, asciiLower_append]
    rfl

/-- A name is known by its text, since it reads back from it. -/
theorem chars_inj {a b : Name} (h : a.chars = b.chars) : a = b := by
  have htext : a.text = b.text := congrArg String.ofList h
  have hread := a.read_text
  rw [htext, b.read_text] at hread
  exact (Except.ok.inj hread).symm

theorem blank_not_mem_chars (n : Name) : ' ' ∉ n.chars := by
  have hoctet : ∀ b : Octet, ' ' ∉ octetText b := octet_forall (by decide +kernel)
  intro h
  rw [chars] at h
  split at h
  · simp at h
  · obtain ⟨l, hl, h⟩ := List.mem_flatMap.mp h
    rcases List.mem_append.mp h with h | h
    · obtain ⟨b, hb, h⟩ := List.mem_flatMap.mp h
      exact hoctet b h
    · simp at h

end Name

section Addresses

open Net

/-- What stands in front of a tail in dotted form: the mark of a gap, and `ffff` where that is not zero. -/
def gapFront : List Char := [':', ':']

def mappedFront : List Char := gapFront ++ ['f', 'f', 'f', 'f', ':']

theorem colon_not_mem_dottedTail (groups : List Nat) : ':' ∉ dottedTail groups := by
  intro h
  rcases IPv4.mem_chars h with hc | ⟨d, hd⟩
  · exact absurd hc (by decide)
  · exact Nat.digitChar_ne ':' (by decide) hd.symm

theorem dottedTail_inj {gs hs : List Nat} (hgs : gs.length = 2) (hhs : hs.length = 2)
    (hg : ∀ g ∈ gs, g < 65536) (hh : ∀ g ∈ hs, g < 65536) (h : dottedTail gs = dottedTail hs) :
    gs = hs := by
  obtain ⟨a, b, rfl⟩ := List.length_eq_two.mp hgs
  obtain ⟨c, d, rfl⟩ := List.length_eq_two.mp hhs
  have hvalue := congrArg (fun x => x.value.toNat) (IPv4.chars_inj h)
  simp only [IPv4.ofNat, BitVec.toNat_ofNat, fromDigits, List.foldl_cons, List.foldl_nil] at hvalue
  have ha := hg a (by simp)
  have hb := hg b (by simp)
  have hc := hh c (by simp)
  have hd := hh d (by simp)
  have hac : a = c := by omega
  have hbd : b = d := by omega
  rw [hac, hbd]

/-- An address is written as any other, or it has a tail in dotted form behind six groups of zeros, or
behind five and `ffff`. -/
theorem mappedText_cases (a : IPv6) :
    mappedText a = a.plainChars ∨
    (a.groups.take 6 = List.replicate 6 0 ∧ mappedText a = gapFront ++ dottedTail (a.groups.drop 6)) ∨
    (a.groups.take 6 = List.replicate 5 0 ++ [0xFFFF] ∧
      mappedText a = mappedFront ++ dottedTail (a.groups.drop 6)) := by
  have hrun := (zeroRun_isRun a.groups).split
  rw [mappedText]
  split
  next h6 =>
    rw [beq_iff_eq.mp h6] at hrun
    refine .inr (.inl ⟨?_, rfl⟩)
    rw [hrun]
    simp
  next =>
    split
    next h5 =>
      obtain ⟨hzeros, hffff⟩ := Bool.and_eq_true_iff.mp h5
      rw [beq_iff_eq.mp hzeros] at hrun
      have hfive : a.groups.take 5 = List.replicate 5 0 := by
        rw [hrun]
        simp
      refine .inr (.inr ⟨?_, rfl⟩)
      rw [List.take_add_one, beq_iff_eq.mp hffff, hfive]
      rfl
    next => exact .inl rfl

/-- The text of an address in a record stands for one address only. -/
theorem mappedText_inj {x y : BitVec 128} (h : mappedText ⟨x, none⟩ = mappedText ⟨y, none⟩) : x = y := by
  have hplain : ∀ (a : IPv6) (front : List Char) (gs : List Nat),
      a.plainChars ≠ front ++ dottedTail gs := by
    intro a front gs he
    have hdot : '.' ∉ a.plainChars :=
      IPv6.not_mem_plainChars (by decide) (fun d => Nat.digitChar_ne '.' (by decide)) a
    rw [he] at hdot
    exact hdot (List.mem_append_right _ (IPv4.dot_mem_chars _))
  have hfronts : ∀ gs hs, gapFront ++ dottedTail gs ≠ mappedFront ++ dottedTail hs := by
    intro gs hs he
    rw [mappedFront, List.append_assoc] at he
    have htail := List.append_cancel_left he
    refine colon_not_mem_dottedTail gs ?_
    rw [htail]
    simp
  have hgroups : ∀ a b : IPv6, a.groups.take 6 = b.groups.take 6 →
      dottedTail (a.groups.drop 6) = dottedTail (b.groups.drop 6) → a.value = b.value := by
    intro a b hfront htail
    have hlength : ∀ c : IPv6, (c.groups.drop 6).length = 2 := by
      intro c
      rw [List.length_drop, c.groups_length]
    have hbound : ∀ c : IPv6, ∀ g ∈ c.groups.drop 6, g < 65536 :=
      fun c g hg => mem_digitsIn (by decide) (List.mem_of_mem_drop hg)
    have hback := dottedTail_inj (hlength a) (hlength b) (hbound a) (hbound b) htail
    have hall : a.groups = b.groups := by
      rw [← List.take_append_drop 6 a.groups, hfront, hback, List.take_append_drop]
    exact BitVec.eq_of_toNat_eq (digitsIn_inj 65536 8 a.value.isLt b.value.isLt hall)
  rcases mappedText_cases ⟨x, none⟩ with hx | ⟨hx, htx⟩ | ⟨hx, htx⟩ <;>
    rcases mappedText_cases ⟨y, none⟩ with hy | ⟨hy, hty⟩ | ⟨hy, hty⟩
  · exact IPv6.plainChars_inj (hx.symm.trans (h.trans hy))
  · exact absurd (hx.symm.trans (h.trans hty)) (hplain _ _ _)
  · exact absurd (hx.symm.trans (h.trans hty)) (hplain _ _ _)
  · exact absurd (hy.symm.trans (h.symm.trans htx)) (hplain _ _ _)
  · exact hgroups _ _ (hx.trans hy.symm) (List.append_cancel_left (htx.symm.trans (h.trans hty)))
  · exact absurd (htx.symm.trans (h.trans hty)) (hfronts _ _)
  · exact absurd (hy.symm.trans (h.symm.trans htx)) (hplain _ _ _)
  · exact absurd (hty.symm.trans (h.symm.trans htx)) (hfronts _ _)
  · exact hgroups _ _ (hx.trans hy.symm) (List.append_cancel_left (htx.symm.trans (h.trans hty)))

theorem asciiLower_mappedText (a : IPv6) : asciiLower (mappedText a) = mappedText a := by
  rcases mappedText_cases a with h | ⟨-, h⟩ | ⟨-, h⟩
  · rw [h, a.asciiLower_plainChars]
  · rw [h, asciiLower_append, dottedTail, IPv4.asciiLower_chars]
    rfl
  · rw [h, asciiLower_append, dottedTail, IPv4.asciiLower_chars]
    rfl

theorem isAscii_mappedText (a : IPv6) : isAscii (mappedText a) = true := by
  rcases mappedText_cases a with h | ⟨-, h⟩ | ⟨-, h⟩
  · rw [h, a.isAscii_plainChars]
  · rw [h, isAscii_append, dottedTail, IPv4.isAscii_chars]
    decide
  · rw [h, isAscii_append, dottedTail, IPv4.isAscii_chars]
    decide

end Addresses

section Strings

def isQuote (c : Char) : Bool := c == '"'

theorem spells_quotedOctets (s : List Octet) : Spells isQuote (quotedOctets s)
    (.separator :: (s.map fun b => .code b.toNat) ++ [.separator]) := by
  have hoctet : ∀ b : Octet, Spells isQuote (quotedOctet b) [.code b.toNat] := by
    intro b
    have hpieces : pieces isQuote (quotedOctet b) = [.code b.toNat] :=
      octet_forall (P := fun b => pieces isQuote (quotedOctet b) = [.code b.toNat])
        (by decide +kernel) b
    rw [← hpieces]
    apply spells_pieces
    rw [hpieces]
    simp
  have hquote : Spells isQuote ['"'] [.separator] := .char (by decide) .nil
  have hinside : Spells isQuote (s.flatMap quotedOctet) (s.map fun b => .code b.toNat) := by
    induction s with
    | nil => exact .nil
    | cons b s ih => exact (hoctet b).append ih
  exact (hquote.append hinside).append hquote

theorem isAscii_quotedOctets (s : List Octet) : isAscii (quotedOctets s) = true := by
  have hoctet : ∀ b : Octet, isAscii (quotedOctet b) = true :=
    octet_forall (P := fun b => isAscii (quotedOctet b) = true) (by decide +kernel)
  rw [isAscii_iff]
  intro c hc
  rcases List.mem_cons.mp hc with rfl | hc
  · decide
  · rcases List.mem_append.mp hc with hc | hc
    · obtain ⟨b, -, hc⟩ := List.mem_flatMap.mp hc
      exact isAscii_iff.mp (hoctet b) c hc
    · rw [List.mem_singleton.mp hc]
      decide

/-- A quoted string ends where it does, whatever follows. -/
theorem quotedOctets_append_inj {s t : List Octet} {u v : List Char}
    (h : quotedOctets s ++ u = quotedOctets t ++ v) : s = t ∧ u = v := by
  have hcodes : ∀ (r : List Octet) (more : List Piece),
      ((r.map fun b => Piece.code b.toNat) ++ .separator :: more).takeWhile (· != .separator) =
        r.map fun b => .code b.toNat := by
    intro r more
    rw [List.takeWhile_append_of_pos, List.takeWhile_cons_of_neg (by simp), List.append_nil]
    intro p hp
    obtain ⟨b, -, rfl⟩ := List.mem_map.mp hp
    rfl
  have hpieces := congrArg (pieces isQuote) h
  rw [(spells_quotedOctets s).pieces_append, (spells_quotedOctets t).pieces_append] at hpieces
  simp only [List.cons_append, List.append_assoc, List.nil_append] at hpieces
  have htaken := congrArg (List.takeWhile (· != Piece.separator)) (List.cons.inj hpieces).2
  rw [hcodes, hcodes] at htaken
  have hst : s = t := by
    refine (List.map_inj_right ?_).mp htaken
    intro b c hbc
    exact UInt8.toNat_inj.mp (Piece.code.inj hbc)
  subst hst
  exact ⟨rfl, List.append_cancel_left h⟩

theorem joinWith_cons (sep s : List Char) (rest : List (List Char)) :
    joinWith sep (s :: rest) = s ++ if rest.isEmpty then [] else sep ++ joinWith sep rest := by
  cases rest with
  | nil => exact (List.append_nil s).symm
  | cons t rest => exact List.append_assoc s sep _

theorem quotedStrings_inj {x y : List (List Octet)}
    (h : joinWith [' '] (x.map quotedOctets) = joinWith [' '] (y.map quotedOctets)) : x = y := by
  induction x generalizing y with
  | nil =>
    cases y with
    | nil => rfl
    | cons t y =>
      rw [List.map_cons, joinWith_cons] at h
      cases h
  | cons s x ih =>
    cases y with
    | nil =>
      rw [List.map_cons, joinWith_cons] at h
      cases h
    | cons t y =>
      rw [List.map_cons, joinWith_cons, List.map_cons, joinWith_cons] at h
      obtain ⟨rfl, hrest⟩ := quotedOctets_append_inj h
      cases x with
      | nil =>
        cases y with
        | nil => rfl
        | cons t y => cases hrest
      | cons u x =>
        cases y with
        | nil => cases hrest
        | cons t y => rw [ih (List.cons.inj hrest).2]

end Strings

section Words

/-- A text that is one word. -/
def Unbroken (s : List Char) : Prop := ∀ c ∈ s, (c == ' ') = false

theorem natText_unbroken (n : Nat) : Unbroken (Number.natText n) := by
  intro c hc
  have hblank : ' ' ∉ Nat.toDigits 10 n :=
    Number.not_mem_toDigits (by decide) n fun d => Nat.digitChar_ne ' ' (by decide)
  rw [beq_eq_false_iff_ne]
  rintro rfl
  exact hblank hc

theorem Name.chars_unbroken (n : Name) : Unbroken n.chars := by
  intro c hc
  rw [beq_eq_false_iff_ne]
  rintro rfl
  exact n.blank_not_mem_chars hc

theorem natText_inj {m n : Nat} (h : Number.natText m = Number.natText n) : m = n :=
  Number.toDigits_inj (by decide) (by decide) h

theorem Authority.fields_chars (s : Authority) : fields (· == ' ') s.chars =
    s.primary.chars :: s.contact.chars ::
      [s.serial, s.refresh, s.retry, s.expire, s.minimum].map Number.natText := by
  apply fields_joinWith rfl (by simp)
  intro t ht
  simp only [List.map_cons, List.map_nil, List.mem_cons, List.not_mem_nil, or_false] at ht
  rcases ht with rfl | rfl | rfl | rfl | rfl | rfl | rfl
  · exact s.primary.chars_unbroken
  · exact s.contact.chars_unbroken
  all_goals exact natText_unbroken _

theorem Authority.chars_inj {s t : Authority} (h : s.chars = t.chars) : s = t := by
  have hfields := congrArg (fields (· == ' ')) h
  rw [s.fields_chars, t.fields_chars] at hfields
  simp only [List.map_cons, List.map_nil, List.cons.injEq, and_true] at hfields
  obtain ⟨hprimary, hcontact, hserial, hrefresh, hretry, hexpire, hminimum⟩ := hfields
  cases s
  cases t
  rw [Authority.mk.injEq]
  exact ⟨Name.chars_inj hprimary, Name.chars_inj hcontact, natText_inj hserial, natText_inj hrefresh,
    natText_inj hretry, natText_inj hexpire, natText_inj hminimum⟩

end Words

namespace Rdata

theorem chars_mx (p : Nat) (n : Name) :
    fields (· == ' ') (mx p n).chars = [Number.natText p, n.chars] := by
  rw [chars, fields_append rfl, fields_of_not_mem (natText_unbroken p),
    fields_of_not_mem n.chars_unbroken]
  rfl

theorem type_mem_formed {x : Rdata} (h : ∀ data, x ≠ plain data) : x.type ∈ RecordType.formed := by
  cases x with
  | plain data => exact absurd rfl (h data)
  | _ => simp [type, RecordType.formed]

theorem eq_plain_of_type {x : Rdata} {data : PlainData} (h : x.type = data.type) :
    ∃ other, x = plain other := by
  by_contra hformed
  rw [not_exists] at hformed
  exact data.type_ne (type_mem_formed hformed) h.symm

/-- Data of one type are known by their text. -/
theorem chars_inj {x y : Rdata} (htype : x.type = y.type) (h : x.chars = y.chars) : x = y := by
  by_cases hplain : ∃ data, y = plain data
  · obtain ⟨other, rfl⟩ := hplain
    obtain ⟨data, rfl⟩ := eq_plain_of_type htype
    cases data
    cases other
    cases htype
    cases h
    rfl
  · cases x with
    | plain data => exact absurd (eq_plain_of_type htype.symm) hplain
    | a address =>
      cases y with
      | a other => rw [Net.IPv4.chars_inj h]
      | _ => first | cases htype | exact absurd ⟨_, rfl⟩ hplain
    | aaaa value =>
      cases y with
      | aaaa other => rw [mappedText_inj h]
      | _ => first | cases htype | exact absurd ⟨_, rfl⟩ hplain
    | ns target =>
      cases y with
      | ns other => rw [Name.chars_inj h]
      | _ => first | cases htype | exact absurd ⟨_, rfl⟩ hplain
    | cname target =>
      cases y with
      | cname other => rw [Name.chars_inj h]
      | _ => first | cases htype | exact absurd ⟨_, rfl⟩ hplain
    | ptr target =>
      cases y with
      | ptr other => rw [Name.chars_inj h]
      | _ => first | cases htype | exact absurd ⟨_, rfl⟩ hplain
    | mx preference exchange =>
      cases y with
      | mx preference' exchange' =>
        have hfields := congrArg (fields (· == ' ')) h
        rw [chars_mx, chars_mx, List.cons.injEq, List.cons.injEq] at hfields
        rw [natText_inj hfields.1, Name.chars_inj hfields.2.1]
      | _ => first | cases htype | exact absurd ⟨_, rfl⟩ hplain
    | soa authority =>
      cases y with
      | soa other => rw [Authority.chars_inj h]
      | _ => first | cases htype | exact absurd ⟨_, rfl⟩ hplain
    | txt strings =>
      cases y with
      | txt other => rw [quotedStrings_inj h]
      | _ => first | cases htype | exact absurd ⟨_, rfl⟩ hplain

/-- The data with all letters small: those of names, and those of texts as well. -/
def lowered : Rdata → Rdata
  | a address => a address
  | aaaa value => aaaa value
  | ns target => ns target.lowered
  | cname target => cname target.lowered
  | ptr target => ptr target.lowered
  | mx preference exchange => mx preference exchange.lowered
  | soa s => soa { s with primary := s.primary.lowered, contact := s.contact.lowered }
  | txt strings => txt (strings.map lowerLabel)
  | plain data => plain { data with chars := lower data.chars }

@[simp] theorem type_lowered (x : Rdata) : x.lowered.type = x.type := by cases x <;> rfl

/-- Only the text of data without a form of their own may have characters beyond ASCII. -/
theorem isAscii_chars {x : Rdata} (h : ∀ data, x ≠ plain data) : isAscii x.chars = true := by
  cases x with
  | a address => exact address.isAscii_chars
  | aaaa value => exact isAscii_mappedText ⟨value, none⟩
  | ns target | cname target | ptr target => exact target.isAscii_chars
  | mx preference exchange =>
    change isAscii (_ ++ ([' '] ++ exchange.chars)) = true
    rw [isAscii_append, isAscii_append, Number.isAscii_natText, exchange.isAscii_chars]
    decide
  | soa s =>
    apply isAscii_joinWith (by decide)
    intro t ht
    simp only [List.map_cons, List.map_nil, List.mem_cons, List.not_mem_nil, or_false] at ht
    rcases ht with rfl | rfl | rfl | rfl | rfl | rfl | rfl
    · exact s.primary.isAscii_chars
    · exact s.contact.isAscii_chars
    all_goals exact Number.isAscii_natText _
  | txt strings =>
    apply isAscii_joinWith (by decide)
    intro t ht
    obtain ⟨s, -, rfl⟩ := List.mem_map.mp ht
    exact isAscii_quotedOctets s
  | plain data => exact absurd rfl (h data)

theorem formed_chars_lowered {x : Rdata} (h : ∀ data, x ≠ plain data) :
    x.lowered.chars = asciiLower x.chars := by
  have hnat : ∀ n, asciiLower (Number.natText n) = Number.natText n :=
    Number.asciiLower_toDigits (by decide)
  have hsep : asciiLower [' '] = [' '] := rfl
  cases x with
  | a address => exact address.asciiLower_chars.symm
  | aaaa value => exact (asciiLower_mappedText ⟨value, none⟩).symm
  | ns target => exact target.chars_lowered
  | cname target => exact target.chars_lowered
  | ptr target => exact target.chars_lowered
  | mx preference exchange =>
    change _ ++ ([' '] ++ exchange.lowered.chars) = asciiLower (_ ++ ([' '] ++ exchange.chars))
    rw [asciiLower_append, asciiLower_append, hnat, hsep, exchange.chars_lowered]
  | soa s =>
    simp only [lowered, chars, Authority.chars, asciiLower_joinWith, List.map_cons, List.map_nil, hnat,
      hsep, Name.chars_lowered]
  | txt strings =>
    simp only [lowered, chars, asciiLower_joinWith, List.map_map, hsep, Function.comp_def,
      quotedOctets_lowerLabel]
  | plain data => exact absurd rfl (h data)

theorem chars_lowered (x : Rdata) : x.lowered.chars = lower x.chars := by
  by_cases hformed : ∀ data, x ≠ plain data
  · rw [lower_eq_asciiLower (isAscii_chars hformed), formed_chars_lowered hformed]
  · rw [not_forall_not] at hformed
    obtain ⟨data, rfl⟩ := hformed
    rfl

theorem lowered_eq_iff {x y : Rdata} :
    x.lowered = y.lowered ↔ x.type = y.type ∧ lower x.chars = lower y.chars := by
  rw [← chars_lowered, ← chars_lowered]
  constructor
  · intro h
    refine ⟨?_, congrArg chars h⟩
    rw [← type_lowered x, h, type_lowered]
  · rintro ⟨htype, hchars⟩
    refine chars_inj ?_ hchars
    rw [type_lowered, type_lowered, htype]

end Rdata

/-- Merging takes two records for one when nothing but the case of letters tells them apart. -/
theorem Record.key_eq_iff {r s : Record} :
    r.key = s.key ↔ r.owner.lowered = s.owner.lowered ∧ r.data.lowered = s.data.lowered := by
  have howner : lower r.owner.chars = lower s.owner.chars ↔ r.owner.lowered = s.owner.lowered := by
    rw [lower_eq_asciiLower r.owner.isAscii_chars, lower_eq_asciiLower s.owner.isAscii_chars,
      ← Name.chars_lowered, ← Name.chars_lowered]
    exact ⟨Name.chars_inj, congrArg Name.chars⟩
  rw [key, key, Prod.mk.injEq, Prod.mk.injEq, howner, Rdata.lowered_eq_iff]
  rfl

end Dns

end DelegationAudit
