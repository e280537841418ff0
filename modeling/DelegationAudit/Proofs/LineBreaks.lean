import DelegationAudit.Failure
import DelegationAudit.Json.Shape
import DelegationAudit.Ownership.Origin
import DelegationAudit.Proofs.Completion
import DelegationAudit.Proofs.RecordText
import DelegationAudit.Proofs.ZoneForm

namespace DelegationAudit

open Text

def breaks (s : String) : Nat := s.toList.count '\n'

def breaksIn : List String → Nat
  | [] => 0
  | s :: rest => breaks s + breaksIn rest

/-- The parts of a text before, between and behind its line breaks. -/
def parts (s : String) : List String := (fields (· == '\n') s.toList).map String.ofList

/-- The lines of a text whose every line ends in a break. -/
def linesOf (page : String) : List String := (parts page).dropLast

section Counting

@[simp] theorem breaks_append (s t : String) : breaks (s ++ t) = breaks s + breaks t := by
  rw [breaks, String.toList_append, List.count_append]
  rfl

theorem breaks_ofList {cs : List Char} (h : '\n' ∉ cs) : breaks (String.ofList cs) = 0 := by
  rw [breaks, String.toList_ofList]
  exact List.count_eq_zero.mpr h

@[simp] theorem breaks_empty : breaks "" = 0 := rfl

@[simp] theorem breaksIn_nil : breaksIn [] = 0 := rfl

@[simp] theorem breaksIn_cons (s : String) (rest : List String) :
    breaksIn (s :: rest) = breaks s + breaksIn rest := rfl

theorem breaksIn_singleton (s : String) : breaksIn [s] = breaks s := rfl

@[simp] theorem breaksIn_append (texts more : List String) :
    breaksIn (texts ++ more) = breaksIn texts + breaksIn more := by
  induction texts with
  | nil => rw [List.nil_append, breaksIn_nil, Nat.zero_add]
  | cons s rest ih => rw [List.cons_append, breaksIn_cons, breaksIn_cons, ih, Nat.add_assoc]

/-- Texts made of the same things with as many breaks each have as many in all. -/
theorem breaksIn_flatMap_congr {α : Type} {items : List α} {f g : α → List String}
    (h : ∀ a ∈ items, breaksIn (f a) = breaksIn (g a)) :
    breaksIn (items.flatMap f) = breaksIn (items.flatMap g) := by
  induction items with
  | nil => rfl
  | cons a rest ih =>
    obtain ⟨hfirst, hrest⟩ := List.forall_mem_cons.mp h
    rw [List.flatMap_cons, List.flatMap_cons, breaksIn_append, breaksIn_append, hfirst, ih hrest]

theorem breaksIn_eq_zero_iff {texts : List String} :
    breaksIn texts = 0 ↔ ∀ s ∈ texts, breaks s = 0 := by
  induction texts with
  | nil => simp
  | cons s rest ih => rw [breaksIn_cons, Nat.add_eq_zero_iff, ih, List.forall_mem_cons]

theorem breaks_eq_zero_iff {s : String} : breaks s = 0 ↔ '\n' ∉ s.toList := List.count_eq_zero

theorem length_fields_break (cs : List Char) :
    (fields (· == '\n') cs).length = cs.count '\n' + 1 := by
  induction cs with
  | nil => rfl
  | cons c cs ih =>
    by_cases hc : c = '\n'
    · subst hc
      rw [fields, if_pos (by decide), List.length_cons, ih, List.count_cons_self]
    · have hsame : (c == '\n') = false := beq_eq_false_iff_ne.mpr hc
      rw [List.count_cons_of_ne hc, ← ih, fields, hsame, if_neg Bool.false_ne_true]
      cases hf : fields (· == '\n') cs with
      | nil => exact absurd hf (fields_ne_nil _ cs)
      | cons f fs => rfl

@[simp] theorem length_parts (s : String) : (parts s).length = breaks s + 1 := by
  rw [parts, List.length_map, length_fields_break]
  rfl

theorem parts_of_unbroken {s : String} (h : breaks s = 0) : parts s = [s] := by
  have hnone : ∀ c ∈ s.toList, (c == '\n') = false := by
    intro c hc
    rw [beq_eq_false_iff_ne]
    rintro rfl
    exact breaks_eq_zero_iff.mp h hc
  rw [parts, fields_of_not_mem hnone, List.map_singleton, String.ofList_toList]

theorem parts_join (ls : List String) :
    parts (String.join (ls.map (· ++ "\n"))) = ls.flatMap parts ++ [""] := by
  induction ls with
  | nil => rfl
  | cons l ls ih =>
    have hbreak : "\n".toList = ['\n'] := rfl
    rw [List.map_cons, String.join_cons, parts, String.toList_append, String.toList_append, hbreak,
      List.append_assoc, List.singleton_append, fields_append (by decide), List.map_append,
      List.flatMap_cons, List.append_assoc, ← ih]
    rfl

/-- A page made of lines shows the parts of each. -/
theorem linesOf_join (ls : List String) :
    linesOf (String.join (ls.map (· ++ "\n"))) = ls.flatMap parts := by
  rw [linesOf, parts_join, List.dropLast_concat]

theorem length_linesOf_join (ls : List String) :
    (linesOf (String.join (ls.map (· ++ "\n")))).length = ls.length + breaksIn ls := by
  rw [linesOf_join]
  induction ls with
  | nil => rfl
  | cons l ls ih =>
    rw [List.flatMap_cons, List.length_append, ih, length_parts, List.length_cons, breaksIn_cons]
    omega

/-- A page shows just the lines that it was made of when there is no break in any of them. -/
theorem linesOf_join_eq_iff (ls : List String) :
    linesOf (String.join (ls.map (· ++ "\n"))) = ls ↔ breaksIn ls = 0 := by
  constructor
  · intro h
    have hlength := length_linesOf_join ls
    rw [h] at hlength
    omega
  · intro h
    rw [linesOf_join]
    induction ls with
    | nil => rfl
    | cons l ls ih =>
      rw [breaksIn_cons, Nat.add_eq_zero_iff] at h
      obtain ⟨hfirst, hrest⟩ := h
      rw [List.flatMap_cons, parts_of_unbroken hfirst, ih hrest, List.singleton_append]

end Counting

section Printed

theorem digit_ne_break (d : Nat) : Nat.digitChar d ≠ '\n' := Nat.digitChar_ne '\n' (by decide)

theorem break_not_mem_natText (n : Nat) : '\n' ∉ Number.natText n :=
  Number.not_mem_toDigits (by decide) n digit_ne_break

theorem break_not_mem_intText (n : Int) : '\n' ∉ Number.intText n := by
  have hdigits := break_not_mem_natText n.natAbs
  rw [Number.intText]
  split
  · simpa using hdigits
  · exact hdigits

@[simp] theorem breaks_natString (n : Nat) : breaks (Number.natString n) = 0 :=
  breaks_ofList (break_not_mem_natText n)

@[simp] theorem breaks_intString (n : Int) : breaks (Number.intString n) = 0 :=
  breaks_ofList (break_not_mem_intText n)

theorem break_not_mem_padded (width n : Nat) : '\n' ∉ Number.padded width n := by
  intro h
  rcases List.mem_append.mp h with h | h
  · exact absurd (List.eq_of_mem_replicate h) (by decide)
  · exact break_not_mem_natText n h

theorem break_not_mem_signed {cs : List Char} (h : '\n' ∉ cs) (negative : Bool) :
    '\n' ∉ Number.signed negative cs := by
  cases negative with
  | false => exact h
  | true => simpa [Number.signed] using h

theorem break_not_mem_positional {d : Number.Decimal} (h : '\n' ∉ d.digits) (keepsPlace : Bool) :
    '\n' ∉ Number.positional d keepsPlace := by
  have htake : '\n' ∉ d.digits.take d.point.toNat := fun hm => h (List.mem_of_mem_take hm)
  have hdrop : '\n' ∉ d.digits.drop d.point.toNat := fun hm => h (List.mem_of_mem_drop hm)
  unfold Number.positional
  dsimp only
  split
  · simp [h, List.mem_replicate]
  · split
    · simp [htake, hdrop]
    · cases keepsPlace <;> simp [h, List.mem_replicate]

theorem break_not_mem_withExponent {d : Number.Decimal} (h : '\n' ∉ d.digits) :
    '\n' ∉ Number.withExponent d := by
  have hexponent := break_not_mem_padded 2 (d.point - 1).natAbs
  have hsign : '\n' ≠ (if d.point - 1 < 0 then '-' else '+') := by
    split <;> decide
  unfold Number.withExponent
  dsimp only
  intro hm
  rcases List.mem_append.mp hm with hm | hm
  · split at hm
    next => exact absurd hm (by decide)
    next c hd => exact h (hd ▸ hm)
    next c rest hd =>
      rw [hd] at h
      simp only [List.mem_cons] at hm h
      rcases hm with hm | hm | hm
      · exact h (.inl hm)
      · exact absurd hm (by decide)
      · exact h (.inr hm)
  · rcases List.mem_cons.mp hm with hm | hm
    · exact absurd hm (by decide)
    · rcases List.mem_cons.mp hm with hm | hm
      · exact hsign hm
      · exact hexponent hm

@[simp] theorem breaks_floatBrief (x : Float) : breaks (Number.floatBrief x) = 0 := by
  have hdigits : ∀ n point, '\n' ∉ Number.dropZeros (Number.Decimal.ofUnits n 6 point).digits :=
    fun n point hm => break_not_mem_natText n ((List.rdropWhile_prefix _ _).subset hm)
  apply breaks_ofList
  unfold Number.special
  split
  · decide
  · exact break_not_mem_signed (by decide) _
  next negative m e =>
    apply break_not_mem_signed
    dsimp only
    split
    · decide
    · unfold Number.Layout.render
      split
      · exact break_not_mem_positional (hdigits _ _) _
      · exact break_not_mem_withExponent (hdigits _ _)

theorem breaks_joinTexts {sep : String} (hsep : breaks sep = 0) (texts : List String) :
    breaks (Json.joinTexts sep texts) = breaksIn texts := by
  rw [Json.joinTexts, breaks, String.toList_ofList]
  induction texts with
  | nil => rfl
  | cons s rest ih =>
    rw [List.map_cons, Dns.joinWith_cons, breaksIn_cons]
    cases rest with
    | nil => simp [breaks]
    | cons t rest =>
      have hmore : (List.map String.toList (t :: rest)).isEmpty = false := rfl
      rw [hmore, if_neg Bool.false_ne_true, List.count_append, List.count_append, ih]
      rw [breaks] at hsep ⊢
      omega

theorem break_not_mem_hex (width n : Nat) : '\n' ∉ hex width n := by
  have hdigit : ∀ d < 16, hexDigit d ≠ '\n' := by decide
  induction width generalizing n with
  | zero => exact List.not_mem_nil
  | succ width ih =>
    rw [hex, List.mem_append, List.mem_singleton]
    rintro (h | h)
    · exact ih _ h
    · exact hdigit _ (Nat.mod_lt _ (by decide)) h.symm

theorem ofNat_ne_break {n : Nat} (h : n ≠ 10) : Char.ofNat n ≠ '\n' := by
  intro hc
  have hcode := congrArg Char.toNat hc
  by_cases hvalid : n.isValidChar
  · rw [toNat_ofNat_of_valid hvalid] at hcode
    exact h hcode
  · rw [Char.ofNat, dif_neg hvalid] at hcode
    exact absurd hcode (by decide)

/-- A break in a text in quotes is written as a backslash and a letter. -/
theorem break_not_mem_quotedCodes (codes : List Nat) : '\n' ∉ quotedCodes codes := by
  have hescape : ∀ quote n, quote ≠ 10 → '\n' ∉ escapeCode quote n := by
    intro quote n hquote
    have hhex := break_not_mem_hex
    unfold escapeCode
    split
    next h =>
      have hn : n ≠ 10 := by
        simp only [Bool.or_eq_true, beq_iff_eq] at h
        omega
      simp [(ofNat_ne_break hn).symm]
    next =>
      split
      · decide
      · split
        · decide
        next h =>
          have hn : n ≠ 10 := by simpa using h
          split
          · decide
          · repeat' split
            all_goals simp [hhex, (ofNat_ne_break hn).symm]
  have hquote : (if codes.contains 39 && !codes.contains 34 then 34 else 39) ≠ 10 := by
    split <;> decide
  unfold quotedCodes
  dsimp only
  intro h
  rcases List.mem_cons.mp h with h | h
  · exact ofNat_ne_break hquote h.symm
  · rcases List.mem_append.mp h with h | h
    · obtain ⟨n, -, h⟩ := List.mem_flatMap.mp h
      exact hescape _ n hquote h
    · exact ofNat_ne_break hquote (List.mem_singleton.mp h).symm

@[simp] theorem breaks_quote (s : String) : breaks (quote s) = 0 :=
  breaks_ofList (break_not_mem_quotedCodes _)

end Printed

section Names

open Dns

theorem break_not_mem_name (n : Name) : '\n' ∉ n.chars := by
  have hoctet : ∀ b : Octet, '\n' ∉ octetText b := octet_forall (by decide +kernel)
  intro h
  rw [Name.chars] at h
  split at h
  · exact absurd h (by decide)
  · obtain ⟨l, -, h⟩ := List.mem_flatMap.mp h
    rcases List.mem_append.mp h with h | h
    · obtain ⟨b, -, h⟩ := List.mem_flatMap.mp h
      exact hoctet b h
    · exact absurd h (by decide)

@[simp] theorem breaks_name (n : Name) : breaks n.text = 0 := breaks_ofList (break_not_mem_name n)

theorem breaks_address {a : Net.Address} (h : a.Unzoned) : breaks a.text = 0 := by
  cases a with
  | v4 a =>
    apply breaks_ofList
    intro hm
    rcases Net.IPv4.mem_chars hm with hc | ⟨d, hd⟩
    · exact absurd hc (by decide)
    · exact digit_ne_break d hd.symm
  | v6 a =>
    have hzone : a.zone = none := h
    apply breaks_ofList
    rw [Net.IPv6.chars, hzone]
    exact Net.IPv6.not_mem_plainChars (by decide) digit_ne_break a

@[simp] theorem breaks_type (t : RecordType) : breaks t.text = 0 := by
  have hnames : ∀ entry ∈ RecordType.names, breaks entry.2 = 0 := by decide +kernel
  rw [RecordType.text]
  split
  next s hs => exact hnames (t.code.toNat, s) (mem_of_lookup hs)
  next => rw [breaks_append, breaks_natString]; rfl

@[simp] theorem breaks_code (c : ResponseCode) : breaks c.text = 0 := by
  have hnames : ∀ entry ∈ ResponseCode.names, breaks entry.2 = 0 := by decide +kernel
  rw [ResponseCode.text]
  split
  next s hs => exact hnames (c.code.val, s) (mem_of_lookup hs)
  next => exact breaks_natString _

@[simp] theorem breaks_kind (k : Kind) : breaks k.name = 0 := by
  cases k <;> rfl

end Names

section Messages

theorem upper_digit_ne_break (d : Nat) : (Nat.digitChar d).toUpper ≠ '\n' := by
  by_cases hd : d < 16
  · have all : ∀ d < 16, (Nat.digitChar d).toUpper ≠ '\n' := by decide
    exact all d hd
  · have hstar : Nat.digitChar d = '*' := by
      unfold Nat.digitChar
      repeat rw [if_neg (by omega)]
    rw [hstar]
    decide

theorem breaks_codeText (n : Nat) : breaks (Idna.codeText n) = 0 := by
  unfold Idna.codeText
  dsimp only
  rw [breaks_append, Nat.add_eq_zero_iff]
  refine ⟨rfl, breaks_ofList fun h => ?_⟩
  rcases List.mem_append.mp h with h | h
  · exact absurd (List.eq_of_mem_replicate h) (by decide)
  · obtain ⟨c, hc, hupper⟩ := List.mem_map.mp h
    obtain ⟨d, rfl⟩ := Number.mem_toDigits (by decide) hc
    exact upper_digit_ne_break d hupper

theorem breaks_fault (e : Idna.Fault) : breaks e.message = 0 := by
  have hlabel : ∀ codes, breaks (Idna.labelText codes) = 0 :=
    fun codes => breaks_ofList (break_not_mem_quotedCodes codes)
  cases e with
  | badDirection rtl position =>
    have hdirection :
        breaks (if rtl then " in a right-to-left label" else " in a left-to-right label") = 0 := by
      cases rtl <;> exact breaks_ofList (by decide)
    have hopening : breaks "Invalid direction for codepoint at position " = 0 := breaks_ofList (by decide)
    unfold Idna.Fault.message
    rw [breaks_append, breaks_append, breaks_natString, hdirection, hopening]
  | notMapped | disallowed | context | joiner | joinerNeighbour | unknownDirection | badStart =>
    unfold Idna.Fault.message
    simp only [breaks_append, breaks_codeText, breaks_natString, hlabel, Nat.add_eq_zero_iff, and_true]
    and_intros
    all_goals exact breaks_ofList (by decide)
  | _ => exact breaks_ofList (by decide)

@[simp] theorem breaks_nameError (e : Dns.NameError) : breaks e.message = 0 := by
  cases e with
  | idna fault =>
    have hopening : breaks "IDNA processing exception: " = 0 := breaks_ofList (by decide)
    unfold Dns.NameError.message
    rw [breaks_append, breaks_fault, hopening]
  | _ => exact breaks_ofList (by decide)

theorem breaks_ofNameError (e : Dns.NameError) : breaks (Failure.ofNameError e).message = 0 := by
  cases e <;> exact breaks_nameError _

theorem breaks_transport {server : String} (hserver : breaks server = 0) {e : Failure}
    (he : breaks e.message = 0) (habsorbed : e.isAbsorbed = true) :
    breaks (Failure.transport server e).message = 0 := by
  cases e with
  | plain kind text =>
    have hopening : breaks "transport failure talking to " = 0 := breaks_ofList (by decide)
    have hcolon : breaks ": " = 0 := rfl
    change breaks text = 0 at he
    change breaks ("transport failure talking to " ++ server ++ ": " ++ kind.name ++ ": " ++ text) = 0
    simp only [breaks_append, breaks_kind, hserver, he, hopening, hcolon]
  | _ => cases habsorbed

theorem breaks_invalidQuestion {name : String} {e : Failure} (he : breaks e.message = 0) :
    breaks (Failure.invalidQuestion name e).message = 0 := by
  have hopening : breaks "invalid query name " = 0 := rfl
  have hcolon : breaks ": " = 0 := rfl
  change breaks ("invalid query name " ++ Text.quote name ++ ": " ++ e.message) = 0
  simp only [breaks_append, breaks_quote, he, hopening, hcolon]

theorem breaks_rejected (code : Dns.ResponseCode) : breaks (Failure.rejected code).message = 0 := by
  have hopening : breaks "failure: " = 0 := rfl
  change breaks ("failure: " ++ code.text) = 0
  rw [breaks_append, breaks_code, hopening]

theorem breaks_noRecords (type : Dns.RecordType) : breaks (Failure.noRecords type).message = 0 := by
  have hopening : breaks "no records for " = 0 := rfl
  change breaks ("no records for " ++ type.text) = 0
  rw [breaks_append, breaks_type, hopening]

theorem breaks_noNameservers {domain : String} (h : breaks domain = 0) :
    breaks (Failure.noNameservers domain .absent).message = 0 := by
  have hopening : breaks "no NS found for " = 0 := rfl
  change breaks ("no NS found for " ++ domain) = 0
  rw [breaks_append, h, hopening]

end Messages

section Octets

/-- A sequence of octets under way that can only come to a character beyond ASCII. -/
def Text.Sequence.Long (s : Sequence) : Prop :=
  2 ≤ s.bits ∨ 2 ≤ s.missing ∧ (1 ≤ s.bits ∨ 0x90 ≤ s.low ∧ s.high ≤ 0xBF)

theorem leadOf_long {n : Nat} {s : Sequence} (h : leadOf n = .opens s) : s.Long := by
  simp only [leadOf, beq_iff_eq] at h
  split_ifs at h
  all_goals
    simp only [Lead.opens.injEq] at h
    subst h
    simp only [Sequence.Long]
    omega

theorem leadOf_whole {n : Nat} {c : Char} (h : leadOf n = .whole c) : c = Char.ofNat n := by
  unfold leadOf at h
  split_ifs at h
  cases h
  rfl

theorem Text.Sequence.Long.next {s : Sequence} (h : s.Long) {n : Nat} (hn : s.low ≤ n ∧ n ≤ s.high) :
    2 ≤ s.bits * 64 + n % 64 := by
  rw [Sequence.Long] at h
  omega

/-- No octet but one stands for a line break. -/
theorem break_mem_decodeFrom {state : Option Sequence} (hstate : ∀ s, state = some s → s.Long)
    {bytes : List Octet} (h : '\n' ∈ decodeFrom state bytes) : 10 ∈ bytes := by
  have hreplaced : '\n' ≠ replacement := by decide
  induction bytes generalizing state with
  | nil =>
    cases state with
    | none => cases h
    | some s => exact absurd (List.mem_singleton.mp h) hreplaced
  | cons b rest ih =>
    -- An octet that starts a character, also where a sequence has broken off before it.
    have hlead : '\n' ∈ decodeFrom none (b :: rest) → 10 ∈ b :: rest := by
      intro hm
      rw [decodeFrom] at hm
      split at hm
      next c hc =>
        rcases List.mem_cons.mp hm with hm | hm
        · have hb : b.toNat = 10 := by
            by_contra hne
            exact ofNat_ne_break hne ((leadOf_whole hc).symm.trans hm.symm)
          have hten : b = 10 := UInt8.toNat_inj.mp hb
          simp [hten]
        · exact List.mem_cons_of_mem b (ih (by simp) hm)
      next t ht =>
        have hlong : ∀ s, some t = some s → s.Long := by
          rintro s ⟨⟩
          exact leadOf_long ht
        exact List.mem_cons_of_mem b (ih hlong hm)
      next =>
        rcases List.mem_cons.mp hm with hm | hm
        · exact absurd hm hreplaced
        · exact List.mem_cons_of_mem b (ih (by simp) hm)
    cases state with
    | none => exact hlead h
    | some s =>
      have hs := hstate s rfl
      rw [decodeFrom] at h
      split at h
      next hrange =>
        have hbits := hs.next (by simpa using hrange)
        split at h
        next hlast =>
          have hten : s.bits * 64 + b.toNat % 64 ≠ 10 := by
            rw [Sequence.Long] at hs
            omega
          rcases List.mem_cons.mp h with h | h
          · exact absurd h.symm (ofNat_ne_break hten)
          · exact List.mem_cons_of_mem b (ih (by simp) h)
        next hmore =>
          refine List.mem_cons_of_mem b (ih ?_ h)
          rintro t ⟨⟩
          exact .inl hbits
      next =>
        have htail : '\n' ∈ replacement :: decodeFrom none (b :: rest) := h
        rcases List.mem_cons.mp htail with h | h
        · exact absurd h hreplaced
        · exact hlead h

theorem break_mem_textOf {strings : List (List Octet)} (h : '\n' ∈ Ownership.textOf strings) :
    ∃ s ∈ strings, 10 ∈ s :=
  List.mem_flatten.mp (break_mem_decodeFrom (by simp) h)

theorem mem_of_mem_fieldsOf {s part : List Char} (h : part ∈ Ownership.fieldsOf s) {c : Char}
    (hc : c ∈ part) : c ∈ s := by
  obtain ⟨field, hfield, rfl⟩ := List.mem_map.mp h
  exact List.mem_of_mem_filter (mem_of_mem_fields hfield (mem_trim hc)).1

end Octets

end DelegationAudit
