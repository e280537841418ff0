import DelegationAudit.Dns.Name.Reader
import DelegationAudit.Proofs.CodePoints

namespace DelegationAudit

namespace Idna

open Text

section Composition

variable {b : Nat}

theorem mem_insertMark (n : Nat) (before : List Nat) :
    ∀ m, m ∈ insertMark n before ↔ m = n ∨ m ∈ before := by
  induction before with
  | nil => simp [insertMark]
  | cons k before ih =>
    intro m
    rw [insertMark]
    split
    · rw [List.mem_cons, ih, List.mem_cons]
      exact or_left_comm
    · exact List.mem_cons

theorem mem_orderMarks {codes : List Nat} (h : b ∈ codes) : b ∈ orderMarks codes := by
  have hfold : ∀ before, (b ∈ before ∨ b ∈ codes) →
      b ∈ codes.foldl (fun before n => insertMark n before) before := by
    clear h
    induction codes with
    | nil => simp
    | cons n codes ih =>
      intro before hmem
      rw [List.foldl_cons]
      apply ih
      rw [mem_insertMark]
      rw [List.mem_cons] at hmem
      tauto
  exact hfold [] (.inr h)

theorem insertMark_append (hb : classOf b = 0) (n : Nat) (before : List Nat) :
    ∃ front, insertMark n (before ++ [b]) = front ++ [b] := by
  induction before with
  | nil =>
    refine ⟨[n], ?_⟩
    rw [List.nil_append, insertMark, hb]
    simp
  | cons m before ih =>
    obtain ⟨front, hfront⟩ := ih
    rw [List.cons_append, insertMark]
    split
    · exact ⟨m :: front, by rw [hfront]; rfl⟩
    · exact ⟨n :: m :: before, rfl⟩

theorem orderMarks_cons (hb : classOf b = 0) (codes : List Nat) :
    ∃ front, orderMarks (b :: codes) = front ++ [b] := by
  have hfold : ∀ before, ∃ front,
      codes.foldl (fun before n => insertMark n before) (before ++ [b]) = front ++ [b] := by
    induction codes with
    | nil => exact fun before => ⟨before, rfl⟩
    | cons n codes ih =>
      intro before
      obtain ⟨front, hfront⟩ := insertMark_append hb n before
      rw [List.foldl_cons, hfront]
      exact ih front
  exact hfold []

theorem Inert.mem_composeFrom (hb : Inert b) {codes : List Nat} {starter : Nat} (marks : List Nat)
    (h : b = starter ∨ b ∈ codes) : b ∈ composeFrom starter marks codes := by
  fun_induction composeFrom starter marks codes with
  | case1 => simp [h.resolve_right List.not_mem_nil]
  | case2 starter marks n rest m hm ih =>
    have hpair : composePair starter n = some m := by
      split at hm
      · cases hm
      · exact hm
    apply ih
    rcases h with rfl | h
    · rw [hb.left] at hpair
      cases hpair
    · rcases List.mem_cons.mp h with rfl | h
      · rw [hb.right] at hpair
        cases hpair
      · exact .inr h
  | case3 starter marks n rest _ _ ih =>
    rcases h with rfl | h
    · simp
    · refine List.mem_cons_of_mem _ (List.mem_append_right _ (ih ?_))
      exact List.mem_cons.mp h
  | case4 starter marks n rest _ hclass ih =>
    apply ih
    rcases h with h | h
    · exact .inl h
    · rcases List.mem_cons.mp h with rfl | h
      · simp [hb.starter] at hclass
      · exact .inr h

theorem Inert.head_composeFrom (hb : Inert b) (marks codes : List Nat) :
    (composeFrom b marks codes).head? = some b := by
  induction codes generalizing marks with
  | nil => rfl
  | cons n rest ih =>
    have hpair : (if blocked marks n then none else composePair b n) = none := by
      rw [hb.left, ite_self]
    rw [composeFrom, hpair]
    dsimp only
    split
    · rfl
    · exact ih _

theorem Inert.mem_compose (hb : Inert b) {codes : List Nat} (h : b ∈ codes) : b ∈ compose codes := by
  have hsplit := List.takeWhile_append_dropWhile (p := fun n => classOf n != 0) (l := codes)
  rw [compose]
  generalize codes.takeWhile (fun n => classOf n != 0) = lead at hsplit ⊢
  generalize codes.dropWhile (fun n => classOf n != 0) = tail at hsplit ⊢
  subst hsplit
  cases tail with
  | nil => simpa using h
  | cons n rest =>
    rw [List.mem_append] at h ⊢
    exact h.imp_right fun h => hb.mem_composeFrom [] (List.mem_cons.mp h)

/-- What takes no part in compositions is still there after them. -/
theorem Inert.mem_composed (hb : Inert b) {codes : List Nat} (h : b ∈ codes) : b ∈ composed codes := by
  apply hb.mem_compose
  rw [List.mem_reverse]
  apply mem_orderMarks
  rw [List.mem_flatMap]
  exact ⟨b, h, by simp [hb.whole]⟩

/-- And it still begins what it began. -/
theorem Inert.head_composed (hb : Inert b) (codes : List Nat) :
    (composed (b :: codes)).head? = some b := by
  obtain ⟨front, hfront⟩ := orderMarks_cons hb.starter (codes.flatMap (decompose 8))
  rw [composed, List.flatMap_cons, hb.whole, List.singleton_append, hfront, List.reverse_append,
    List.reverse_singleton, List.singleton_append, compose]
  have hstarter : (classOf b != 0) = false := by simp [hb.starter]
  rw [List.takeWhile_cons_of_neg (by simp [hstarter]), List.dropWhile_cons_of_neg (by simp [hstarter])]
  exact hb.head_composeFrom [] _

end Composition

theorem toNat_ofNat {n : Nat} (h : n < 128) : (Char.ofNat n).toNat = n :=
  toNat_ofNat_of_valid (.inl (by omega))

/-- Code points that no rule lets stand in a label. -/
theorem checkCodes_low {b : Nat} (hb : b < 45) {label before rest : List Nat} (h : b ∈ rest) :
    checkCodes label before rest ≠ .ok () := by
  have hjoiner : isJoiner b = false := by
    simp only [isJoiner, Bool.or_eq_false_iff, beq_eq_false_iff_ne]
    omega
  have hcontext : isContextual b = false := by
    simp only [isContextual, isArabicDigit, isExtendedDigit, Bool.or_eq_false_iff, beq_eq_false_iff_ne,
      Bool.and_eq_false_iff, decide_eq_false_iff_not]
    omega
  induction rest generalizing before with
  | nil => simp at h
  | cons n rest ih =>
    rw [checkCodes]
    rcases List.mem_cons.mp h with rfl | hrest
    · rw [allowedTable_low hb, hjoiner, hcontext]
      simp
    · repeat' split
      all_goals first
        | exact ih hrest
        | nofun

theorem checkHyphens_head {label : List Nat} (h : label.head? = some 45) :
    checkHyphens label ≠ .ok () := by
  rw [checkHyphens, h]
  split <;> simp

theorem checkLabel_ok {label : List Nat} (h : checkLabel label = .ok ()) :
    checkHyphens label = .ok () ∧ checkCodes label [] label = .ok () := by
  unfold checkLabel at h
  repeat' split at h
  all_goals first
    | exact ⟨‹checkHyphens label = _›, ‹checkCodes label [] label = _›⟩
    | cases h

/-- No code point below the hyphen, and no hyphen at the front. -/
structure Clean (codes : List Nat) : Prop where
  above : ∀ n ∈ codes, 45 ≤ n
  head : codes.head? ≠ some 45

theorem checkLabel_clean {label : List Nat} (h : checkLabel label = .ok ()) : Clean label where
  above n hn := by
    by_contra hlow
    exact checkCodes_low (by omega) hn (checkLabel_ok h).2
  head hhead := checkHyphens_head hhead (checkLabel_ok h).1

namespace Punycode

theorem digitValue?_low {n : Nat} (h : n < 45) : digitValue? (Char.ofNat n) = none := by
  have all : ∀ m < 45, digitValue? (Char.ofNat m) = none := by decide
  exact all n h

theorem readDelta_digits {bias k weight sum : Nat} {s rest : List Char} {delta : Nat}
    (h : readDelta bias k weight sum s = some (delta, rest)) {c : Char} (hc : digitValue? c = none)
    (hmem : c ∈ s) : c ∈ rest := by
  induction s generalizing k weight sum with
  | nil => simp at hmem
  | cons d s ih =>
    rw [readDelta] at h
    split at h
    next => cases h
    next v hv =>
      have hs : c ∈ s := by
        rcases List.mem_cons.mp hmem with rfl | hs
        · rw [hc] at hv
          cases hv
        · exact hs
      dsimp only at h
      split at h
      · cases h
        exact hs
      · exact ih h hs

theorem mem_insertAt {i m n : Nat} {label : List Nat} (h : n ∈ label) : n ∈ insertAt i m label := by
  have hsplit : n ∈ label.take i ++ label.drop i := by rwa [List.take_append_drop]
  rw [insertAt, List.mem_append, List.mem_cons]
  exact (List.mem_append.mp hsplit).imp_right .inr

theorem readAll_mem {label : List Nat} {code index bias : Nat} {first : Bool} {s : List Char}
    {decoded : List Nat} (h : readAll label code index bias first s = some decoded) {n : Nat}
    (hn : n ∈ label) : n ∈ decoded := by
  fun_induction readAll label code index bias first s with
  | case1 => cases h; exact hn
  | case2 => cases h
  | case3 => cases h
  | case4 label code index bias first s hs delta rest hdelta at_ code' i hcode ih =>
    exact ih h (mem_insertAt hn)

theorem readAll_digits {label : List Nat} {code index bias : Nat} {first : Bool} {s : List Char}
    {decoded : List Nat} (h : readAll label code index bias first s = some decoded) {c : Char}
    (hc : digitValue? c = none) : c ∉ s := by
  fun_induction readAll label code index bias first s with
  | case1 label _ _ _ _ s hs => simp [List.isEmpty_iff.mp hs]
  | case2 => cases h
  | case3 => cases h
  | case4 label code index bias first s hs delta rest hdelta at_ code' i hcode ih =>
    exact fun hmem => ih h (readDelta_digits hdelta hc hmem)

/-- A code point that is no digit is among those that were written as they are. -/
theorem decode_low {s : List Char} {decoded : List Nat} (h : decode s = some decoded) {n : Nat}
    (hn : n < 45) (hmem : Char.ofNat n ∈ s) : n ∈ decoded := by
  have htail := readAll_digits h (digitValue?_low hn)
  rw [decode] at h
  have hhyphen : Char.ofNat n ≠ '-' := by
    have all : ∀ m < 45, Char.ofNat m ≠ '-' := by decide
    exact all n hn
  have hsplit := List.takeWhile_append_dropWhile (p := (· != '-')) (l := s.reverse)
  generalize s.reverse.takeWhile (· != '-') = tail at hsplit htail h
  cases hdrop : s.reverse.dropWhile (· != '-') with
  | nil =>
    rw [hdrop, List.append_nil] at hsplit
    rw [hsplit, List.reverse_reverse] at htail
    exact absurd hmem htail
  | cons d front =>
    have hd : d = '-' := by
      have hnot := List.head_dropWhile_not (l := s.reverse) (· != '-') (by simp [hdrop])
      simpa [hdrop] using hnot
    subst hd
    have hs : s = front.reverse ++ '-' :: tail.reverse := by
      rw [← List.reverse_reverse s, ← hsplit, hdrop]
      simp
    have htake : s.take (s.length - tail.reverse.length - 1) = front.reverse := by
      rw [hs, List.length_append, List.length_cons, List.take_left' (by omega)]
    rw [htake] at h
    apply readAll_mem h
    rw [List.mem_map]
    refine ⟨Char.ofNat n, ?_, toNat_ofNat (by omega)⟩
    rw [hs, List.mem_append, List.mem_cons] at hmem
    exact (hmem.resolve_right (not_or.mpr ⟨hhyphen, htail⟩))

/-- A character from the hyphen on, of ASCII. -/
def Written (c : Char) : Prop := 45 ≤ c.toNat ∧ c.toNat < 128

theorem digitChar_written {d : Nat} (h : d < 36) : Written (digitChar d) := by
  have all : ∀ e < 36, 45 ≤ (digitChar e).toNat ∧ (digitChar e).toNat < 128 := by decide
  exact all d h

theorem digits_written (bias k n : Nat) : ∀ c ∈ digits bias k n, Written c := by
  have hle := threshold_le
  fun_induction digits bias k n with
  | case1 k n t ht =>
    have htle := hle k bias
    simp only [List.mem_singleton, forall_eq]
    exact digitChar_written (by omega)
  | case2 k n t ht ih =>
    have htle := hle k bias
    have hmod := Nat.mod_lt (n - t) (show 0 < 36 - t by omega)
    rw [List.forall_mem_cons]
    exact ⟨digitChar_written (by omega), ih⟩

theorem writeAt_written (basic code : Nat) {w : Writer} (n : Nat) (h : ∀ c ∈ w.text, Written c) :
    ∀ c ∈ (writeAt basic code w n).text, Written c := by
  rw [writeAt]
  split
  · exact h
  · split
    · rw [List.forall_mem_append]
      exact ⟨h, digits_written _ _ _⟩
    · exact h

theorem writeAll_written (label : List Nat) (basic : Nat) (codes : List Nat) (next : Nat) {w : Writer}
    (h : ∀ c ∈ w.text, Written c) : ∀ c ∈ (writeAll label basic codes next w).text, Written c := by
  induction codes generalizing next w with
  | nil => exact h
  | cons code codes ih =>
    rw [writeAll]
    apply ih
    refine List.foldlRecOn label (writeAt basic code)
      (motive := fun w : Writer => ∀ c ∈ w.text, Written c) ?_ ?_
    · exact h
    · exact fun w hw n _ => writeAt_written basic code n hw

theorem encode_written {label : List Nat} (h : ∀ n ∈ label, 45 ≤ n) :
    ∀ c ∈ encode label, Written c := by
  have hfront : ∀ c ∈ (label.filter (· < 128)).map Char.ofNat, Written c := by
    intro c hc
    obtain ⟨m, hm, rfl⟩ := List.mem_map.mp hc
    obtain ⟨hmem, hlow⟩ := List.mem_filter.mp hm
    have hlow : m < 128 := by simpa using hlow
    rw [Written, toNat_ofNat hlow]
    exact ⟨h m hmem, hlow⟩
  have htail := writeAll_written label (label.filter (· < 128)).length
    ((label.filter (128 ≤ ·)).foldr insertCode []) 128
    (w := ⟨[], 0, 72, (label.filter (· < 128)).length⟩) (by simp)
  rw [encode, List.forall_mem_append]
  refine ⟨?_, htail⟩
  split
  · simp
  · rw [List.forall_mem_append]
    exact ⟨hfront, by simp [Written]⟩

end Punycode

theorem isAsciiLabel_iff {label : List Nat} : isAsciiLabel label = true ↔ ∀ n ∈ label, n < 128 := by
  simp [isAsciiLabel]

theorem toNat_toChars {label : List Nat} (h : isAsciiLabel label = true) :
    (toChars label).map Char.toNat = label := by
  have hback : label.map (Char.toNat ∘ Char.ofNat) = label.map id :=
    List.map_congr_left fun n hn => toNat_ofNat (isAsciiLabel_iff.mp h n hn)
  rw [toChars, List.map_map, hback, List.map_id]

theorem checkAscii_ok {label : List Char} (h : checkAscii label = .ok ()) :
    checkLabel ((asciiLower label).map Char.toNat) = .ok () ∨
      ∃ rest decoded, asciiLower label = marker ++ rest ∧ Punycode.decode rest = some decoded ∧
        checkLabel decoded = .ok () := by
  rw [checkAscii] at h
  dsimp only at h
  split at h
  · exact .inl h
  next hmarker =>
    right
    have hprefix : marker <+: asciiLower label := by simpa using hmarker
    obtain ⟨rest, hrest⟩ := hprefix
    have hdrop : (asciiLower label).drop 4 = rest := by rw [← hrest]; rfl
    rw [hdrop] at h
    split at h
    · cases h
    · split at h
      · cases h
      · split at h
        next => cases h
        next decoded hdecode =>
          split at h
          · exact ⟨rest, decoded, hrest.symm, hdecode, h⟩
          · cases h

theorem checkAscii_clean {label : List Char} (h : checkAscii label = .ok ()) :
    Clean (label.map Char.toNat) where
  above n hn := by
    by_contra hlow
    have hlow : n < 45 := by omega
    obtain ⟨c, hc, rfl⟩ := List.mem_map.mp hn
    have hlower : c.toLower = c := by
      have all : ∀ m < 45, (Char.ofNat m).toLower = Char.ofNat m := by decide
      simpa using all c.toNat hlow
    have hsmall : c ∈ asciiLower label := List.mem_map.mpr ⟨c, hc, hlower⟩
    rcases checkAscii_ok h with hcheck | ⟨rest, decoded, hsplit, hdecode, hcheck⟩
    · have habove := (checkLabel_clean hcheck).above c.toNat (List.mem_map_of_mem hsmall)
      omega
    · have hrest : c ∈ rest := by
        have hnot : c ∉ marker := by
          have all : ∀ m < 45, Char.ofNat m ∉ marker := by decide
          simpa using all c.toNat hlow
        rw [hsplit] at hsmall
        exact (List.mem_append.mp hsmall).resolve_left hnot
      have hmem := Punycode.decode_low hdecode hlow (by simpa using hrest)
      have habove := (checkLabel_clean hcheck).above _ hmem
      omega
  head hhead := by
    obtain ⟨c, s, rfl⟩ : ∃ c s, label = c :: s := List.exists_cons_of_ne_nil (by rintro rfl; cases hhead)
    have hc : c = '-' := by
      rw [List.map_cons, List.head?_cons, Option.some.injEq] at hhead
      exact Char.toNat_inj.mp hhead
    subst hc
    rcases checkAscii_ok h with hcheck | ⟨rest, decoded, hsplit, -, -⟩
    · exact (checkLabel_clean hcheck).head rfl
    · simp [asciiLower, marker] at hsplit

theorem shortEnough_eq_ok {label s : List Char} (h : shortEnough label = .ok s) : s = label := by
  rw [shortEnough] at h
  split at h
  next => cases h; rfl
  next => cases h

theorem toAscii_eq_ok {label : List Nat} {s : List Char} (h : toAscii label = .ok s) :
    (∀ c ∈ s, Punycode.Written c) ∧ Clean label := by
  rw [toAscii] at h
  split at h
  next => cases h
  next =>
    split at h
    next hascii =>
      split at h
      next => cases h
      next hcheck =>
        rw [shortEnough_eq_ok h]
        have hclean := checkAscii_clean hcheck
        rw [toNat_toChars hascii] at hclean
        refine ⟨?_, hclean⟩
        intro c hc
        obtain ⟨n, hn, rfl⟩ := List.mem_map.mp hc
        have hlow := isAsciiLabel_iff.mp hascii n hn
        rw [Punycode.Written, toNat_ofNat hlow]
        exact ⟨hclean.above n hn, hlow⟩
    next =>
      split at h
      next => cases h
      next hcheck =>
        have hclean := checkLabel_clean hcheck
        rw [shortEnough_eq_ok h, List.forall_mem_append]
        exact ⟨⟨by simp [marker, Punycode.Written], Punycode.encode_written hclean.above⟩, hclean⟩

theorem mapFrom_cons {label : List Nat} {position n : Nat} {codes mapped : List Nat}
    (h : mapFrom label position (n :: codes) = .ok mapped) :
    ∃ ms rest, mapCode n = some ms ∧ mapFrom label (position + 1) codes = .ok rest ∧
      mapped = ms ++ rest := by
  rw [mapFrom] at h
  generalize mapCode n = found at h ⊢
  cases found with
  | none => cases h
  | some ms =>
    rw [Option.elim_some] at h
    cases hrest : mapFrom label (position + 1) codes with
    | error e => rw [hrest] at h; cases h
    | ok rest =>
      rw [hrest] at h
      cases h
      exact ⟨ms, rest, rfl, rfl, rfl⟩

theorem mem_mapFrom {label : List Nat} {position : Nat} {codes mapped : List Nat}
    (h : mapFrom label position codes = .ok mapped) {n : Nat} (hn : n ∈ codes) :
    ∃ ms, mapCode n = some ms ∧ ∀ m ∈ ms, m ∈ mapped := by
  induction codes generalizing position mapped with
  | nil => simp at hn
  | cons k codes ih =>
    obtain ⟨ms, rest, hms, hrest, rfl⟩ := mapFrom_cons h
    rcases List.mem_cons.mp hn with rfl | hn
    · exact ⟨ms, hms, fun m hm => List.mem_append_left _ hm⟩
    · obtain ⟨ns, hns, hmem⟩ := ih hrest hn
      exact ⟨ns, hns, fun m hm => List.mem_append_right _ (hmem m hm)⟩

/-- The mapping takes no white space away, and a hyphen stays at the front. -/
theorem mapLabel_clean {label mapped : List Nat} (h : mapLabel label = .ok mapped)
    (hclean : Clean (composed mapped)) : Clean label ∧ ∀ n ∈ wideBlanks, n ∉ label := by
  have hlow : ∀ n < 45, n ∉ mapped := by
    intro n hn hmem
    have hle := hclean.above n ((inert_low (by omega)).mem_composed hmem)
    omega
  refine ⟨⟨?_, ?_⟩, ?_⟩
  · intro n hn
    by_contra hlt
    obtain ⟨ms, hms, hmem⟩ := mem_mapFrom h hn
    rw [mapCode_low (by omega)] at hms
    cases hms
    exact hlow n (by omega) (hmem n (by simp))
  · intro hhyphen
    obtain ⟨n, codes, rfl⟩ : ∃ n codes, label = n :: codes :=
      List.exists_cons_of_ne_nil (by rintro rfl; cases hhyphen)
    rw [List.head?_cons, Option.some.injEq] at hhyphen
    subst hhyphen
    obtain ⟨ms, rest, hms, -, rfl⟩ := mapFrom_cons h
    rw [mapCode_low (by omega), Option.some.injEq] at hms
    subst hms
    exact hclean.head ((inert_low (by omega)).head_composed rest)
  · intro n hn hmem
    obtain ⟨ms, hms, hin⟩ := mem_mapFrom h hmem
    rcases mapCode_wide hn with hnone | hblank
    · rw [hnone] at hms
      cases hms
    · rw [hblank] at hms
      cases hms
      exact hlow 32 (by omega) (hin 32 (by simp))

theorem encodeLabel_eq_ok {label : List Nat} {s : List Char} (h : encodeLabel label = .ok s) :
    (isAsciiLabel label = true ∧ s = toChars label) ∨
      (isAsciiLabel label = false ∧ (∀ c ∈ s, Punycode.Written c) ∧ Clean label ∧
        ∀ n ∈ wideBlanks, n ∉ label) := by
  rw [encodeLabel] at h
  split at h
  next hempty =>
    cases h
    rw [List.isEmpty_iff.mp hempty]
    exact .inl ⟨rfl, rfl⟩
  next =>
    split at h
    next hascii => exact .inl ⟨hascii, shortEnough_eq_ok h⟩
    next hwide =>
      split at h
      next => cases h
      next =>
        split at h
        next => cases h
        next mapped hmapped =>
          obtain ⟨hwritten, hclean⟩ := toAscii_eq_ok h
          exact .inr ⟨by simpa using hwide, hwritten, mapLabel_clean hmapped hclean⟩

theorem encodeLabel_ascii {label : List Nat} (h : isAsciiLabel label = true) (hle : label.length ≤ 63) :
    encodeLabel label = .ok (toChars label) := by
  have hshort : (toChars label).length ≤ 63 := by simpa [toChars] using hle
  rw [encodeLabel]
  split
  next hempty => rw [List.isEmpty_iff.mp hempty]; rfl
  next => rw [shortEnough, if_pos hshort]

end Idna

namespace Dns

open Text Idna

theorem ofNat_toChars (label : List Nat) (h : isAsciiLabel label = true) :
    (toChars label).map (fun c => UInt8.ofNat c.toNat) = label.map UInt8.ofNat := by
  rw [← Function.comp_def, ← List.map_map, toNat_toChars h]

theorem toNat_octet {n : Nat} (h : n < 128) : (UInt8.ofNat n).toNat = n :=
  UInt8.toNat_ofNat_of_lt (by rw [UInt8.size]; omega)

/-- What is left of a label that can be read: an ASCII label, or a label without white space that
begins with no hyphen. -/
theorem unicodeLabel_eq_ok {label : List Nat} {l : Label} (h : unicodeLabel label = .ok l) :
    (isAsciiLabel label = true ∧ l = label.map UInt8.ofNat) ∨
      (isAsciiLabel label = false ∧ (∀ b ∈ l, 45 ≤ b ∧ b < 128) ∧ Clean label ∧
        ∀ n ∈ wideBlanks, n ∉ label) := by
  rw [unicodeLabel] at h
  split at h
  next s hs =>
    cases h
    rcases encodeLabel_eq_ok hs with ⟨hascii, rfl⟩ | ⟨hwide, hwritten, hclean⟩
    · exact .inl ⟨hascii, ofNat_toChars label hascii⟩
    · refine .inr ⟨hwide, ?_, hclean⟩
      intro b hb
      obtain ⟨c, hc, rfl⟩ := List.mem_map.mp hb
      obtain ⟨hle, hlt⟩ := hwritten c hc
      rw [UInt8.le_iff_toNat_le, UInt8.lt_iff_toNat_lt, toNat_octet hlt]
      exact ⟨hle, hlt⟩
  next => cases h
  next => cases h

theorem unicodeLabel_ascii {label : List Nat} (h : isAsciiLabel label = true) (hle : label.length ≤ 63) :
    unicodeLabel label = .ok (label.map UInt8.ofNat) := by
  rw [unicodeLabel, encodeLabel_ascii h hle]
  dsimp only
  rw [ofNat_toChars label h]

end Dns

end DelegationAudit
