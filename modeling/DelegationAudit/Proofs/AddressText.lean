import DelegationAudit.Net.Address
import Mathlib.Data.List.TakeWhile

namespace DelegationAudit

namespace Text

theorem fields_append {p : Char → Bool} {c : Char} (hc : p c = true) (s t : List Char) :
    fields p (s ++ c :: t) = fields p s ++ fields p t := by
  induction s with
  | nil => simp [fields, hc]
  | cons d s ih =>
    rw [List.cons_append]
    by_cases hd : p d = true
    · simp only [fields, hd, ih, if_true, List.cons_append]
    · cases hf : fields p s with
      | nil => exact absurd hf (fields_ne_nil p s)
      | cons f fs =>
        rw [hf, List.cons_append] at ih
        simp only [fields, hd, ih, hf, if_false, Bool.false_eq_true, List.cons_append]

theorem fields_of_not_mem {p : Char → Bool} {s : List Char} (h : ∀ c ∈ s, p c = false) :
    fields p s = [s] := by
  induction s with
  | nil => rfl
  | cons c s ih =>
    have hc : p c = false := h c (by simp)
    have hs : ∀ d ∈ s, p d = false := fun d hd => h d (by simp [hd])
    simp [fields, hc, ih hs]

/-- A part of a text is made of its characters, the separators apart. -/
theorem mem_of_mem_fields {p : Char → Bool} {s field : List Char} (h : field ∈ fields p s) {c : Char}
    (hc : c ∈ field) : c ∈ s ∧ p c = false := by
  induction s generalizing field with
  | nil =>
    rw [fields, List.mem_singleton] at h
    rw [h] at hc
    cases hc
  | cons d s ih =>
    by_cases hd : p d = true
    · rw [fields, if_pos hd] at h
      rcases List.mem_cons.mp h with rfl | h
      · cases hc
      · exact (ih h hc).imp_left (List.mem_cons_of_mem d)
    · rw [fields, if_neg hd] at h
      cases hf : fields p s with
      | nil => exact absurd hf (fields_ne_nil p s)
      | cons f fs =>
        rw [hf] at h ih
        rcases List.mem_cons.mp h with rfl | h
        · rcases List.mem_cons.mp hc with rfl | hc
          · exact ⟨List.mem_cons_self, Bool.eq_false_iff.mpr hd⟩
          · exact (ih List.mem_cons_self hc).imp_left (List.mem_cons_of_mem d)
        · exact (ih (List.mem_cons_of_mem f h) hc).imp_left (List.mem_cons_of_mem d)

theorem not_mem_of_mem_fields {p : Char → Bool} {s field : List Char} (h : field ∈ fields p s) :
    ∀ c ∈ field, p c = false := fun _ hc => (mem_of_mem_fields h hc).2

theorem exists_mem_fields {p : Char → Bool} {s : List Char} {c : Char} (hc : c ∈ s) (hp : p c = false) :
    ∃ field ∈ fields p s, c ∈ field := by
  induction s with
  | nil => cases hc
  | cons d s ih =>
    by_cases hd : p d = true
    · rw [fields, if_pos hd]
      rcases List.mem_cons.mp hc with rfl | hc
      · rw [hp] at hd
        cases hd
      · obtain ⟨field, hfield, hmem⟩ := ih hc
        exact ⟨field, List.mem_cons_of_mem _ hfield, hmem⟩
    · rw [fields, if_neg hd]
      cases hf : fields p s with
      | nil => exact absurd hf (fields_ne_nil p s)
      | cons f fs =>
        rw [hf] at ih
        rcases List.mem_cons.mp hc with rfl | hc
        · exact ⟨_, List.mem_cons_self, List.mem_cons_self⟩
        · obtain ⟨field, hfield, hmem⟩ := ih hc
          rcases List.mem_cons.mp hfield with rfl | hfield
          · exact ⟨_, List.mem_cons_self, List.mem_cons_of_mem d hmem⟩
          · exact ⟨field, List.mem_cons_of_mem _ hfield, hmem⟩

/-- The pieces of a joined text are the texts that were joined. -/
theorem fields_joinWith {p : Char → Bool} {c : Char} (hc : p c = true) {texts : List (List Char)}
    (hne : texts ≠ []) (h : ∀ s ∈ texts, ∀ d ∈ s, p d = false) :
    fields p (joinWith [c] texts) = texts := by
  induction texts with
  | nil => exact absurd rfl hne
  | cons s rest ih =>
    have hs := fields_of_not_mem (h s (by simp))
    cases rest with
    | nil => exact hs
    | cons t rest =>
      have hr : fields p (joinWith [c] (t :: rest)) = t :: rest :=
        ih (by simp) fun u hu => h u (by simp [hu])
      change fields p (s ++ [c] ++ joinWith [c] (t :: rest)) = _
      rw [List.append_assoc, List.singleton_append, fields_append hc, hs, hr]
      rfl

theorem mem_joinWith {c d : Char} {texts : List (List Char)} (h : d ∈ joinWith [c] texts) :
    d = c ∨ ∃ s ∈ texts, d ∈ s := by
  induction texts with
  | nil => cases h
  | cons s rest ih =>
    cases rest with
    | nil => exact .inr ⟨s, by simp, h⟩
    | cons t rest =>
      rcases List.mem_append.mp h with h | h
      · rcases List.mem_append.mp h with h | h
        · exact .inr ⟨s, by simp, h⟩
        · exact .inl (List.mem_singleton.mp h)
      · rcases ih h with hc | ⟨u, hu, hd⟩
        · exact .inl hc
        · exact .inr ⟨u, by simp [hu], hd⟩

theorem mem_joinWith_of_mem {sep : List Char} {texts : List (List Char)} {s : List Char} {c : Char}
    (hs : s ∈ texts) (hc : c ∈ s) : c ∈ joinWith sep texts := by
  induction texts with
  | nil => simp at hs
  | cons t rest ih =>
    cases rest with
    | nil => rwa [List.mem_singleton.mp hs] at hc
    | cons u rest =>
      change c ∈ t ++ sep ++ joinWith sep (u :: rest)
      rcases List.mem_cons.mp hs with rfl | hs
      · simp [hc]
      · exact List.mem_append_right _ (ih hs)

theorem suffix_joinWith (sep : List Char) (texts : List (List Char)) (tail : List Char) :
    tail <:+ joinWith sep (texts ++ [tail]) := by
  induction texts with
  | nil => exact List.suffix_refl _
  | cons s texts ih =>
    have hjoin : joinWith sep (s :: texts ++ [tail]) = s ++ sep ++ joinWith sep (texts ++ [tail]) := by
      cases texts <;> rfl
    rw [hjoin]
    exact ih.trans (List.suffix_append _ _)

end Text

namespace Number

theorem digitChar_inj {m n : Nat} (hm : m < 16) (hn : n < 16) (h : m.digitChar = n.digitChar) :
    m = n := by
  have all : ∀ m < 16, ∀ n < 16, Nat.digitChar m = Nat.digitChar n → m = n := by decide
  exact all m hm n hn h

/-- A number is known by its digits, the first of which is no zero that could be left out. -/
theorem toDigits_inj {base : Nat} (hb : 1 < base) (hb' : base ≤ 16) {m n : Nat}
    (h : Nat.toDigits base m = Nat.toDigits base n) : m = n := by
  induction m using Nat.strong_induction_on generalizing n with
  | _ m ih =>
    have small : ∀ k, k % base < 16 := fun k =>
      Nat.lt_of_lt_of_le (Nat.mod_lt k (by omega)) hb'
    rw [Nat.toDigits_eq_if hb (n := m), Nat.toDigits_eq_if hb (n := n)] at h
    by_cases hm : m < base <;> by_cases hn : n < base
    · rw [if_pos hm, if_pos hn, List.singleton_inj] at h
      exact digitChar_inj (by omega) (by omega) h
    · rw [if_pos hm, if_neg hn] at h
      have hlength := congrArg List.length h
      have hpos : 0 < (Nat.toDigits base (n / base)).length := Nat.length_toDigits_pos
      simp at hlength
    · rw [if_neg hm, if_pos hn] at h
      have hlength := congrArg List.length h
      have hpos : 0 < (Nat.toDigits base (m / base)).length := Nat.length_toDigits_pos
      simp at hlength
    · rw [if_neg hm, if_neg hn] at h
      obtain ⟨hfront, hlast⟩ := List.append_inj' h rfl
      have hdiv : m / base = n / base := ih (m / base) (Nat.div_lt_self (by omega) hb) hfront
      have hmod : m % base = n % base :=
        digitChar_inj (small m) (small n) (List.singleton_inj.mp hlast)
      rw [← Nat.div_add_mod m base, ← Nat.div_add_mod n base, hdiv, hmod]

theorem mem_toDigits {base : Nat} (hb : 1 < base) {n : Nat} {c : Char}
    (h : c ∈ Nat.toDigits base n) : ∃ d, c = Nat.digitChar d := by
  induction n using Nat.strong_induction_on with
  | _ n ih =>
    rw [Nat.toDigits_eq_if hb] at h
    by_cases hn : n < base
    · rw [if_pos hn, List.mem_singleton] at h
      exact ⟨n, h⟩
    · rw [if_neg hn] at h
      rcases List.mem_append.mp h with h | h
      · exact ih (n / base) (Nat.div_lt_self (by omega) hb) h
      · exact ⟨n % base, List.mem_singleton.mp h⟩

theorem not_mem_toDigits {base : Nat} (hb : 1 < base) (n : Nat) {c : Char}
    (hc : ∀ d, Nat.digitChar d ≠ c) : c ∉ Nat.toDigits base n := by
  intro h
  obtain ⟨d, hd⟩ := mem_toDigits hb h
  exact hc d hd.symm

end Number

namespace Net

theorem digitsIn_inj (base count : Nat) {m n : Nat} (hm : m < Nat.pow base count)
    (hn : n < Nat.pow base count) (h : digitsIn base count m = digitsIn base count n) : m = n := by
  rw [← fromDigits_digitsIn base count m hm, ← fromDigits_digitsIn base count n hn, h]

theorem mem_digitsIn {base : Nat} (hb : 0 < base) {count n d : Nat} (h : d ∈ digitsIn base count n) :
    d < base := by
  induction count generalizing n with
  | zero => cases h
  | succ count ih =>
    rw [digitsIn, List.mem_append, List.mem_singleton] at h
    rcases h with h | rfl
    · exact ih h
    · exact Nat.mod_lt n hb

theorem natText_no_dot (n : Nat) : ∀ c ∈ Number.natText n, (c == '.') = false := by
  intro c hc
  have hdot : '.' ∉ Nat.toDigits 10 n :=
    Number.not_mem_toDigits (by decide) n fun d => Nat.digitChar_ne '.' (by decide)
  rw [beq_eq_false_iff_ne]
  rintro rfl
  exact hdot hc

theorem groupText_no_colon (n : Nat) : ∀ c ∈ groupText n, (c == ':') = false := by
  intro c hc
  have hcolon : ':' ∉ Nat.toDigits 16 n :=
    Number.not_mem_toDigits (by decide) n fun d => Nat.digitChar_ne ':' (by decide)
  rw [beq_eq_false_iff_ne]
  rintro rfl
  exact hcolon hc

theorem IPv4.fields_chars (a : IPv4) :
    Text.fields (· == '.') a.chars = a.octets.map Number.natText := by
  apply Text.fields_joinWith rfl
  · rw [← List.length_pos_iff, List.length_map, octets, digitsIn_length]
    decide
  · intro s hs
    obtain ⟨n, _, rfl⟩ := List.mem_map.mp hs
    exact natText_no_dot n

theorem IPv4.chars_inj {a b : IPv4} (h : a.chars = b.chars) : a = b := by
  have htexts : a.octets.map Number.natText = b.octets.map Number.natText := by
    rw [← a.fields_chars, ← b.fields_chars, h]
  have hoctets : a.octets = b.octets :=
    (List.map_inj_right fun _ _ => Number.toDigits_inj (by decide) (by decide)).mp htexts
  have hvalue := digitsIn_inj 256 4 a.value.isLt b.value.isLt hoctets
  cases a
  cases b
  rw [IPv4.mk.injEq]
  exact BitVec.eq_of_toNat_eq hvalue

/-- A stretch of the groups that are all zero. -/
structure IsRun (groups : List Nat) (run : ZeroRun) : Prop where
  inside : run.start + run.length ≤ groups.length
  zeros : ∀ i, run.start ≤ i → i < run.start + run.length → groups[i]? = some 0

/-- One more zero makes the run that ends before it longer, or begins a new one. -/
theorem IsRun.extend {groups : List Nat} {here run : ZeroRun} {index : Nat}
    (hhere : IsRun groups here) (hend : here.length ≠ 0 → here.start + here.length = index)
    (hzero : groups[index]? = some 0)
    (hrun : (if here.length == 0 then ⟨index, 1⟩ else ⟨here.start, here.length + 1⟩ : ZeroRun) = run) :
    IsRun groups run ∧ run.start + run.length = index + 1 := by
  have hlt : index < groups.length := (List.getElem?_eq_some_iff.mp hzero).1
  by_cases hl : here.length = 0
  · rw [if_pos (by simpa using hl)] at hrun
    rw [← hrun]
    refine ⟨⟨hlt, ?_⟩, rfl⟩
    intro i hi hi'
    dsimp only at hi hi'
    have hii : i = index := by omega
    rw [hii, hzero]
  · rw [if_neg (by simpa using hl)] at hrun
    rw [← hrun]
    have he := hend hl
    refine ⟨⟨?_, ?_⟩, ?_⟩
    · dsimp only
      omega
    · intro i hi hi'
      dsimp only at hi hi'
      by_cases hii : i = index
      · rw [hii, hzero]
      · exact hhere.zeros i hi (by omega)
    · dsimp only
      omega

/-- What is found is a run wherever the search begins, if what it begins with is one. -/
theorem longestRun_isRun {groups : List Nat} (rest : List Nat) {best here : ZeroRun} {index : Nat}
    (hbest : IsRun groups best) (hhere : IsRun groups here)
    (hend : here.length ≠ 0 → here.start + here.length = index)
    (hrest : groups.drop index = rest) :
    IsRun groups (longestRun best here index rest) := by
  induction rest generalizing best here index with
  | nil => exact hbest
  | cons g rest ih =>
    have hg : groups[index]? = some g := by
      rw [← List.head?_drop, hrest]
      rfl
    have hlt : index < groups.length := (List.getElem?_eq_some_iff.mp hg).1
    have hnext : groups.drop (index + 1) = rest := by
      rw [← List.drop_drop, hrest]
      rfl
    rw [longestRun]
    by_cases hz : g = 0
    · rw [if_pos (by simp [hz])]
      dsimp only
      generalize hr : (if here.length == 0 then ⟨index, 1⟩ else ⟨here.start, here.length + 1⟩ :
        ZeroRun) = run
      obtain ⟨hrun, hindex⟩ := hhere.extend hend (hz ▸ hg) hr
      refine ih ?_ hrun (fun _ => hindex) hnext
      split
      · exact hrun
      · exact hbest
    · rw [if_neg (by simpa using hz)]
      refine ih hbest ⟨by dsimp only; omega, ?_⟩ (fun h => absurd rfl h) hnext
      intro i hi hi'
      dsimp only at hi hi'
      omega

theorem zeroRun_isRun (groups : List Nat) : IsRun groups (zeroRun groups) := by
  have hnone : IsRun groups ⟨0, 0⟩ := ⟨Nat.zero_le _, fun i _ hi => absurd hi (Nat.not_lt_zero i)⟩
  exact longestRun_isRun groups hnone hnone (fun h => absurd rfl h) rfl

/-- The groups are what stands before a run, its zeros, and what stands after it. -/
theorem IsRun.split {groups : List Nat} {run : ZeroRun} (h : IsRun groups run) :
    groups = groups.take run.start ++ (List.replicate run.length 0 ++
      groups.drop (run.start + run.length)) := by
  have hzeros : (groups.drop run.start).take run.length = List.replicate run.length 0 := by
    have hinside := h.inside
    refine List.eq_replicate_iff.mpr ⟨by rw [List.length_take, List.length_drop]; omega, ?_⟩
    intro g hg
    obtain ⟨i, hi, rfl⟩ := List.mem_iff_getElem.mp hg
    have hlen : i < run.length := by
      rw [List.length_take] at hi
      omega
    have hz := h.zeros (run.start + i) (by omega) (by omega)
    rw [List.getElem_take, List.getElem_drop]
    exact (List.getElem?_eq_some_iff.mp hz).2
  rw [← hzeros, ← List.drop_drop, List.take_append_drop, List.take_append_drop]

theorem groupText_not_empty (g : Nat) : (groupText g).isEmpty = false := by
  have hpos : 0 < (groupText g).length := Nat.length_toDigits_pos
  cases hg : groupText g with
  | nil =>
    rw [hg] at hpos
    cases hpos
  | cons c cs => rfl

theorem fields_joinGroups {groups : List Nat} (h : groups ≠ []) :
    Text.fields (· == ':') (joinGroups groups) = groups.map groupText := by
  apply Text.fields_joinWith rfl (by simpa using h)
  intro s hs
  obtain ⟨g, _, rfl⟩ := List.mem_map.mp hs
  exact groupText_no_colon g

/-- The pieces of an address before and after a gap, which is where pieces are empty. -/
def sides (pieces : List (List Char)) : List (List Char) × List (List Char) :=
  (pieces.takeWhile (fun s => !s.isEmpty),
    (pieces.dropWhile (fun s => !s.isEmpty)).filter (fun s => !s.isEmpty))

theorem filter_groupTexts (groups : List Nat) :
    (groups.map groupText).filter (fun s => !s.isEmpty) = groups.map groupText := by
  rw [List.filter_eq_self]
  intro s hs
  obtain ⟨g, _, rfl⟩ := List.mem_map.mp hs
  simp [groupText_not_empty]

theorem sides_groupTexts (groups : List Nat) : sides (groups.map groupText) = (groups.map groupText, []) := by
  have hall : ∀ s ∈ groups.map groupText, (!s.isEmpty) = true := by
    intro s hs
    obtain ⟨g, _, rfl⟩ := List.mem_map.mp hs
    rw [groupText_not_empty]
    rfl
  rw [sides, List.takeWhile_eq_self_iff.mpr hall, List.dropWhile_eq_nil_iff.mpr hall]
  rfl

theorem filter_fields_joinGroups (groups : List Nat) :
    (Text.fields (· == ':') (joinGroups groups)).filter (fun s => !s.isEmpty) =
      groups.map groupText := by
  cases groups with
  | nil => rfl
  | cons g rest => rw [fields_joinGroups (by simp), filter_groupTexts]

theorem sides_gap (left right : List Nat) :
    sides (Text.fields (· == ':') (joinGroups left ++ ':' :: ':' :: joinGroups right)) =
      (left.map groupText, right.map groupText) := by
  rw [Text.fields_append (p := (· == ':')) rfl, Text.fields, if_pos (beq_self_eq_true _)]
  cases left with
  | nil =>
    change ([], _) = _
    rw [List.map_nil]
    congr 1
    exact filter_fields_joinGroups right
  | cons g rest =>
    have hall : ∀ s ∈ (g :: rest).map groupText, (!s.isEmpty) = true := by
      intro s hs
      obtain ⟨k, _, rfl⟩ := List.mem_map.mp hs
      rw [groupText_not_empty]
      rfl
    rw [fields_joinGroups (by simp), sides, List.takeWhile_append_of_pos hall,
      List.dropWhile_append_of_pos hall]
    congr 1
    · change (g :: rest).map groupText ++ [] = _
      rw [List.append_nil]
    · exact filter_fields_joinGroups right

namespace IPv6

def gap (a : IPv6) : ZeroRun :=
  if (zeroRun a.groups).length ≤ 1 then ⟨8, 0⟩ else zeroRun a.groups

theorem groups_length (a : IPv6) : a.groups.length = 8 := digitsIn_length _ _ _

theorem gap_isRun (a : IPv6) : IsRun a.groups a.gap := by
  rw [gap]
  split
  · refine ⟨Nat.le_of_eq a.groups_length.symm, ?_⟩
    intro i hi hi'
    exact absurd hi' (Nat.not_lt.mpr hi)
  · exact zeroRun_isRun a.groups

theorem sides_plainChars (a : IPv6) :
    sides (Text.fields (· == ':') a.plainChars) =
      ((a.groups.take a.gap.start).map groupText,
        (a.groups.drop (a.gap.start + a.gap.length)).map groupText) := by
  have hlength := a.groups_length
  unfold plainChars gap
  dsimp only
  split
  · have hne : a.groups ≠ [] := by
      intro hnil
      rw [hnil] at hlength
      cases hlength
    change _ = ((a.groups.take 8).map groupText, (a.groups.drop 8).map groupText)
    rw [fields_joinGroups hne, sides_groupTexts, List.take_of_length_le (Nat.le_of_eq hlength),
      List.drop_eq_nil_of_le (Nat.le_of_eq hlength), List.map_nil]
  · exact sides_gap _ _

theorem plainChars_inj {a b : IPv6} (h : a.plainChars = b.plainChars) : a.value = b.value := by
  have hs : sides (Text.fields (· == ':') a.plainChars) =
      sides (Text.fields (· == ':') b.plainChars) := by rw [h]
  rw [a.sides_plainChars, b.sides_plainChars, Prod.mk.injEq] at hs
  have text_inj : ∀ m n, groupText m = groupText n → m = n :=
    fun _ _ => Number.toDigits_inj (by decide) (by decide)
  have hleft := (List.map_inj_right text_inj).mp hs.1
  have hright := (List.map_inj_right text_inj).mp hs.2
  have ha := a.gap_isRun.split
  have hb := b.gap_isRun.split
  have hlengths := congrArg List.length ha
  have hlengths' := congrArg List.length hb
  rw [a.groups_length, hleft, hright] at hlengths
  rw [b.groups_length] at hlengths'
  have hgap : a.gap.length = b.gap.length := by
    simp only [List.length_append, List.length_replicate] at hlengths hlengths'
    omega
  have hgroups : a.groups = b.groups := by rw [ha, hb, hleft, hright, hgap]
  exact BitVec.eq_of_toNat_eq (digitsIn_inj 65536 8 a.value.isLt b.value.isLt hgroups)

theorem mem_joinGroups {groups : List Nat} {c : Char} (h : c ∈ joinGroups groups) :
    c = ':' ∨ ∃ d, c = Nat.digitChar d := by
  rcases Text.mem_joinWith h with hc | ⟨s, hs, hc⟩
  · exact .inl hc
  · obtain ⟨g, _, rfl⟩ := List.mem_map.mp hs
    exact .inr (Number.mem_toDigits (by decide) hc)

theorem mem_plainChars {a : IPv6} {c : Char} (h : c ∈ a.plainChars) :
    c = ':' ∨ ∃ d, c = Nat.digitChar d := by
  unfold plainChars at h
  dsimp only at h
  split at h
  · exact mem_joinGroups h
  · rcases List.mem_append.mp h with h | h
    · exact mem_joinGroups h
    · rcases List.mem_cons.mp h with h | h
      · exact .inl h
      · rcases List.mem_cons.mp h with h | h
        · exact .inl h
        · exact mem_joinGroups h

theorem not_mem_plainChars {c : Char} (hcolon : c ≠ ':') (hdigit : ∀ d, Nat.digitChar d ≠ c)
    (a : IPv6) : c ∉ a.plainChars := by
  intro h
  rcases mem_plainChars h with hc | ⟨d, hd⟩
  · exact hcolon hc
  · exact hdigit d hd.symm

/-- The zone stands behind the first percent sign. -/
theorem chars_inj {a b : IPv6} (h : a.chars = b.chars) : a = b := by
  have hpercent : ∀ c : IPv6, ∀ d ∈ c.plainChars, (d != '%') = true := by
    intro c d hd
    rw [bne_iff_ne]
    rintro rfl
    exact not_mem_plainChars (by decide) (fun d => Nat.digitChar_ne '%' (by decide)) c hd
  have hsplit : ∀ c : IPv6, c.chars.takeWhile (· != '%') = c.plainChars ∧
      c.chars.dropWhile (· != '%') = (c.zone.map (fun z => '%' :: z.toList)).getD [] := by
    intro c
    rw [chars]
    cases c.zone with
    | none =>
      exact ⟨List.takeWhile_eq_self_iff.mpr (hpercent c), List.dropWhile_eq_nil_iff.mpr (hpercent c)⟩
    | some z =>
      dsimp only
      rw [List.takeWhile_append_of_pos (hpercent c), List.dropWhile_append_of_pos (hpercent c)]
      exact ⟨List.append_nil _, rfl⟩
  have hplain : a.plainChars = b.plainChars := by rw [← (hsplit a).1, ← (hsplit b).1, h]
  have hzone : (a.zone.map (fun z => '%' :: z.toList)).getD [] =
      (b.zone.map (fun z => '%' :: z.toList)).getD [] := by
    rw [← (hsplit a).2, ← (hsplit b).2, h]
  have hvalue := plainChars_inj hplain
  obtain ⟨value, zone⟩ := a
  obtain ⟨value', zone'⟩ := b
  rw [IPv6.mk.injEq]
  refine ⟨hvalue, ?_⟩
  cases zone <;> cases zone' <;> simp [String.toList_inj] at hzone ⊢
  exact hzone

end IPv6

theorem IPv4.mem_chars {a : IPv4} {c : Char} (h : c ∈ a.chars) :
    c = '.' ∨ ∃ d, c = Nat.digitChar d := by
  rcases Text.mem_joinWith h with hc | ⟨s, hs, hc⟩
  · exact .inl hc
  · obtain ⟨n, _, rfl⟩ := List.mem_map.mp hs
    exact .inr (Number.mem_toDigits (by decide) hc)

theorem IPv4.dot_mem_chars (a : IPv4) : '.' ∈ a.chars := by
  simp [chars, octets, digitsIn, Text.joinWith]

theorem IPv4.chars_ne (a : IPv4) (b : IPv6) : a.chars ≠ b.chars := by
  intro h
  cases hz : b.zone with
  | none =>
    have hb : b.chars = b.plainChars := by rw [IPv6.chars, hz]
    have hdot := a.dot_mem_chars
    rw [h, hb] at hdot
    exact IPv6.not_mem_plainChars (by decide) (fun d => Nat.digitChar_ne '.' (by decide)) b hdot
  | some z =>
    have hpercent : '%' ∈ a.chars := by
      rw [h, IPv6.chars, hz]
      simp
    rcases IPv4.mem_chars hpercent with hc | ⟨d, hd⟩
    · exact absurd hc (by decide)
    · exact Nat.digitChar_ne '%' (by decide) hd.symm

theorem Address.text_inj {a b : Address} (h : a.text = b.text) : a = b := by
  cases a with
  | v4 a =>
    cases b with
    | v4 b => rw [IPv4.chars_inj (String.ofList_injective h)]
    | v6 b => exact absurd (String.ofList_injective h) (IPv4.chars_ne a b)
  | v6 a =>
    cases b with
    | v4 b => exact absurd (String.ofList_injective h).symm (IPv4.chars_ne b a)
    | v6 b => rw [IPv6.chars_inj (String.ofList_injective h)]

end Net

end DelegationAudit
