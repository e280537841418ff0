import DelegationAudit.Proofs.ParentText
import DelegationAudit.Proofs.ZoneForm
import Mathlib.Logic.Function.Iterate

namespace DelegationAudit.Dns

open Text

/-- The text of a parent is that of the root or the end of the text before. -/
theorem parentChars_suffix (s : List Char) :
    parentChars s = ['.'] ∨ parentChars s ≠ [] ∧ parentChars s <:+ s := by
  have hbehind : ∀ {t : List Char} (front : List Char),
      (parentChars t = ['.'] ∨ parentChars t ≠ [] ∧ parentChars t <:+ t) →
        parentChars t = ['.'] ∨ parentChars t ≠ [] ∧ parentChars t <:+ front ++ t := by
    intro t front h
    exact h.imp_right fun hsuffix => ⟨hsuffix.1, hsuffix.2.trans (List.suffix_append front t)⟩
  fun_induction parentChars s with
  | case1 => exact .inl rfl
  | case2 x y z rest hd ih => exact hbehind ['\\', x, y, z] ih
  | case3 x y z rest hd ih => exact hbehind ['\\', x] ih
  | case4 x rest hshort ih => exact hbehind ['\\', x] ih
  | case5 => exact .inl rfl
  | case6 => exact .inl rfl
  | case7 c rest h1 h2 h3 hdot hrest =>
    exact .inr ⟨by simpa using hrest, List.suffix_cons c rest⟩
  | case8 c rest h1 h2 h3 hd ih => exact hbehind [c] ih

theorem endsInDot_parentChars {s : List Char} (h : endsInDot s = true) :
    endsInDot (parentChars s) = true := by
  rcases parentChars_suffix s with hroot | ⟨hne, front, hsuffix⟩
  · rw [hroot]
    rfl
  · rwa [endsInDot, ← hsuffix, List.getLast?_append_of_ne_nil _ hne] at h

theorem isAscii_absoluteChars {s : List Char} (h : isAscii s = true) :
    isAscii (absoluteChars s) = true := by
  have htrim : isAscii (trim s) = true := isAscii_iff.mpr fun c hc => isAscii_iff.mp h c (mem_trim hc)
  rw [absoluteChars]
  split
  · rfl
  · split
    · exact htrim
    · rw [isAscii_append, htrim]
      rfl

namespace Name

/-- A name by an ASCII text that ends in a dot. -/
structure Written (s : List Char) (n : Name) : Prop where
  ascii : isAscii s = true
  dot : endsInDot s = true
  reads : readChars s = .ok n

theorem Written.parent {s : List Char} {n : Name} (h : Written s n) :
    Written (parentChars s) n.parent where
  ascii := isAscii_parentChars h.ascii
  dot := endsInDot_parentChars h.dot
  reads := by
    have hoctets := h.reads
    rw [readChars, if_pos h.ascii] at hoctets
    exact readChars_parent_ascii h.dot h.ascii hoctets

theorem Written.ancestor {s : List Char} {n : Name} (h : Written s n) (k : Nat) :
    Written (parentChars^[k] s) (Name.parent^[k] n) := by
  induction k with
  | zero => exact h
  | succ k ih =>
    rw [Function.iterate_succ_apply', Function.iterate_succ_apply']
    exact ih.parent

theorem labels_ancestor (n : Name) (k : Nat) : (parent^[k] n).labels = n.labels.drop k := by
  induction k with
  | zero => rfl
  | succ k ih =>
    rw [Function.iterate_succ_apply']
    show (parent^[k] n).labels.tail = _
    rw [ih, List.tail_drop]

end Name

theorem toList_ancestor (text : String) (k : Nat) :
    (parentOf^[k] text).toList = parentChars^[k] text.toList := by
  induction k with
  | zero => rfl
  | succ k ih =>
    rw [Function.iterate_succ_apply', Function.iterate_succ_apply', parentOf, String.toList_ofList, ih]

/-- The text of the parent of an ASCII name reads as all labels but the first, and that of an ancestor
as all labels but the first ones: the root where there are no more. -/
theorem Name.read_ancestor {text : String} {n : Name} (hascii : isAscii text.toList = true)
    (hn : Name.read (absolute text) = .ok n) :
    (∃ p, Name.read (parentOf (absolute text)) = .ok p ∧ p.labels = n.labels.tail ∧
      (n.labels.length ≤ 1 → p = .root)) ∧
    ∀ k, ∃ p, Name.read (parentOf^[k] (absolute text)) = .ok p ∧ p.labels = n.labels.drop k := by
  have hwritten : Written (absolute text).toList n := by
    have hchars : (absolute text).toList = absoluteChars text.toList := String.toList_ofList
    refine ⟨?_, ?_, hn⟩
    · rw [hchars]
      exact isAscii_absoluteChars hascii
    · rw [hchars]
      exact absoluteChars_endsInDot _
  have hancestor : ∀ k, Name.read (parentOf^[k] (absolute text)) = .ok (parent^[k] n) := by
    intro k
    rw [Name.read, toList_ancestor]
    exact (hwritten.ancestor k).reads
  refine ⟨⟨n.parent, hancestor 1, rfl, ?_⟩, fun k => ⟨_, hancestor k, n.labels_ancestor k⟩⟩
  intro hfew
  have hnone : n.labels.tail = [] := by
    rw [List.eq_nil_iff_length_eq_zero, List.length_tail]
    omega
  exact Name.ext hnone

/-- Dots and backslashes in escapes stay in their labels. -/
theorem Name.read_ancestor_escaped :
    isAscii " a\\.b\\046c.d\\\\.e ".toList = true ∧
    (Name.read (absolute " a\\.b\\046c.d\\\\.e ")).map Name.labels =
      .ok [[97, 46, 98, 46, 99], [100, 92], [101]] ∧
    (∃ p, Name.read (parentOf (absolute " a\\.b\\046c.d\\\\.e ")) = .ok p ∧
      p.labels = [[100, 92], [101]]) ∧
    ∃ p, Name.read (parentOf^[2] (absolute " a\\.b\\046c.d\\\\.e ")) = .ok p ∧ p.labels = [[101]] := by
  have hascii : isAscii " a\\.b\\046c.d\\\\.e ".toList = true := by decide
  have hlabels : (Name.read (absolute " a\\.b\\046c.d\\\\.e ")).map Name.labels =
      .ok [[97, 46, 98, 46, 99], [100, 92], [101]] := by decide +kernel
  obtain ⟨n, hn, hl⟩ := map_eq_ok.mp hlabels
  obtain ⟨⟨p, hp, htail, -⟩, hancestors⟩ := Name.read_ancestor hascii hn
  obtain ⟨q, hq, hdrop⟩ := hancestors 2
  rw [hl] at htail hdrop
  exact ⟨hascii, hlabels, ⟨p, hp, htail⟩, q, hq, hdrop⟩

end DelegationAudit.Dns
