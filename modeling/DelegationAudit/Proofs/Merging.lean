import DelegationAudit.Dns.Record
import Mathlib.Data.List.Nodup

namespace DelegationAudit

section Repeats

variable {α β : Type}

/-- A property of lists that follows from the same property of some of what is behind the head. -/
theorem filter_induction (p : α → α → Bool) {P : List α → Prop} (nil : P [])
    (cons : ∀ a l, P (l.filter (p a)) → P (a :: l)) : ∀ l, P l
  | [] => nil
  | a :: l => cons a l (filter_induction p nil cons (l.filter (p a)))
  termination_by l => l.length
  decreasing_by exact Nat.lt_succ_of_le (List.length_filter_le _ _)

section By

variable {same other : α → α → Bool}

/-- Whatever is left out is the same as something that stays. -/
theorem exists_mem_eraseDupsBy (hrefl : ∀ a, same a a = true) {l : List α} {a : α} (h : a ∈ l) :
    ∃ b ∈ l.eraseDupsBy same, same a b = true := by
  induction l using filter_induction fun a b => decide (same b a = false) with
  | nil => cases h
  | cons b l ih =>
    rw [List.eraseDupsBy_cons]
    by_cases hab : same a b = true
    · exact ⟨b, List.mem_cons_self, hab⟩
    · have ha : a ∈ l := by
        rcases List.mem_cons.mp h with rfl | h
        · exact absurd (hrefl a) hab
        · exact h
      obtain ⟨c, hc, hac⟩ := ih (List.mem_filter.mpr ⟨ha, by simpa using hab⟩)
      exact ⟨c, List.mem_cons_of_mem b hc, hac⟩

theorem eraseDupsBy_congr {l : List α} (h : ∀ a ∈ l, ∀ b ∈ l, same a b = other a b) :
    l.eraseDupsBy same = l.eraseDupsBy other := by
  induction l using filter_induction fun a b => decide (same b a = false) with
  | nil => rfl
  | cons a l ih =>
    have hfilter : (l.filter fun b => decide (same b a = false)) =
        l.filter fun b => decide (other b a = false) := by
      apply List.filter_congr
      intro b hb
      rw [h b (List.mem_cons_of_mem a hb) a List.mem_cons_self]
    rw [List.eraseDupsBy_cons, List.eraseDupsBy_cons, ← hfilter, ih]
    intro b hb c hc
    exact h b (List.mem_cons_of_mem a (List.mem_of_mem_filter hb)) c
      (List.mem_cons_of_mem a (List.mem_of_mem_filter hc))

end By

variable [BEq α] [LawfulBEq α] [BEq β] [LawfulBEq β]

theorem nodup_eraseDups (l : List α) : l.eraseDups.Nodup := by
  induction l using filter_induction fun (a b : α) => !b == a with
  | nil => simp
  | cons a l ih =>
    rw [List.eraseDups_cons, List.nodup_cons, List.mem_eraseDups]
    exact ⟨by simp, ih⟩

theorem filter_eraseDups (p : α → Bool) (l : List α) :
    (l.filter p).eraseDups = l.eraseDups.filter p := by
  induction l using filter_induction fun (a b : α) => !b == a with
  | nil => simp
  | cons a l ih =>
    rw [List.filter_filter] at ih
    rw [List.eraseDups_cons, List.filter_cons, List.filter_cons]
    by_cases ha : p a = true
    · rw [if_pos ha, if_pos ha, List.eraseDups_cons, List.filter_filter, ← ih]
      simp only [Bool.and_comm]
    · have hsame : (l.filter fun b => p b && !b == a) = l.filter p := by
        apply List.filter_congr
        intro b _
        by_cases hb : b = a
        · rw [hb, Bool.eq_false_iff.mpr ha, Bool.false_and]
        · simp [hb]
      rw [if_neg ha, if_neg ha, ← ih, hsame]

/-- Repeats that are left out before a map are left out after it as well. -/
theorem eraseDups_map_eraseDups (f : α → β) (l : List α) :
    (l.eraseDups.map f).eraseDups = (l.map f).eraseDups := by
  induction l using filter_induction fun (a b : α) => !b == a with
  | nil => simp
  | cons a l ih =>
    have hsame : ((l.filter fun b => !b == a).map f).filter (fun c => !c == f a) =
        (l.map f).filter fun c => !c == f a := by
      rw [List.filter_map, List.filter_map, List.filter_filter]
      congr 1
      apply List.filter_congr
      intro b _
      by_cases hb : b = a <;> simp [hb]
    rw [List.eraseDups_cons, List.map_cons, List.eraseDups_cons, filter_eraseDups, ih,
      ← filter_eraseDups, hsame, List.map_cons, List.eraseDups_cons]

/-- A map that keeps the members apart keeps their repeats. -/
theorem eraseDups_map {f : α → β} {l : List α} (h : ∀ a ∈ l, ∀ b ∈ l, f a = f b → a = b) :
    (l.map f).eraseDups = l.eraseDups.map f := by
  induction l using filter_induction fun (a b : α) => !b == a with
  | nil => simp
  | cons a l ih =>
    have hsame : (l.map f).filter (fun c => !c == f a) = (l.filter fun b => !b == a).map f := by
      rw [List.filter_map]
      congr 1
      apply List.filter_congr
      intro b hb
      by_cases hab : b = a
      · simp [hab]
      · have hf : f b ≠ f a := fun he => hab (h b (by simp [hb]) a (by simp) he)
        simp [hab, hf]
    rw [List.map_cons, List.eraseDups_cons, hsame, List.eraseDups_cons, List.map_cons, ih]
    intro b hb c hc
    exact h b (List.mem_cons_of_mem a (List.mem_of_mem_filter hb)) c
      (List.mem_cons_of_mem a (List.mem_of_mem_filter hc))

end Repeats

namespace Dns

variable {seen seen' : List (List Char × RecordType × List Char)}

theorem mergeFrom_cons (r : Record) (records : List Record) :
    mergeFrom seen (r :: records) = if r.key ∈ seen then mergeFrom seen records
      else r :: mergeFrom (r.key :: seen) records := by
  by_cases h : r.key ∈ seen <;> simp [mergeFrom, h]

theorem mergeFrom_sublist (records : List Record) : (mergeFrom seen records).Sublist records := by
  induction records generalizing seen with
  | nil => exact List.nil_sublist _
  | cons r records ih =>
    rw [mergeFrom_cons]
    by_cases hr : r.key ∈ seen
    · rw [if_pos hr]
      exact ih.cons r
    · rw [if_neg hr]
      exact ih.cons_cons r

theorem mergeFrom_congr {records : List Record}
    (h : ∀ r ∈ records, r.key ∈ seen ↔ r.key ∈ seen') :
    mergeFrom seen records = mergeFrom seen' records := by
  induction records generalizing seen seen' with
  | nil => rfl
  | cons r records ih =>
    obtain ⟨hr, hrest⟩ := List.forall_mem_cons.mp h
    have hcons : ∀ s ∈ records, s.key ∈ r.key :: seen ↔ s.key ∈ r.key :: seen' := by
      intro s hs
      rw [List.mem_cons, List.mem_cons, hrest s hs]
    rw [mergeFrom_cons, mergeFrom_cons, ih hrest, ih hcons]
    simp only [hr]

theorem mergeFrom_eq_nil {records : List Record} (h : ∀ r ∈ records, r.key ∈ seen) :
    mergeFrom seen records = [] := by
  induction records with
  | nil => rfl
  | cons r records ih =>
    obtain ⟨hr, hrest⟩ := List.forall_mem_cons.mp h
    rw [mergeFrom_cons, if_pos hr, ih hrest]

theorem mergeFrom_append (xs ys : List Record) :
    mergeFrom seen (xs ++ ys) = mergeFrom seen xs ++ mergeFrom (xs.map Record.key ++ seen) ys := by
  induction xs generalizing seen with
  | nil => rfl
  | cons x xs ih =>
    rw [List.cons_append, mergeFrom_cons, mergeFrom_cons, List.map_cons, List.cons_append]
    by_cases hx : x.key ∈ seen
    · rw [if_pos hx, if_pos hx, ih]
      congr 1
      apply mergeFrom_congr
      intro r _
      by_cases hk : r.key = x.key <;> simp [hk, hx]
    · rw [if_neg hx, if_neg hx, ih, List.cons_append]
      congr 2
      apply mergeFrom_congr
      intro r _
      simp only [List.mem_append, List.mem_cons]
      tauto

theorem filter_mergeFrom {p : Record → Bool} (hp : ∀ r s, r.key = s.key → p r = p s)
    (records : List Record) : (mergeFrom seen records).filter p = mergeFrom seen (records.filter p) := by
  induction records generalizing seen with
  | nil => rfl
  | cons r records ih =>
    rw [mergeFrom_cons, List.filter_cons]
    by_cases hr : p r = true
    · rw [if_pos hr, mergeFrom_cons]
      by_cases hseen : r.key ∈ seen
      · rw [if_pos hseen, if_pos hseen, ih]
      · rw [if_neg hseen, if_neg hseen, List.filter_cons_of_pos hr, ih]
    · rw [if_neg hr]
      by_cases hseen : r.key ∈ seen
      · rw [if_pos hseen, ih]
      · rw [if_neg hseen, List.filter_cons_of_neg hr, ih]
        apply mergeFrom_congr
        intro s hs
        have hne : s.key ≠ r.key := by
          intro hk
          rw [← hp s r hk] at hr
          exact hr (List.mem_filter.mp hs).2
        rw [List.mem_cons, or_iff_right hne]

theorem mergeFrom_mergeFrom (records : List Record) :
    mergeFrom seen (mergeFrom seen records) = mergeFrom seen records := by
  induction records generalizing seen with
  | nil => rfl
  | cons r records ih =>
    rw [mergeFrom_cons]
    by_cases hr : r.key ∈ seen
    · rw [if_pos hr, ih]
    · rw [if_neg hr, mergeFrom_cons, if_neg hr, ih]

theorem map_key_mergeFrom (records : List Record) :
    (mergeFrom seen records).map Record.key =
      ((records.map Record.key).filter fun k => !seen.contains k).eraseDups := by
  induction records generalizing seen with
  | nil => simp [mergeFrom]
  | cons r records ih =>
    rw [mergeFrom_cons, List.map_cons, List.filter_cons]
    by_cases hr : r.key ∈ seen
    · rw [if_pos hr, ih]
      simp [hr]
    · have hrest : (fun k => !(r.key :: seen).contains k) =
          fun k => !k == r.key && !seen.contains k := by
        funext k
        rw [List.contains_cons, Bool.not_or]
      rw [if_neg hr, List.map_cons, ih, if_pos (by simpa using hr), List.eraseDups_cons,
        List.filter_filter, hrest]

/-- The keys of merged records are those of all records, each once and in order of appearance. -/
theorem map_key_merge (lists : List (List Record)) :
    (merge lists).map Record.key = (lists.flatten.map Record.key).eraseDups := by
  rw [merge, map_key_mergeFrom, List.filter_eq_self.mpr]
  exact fun _ _ => rfl

theorem nodup_map_key_merge (lists : List (List Record)) : ((merge lists).map Record.key).Nodup := by
  rw [map_key_merge]
  exact nodup_eraseDups _

theorem mergeFrom_mergeFrom_append (xs ys : List Record) :
    mergeFrom seen (mergeFrom seen xs ++ ys) = mergeFrom seen (xs ++ ys) := by
  have hkeys : ∀ r ∈ ys, r.key ∈ (mergeFrom seen xs).map Record.key ++ seen ↔
      r.key ∈ xs.map Record.key ++ seen := by
    intro r _
    rw [List.mem_append, List.mem_append, map_key_mergeFrom, List.mem_eraseDups, List.mem_filter]
    by_cases hk : r.key ∈ seen <;> simp [hk]
  rw [mergeFrom_append, mergeFrom_append, mergeFrom_mergeFrom, mergeFrom_congr hkeys]

/-- Merging one list after another comes to the same as merging them all at once. -/
theorem foldl_merge {α : Type} (f : α → List Record) (items : List α) :
    items.foldl (fun merged item => merge [merged, f item]) [] = merge (items.map f) := by
  have hfrom : ∀ before, items.foldl (fun merged item => merge [merged, f item]) (mergeFrom [] before) =
      mergeFrom [] (before ++ (items.map f).flatten) := by
    induction items with
    | nil => simp
    | cons item items ih =>
      intro before
      have hstep : merge [mergeFrom [] before, f item] = mergeFrom [] (before ++ f item) := by
        rw [merge, List.flatten_cons, List.flatten_singleton, mergeFrom_mergeFrom_append]
      rw [List.foldl_cons, hstep, ih, List.map_cons, List.flatten_cons, List.append_assoc]
  exact hfrom []

end Dns

end DelegationAudit
