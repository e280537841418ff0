import DelegationAudit.Proofs.Outcomes
import Mathlib.Data.Multiset.Bind
import Mathlib.Data.Set.List

namespace DelegationAudit

variable {ε α β γ δ : Type}

/-- Lists whose items are related one to one, whatever their orders. -/
abbrev Rearranged (R : α → β → Prop) (xs : List α) (ys : List β) : Prop :=
  Multiset.Rel R (xs : Multiset α) (ys : Multiset β)

namespace Rearranged

theorem refl {R : α → α → Prop} (h : ∀ x, R x x) (xs : List α) : Rearranged R xs xs :=
  Multiset.rel_refl_of_refl_on fun x _ => h x

theorem of_perm {xs ys : List α} (h : xs.Perm ys) : Rearranged Eq xs ys :=
  Multiset.rel_eq.mpr (Multiset.coe_eq_coe.mpr h)

theorem length_eq {R : α → β → Prop} {xs : List α} {ys : List β} (h : Rearranged R xs ys) :
    xs.length = ys.length := Multiset.card_eq_card_of_rel h

theorem perm {xs ys : List α} (h : Rearranged Eq xs ys) : xs.Perm ys :=
  Multiset.coe_eq_coe.mp (Multiset.rel_eq.mp h)

theorem singleton {R : α → β → Prop} {x : α} {y : β} (h : R x y) : Rearranged R [x] [y] :=
  .cons h .zero

theorem append {R : α → β → Prop} {xs xs' : List α} {ys ys' : List β}
    (h : Rearranged R xs ys) (h' : Rearranged R xs' ys') : Rearranged R (xs ++ xs') (ys ++ ys') := by
  rw [Rearranged, ← Multiset.coe_add, ← Multiset.coe_add]
  exact h.add h'

theorem map {R : α → β → Prop} {S : γ → δ → Prop} {f : α → γ} {g : β → δ} {xs : List α}
    {ys : List β} (h : Rearranged R xs ys) (hfg : ∀ x y, R x y → S (f x) (g y)) :
    Rearranged S (xs.map f) (ys.map g) := by
  rw [Rearranged, ← Multiset.map_coe, ← Multiset.map_coe, Multiset.rel_map]
  exact h.mono fun x _ y _ => hfg x y

theorem flatMap {R : α → β → Prop} {S : γ → δ → Prop} {f : α → List γ} {g : β → List δ}
    {xs : List α} {ys : List β} (h : Rearranged R xs ys)
    (hfg : ∀ x y, R x y → Rearranged S (f x) (g y)) : Rearranged S (xs.flatMap f) (ys.flatMap g) := by
  rw [Rearranged, ← Multiset.coe_bind, ← Multiset.coe_bind]
  exact Multiset.rel_bind (fun x y => hfg x y) h

/-- Related lists agree on what holds of all their items when related items agree on it. -/
theorem forall_mem_iff {R : α → β → Prop} {P : α → Prop} {Q : β → Prop} {xs : List α}
    {ys : List β} (h : Rearranged R xs ys) (hitem : ∀ x ∈ xs, ∀ y ∈ ys, R x y → (P x ↔ Q y)) :
    (∀ x ∈ xs, P x) ↔ ∀ y ∈ ys, Q y := by
  constructor
  · intro hall y hy
    obtain ⟨x, hx, hxy⟩ := Multiset.exists_mem_of_rel_of_mem (Multiset.rel_flip.mpr h) hy
    exact (hitem x hx y hy hxy).mp (hall x hx)
  · intro hall x hx
    obtain ⟨y, hy, hxy⟩ := Multiset.exists_mem_of_rel_of_mem h hx
    exact (hitem x hx y hy hxy).mpr (hall y hy)

end Rearranged

variable {f : α → Except ε β} {xs : List α}

/-- A list comes to the results of its items, one after another. -/
theorem mapM_eq_ok_iff {us : List β} : xs.mapM f = .ok us ↔ xs.map f = us.map .ok := by
  induction xs generalizing us with
  | nil => cases us <;> simp [pure, Except.pure]
  | cons x rest ih =>
    rw [List.mapM_cons]
    cases hx : f x with
    | error e => cases us <;> simp [bind, Except.bind, hx]
    | ok u =>
      cases hrest : rest.mapM f with
      | error e => cases us <;> simp [bind, Except.bind, ← ih, hrest]
      | ok more => cases us <;> simp [bind, Except.bind, pure, Except.pure, ← ih, hrest, hx]

theorem exists_mapM_eq_ok_iff : (∃ us, xs.mapM f = .ok us) ↔ ∀ x ∈ xs, ∃ u, f x = .ok u := by
  have hrange : xs.map f ∈ Set.range (List.map Except.ok) ↔
      ∀ y ∈ xs.map f, y ∈ Set.range Except.ok := by
    rw [Set.range_list_map]
    exact Iff.rfl
  simp only [Set.mem_range, List.forall_mem_map, eq_comm (b := xs.map f), eq_comm (b := f _)] at hrange
  simpa only [mapM_eq_ok_iff] using hrange

theorem exists_of_mapM_eq_error {e : ε} (h : xs.mapM f = .error e) : ∃ x ∈ xs, f x = .error e := by
  induction xs with
  | nil => cases h
  | cons x rest ih =>
    rw [List.mapM_cons] at h
    cases hx : f x with
    | error d =>
      rw [hx] at h
      cases h
      exact ⟨x, by simp, hx⟩
    | ok u =>
      cases hrest : rest.mapM f with
      | error d =>
        rw [hx, hrest] at h
        cases h
        obtain ⟨y, hy, he⟩ := ih hrest
        exact ⟨y, by simp [hy], he⟩
      | ok more =>
        rw [hx, hrest] at h
        cases h

/-- Related items in any order come to related results in that order, or both lists fail. -/
theorem Outcomes.mapM {D E : ε → ε → Prop} {R : α → γ → Prop} {S : β → δ → Prop}
    {g : γ → Except ε δ} {ys : List γ} (h : Rearranged R xs ys)
    (hitem : ∀ x ∈ xs, ∀ y ∈ ys, R x y → Outcomes D S (f x) (g y))
    (hfail : ∀ x ∈ xs, ∀ y ∈ ys, ∀ d e, f x = .error d → g y = .error e → E d e) :
    Outcomes E (Rearranged S) (xs.mapM f) (ys.mapM g) := by
  have hrel : Rearranged (Outcomes D S) (xs.map f) (ys.map g) :=
    Multiset.rel_map.mpr (h.mono hitem)
  have hsame : (∀ x ∈ xs, ∃ u, f x = .ok u) ↔ ∀ y ∈ ys, ∃ v, g y = .ok v :=
    h.forall_mem_iff fun x hx y hy hxy => (hitem x hx y hy hxy).exists_ok_iff
  rw [← exists_mapM_eq_ok_iff, ← exists_mapM_eq_ok_iff] at hsame
  cases hx : xs.mapM f with
  | ok us =>
    obtain ⟨vs, hy⟩ := hsame.mp ⟨us, hx⟩
    rw [hy]
    refine .ok ?_
    rw [Rearranged, mapM_eq_ok_iff.mp hx, mapM_eq_ok_iff.mp hy, ← Multiset.map_coe,
      ← Multiset.map_coe, Multiset.rel_map] at hrel
    exact hrel.mono fun u _ v _ => Outcomes.ok_ok_iff.mp
  | error d =>
    cases hy : ys.mapM g with
    | ok vs =>
      obtain ⟨us, hu⟩ := hsame.mpr ⟨vs, hy⟩
      rw [hu] at hx
      cases hx
    | error e =>
      obtain ⟨x, hmem, hd⟩ := exists_of_mapM_eq_error hx
      obtain ⟨y, hmem', he⟩ := exists_of_mapM_eq_error hy
      exact .error (hfail x hmem y hmem' d e hd he)

end DelegationAudit
