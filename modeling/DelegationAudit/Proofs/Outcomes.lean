namespace DelegationAudit

variable {ε α β γ δ : Type}

/-- Two failures that are related, or two results that are. -/
inductive Outcomes (E : ε → ε → Prop) (R : α → β → Prop) : Except ε α → Except ε β → Prop
  | error {e f : ε} (h : E e f) : Outcomes E R (.error e) (.error f)
  | ok {a : α} {b : β} (h : R a b) : Outcomes E R (.ok a) (.ok b)

theorem exists_of_map_toOption {f : α → β} {x : Except ε α} {b : β}
    (h : x.toOption.map f = some b) : ∃ a, x = .ok a ∧ f a = b := by
  cases x with
  | error e => cases h
  | ok a => exact ⟨a, rfl, Option.some.inj h⟩

theorem bind_eq_ok {x : Except ε α} {f : α → Except ε β} {b : β} :
    x >>= f = .ok b ↔ ∃ a, x = .ok a ∧ f a = .ok b := by
  cases x with
  | error e => simp [bind, Except.bind]
  | ok a => simp [bind, Except.bind]

/-- A pair of which the first part is known, such as the outcome of a run and its last state. -/
theorem eq_pair_of_fst {p : α × β} {a : α} (h : p.1 = a) : p = (a, p.2) := by
  rw [← h]

namespace Outcomes

variable {E : ε → ε → Prop} {R : α → β → Prop}

theorem mono {S : α → β → Prop} (hRS : ∀ a b, R a b → S a b) {x : Except ε α} {y : Except ε β}
    (h : Outcomes E R x y) : Outcomes E S x y := by
  cases h with
  | error h => exact .error h
  | ok h => exact .ok (hRS _ _ h)

theorem map {S : γ → δ → Prop} {f : α → γ} {g : β → δ} {x : Except ε α}
    {y : Except ε β} (h : Outcomes E R x y) (hfg : ∀ a b, R a b → S (f a) (g b)) :
    Outcomes E S (x.map f) (y.map g) := by
  cases h with
  | error h => exact .error h
  | ok h => exact .ok (hfg _ _ h)

theorem ok_ok_iff {a : α} {b : β} : Outcomes E R (.ok a) (.ok b) ↔ R a b := by
  constructor
  · intro h
    cases h with
    | ok h => exact h
  · exact .ok

theorem of_eq {x y : Except ε α} {R : α → α → Prop} (h : x = y) (hR : ∀ a, R a a) :
    Outcomes Eq R x y := by
  subst h
  cases x with
  | error e => exact .error rfl
  | ok a => exact .ok (hR a)

theorem exists_ok_iff {x : Except ε α} {y : Except ε β} (h : Outcomes E R x y) :
    (∃ a, x = .ok a) ↔ ∃ b, y = .ok b := by
  cases h <;> simp

/-- Two outcomes are one when their failures and their results are. -/
theorem map_eq {f : α → γ} {g : β → γ} {x : Except ε α} {y : Except ε β}
    (h : Outcomes Eq (fun a b => f a = g b) x y) : x.map f = y.map g := by
  cases h with
  | error h => exact congrArg Except.error h
  | ok h => exact congrArg Except.ok h

end Outcomes

end DelegationAudit
