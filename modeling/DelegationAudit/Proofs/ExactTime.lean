import DelegationAudit.Network
import Mathlib.Algebra.Order.Ring.Rat

namespace DelegationAudit

/-- Clocks that do not round: their operations are those of an ordered group. -/
class ExactTime (τ : Type) [AddCommGroup τ] [LinearOrder τ] [IsOrderedAddMonoid τ] [Instant τ] :
    Prop where
  zero_eq : (Instant.zero : τ) = 0
  add_eq (x y : τ) : Instant.add x y = x + y
  sub_eq (x y : τ) : Instant.sub x y = x - y
  before_iff (x y : τ) : Instant.before x y = true ↔ x < y
  millis_ok (x : τ) : ∃ n, Instant.millis x = .ok n

instance : Instant ℚ where
  zero := 0
  add := (· + ·)
  sub := (· - ·)
  before x y := decide (x < y)
  millis x := .ok ((x * 1000).num.tdiv (x * 1000).den)
  text x := Number.intString x.num ++ "/" ++ Number.natString x.den
  brief x := Number.intString x.num ++ "/" ++ Number.natString x.den

instance : ExactTime ℚ where
  zero_eq := rfl
  add_eq _ _ := rfl
  sub_eq _ _ := rfl
  before_iff _ _ := decide_eq_true_iff
  millis_ok _ := ⟨_, rfl⟩

theorem before_eq_false {τ : Type} [AddCommGroup τ] [LinearOrder τ] [IsOrderedAddMonoid τ] [Instant τ]
    [ExactTime τ] (x y : τ) : Instant.before x y = false ↔ y ≤ x := by
  rw [← not_lt, ← ExactTime.before_iff, Bool.not_eq_true]

end DelegationAudit
