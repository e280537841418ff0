import DelegationAudit.Network
import DelegationAudit.Ownership.Origin

namespace DelegationAudit.Ownership

structure Entry (τ : Type) where
  stored : τ
  info : Ownership

abbrev Cache (τ : Type) := List (String × Entry τ)

namespace Cache

variable {τ : Type}

def find? (cache : Cache τ) (key : String) : Option (Entry τ) := cache.lookup key

def erase (cache : Cache τ) (key : String) : Cache τ := cache.filter (fun e => e.1 != key)

def store (cache : Cache τ) (key : String) (entry : Entry τ) : Cache τ :=
  (key, entry) :: cache.erase key

theorem find?_store (cache : Cache τ) (key : String) (entry : Entry τ) :
    (cache.store key entry).find? key = some entry := by
  simp [find?, store]

theorem find?_erase (cache : Cache τ) (key : String) : (cache.erase key).find? key = none := by
  induction cache with
  | nil => rfl
  | cons e rest ih =>
    obtain ⟨k, v⟩ := e
    by_cases h : k = key
    · subst h; simpa [find?, erase] using ih
    · have hk : (key == k) = false := by simpa using fun e => h e.symm
      simpa [find?, erase, h, List.lookup_cons, hk] using ih

theorem erase_of_find?_eq_none {cache : Cache τ} {key : String} (h : cache.find? key = none) :
    cache.erase key = cache := by
  rw [erase, List.filter_eq_self]
  intro row hrow
  rw [bne_iff_ne]
  have hkeys := List.lookup_eq_none_iff.mp h row hrow
  exact fun he => bne_iff_ne.mp hkeys he.symm

theorem erase_erase (cache : Cache τ) (key : String) : (cache.erase key).erase key = cache.erase key :=
  erase_of_find?_eq_none (cache.find?_erase key)

theorem find?_erase_ne (cache : Cache τ) {key other : String} (h : other ≠ key) :
    (cache.erase key).find? other = cache.find? other := by
  induction cache with
  | nil => rfl
  | cons e rest ih =>
    obtain ⟨k, v⟩ := e
    simp only [find?, erase] at ih
    by_cases hk : k = key
    · subst hk
      have ho : (other == k) = false := by simpa using h
      simp [find?, erase, List.lookup_cons, ho, ih]
    · simp only [find?, erase, bne_iff_ne, ne_eq, hk, not_false_eq_true, List.filter_cons_of_pos,
        List.lookup_cons, ih]

theorem find?_store_ne (cache : Cache τ) {key other : String} (h : other ≠ key) (entry : Entry τ) :
    (cache.store key entry).find? other = cache.find? other := by
  have ho : (other == key) = false := by simpa using h
  rw [store, find?, List.lookup_cons, ho]
  exact find?_erase_ne cache h

end Cache

end DelegationAudit.Ownership
