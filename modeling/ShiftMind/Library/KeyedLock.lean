import Mathlib.Logic.Function.Basic

/-!
# Locks by key

Parties hold at most one key each. A key is acquired when nobody holds it and released by its
holder, so two holders of one key are one party. Keys are arbitrary: two resources that share a key
exclude each other as well.
-/

namespace KeyedLock

variable {π κ : Type} [DecidableEq π]

/-- Nobody holds the key. -/
def Free (held : π → Option κ) (k : κ) : Prop := ∀ p, held p ≠ some k

/-- A key has at most one holder. -/
def Exclusive (held : π → Option κ) : Prop :=
  ∀ p q k, held p = some k → held q = some k → p = q

omit [DecidableEq π] in
theorem Exclusive.of_none {held : π → Option κ} (h : ∀ p, held p = none) : Exclusive held := by
  intro p q k hp
  rw [h p] at hp
  cases hp

/-- A party that takes a free key is its one holder. -/
theorem Exclusive.acquire {held : π → Option κ} (h : Exclusive held) {k : κ} (hfree : Free held k)
    (p : π) : Exclusive (Function.update held p (some k)) := by
  intro q r k' hq hr
  rw [Function.update_apply] at hq hr
  split at hq
  · rename_i hqp
    cases hq
    split at hr
    · rename_i hrp; exact hqp.trans hrp.symm
    · exact absurd hr (hfree r)
  · split at hr
    · cases hr; exact absurd hq (hfree q)
    · exact h q r k' hq hr

/-- A party that lets go of its key excludes nobody. -/
theorem Exclusive.release {held : π → Option κ} (h : Exclusive held) (p : π) :
    Exclusive (Function.update held p none) := by
  intro q r k hq hr
  rw [Function.update_apply] at hq hr
  split at hq
  · cases hq
  · split at hr
    · cases hr
    · exact h q r k hq hr

/-- A party that keeps what it held changes nothing. -/
theorem Exclusive.keep {held : π → Option κ} (h : Exclusive held) {p : π} {k : Option κ}
    (hk : held p = k) : Exclusive (Function.update held p k) := by
  rw [← hk, Function.update_eq_self]
  exact h

end KeyedLock
