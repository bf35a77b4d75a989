import Mathlib.Data.List.Sort
import Mathlib.Algebra.Order.Group.Defs

/-!
# Intervals on a line

A checker of a schedule sorts intervals by their start and looks at neighbours only. For intervals
of positive length that decides every pair: a relation between neighbours that passes through a
third interval passes through all of them.

* **`Before`**, **`Apart`** — one interval ends, with a gap, before another starts.
* **`neighbours_iff_apart`** — neighbours in the order of their starts, and all pairs.
* **`pairwise_filter_iff`** — the pairs inside the groups of a list.
-/

namespace Intervals

variable {α κ γ : Type} [AddCommGroup γ] [LinearOrder γ] [IsOrderedAddMonoid γ]
variable (start stop : α → γ) (gap : γ)

/-- `a` ends at least the gap before `b` starts. -/
def Before (a b : α) : Prop := stop a + gap ≤ start b

/-- One of the two ends before the other starts. -/
def Apart (a b : α) : Prop := Before start stop gap a b ∨ Before start stop gap b a

instance : DecidableRel (Before start stop gap) := fun _ _ => inferInstanceAs (Decidable (_ ≤ _))

instance : DecidableRel (Apart start stop gap) := fun _ _ => inferInstanceAs (Decidable (_ ∨ _))

variable {start stop gap}

/-- A relation holds between all neighbours exactly when the list is a chain. -/
theorem zip_tail_iff_isChain {R : α → α → Prop} {l : List α} :
    (∀ p ∈ l.zip l.tail, R p.1 p.2) ↔ l.IsChain R := by
  induction l with
  | nil => simp
  | cons a l ih =>
    cases l with
    | nil => simp
    | cons b l =>
      rw [List.tail_cons] at ih
      rw [List.tail_cons, List.zip_cons_cons, List.forall_mem_cons, ih, List.isChain_cons_cons]

/-- **Neighbours decide all pairs.** Of intervals of positive length, ordered by their start, each
ends before its neighbour starts exactly when each ends before all that come later. -/
theorem isChain_before_iff {l : List α} (hpos : ∀ a ∈ l, start a < stop a) (hgap : 0 ≤ gap) :
    l.IsChain (Before start stop gap) ↔ l.Pairwise (Before start stop gap) := by
  induction l with
  | nil => simp
  | cons a l ih =>
    have htail := ih fun b hb => hpos b (List.mem_cons_of_mem _ hb)
    cases l with
    | nil => simp
    | cons b l =>
      rw [List.isChain_cons_cons, List.pairwise_cons, htail]
      constructor
      · intro h
        refine ⟨fun c hc => ?_, h.2⟩
        cases List.mem_cons.mp hc with
        | inl heq => rw [heq]; exact h.1
        | inr hmem =>
          -- through the neighbour, which has a positive length
          have hbc : stop b + gap ≤ start c := (List.pairwise_cons.mp h.2).1 c hmem
          have hb : start b < stop b := hpos b (by simp)
          have hab : stop a + gap ≤ start b := h.1
          show stop a + gap ≤ start c
          calc stop a + gap ≤ start b := hab
            _ ≤ stop b := hb.le
            _ ≤ stop b + gap := le_add_of_nonneg_right hgap
            _ ≤ start c := hbc
      · intro h
        exact ⟨h.1 b (by simp), h.2⟩

/-- Of two intervals that are apart, the one that starts first ends first. -/
theorem before_of_apart {a b : α} (hpos : start b < stop b) (hgap : 0 ≤ gap)
    (hle : start a ≤ start b) (h : Apart start stop gap a b) : Before start stop gap a b := by
  cases h with
  | inl h => exact h
  | inr h =>
    have h : stop b + gap ≤ start a := h
    have hlt : start a < start a := by
      calc start a ≤ start b := hle
        _ < stop b := hpos
        _ ≤ stop b + gap := le_add_of_nonneg_right hgap
        _ ≤ start a := h
    exact absurd hlt (lt_irrefl _)

/-- **What a look at neighbours in sorted order decides**: whether every two intervals are apart. -/
theorem neighbours_iff_apart {values ordered : List α} (hperm : ordered.Perm values)
    (hsorted : ordered.Pairwise fun a b => start a ≤ start b)
    (hpos : ∀ a ∈ values, start a < stop a) (hgap : 0 ≤ gap) :
    (∀ p ∈ ordered.zip ordered.tail, Before start stop gap p.1 p.2) ↔
      values.Pairwise (Apart start stop gap) := by
  have hposOrdered : ∀ a ∈ ordered, start a < stop a := fun a ha => hpos a (hperm.mem_iff.mp ha)
  rw [zip_tail_iff_isChain, isChain_before_iff hposOrdered hgap,
    ← hperm.pairwise_iff (fun {a b} h => h.symm)]
  constructor
  · intro h
    exact h.imp Or.inl
  · intro h
    refine (h.and hsorted).imp_of_mem fun {a b} _ hb hab => ?_
    exact before_of_apart (hposOrdered b hb) hgap hab.2 hab.1

/-- A relation inside every group of a list is one between the pairs of a common key. -/
theorem pairwise_filter_iff [DecidableEq κ] {key : α → κ} {R : α → α → Prop} {l : List α} :
    (∀ k, (l.filter fun a => key a = k).Pairwise R) ↔
      l.Pairwise fun a b => key a = key b → R a b := by
  constructor
  · intro h
    refine List.pairwise_iff_forall_sublist.mpr fun {a b} hsub hkey => ?_
    have hpairs := List.pairwise_filter.mp (h (key a))
    exact List.pairwise_iff_forall_sublist.mp hpairs hsub (by simp) (by simp [hkey])
  · intro h k
    refine List.pairwise_filter.mpr (h.imp fun {a b} hab ha hb => ?_)
    exact hab (by simp only [decide_eq_true_eq] at ha hb; rw [ha, hb])

end Intervals
