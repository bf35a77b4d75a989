import Mathlib.Data.List.Basic
import Mathlib.Data.List.Induction

/-!
# Logs whose entries are explained by what came before

A log grows at its end, so what stood before an entry when it was appended stands before it for
good. `Explained P log` says that each entry stands behind a log that explains it.

* **`Explained.concat`** — a log stays explained when the next entry is explained by all of it.
* **`Explained.of_mem`** — an entry with the log it was appended to.
* **`Explained.pairwise`** — entries that exclude an earlier entry of their kind are apart.
-/

namespace Log

variable {α : Type} {P : List α → α → Prop} {log : List α}

/-- Each entry of the log is explained by the entries before it. -/
def Explained (P : List α → α → Prop) (log : List α) : Prop :=
  ∀ before e after, log = before ++ e :: after → P before e

theorem Explained.nil : Explained P [] := by
  intro before e after h
  exact absurd h (by simp)

theorem Explained.concat {e : α} (h : Explained P log) (he : P log e) :
    Explained P (log ++ [e]) := by
  intro before e' after heq
  -- the entry is the new one, or stands in front of it
  cases List.eq_nil_or_concat after with
  | inl hnil =>
    subst hnil
    obtain ⟨hlog, hentry⟩ := List.append_inj' heq rfl
    rw [← hlog, ← (List.cons.inj hentry).1]
    exact he
  | inr hlast =>
    obtain ⟨init, last, rfl⟩ := hlast
    have hassoc : log ++ [e] = (before ++ e' :: init) ++ [last] := by
      rw [heq]
      simp
    exact h before e' init (List.append_inj' hassoc rfl).1

/-- What explains a log explains the part of it before an entry. -/
theorem Explained.before {before after : List α} (h : Explained P (before ++ after)) :
    Explained P before := by
  intro front e back heq
  exact h front e (back ++ after) (by rw [heq]; simp)

theorem Explained.of_mem {e : α} (h : Explained P log) (hmem : e ∈ log) :
    ∃ before after, log = before ++ e :: after ∧ P before e ∧ Explained P before := by
  obtain ⟨before, after, heq⟩ := List.append_of_mem hmem
  rw [heq] at h
  exact ⟨before, after, heq, h before e after rfl, h.before⟩

/-- Entries that exclude, before them, whatever is related to them. -/
theorem Explained.pairwise {R : α → α → Prop} (h : Explained P log)
    (hR : ∀ before e, P before e → ∀ earlier ∈ before, R earlier e) : log.Pairwise R := by
  induction log using List.reverseRecOn with
  | nil => exact .nil
  | append_singleton log e ih =>
    rw [List.pairwise_append]
    refine ⟨ih h.before, List.pairwise_singleton .., ?_⟩
    intro earlier hearlier e' he'
    rw [List.mem_singleton.mp he']
    exact hR log e (h log e [] rfl) earlier hearlier

/-- What stands in order before an entry stands in order with it. -/
theorem sublist_through {xs before after : List α} {e : α} (h : xs.Sublist before) :
    (xs ++ [e]).Sublist (before ++ e :: after) :=
  h.append ((List.nil_sublist after).cons_cons e)

end Log
