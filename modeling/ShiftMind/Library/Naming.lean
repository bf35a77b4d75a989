import ShiftMind.Library.Dict

/-!
# Names given once

Two dictionaries that a component keeps inverse to one another: one holds the name of every item
named so far, the other the item of every name. An item without a name is given one that is not
in use; an item that has a name keeps it.

* **`Inverse`** — the two dictionaries say the same thing from both ends.
* **`Inverse.give`** — naming a new item with a name not in use keeps them inverse.
* **`numbered_inj`** — numbered names come apart into what they begin with and their number.
-/

namespace Naming

variable {α ν : Type} [DecidableEq α] [DecidableEq ν]

/-- An item has a name exactly when the name is read back as the item. -/
def Inverse (names : List (α × ν)) (items : List (ν × α)) : Prop :=
  ∀ a n, Dict.get? names a = some n ↔ Dict.get? items n = some a

theorem Inverse.nil : Inverse ([] : List (α × ν)) [] := by
  intro a n
  simp [Dict.get?]

/-- A name is of one item. -/
theorem Inverse.injective {names : List (α × ν)} {items : List (ν × α)} (h : Inverse names items)
    {a b : α} {n : ν} (ha : Dict.get? names a = some n) (hb : Dict.get? names b = some n) :
    a = b := by
  have hitem : Dict.get? items n = some a := (h a n).mp ha
  rw [(h b n).mp hb] at hitem
  exact (Option.some.inj hitem).symm

omit [DecidableEq ν] in
/-- An item that has a name keeps it when another is given one. -/
theorem get?_give_of_get? {names : List (α × ν)} {a b : α} {m n : ν}
    (hnew : Dict.get? names a = none) (hb : Dict.get? names b = some m) :
    Dict.get? (Dict.upsert (fun _ => n) a names) b = some m := by
  have hne : a ≠ b := by
    intro heq
    rw [heq, hb] at hnew
    cases hnew
  rw [Dict.get?_upsert, if_neg hne, hb]

/-- **Giving a name.** A new item under a name not in use leaves the dictionaries inverse. -/
theorem Inverse.give {names : List (α × ν)} {items : List (ν × α)} (h : Inverse names items)
    {a : α} {n : ν} (hnew : Dict.get? names a = none) (hfree : Dict.get? items n = none) :
    Inverse (Dict.upsert (fun _ => n) a names) (Dict.upsert (fun _ => a) n items) := by
  intro b m
  rw [Dict.get?_upsert, Dict.get?_upsert]
  by_cases hb : a = b
  · by_cases hm : n = m
    · simp [hb, hm]
    · -- the new item has only the new name
      rw [if_pos hb, if_neg hm, ← h b m, ← hb, hnew]
      simp [hm]
  · by_cases hm : n = m
    · -- the new name is only the new item's
      rw [if_neg hb, if_pos hm, h b m, ← hm, hfree]
      simp [hb]
    · rw [if_neg hb, if_neg hm]
      exact h b m

omit [DecidableEq ν] in
theorem length_give {names : List (α × ν)} {a : α} {n : ν} (hnew : Dict.get? names a = none) :
    (Dict.upsert (fun _ => n) a names).length = names.length + 1 := by
  rw [Dict.upsert_of_not_mem (Dict.not_mem_keys_of_get? hnew), List.length_append,
    List.length_singleton]

/-! ## Numbered names -/

theorem toString_nat_inj {m n : Nat} (h : (toString m).toList = (toString n).toList) : m = n := by
  have hnumber := congrArg (fun digits => Nat.ofDigitChars 10 digits 0) h
  simpa [Nat.toString_eq_ofList_toDigits] using hnumber

/-- What numbered names begin with, of one length, and their numbers. -/
theorem numbered_inj {p q : String} {m n : Nat} (hlength : p.length = q.length)
    (h : p ++ toString m = q ++ toString n) : p = q ∧ m = n := by
  have htext := congrArg String.toList h
  rw [String.toList_append, String.toList_append] at htext
  have hparts := List.append_inj htext (by rw [String.length_toList, String.length_toList, hlength])
  exact ⟨String.toList_inj.mp hparts.1, toString_nat_inj hparts.2⟩

end Naming
