import Mathlib.Data.List.ReduceOption
import Mathlib.Tactic.Common

/-!
# Computations that fail

A computation in `Except` that succeeded went through steps that all succeeded.

* **`bind_ok`**, **`foldlM_ok_cons`** — the first step, and what came after it.
* **`mapM_ok`**, **`mapM_ok_of_ok`** — steps that succeed one by one succeed together.
* **`mapM_isOk_iff`**, **`exists_of_mapM_error`** — steps fail together only where one of them does.
* **`mapM_reduceOption_alike`**, **`mapM_flatten_alike`** — two readings of a list that agree item
  by item agree on the whole.
-/

namespace Fallible

variable {ε α β : Type}

theorem bind_ok {x : Except ε α} {f : α → Except ε β} {b : β} (h : x >>= f = .ok b) :
    ∃ a, x = .ok a ∧ f a = .ok b := by
  cases x with
  | error e => cases h
  | ok a => exact ⟨a, rfl, h⟩

theorem foldlM_ok_cons {f : β → α → Except ε β} {init final : β} {a : α} {as : List α}
    (h : (a :: as).foldlM f init = .ok final) :
    ∃ next, f init a = .ok next ∧ as.foldlM f next = .ok final := by
  rw [List.foldlM_cons] at h
  exact bind_ok h

theorem mapM_ok {f : α → Except ε β} {g : α → β} {xs : List α}
    (h : ∀ x ∈ xs, f x = .ok (g x)) : xs.mapM f = .ok (xs.map g) := by
  induction xs with
  | nil => rfl
  | cons x xs ih =>
    rw [List.mapM_cons, h x List.mem_cons_self, ih fun y hy => h y (List.mem_cons_of_mem _ hy)]
    rfl

/-- Steps that succeed wherever others do succeed together with what those give. -/
theorem mapM_ok_of_ok {f g : α → Except ε β} (hstep : ∀ a b, f a = .ok b → g a = .ok b)
    {xs : List α} {ys : List β} (h : xs.mapM f = .ok ys) : xs.mapM g = .ok ys := by
  induction xs generalizing ys with
  | nil => exact h
  | cons x xs ih =>
    rw [List.mapM_cons] at h ⊢
    obtain ⟨y, hy, h⟩ := bind_ok h
    obtain ⟨rest, hrest, h⟩ := bind_ok h
    cases h
    rw [hstep x y hy, ih hrest]
    rfl

/-- What a step gave, and the step that gave it. -/
theorem mem_of_mapM {f : α → Except ε β} {xs : List α} {ys : List β} (h : xs.mapM f = .ok ys) :
    (∀ x ∈ xs, ∃ y ∈ ys, f x = .ok y) ∧ ∀ y ∈ ys, ∃ x ∈ xs, f x = .ok y := by
  induction xs generalizing ys with
  | nil =>
    cases h
    exact ⟨nofun, nofun⟩
  | cons x xs ih =>
    rw [List.mapM_cons] at h
    obtain ⟨y, hy, h⟩ := bind_ok h
    obtain ⟨rest, hrest, h⟩ := bind_ok h
    cases h
    obtain ⟨hto, hfrom⟩ := ih hrest
    constructor
    · rw [List.forall_mem_cons]
      refine ⟨⟨y, List.mem_cons_self, hy⟩, fun x' hx' => ?_⟩
      obtain ⟨y', hy', hstep⟩ := hto x' hx'
      exact ⟨y', List.mem_cons_of_mem _ hy', hstep⟩
    · rw [List.forall_mem_cons]
      refine ⟨⟨x, List.mem_cons_self, hy⟩, fun y' hy' => ?_⟩
      obtain ⟨x', hx', hstep⟩ := hfrom y' hy'
      exact ⟨x', List.mem_cons_of_mem _ hx', hstep⟩

/-- The steps and what they gave, in order. -/
theorem forall₂_of_mapM {f : α → Except ε β} {xs : List α} {ys : List β}
    (h : xs.mapM f = .ok ys) : List.Forall₂ (fun x y => f x = .ok y) xs ys := by
  induction xs generalizing ys with
  | nil =>
    cases h
    exact .nil
  | cons x xs ih =>
    rw [List.mapM_cons] at h
    obtain ⟨y, hy, h⟩ := bind_ok h
    obtain ⟨rest, hrest, h⟩ := bind_ok h
    cases h
    exact .cons hy (ih hrest)

theorem map_eq_of_mapM {γ : Type} {f : α → Except ε β} {g : β → γ} {g' : α → γ}
    (hfg : ∀ x y, f x = .ok y → g y = g' x) {xs : List α} {ys : List β}
    (h : xs.mapM f = .ok ys) : ys.map g = xs.map g' := by
  have hpairs := forall₂_of_mapM h
  clear h
  induction hpairs with
  | nil => rfl
  | cons hstep _ ih => rw [List.map_cons, List.map_cons, hfg _ _ hstep, ih]

/-! ## Where steps fail -/

theorem mapM_isOk_iff {f : α → Except ε β} {xs : List α} :
    (∃ ys, xs.mapM f = .ok ys) ↔ ∀ x ∈ xs, ∃ y, f x = .ok y := by
  induction xs with
  | nil => simp [pure, Except.pure]
  | cons x xs ih =>
    rw [List.mapM_cons]
    cases hx : f x with
    | error e => simp [bind, Except.bind, hx]
    | ok y =>
      simp only [bind, Except.bind, List.forall_mem_cons, hx]
      rw [← ih]
      cases hxs : List.mapM f xs with
      | error e => simp
      | ok ys => simp [pure, Except.pure]

/-- A loop of checks passes when each of them does. -/
theorem forM_ok_iff {f : α → Except ε PUnit} {items : List α} :
    items.forM f = .ok () ↔ ∀ a ∈ items, f a = .ok () := by
  induction items with
  | nil => simp [pure, Except.pure]
  | cons a rest ih =>
    rw [List.forall_mem_cons, ← ih]
    show (f a >>= fun _ => rest.forM f) = .ok () ↔ _
    cases hfirst : f a with
    | error e => simp [bind, Except.bind]
    | ok u => simp [bind, Except.bind]

theorem exists_of_forM_error {f : α → Except ε PUnit} {items : List α} {e : ε}
    (h : items.forM f = .error e) : ∃ a ∈ items, f a = .error e := by
  induction items with
  | nil => cases h
  | cons a rest ih =>
    have h : (f a >>= fun _ => rest.forM f) = .error e := h
    cases hfirst : f a with
    | error e' =>
      rw [hfirst] at h
      cases h
      exact ⟨a, List.mem_cons_self, hfirst⟩
    | ok u =>
      rw [hfirst] at h
      obtain ⟨b, hb, hraised⟩ := ih h
      exact ⟨b, List.mem_cons_of_mem a hb, hraised⟩

theorem exists_of_mapM_error {f : α → Except ε β} {xs : List α} {e : ε}
    (h : xs.mapM f = .error e) : ∃ x ∈ xs, f x = .error e := by
  induction xs with
  | nil => cases h
  | cons x xs ih =>
    rw [List.mapM_cons] at h
    cases hx : f x with
    | error e' =>
      rw [hx] at h
      cases h
      exact ⟨x, List.mem_cons_self, hx⟩
    | ok y =>
      rw [hx] at h
      cases hxs : xs.mapM f with
      | error e' =>
        rw [hxs] at h
        cases h
        obtain ⟨x', hmem, hraised⟩ := ih hxs
        exact ⟨x', List.mem_cons_of_mem x hmem, hraised⟩
      | ok ys =>
        rw [hxs] at h
        cases h

/-! ## Two readings of one list -/

/-- Items that are read alike one by one are read alike together. -/
theorem mapM_reduceOption_alike {γ κ : Type} {f : α → Except ε (Option β)}
    {g : α → Option γ} {core : β → κ} {core' : γ → κ} {xs : List α}
    (h : ∀ x ∈ xs, ∃ b, f x = .ok b ∧ b.map core = (g x).map core') :
    ∃ bs, xs.mapM f = .ok bs ∧ bs.reduceOption.map core = (xs.filterMap g).map core' := by
  induction xs with
  | nil => exact ⟨[], rfl, rfl⟩
  | cons x xs ih =>
    obtain ⟨b, hb, hcore⟩ := h x List.mem_cons_self
    obtain ⟨bs, hbs, hcores⟩ := ih fun x hx => h x (List.mem_cons_of_mem _ hx)
    refine ⟨b :: bs, by rw [List.mapM_cons, hb, hbs]; rfl, ?_⟩
    cases b with
    | none =>
      have hnone : g x = none := Option.map_eq_none_iff.mp hcore.symm
      rw [List.reduceOption_cons_of_none, List.filterMap_cons_none hnone]
      exact hcores
    | some b =>
      obtain ⟨c, hc, hsame⟩ := Option.map_eq_some_iff.mp hcore.symm
      rw [List.reduceOption_cons_of_some, List.filterMap_cons_some hc, List.map_cons,
        List.map_cons, hcores, hsame]

/-- The same, where an item is read as several. -/
theorem mapM_flatten_alike {γ κ : Type} {f : α → Except ε (List β)} {g : α → List γ}
    {core : β → κ} {core' : γ → κ} {xs : List α}
    (h : ∀ x ∈ xs, ∃ b, f x = .ok b ∧ b.map core = (g x).map core') :
    ∃ bs, xs.mapM f = .ok bs ∧ bs.flatten.map core = (xs.flatMap g).map core' := by
  induction xs with
  | nil => exact ⟨[], rfl, rfl⟩
  | cons x xs ih =>
    obtain ⟨b, hb, hcore⟩ := h x List.mem_cons_self
    obtain ⟨bs, hbs, hcores⟩ := ih fun x hx => h x (List.mem_cons_of_mem _ hx)
    refine ⟨b :: bs, by rw [List.mapM_cons, hb, hbs]; rfl, ?_⟩
    rw [List.flatten_cons, List.flatMap_cons, List.map_append, List.map_append, hcore, hcores]
end Fallible
