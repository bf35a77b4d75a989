import Mathlib.Algebra.BigOperators.Group.List.Basic
import Mathlib.Algebra.Order.BigOperators.Group.List
import Mathlib.Data.Int.Init
import Mathlib.Data.Rat.Defs
import Mathlib.Tactic.Linarith

/-!
# Integer linear models

A model declares the bounds of its variables and a list of linear constraints over them; a solution
is an assignment of integers that respects both. A **minimiser** of an objective exists whenever
the model has a solution and the objective is bounded below on its solutions
(`Model.exists_minimises`): objectives are integers, so a descent cannot go on.
-/

namespace LinearModel

variable {ν : Type}

/-- A linear expression: coefficients and the variables they multiply. -/
abbrev LinExpr (ν : Type) := List (Int × ν)

/-- The value of an expression under an assignment. -/
def eval (x : ν → Int) (e : LinExpr ν) : Int := (e.map fun term => term.1 * x term.2).sum

/-- The sum of some variables. -/
def sumOf (vars : List ν) : LinExpr ν := vars.map fun v => (1, v)

@[simp] theorem eval_nil (x : ν → Int) : eval x [] = 0 := rfl

@[simp] theorem eval_cons (x : ν → Int) (term : Int × ν) (e : LinExpr ν) :
    eval x (term :: e) = term.1 * x term.2 + eval x e := by
  simp [eval]

@[simp] theorem eval_append (x : ν → Int) (e e' : LinExpr ν) :
    eval x (e ++ e') = eval x e + eval x e' := by
  simp [eval]

@[simp] theorem eval_sumOf (x : ν → Int) (vars : List ν) :
    eval x (sumOf vars) = (vars.map x).sum := by
  simp [eval, sumOf, Function.comp_def]

/-- An expression is linear in the assignment. -/
theorem eval_add (x y : ν → Int) (e : LinExpr ν) :
    eval (fun v => x v + y v) e = eval x e + eval y e := by
  induction e with
  | nil => rfl
  | cons term e ih =>
    rw [eval_cons, eval_cons, eval_cons, ih, mul_add]
    omega

/-- Assignments that agree on the variables of an expression give it one value. -/
theorem eval_congr {x y : ν → Int} {e : LinExpr ν} (h : ∀ term ∈ e, x term.2 = y term.2) :
    eval x e = eval y e := by
  unfold eval
  rw [List.map_congr_left fun term hterm => by rw [h term hterm]]

/-- The value of an expression that weighs one variable for each item. -/
theorem cast_eval_map {α : Type} (x : ν → Int) (weight : α → Int) (var : α → ν) (items : List α) :
    ((eval x (items.map fun a => (weight a, var a)) : Int) : ℚ) =
      (items.map fun a => (weight a : ℚ) * x (var a)).sum := by
  induction items with
  | nil => rfl
  | cons a items ih =>
    rw [List.map_cons, eval_cons, List.map_cons, List.sum_cons, ← ih]
    push_cast
    rfl

/-- An expression with nonnegative terms is nonnegative. -/
theorem eval_nonneg {x : ν → Int} {e : LinExpr ν}
    (h : ∀ term ∈ e, 0 ≤ term.1 ∧ 0 ≤ x term.2) : 0 ≤ eval x e := by
  refine List.sum_nonneg fun value hvalue => ?_
  obtain ⟨term, hterm, rfl⟩ := List.mem_map.mp hvalue
  exact mul_nonneg (h term hterm).1 (h term hterm).2

inductive Sense where
  | le
  | ge
  | eq
  deriving DecidableEq, Repr

/-- `terms ≤ bound`, `terms ≥ bound` or `terms = bound`. -/
structure LinearConstraint (ν : Type) where
  terms : LinExpr ν
  sense : Sense
  bound : Int
  deriving DecidableEq, Repr

def LinearConstraint.Holds (c : LinearConstraint ν) (x : ν → Int) : Prop :=
  match c.sense with
  | .le => eval x c.terms ≤ c.bound
  | .ge => c.bound ≤ eval x c.terms
  | .eq => eval x c.terms = c.bound

instance (c : LinearConstraint ν) (x : ν → Int) : Decidable (c.Holds x) := by
  unfold LinearConstraint.Holds
  cases c.sense
  all_goals infer_instance

@[simp] theorem holds_le (e : LinExpr ν) (bound : Int) (x : ν → Int) :
    LinearConstraint.Holds ⟨e, .le, bound⟩ x ↔ eval x e ≤ bound := Iff.rfl

@[simp] theorem holds_ge (e : LinExpr ν) (bound : Int) (x : ν → Int) :
    LinearConstraint.Holds ⟨e, .ge, bound⟩ x ↔ bound ≤ eval x e := Iff.rfl

@[simp] theorem holds_eq (e : LinExpr ν) (bound : Int) (x : ν → Int) :
    LinearConstraint.Holds ⟨e, .eq, bound⟩ x ↔ eval x e = bound := Iff.rfl

/-- Assignments that agree on the variables of a constraint satisfy it alike. -/
theorem LinearConstraint.holds_congr {c : LinearConstraint ν} {x y : ν → Int}
    (h : ∀ term ∈ c.terms, x term.2 = y term.2) : c.Holds x ↔ c.Holds y := by
  unfold LinearConstraint.Holds
  rw [eval_congr h]

/-- What two assignments keep with nothing to spare, their sum keeps. -/
theorem LinearConstraint.holds_add {c : LinearConstraint ν} (hbound : c.bound = 0) {x y : ν → Int}
    (hx : c.Holds x) (hy : c.Holds y) : c.Holds fun v => x v + y v := by
  unfold LinearConstraint.Holds at *
  rw [eval_add, hbound] at *
  cases hsense : c.sense with
  | le =>
    simp only [hsense] at *
    omega
  | ge =>
    simp only [hsense] at *
    omega
  | eq =>
    simp only [hsense] at *
    omega

/-- A variable and its least and greatest value. -/
structure Bounded (ν : Type) where
  var : ν
  lower : Int
  upper : Int
  deriving DecidableEq, Repr

structure Model (ν : Type) where
  domains : List (Bounded ν)
  constraints : List (LinearConstraint ν)

namespace Model

/-- An assignment within the bounds of every variable that satisfies every constraint. -/
structure Solves (m : Model ν) (x : ν → Int) : Prop where
  bounds : ∀ b ∈ m.domains, b.lower ≤ x b.var ∧ x b.var ≤ b.upper
  constraints : ∀ c ∈ m.constraints, c.Holds x

instance (m : Model ν) (x : ν → Int) : Decidable (m.Solves x) :=
  decidable_of_iff ((∀ b ∈ m.domains, b.lower ≤ x b.var ∧ x b.var ≤ b.upper) ∧
    ∀ c ∈ m.constraints, c.Holds x) ⟨fun h => ⟨h.1, h.2⟩, fun h => ⟨h.1, h.2⟩⟩

/-- A solution no other solution undercuts. -/
structure Minimises (m : Model ν) (objective : LinExpr ν) (x : ν → Int) : Prop where
  solves : m.Solves x
  least : ∀ y, m.Solves y → eval x objective ≤ eval y objective

/-- **An objective bounded below has a minimiser.** -/
theorem exists_minimises {m : Model ν} {objective : LinExpr ν} {x : ν → Int} (hx : m.Solves x)
    {bound : Int} (hbound : ∀ y, m.Solves y → bound ≤ eval y objective) :
    ∃ y, m.Minimises objective y := by
  -- the distances of the solutions' values from the bound have a least one
  let distance : (ν → Int) → Nat := fun y => (eval y objective - bound).toNat
  have hne : ∃ n, ∃ y, m.Solves y ∧ distance y = n := ⟨_, x, hx, rfl⟩
  classical
  obtain ⟨y, hy, hdistance⟩ := Nat.find_spec hne
  refine ⟨y, hy, fun z hz => ?_⟩
  have hleast : Nat.find hne ≤ distance z := Nat.find_min' hne ⟨z, hz, rfl⟩
  have hy' := hbound y hy
  have hz' := hbound z hz
  rw [← hdistance] at hleast
  simp only [distance] at hleast
  omega

end Model

end LinearModel
