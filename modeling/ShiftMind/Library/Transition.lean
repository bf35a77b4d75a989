import Mathlib.Logic.Relation

/-!
# Transition systems

A system is a set of initial states and a step relation; a run is a finite sequence of steps. The
rules here are the only inductions over runs a development needs: an invariant is proved from one
step (`Reachable.invariant`), and so is what a whole run preserves (`Run.preserves`) or composes
to (`Run.leads`). A **`Machine`** labels its steps with actions, so a run is a list of them.
-/

namespace Transition

open Relation

structure System (σ : Type) where
  initial : σ → Prop
  step : σ → σ → Prop

variable {σ : Type} {sys : System σ}

/-- A run: finitely many steps. -/
def Run (sys : System σ) : σ → σ → Prop := ReflTransGen sys.step

/-- A state that some run reaches from an initial state. -/
def Reachable (sys : System σ) (s : σ) : Prop := ∃ s₀, sys.initial s₀ ∧ Run sys s₀ s

theorem Reachable.of_initial {s : σ} (h : sys.initial s) : Reachable sys s := ⟨s, h, .refl⟩

theorem Reachable.step {s s' : σ} (hreach : Reachable sys s) (hstep : sys.step s s') :
    Reachable sys s' := by
  obtain ⟨s₀, hinit, hrun⟩ := hreach
  exact ⟨s₀, hinit, hrun.tail hstep⟩

theorem Reachable.run {s s' : σ} (hreach : Reachable sys s) (hrun : Run sys s s') :
    Reachable sys s' := by
  obtain ⟨s₀, hinit, hrun₀⟩ := hreach
  exact ⟨s₀, hinit, hrun₀.trans hrun⟩

/-- **The invariant rule.** What holds initially and is kept by each step from a reachable state
holds of every reachable state. -/
theorem Reachable.invariant {Inv : σ → Prop} (hinit : ∀ s, sys.initial s → Inv s)
    (hstep : ∀ s s', Reachable sys s → Inv s → sys.step s s' → Inv s') {s : σ}
    (hreach : Reachable sys s) : Inv s := by
  obtain ⟨s₀, hs₀, hrun⟩ := hreach
  induction hrun with
  | refl => exact hinit _ hs₀
  | tail hrun hlast ih => exact hstep _ _ ⟨s₀, hs₀, hrun⟩ ih hlast

/-- What each step from a reachable state preserves, a run preserves. -/
theorem Run.preserves {P : σ → Prop}
    (hstep : ∀ s s', Reachable sys s → P s → sys.step s s' → P s') {s s' : σ}
    (hreach : Reachable sys s) (hrun : Run sys s s') (hP : P s) : P s' := by
  induction hrun with
  | refl => exact hP
  | tail hrun hlast ih => exact hstep _ _ (hreach.run hrun) ih hlast

/-- A preorder that each step from a reachable state follows is followed by a run. -/
theorem Run.leads {R : σ → σ → Prop} (hrefl : ∀ s, R s s)
    (htrans : ∀ s s' s'', R s s' → R s' s'' → R s s'')
    (hstep : ∀ s s', Reachable sys s → sys.step s s' → R s s') {s s' : σ}
    (hreach : Reachable sys s) (hrun : Run sys s s') : R s s' := by
  induction hrun with
  | refl => exact hrefl _
  | tail hrun hlast ih => exact htrans _ _ _ ih (hstep _ _ (hreach.run hrun) hlast)

/-! ## Machines: systems whose steps are labelled -/

/-- A system given by its actions: when one is enabled, and the state it leads to. -/
structure Machine (σ α : Type) where
  initial : σ → Prop
  enabled : σ → α → Prop
  perform : σ → α → σ

namespace Machine

variable {α : Type} (m : Machine σ α)

/-- The steps of a machine are its enabled actions. -/
def system : System σ where
  initial := m.initial
  step s s' := ∃ a, m.enabled s a ∧ s' = m.perform s a

/-- The state after a list of actions. -/
def performAll (s : σ) (actions : List α) : σ := actions.foldl m.perform s

/-- Each action of the list is enabled where it is performed. -/
def Schedule : σ → List α → Prop
  | _, [] => True
  | s, a :: rest => m.enabled s a ∧ Schedule (m.perform s a) rest

variable {m}

theorem run_of_schedule {actions : List α} :
    ∀ {s : σ}, m.Schedule s actions → Run m.system s (m.performAll s actions) := by
  induction actions with
  | nil => intro s _; exact .refl
  | cons a rest ih =>
    intro s h
    exact (ReflTransGen.single ⟨a, h.1, rfl⟩).trans (ih h.2)

/-- Actions performed on schedule from an initial state reach their result. -/
theorem reachable_of_schedule {s : σ} (hinit : m.initial s) {actions : List α}
    (h : m.Schedule s actions) : Reachable m.system (m.performAll s actions) :=
  ⟨s, hinit, run_of_schedule h⟩

/-- The invariant rule, action by action. -/
theorem reachable_invariant (Inv : σ → Prop) (hinit : ∀ s, m.initial s → Inv s)
    (hstep : ∀ s a, Inv s → m.enabled s a → Inv (m.perform s a)) {s : σ}
    (hreach : Reachable m.system s) : Inv s := by
  refine hreach.invariant hinit ?_
  rintro s s' - hs ⟨a, ha, rfl⟩
  exact hstep s a hs ha

end Machine

end Transition
