import ShiftMind.Engine.GovernedAdapter

/-!
# ShiftMind — one solution behind a lexicographic result

Both drivers of the two rounds, `solve_lexicographic` of `engine/cpsat/objective.py` and
`_solve_lexicographic_governed` of the governed adapter, with the accessor that reads the snapshot
of round 1 or the live solver. The solver is an oracle: a call may end in any status, with any
solution of the model it was given.

* **`solveLexicographic`**, **`solveLexicographicBudgeted`** — the drivers.
* **`OneSolution`** — everything a result reports is of one solution.
* **`lexicographic_one_solution`** — it always is.
-/

namespace ShiftMind.Engine

open Rounding LinearModel

namespace Lexicographic

/-! ## The solver -/

/-- The answer to one `Solve` call. -/
structure Response where
  status : SolverStatus
  solution : Var → Int
  objectiveValue : ℚ

/-- What the calls of `Solve` answer, the first, the second and so on. -/
abbrev Solver := Nat → Model Var → LinExpr Var → Response

/-- A status that comes with a solution comes with one of the model, and with its objective. -/
def Sound (solve : Solver) : Prop :=
  ∀ call m objective, (solve call m objective).status.hasSolution = true →
    m.Solves (solve call m objective).solution ∧
      (solve call m objective).objectiveValue = eval (solve call m objective).solution objective

/-- `LexResult`; a value that is not a number is absent. The solver is known by its last answer. -/
structure LexResult where
  status : SolverStatus
  solver : Option Response
  round1Value : Option ℚ
  round2Value : Option ℚ
  snapshot : Option (Var → Int) := none

/-- `solver.Value(var)`: it raises without a solution. -/
def liveValue (solver : Option Response) (v : Var) : Option Int :=
  match solver with
  | some response => if response.status.hasSolution then some (response.solution v) else none
  | none => none

/-- `LexResult.value`. -/
def LexResult.value (result : LexResult) (v : Var) : Option Int :=
  match result.snapshot with
  | some snapshot => some (snapshot v)
  | none => liveValue result.solver v

/-- `_GovernedLexResult`: a `LexResult` with a reason; its accessor is the same. -/
structure GovernedResult extends LexResult where
  reason : Option String := none

end Lexicographic

namespace CpSatBuilder

open Lexicographic

variable (b : CpSatBuilder)

/-- The model after `m.Add(round1_unmet <= int(round(r1)))`. -/
def locked (r1 : ℚ) : Model Var where
  domains := b.model.domains
  constraints := b.model.constraints ++ [⟨b.round1Unmet, .le, roundHalfEven r1⟩]

/-- `solve_lexicographic`. -/
def solveLexicographic (solve : Solver) : LexResult :=
  let first := solve 0 b.model b.round1Unmet
  if !first.status.hasSolution then
    { status := first.status, solver := some first, round1Value := none, round2Value := none }
  else
    let r1 := first.objectiveValue
    let cost1 := eval first.solution b.round2Cost
    let second := solve 1 (b.locked r1) b.round2Cost
    if !second.status.hasSolution then
      { status := second.status, solver := some second, round1Value := some r1
        round2Value := some cost1, snapshot := some first.solution }
    else
      { status := second.status, solver := some second, round1Value := some r1
        round2Value := some second.objectiveValue }

/-- `_solve_lexicographic_governed`: what `apply_remaining_budget` returns before each round is the
clocks' doing. -/
def solveLexicographicBudgeted (solve : Solver) (firstBudget secondBudget : Budget) :
    GovernedResult :=
  if firstBudget ≠ .applied then
    { status := .unknown, solver := none, round1Value := none, round2Value := none
      reason := firstBudget.reason }
  else
    let first := solve 0 b.model b.round1Unmet
    if !first.status.hasSolution then
      { status := first.status, solver := some first, round1Value := none, round2Value := none }
    else
      -- what the first round found is kept whatever becomes of the second
      let round1Value := first.objectiveValue
      let round1Cost := eval first.solution b.round2Cost
      if secondBudget ≠ .applied then
        { status := .unknown, solver := some first, round1Value := some round1Value
          round2Value := some round1Cost, snapshot := some first.solution
          reason := secondBudget.reason }
      else
        -- the second round minimises the cost with the first objective locked
        let second := solve 1 (b.locked round1Value) b.round2Cost
        if !second.status.hasSolution then
          { status := second.status, solver := some second, round1Value := some round1Value
            round2Value := some round1Cost, snapshot := some first.solution }
        else
          { status := second.status, solver := some second, round1Value := some round1Value
            round2Value := some second.objectiveValue }

/-- **Everything a result reports is of one solution**: whenever a value is read, all of them are
those of one solution of the model, whose cost is the round-2 value and whose unmet demand is at
most the round-1 value. -/
def OneSolution (result : LexResult) : Prop :=
  ∀ v x, result.value v = some x →
    ∃ values r1, (∀ v, result.value v = some (values v)) ∧ b.model.Solves values ∧
      result.round1Value = some r1 ∧ ((eval values b.round1Unmet : Int) : ℚ) ≤ r1 ∧
      result.round2Value = some ((eval values b.round2Cost : Int) : ℚ)

variable {b} {solve : Solver}

/-! ## The rounds

The first round minimises unmet demand, the second the cost with the first objective locked. -/

/-- A solution of the locked model is one of the model, and keeps the lock. -/
theorem solves_of_locked {unmet : Int} {x : Var → Int} (h : (b.locked unmet).Solves x) :
    b.model.Solves x ∧ eval x b.round1Unmet ≤ unmet := by
  constructor
  · exact ⟨h.bounds, fun c hc => h.constraints c (List.mem_append_left _ hc)⟩
  · have hlock := h.constraints ⟨b.round1Unmet, .le, roundHalfEven unmet⟩
      (List.mem_append_right _ List.mem_cons_self)
    rw [holds_le, roundHalfEven_intCast] at hlock
    exact hlock

/-- A result that reads the snapshot of round 1 is of the solution of round 1. -/
theorem oneSolution_of_snapshot {result : LexResult} {response : Response}
    (hsolves : b.model.Solves response.solution)
    (hvalue : response.objectiveValue = eval response.solution b.round1Unmet)
    (hsnapshot : result.snapshot = some response.solution)
    (hround1 : result.round1Value = some response.objectiveValue)
    (hround2 : result.round2Value = some ((eval response.solution b.round2Cost : Int) : ℚ)) :
    b.OneSolution result := by
  intro v x _
  refine ⟨response.solution, _, ?_, hsolves, hround1, hvalue.ge, hround2⟩
  intro v
  rw [LexResult.value, hsnapshot]

/-- A result that reads the live solver after round 2 is of the solution of round 2. -/
theorem oneSolution_of_live {result : LexResult} {first second : Response}
    (hfirst : first.objectiveValue = eval first.solution b.round1Unmet)
    (hstatus : second.status.hasSolution = true)
    (hsolves : (b.locked first.objectiveValue).Solves second.solution)
    (hvalue : second.objectiveValue = eval second.solution b.round2Cost)
    (hsnapshot : result.snapshot = none) (hsolver : result.solver = some second)
    (hround1 : result.round1Value = some first.objectiveValue)
    (hround2 : result.round2Value = some second.objectiveValue) :
    b.OneSolution result := by
  intro v x _
  rw [hfirst] at hsolves
  obtain ⟨hmodel, hlock⟩ := solves_of_locked hsolves
  refine ⟨second.solution, _, ?_, hmodel, hround1, ?_, ?_⟩
  · intro v
    rw [LexResult.value, hsnapshot, hsolver]
    exact if_pos hstatus
  · rw [hfirst]
    exact_mod_cast hlock
  · rw [hround2, hvalue]

/-- Without a solution of round 1 no value is read. -/
theorem oneSolution_of_none {result : LexResult} (hsnapshot : result.snapshot = none)
    (hsolver : ∀ response, result.solver = some response →
      response.status.hasSolution = false) : b.OneSolution result := by
  intro v x hx
  rw [LexResult.value, hsnapshot] at hx
  cases hlive : result.solver with
  | none => rw [hlive] at hx; cases hx
  | some response =>
    rw [hlive, liveValue, hsolver response hlive] at hx
    cases hx

theorem solveLexicographic_oneSolution (hsound : Sound solve) :
    b.OneSolution (b.solveLexicographic solve) := by
  unfold solveLexicographic
  cases hfirst : (solve 0 b.model b.round1Unmet).status.hasSolution with
  | false =>
    simp only [hfirst, Bool.not_false, if_true]
    exact oneSolution_of_none rfl fun response heq => Option.some.inj heq ▸ hfirst
  | true =>
    obtain ⟨hsolves1, hvalue1⟩ := hsound 0 _ _ hfirst
    simp only [hfirst, Bool.not_true, Bool.false_eq_true, if_false]
    cases hsecond : (solve 1 (b.locked (solve 0 b.model b.round1Unmet).objectiveValue)
        b.round2Cost).status.hasSolution with
    | false =>
      simp only [Bool.not_false, if_true]
      exact oneSolution_of_snapshot hsolves1 hvalue1 rfl rfl rfl
    | true =>
      obtain ⟨hsolves2, hvalue2⟩ := hsound 1 _ _ hsecond
      simp only [Bool.not_true, Bool.false_eq_true, if_false]
      exact oneSolution_of_live hvalue1 hsecond hsolves2 hvalue2 rfl rfl rfl rfl

theorem solveLexicographicBudgeted_oneSolution (hsound : Sound solve)
    (firstBudget secondBudget : Budget) :
    b.OneSolution (b.solveLexicographicBudgeted solve firstBudget secondBudget).toLexResult := by
  unfold solveLexicographicBudgeted
  by_cases hbudget1 : firstBudget = .applied
  · rw [if_neg (not_not.mpr hbudget1)]
    cases hfirst : (solve 0 b.model b.round1Unmet).status.hasSolution with
    | false =>
      simp only [hfirst, Bool.not_false, if_true]
      exact oneSolution_of_none rfl fun response heq => Option.some.inj heq ▸ hfirst
    | true =>
      obtain ⟨hsolves1, hvalue1⟩ := hsound 0 _ _ hfirst
      simp only [hfirst, Bool.not_true, Bool.false_eq_true, if_false]
      by_cases hbudget2 : secondBudget = .applied
      · rw [if_neg (not_not.mpr hbudget2)]
        cases hsecond : (solve 1 (b.locked (solve 0 b.model b.round1Unmet).objectiveValue)
            b.round2Cost).status.hasSolution with
        | false =>
          simp only [Bool.not_false, if_true]
          exact oneSolution_of_snapshot hsolves1 hvalue1 rfl rfl rfl
        | true =>
          obtain ⟨hsolves2, hvalue2⟩ := hsound 1 _ _ hsecond
          simp only [Bool.not_true, Bool.false_eq_true, if_false]
          exact oneSolution_of_live hvalue1 hsecond hsolves2 hvalue2 rfl rfl rfl rfl
      · -- an exhausted budget leaves the snapshot
        rw [if_pos hbudget2]
        exact oneSolution_of_snapshot hsolves1 hvalue1 rfl rfl rfl
  · rw [if_pos hbudget1]
    exact oneSolution_of_none rfl fun response heq => by cases heq

/-- The driver of `GovernedAdapter` leaves out the reported values: its results are read alike. -/
theorem budgeted_refines (b : CpSatBuilder) (solve : Solver) (firstBudget secondBudget : Budget)
    {first second : Response} (hfirst : solve 0 b.model b.round1Unmet = first)
    (hsecond : solve 1 (b.locked first.objectiveValue) b.round2Cost = second) :
    let result := b.solveLexicographicBudgeted solve firstBudget secondBudget
    let abstracted := solveLexicographicGoverned
      ⟨firstBudget, ⟨first.status, first.solution⟩, secondBudget, ⟨second.status, second.solution⟩⟩
    result.status = abstracted.status ∧ result.reason = abstracted.reason ∧
      ∀ v, result.value v = abstracted.values.map fun values => values v := by
  intro result abstracted
  simp only [result, abstracted]
  unfold solveLexicographicBudgeted solveLexicographicGoverned
  simp only [hfirst, hsecond]
  by_cases hbudget1 : firstBudget = .applied
  · rw [if_neg (not_not.mpr hbudget1), if_neg (not_not.mpr hbudget1)]
    cases h1 : first.status.hasSolution with
    | false => simp [LexResult.value, liveValue, h1]
    | true =>
      simp only [Bool.not_true, Bool.false_eq_true, if_false]
      by_cases hbudget2 : secondBudget = .applied
      · rw [if_neg (not_not.mpr hbudget2), if_neg (not_not.mpr hbudget2)]
        cases h2 : second.status.hasSolution with
        | false => simp [LexResult.value]
        | true => simp [LexResult.value, liveValue, h2]
      · rw [if_pos hbudget2, if_pos hbudget2]
        simp [LexResult.value]
  · rw [if_pos hbudget1, if_pos hbudget1]
    simp [LexResult.value, liveValue]

/-- **The lexicographic value bound**, of both drivers: for every sound solver, all budgets, and
whatever the rounds end in. -/
theorem lexicographic_one_solution (b : CpSatBuilder) (solve : Solver) (hsound : Sound solve) :
    b.OneSolution (b.solveLexicographic solve) ∧
      ∀ firstBudget secondBudget,
        b.OneSolution (b.solveLexicographicBudgeted solve firstBudget secondBudget).toLexResult :=
  ⟨solveLexicographic_oneSolution hsound, solveLexicographicBudgeted_oneSolution hsound⟩

end CpSatBuilder

/-! One hour of demand and nobody to work: the solver leaves it all unmet. -/

namespace Unstaffed

open Lexicographic

def builder : CpSatBuilder where
  p :=
    { horizonH := 24
      members := []
      tasks := []
      templates := []
      demand := [⟨"pick", .outbound, 0, 1, 1, ""⟩] }

def allUnmet : Var → Int
  | .unmetVol _ _ => 100
  | _ => 0

/-- It answers with the one assignment it knows, where that is a solution. -/
def solver : Solver := fun _ m objective =>
  { status := if m.Solves allUnmet then .optimal else .infeasible
    solution := allUnmet
    objectiveValue := (eval allUnmet objective : Int) }

theorem sound : Sound solver := by
  intro call m objective hstatus
  refine ⟨?_, rfl⟩
  by_contra hnot
  have hinfeasible : (solver call m objective).status = .infeasible := if_neg hnot
  rw [hinfeasible] at hstatus
  cases hstatus

end Unstaffed

theorem CpSatBuilder.lexicographic_one_solution_unstaffed :
    ((Unstaffed.builder.solveLexicographic Unstaffed.solver).value (.unmetVol "pick" 0) =
        some 100) ∧
      Unstaffed.builder.OneSolution (Unstaffed.builder.solveLexicographic Unstaffed.solver) :=
  ⟨by decide +kernel,
    (lexicographic_one_solution Unstaffed.builder Unstaffed.solver Unstaffed.sound).1⟩

end ShiftMind.Engine
