import Mathlib.Data.String.Basic
import ShiftMind.Contracts.Canonical
import ShiftMind.Drafting.Resolve
import ShiftMind.Engine.GovernedAdapter

/-!
# ShiftMind — from a draft to the solver

The governed adapter turns a resolved constraint into an override call, whose arguments are a
loosely typed map, and the builder takes its numbers out of the map with `int` and `float`. The
producer and the two consumers agree on every constraint that `resolve_constraint` returns.

* **`constraintArgs`**, **`overrideId`**, **`constraintToOverride`** — `_constraints_to_overrides`.
* **`builderArgs`** — the arguments as the builder reads them.
* **`translation_faithful`** — nothing raises, nothing changes on the way.
* **`translation_exact`** — on finite numbers these are the override calls of the exact model.
-/

namespace ShiftMind.Drafting

/-! ## Override calls -/

/-- A value of the argument map. -/
inductive Arg where
  | none
  | text (s : String)
  | int (n : Int)
  | float (x : Binary64)
  deriving DecidableEq, Repr

abbrev Args := List (String × Arg)

/-- `OverrideCall`. -/
structure OverrideCall where
  id : String
  tool : String
  args : Args
  deriving DecidableEq, Repr

/-- `_record_id`. -/
def recordId (entities : List ResolvedEntityV1) (group : EvidenceGroup) : Except PyError String :=
  match (entities.filter fun entity => entity.group = group).map ResolvedEntityV1.recordId with
  | [recordId] => .ok recordId
  | _ => .error (.valueError s!"constraint requires exactly one {group.value} entity")

/-- A number or its absence. -/
def Arg.ofInt : Option Int → Arg
  | some n => .int n
  | Option.none => .none

def Arg.ofFloat : Option Binary64 → Arg
  | some x => .float x
  | Option.none => .none

/-- `_constraint_args`. -/
def constraintArgs (constraint : DraftConstraintV1) : Except PyError Args :=
  let entities := constraint.resolvedEntities
  match constraint.kind with
  | .setMinWorkersPerTask => do
    let taskId ← recordId entities .workAreasAndTasks
    pure [("task_id", .text taskId), ("n", .ofInt constraint.n)]
  | .scaleDemand => do
    let taskId ← recordId entities .workAreasAndTasks
    pure [("task_id", .text taskId), ("factor", .ofFloat constraint.factor)]
  | .lockWorkerShift =>
    match constraint.startMinute with
    | none => .error (.valueError "lock_worker_shift requires start_minute")
    | some startMinute => do
      let memberId ← recordId entities .workers
      pure [("member_id", .text memberId), ("day", .int (startMinute / 1440))]
  | .excludeWorkerFromTask => do
    let memberId ← recordId entities .workers
    let taskId ← recordId entities .workAreasAndTasks
    pure [("member_id", .text memberId), ("task_id", .text taskId)]
  | .setMaxHours => do
    let memberId ← recordId entities .workers
    pure [("member_id", .text memberId), ("max_hours", .ofFloat constraint.maxHours)]

/-! ## The identifier of a call

The identifier is a digest of the call's JSON text, so equal calls have equal identifiers. -/

section OverrideId

-- `sha256(…).hexdigest()` of an ASCII text, and `repr` of a finite float
variable (sha256 : String → String) (floatRepr : ℚ → List Char)

/-- Four hexadecimal digits. -/
def hex4 (u : Nat) : List Char :=
  [u / 4096, u / 256 % 16, u / 16 % 16, u % 16].map Nat.digitChar

/-- A character as `json.dumps` writes it by default, with nothing outside ASCII. -/
def asciiEscape (c : Char) : List Char :=
  if 0x20 ≤ c.toNat ∧ c.toNat ≤ 0x7e then escapeChar c
  else if c.toNat < 0x20 then escapeChar c
  else (utf16Units c).flatMap fun u => ['\\', 'u'] ++ hex4 u

/-- A value under `json.dumps`, which writes infinities and NaN as names. -/
def argText : Arg → List Char
  | .none => ['n', 'u', 'l', 'l']
  | .text s => '"' :: (s.toList.flatMap asciiEscape ++ ['"'])
  | .int n => Json.intText n
  | .float .nan => ['N', 'a', 'N']
  | .float (.infinity negative) => (if negative then "-Infinity" else "Infinity").toList
  | .float (.finite q) => floatRepr q

/-- `json.dumps(args, sort_keys=True, separators=(",", ":"))`. -/
def canonicalArgs (args : Args) : List Char :=
  '{' :: ([','].intercalate ((Log.sort Prod.fst args).map fun arg =>
    argText floatRepr (.text arg.1) ++ ':' :: argText floatRepr arg.2) ++ ['}'])

/-- `override_id`. -/
def overrideId (tool : String) (args : Args) : String :=
  "ov_" ++ String.ofList
    ((sha256 (tool ++ String.ofList (canonicalArgs floatRepr args))).toList.take 8)

/-- `_constraints_to_overrides`, of one constraint. -/
def constraintToOverride (constraint : DraftConstraintV1) : Except PyError OverrideCall := do
  let args ← constraintArgs constraint
  pure
    { id := overrideId sha256 floatRepr constraint.kind.value args
      tool := constraint.kind.value
      args := args }

end OverrideId

/-! ## What the builder reads -/

/-- `args[key]`. -/
def Args.get (args : Args) (key : String) : Except PyError Arg :=
  match Dict.get? args key with
  | some value => .ok value
  | none => .error (.keyError key)

/-- `int(value)`. -/
def pyInt : Arg → Except PyError Int
  | .int n => .ok n
  | .float (.finite q) => .ok (if 0 ≤ q then ⌊q⌋ else ⌈q⌉)
  | .float .nan => .error (.valueError "cannot convert float NaN to integer")
  | .float (.infinity _) => .error .overflowError
  | .text s =>
    let (negative, unsigned) := Binary64.signOf (Binary64.strip s.toList)
    match Binary64.digits unsigned with
    | (d :: ds, []) =>
      .ok (if negative then -(Binary64.ofDigits (d :: ds) : Int) else Binary64.ofDigits (d :: ds))
    | _ => .error (.valueError "invalid literal for int() with base 10")
  | .none => .error (.valueError "int() argument must be a string or a real number")

/-- `float(value)`. -/
def pyFloat : Arg → Except PyError Binary64
  | .float x => .ok x
  | .int n =>
    match Binary64.ofRat n with
    | .finite q => .ok (.finite q)
    | _ => .error .overflowError
  | .text s =>
    match Binary64.ofText s.toList with
    | some x => .ok x
    | none => .error (.valueError "could not convert string to float")
  | .none => .error (.valueError "float() argument must be a string or a real number")

/-- The arguments of a call as `_aggregate_demand` and `_build_objectives` take them out of the
map. -/
def builderArgs (call : OverrideCall) : Except PyError Args :=
  if call.tool = "set_min_workers_per_task" then do
    let taskId ← call.args.get "task_id"
    let n ← pyInt (← call.args.get "n")
    pure [("task_id", taskId), ("n", .int n)]
  else if call.tool = "scale_demand" then do
    let taskId ← call.args.get "task_id"
    let factor ← pyFloat (← call.args.get "factor")
    pure [("task_id", taskId), ("factor", .float factor)]
  else if call.tool = "lock_worker_shift" then do
    let memberId ← call.args.get "member_id"
    let day ← pyInt (← call.args.get "day")
    pure [("member_id", memberId), ("day", .int day)]
  else if call.tool = "exclude_worker_from_task" then do
    let memberId ← call.args.get "member_id"
    let taskId ← call.args.get "task_id"
    pure [("member_id", memberId), ("task_id", taskId)]
  else if call.tool = "set_max_hours" then do
    let memberId ← call.args.get "member_id"
    let maxHours ← pyFloat (← call.args.get "max_hours")
    pure [("member_id", memberId), ("max_hours", .float maxHours)]
  else pure []

/-! ## The translation carries the constraint -/

/-- The record of a group among the entities of a constraint, where it has one. -/
def DraftConstraintV1.entityId (constraint : DraftConstraintV1) (group : EvidenceGroup) :
    Option Arg :=
  (constraint.resolvedEntities.find? fun entity => entity.group = group).map fun entity =>
    .text entity.recordId

/-- The arguments refer to the worker and the task of the constraint, and carry its numbers; of the
window of a lock, the day it starts on. -/
structure Carries (args : Args) (constraint : DraftConstraintV1) : Prop where
  worker : Dict.get? args "member_id" = constraint.entityId .workers
  task : Dict.get? args "task_id" = constraint.entityId .workAreasAndTasks
  count : Dict.get? args "n" = constraint.n.map Arg.int
  factor : Dict.get? args "factor" = constraint.factor.map Arg.float
  hours : Dict.get? args "max_hours" = constraint.maxHours.map Arg.float
  day : Dict.get? args "day" = constraint.startMinute.map fun start => .int (start / 1440)

section Faithful

variable {sha256 : String → String} {floatRepr : ℚ → List Char}

theorem recordId_singleton {entity : ResolvedEntityV1} {group : EvidenceGroup}
    (h : entity.group = group) : recordId [entity] group = .ok entity.recordId := by
  simp [recordId, h]

theorem recordId_pair {worker task : ResolvedEntityV1} (hworker : worker.group = .workers)
    (htask : task.group = .workAreasAndTasks) :
    recordId [worker, task] .workers = .ok worker.recordId ∧
      recordId [worker, task] .workAreasAndTasks = .ok task.recordId := by
  simp [recordId, hworker, htask]

/-- What the adapter makes of a resolved constraint. -/
theorem constraintArgs_of_resolved {proposal : DraftConstraintProposalV1} {horizonMinutes : Int}
    {constraint : DraftConstraintV1} (h : constraint.Resolved proposal horizonMinutes) :
    ∃ args, constraintArgs constraint = .ok args ∧ Carries args constraint ∧
      ∀ id, builderArgs ⟨id, constraint.kind.value, args⟩ = .ok args := by
  -- the resolved constraint fixes its kind and how many entities it names
  cases h with
  | @setMinWorkersPerTask task n _ hgroup =>
    refine ⟨[("task_id", .text task.recordId), ("n", .int n)], ?_, ?_, fun id => rfl⟩
    · simp only [constraintArgs, recordId_singleton hgroup]
      rfl
    · constructor <;> simp [Dict.get?, DraftConstraintV1.entityId, hgroup]
  | @scaleDemand task factor _ hgroup =>
    refine ⟨[("task_id", .text task.recordId), ("factor", .float factor)], ?_, ?_, fun id => rfl⟩
    · simp only [constraintArgs, recordId_singleton hgroup]
      rfl
    · constructor <;> simp [Dict.get?, DraftConstraintV1.entityId, hgroup]
  | @lockWorkerShift worker startMinute _ _ hgroup =>
    refine ⟨[("member_id", .text worker.recordId), ("day", .int (startMinute / 1440))], ?_, ?_,
      fun id => rfl⟩
    · simp only [constraintArgs, recordId_singleton hgroup]
      rfl
    · constructor <;> simp [Dict.get?, DraftConstraintV1.entityId, hgroup]
  | @excludeWorkerFromTask worker task _ hworker _ htask =>
    refine ⟨[("member_id", .text worker.recordId), ("task_id", .text task.recordId)], ?_, ?_,
      fun id => rfl⟩
    · rw [constraintArgs]
      simp only [(recordId_pair hworker htask).1, (recordId_pair hworker htask).2]
      rfl
    · constructor <;> simp [Dict.get?, DraftConstraintV1.entityId, hworker, htask]
  | @setMaxHours worker maxHours _ hgroup =>
    refine ⟨[("member_id", .text worker.recordId), ("max_hours", .float maxHours)], ?_, ?_,
      fun id => rfl⟩
    · simp only [constraintArgs, recordId_singleton hgroup]
      rfl
    · constructor <;> simp [Dict.get?, DraftConstraintV1.entityId, hgroup]

/-- **Draft to solver translation is total and faithful.** Whatever the reader answers and whatever
numbers were proposed, a constraint that `resolve_constraint` returns becomes an override call of
its own kind, on its own worker and task and with its own numbers, and the builder's `int` and
`float` return the arguments as they are. -/
theorem translation_faithful {texts : Texts} {context : DraftResolutionContextV1}
    {proposal : DraftConstraintProposalV1} {horizonMinutes : Int} {constraint : DraftConstraintV1}
    (hresolve : resolveConstraint texts context proposal horizonMinutes = .ok constraint) :
    ∃ call, constraintToOverride sha256 floatRepr constraint = .ok call ∧
      call.tool = constraint.kind.value ∧ Carries call.args constraint ∧
      builderArgs call = .ok call.args := by
  obtain ⟨args, hargs, hcarries, hread⟩ :=
    constraintArgs_of_resolved (resolveConstraint_ok hresolve)
  refine ⟨⟨overrideId sha256 floatRepr constraint.kind.value args, constraint.kind.value, args⟩,
    ?_, rfl, hcarries, hread _⟩
  rw [constraintToOverride, hargs]
  rfl

/-! ## The exact model

The same calls with floats as rationals, where the builder's reading undoes the translation. -/

/-- A float, where it is finite. -/
def exactNumber : Option Binary64 → Option (Option ℚ)
  | none => some none
  | some x => x.toRat?.map some

/-- The constraint with its finite numbers as the rationals they stand for. -/
def DraftConstraintV1.exact (constraint : DraftConstraintV1) : Option ShiftMind.DraftConstraintV1 :=
  match exactNumber constraint.factor, exactNumber constraint.maxHours with
  | some factor, some maxHours =>
    some
      { kind := constraint.kind
        resolvedEntities := constraint.resolvedEntities
        n := constraint.n
        factor := factor
        maxHours := maxHours
        startMinute := constraint.startMinute
        endMinute := constraint.endMinute
        description := constraint.description }
  | _, _ => none

/-- The call of a tool with the arguments it needs, its numbers finite. -/
def exactCall (tool : String) (args : Args) : Option ShiftMind.OverrideCall :=
  match tool, args with
  | "set_min_workers_per_task", [(_, .text taskId), (_, .int n)] =>
    some (.setMinWorkersPerTask taskId n)
  | "scale_demand", [(_, .text taskId), (_, .float (.finite factor))] =>
    some (.scaleDemand taskId factor)
  | "lock_worker_shift", [(_, .text memberId), (_, .int day)] =>
    some (.lockWorkerShift memberId day)
  | "exclude_worker_from_task", [(_, .text memberId), (_, .text taskId)] =>
    some (.excludeWorkerFromTask memberId taskId)
  | "set_max_hours", [(_, .text memberId), (_, .float (.finite maxHours))] =>
    some (.setMaxHours memberId maxHours)
  | _, _ => none

theorem recordIdOf_singleton {entity : ResolvedEntityV1} {group : EvidenceGroup} (name : String)
    (h : entity.group = group) : Engine.recordIdOf [entity] group name = .ok entity.recordId := by
  simp [Engine.recordIdOf, h]

/-- The arguments of a constraint with finite numbers are those of the exact engine. -/
theorem constraintArgs_exact {proposal : DraftConstraintProposalV1} {horizonMinutes : Int}
    {constraint : DraftConstraintV1} {exact : ShiftMind.DraftConstraintV1}
    (h : constraint.Resolved proposal horizonMinutes) (hexact : constraint.exact = some exact) :
    ∃ args override, constraintArgs constraint = .ok args ∧
      exactCall constraint.kind.value args = some override ∧
      Engine.constraintToOverride exact = .ok override := by
  -- each kind: the arguments hold the record ids, and reading them back gives the override
  cases h with
  | @setMinWorkersPerTask task n _ hgroup =>
    cases hexact
    refine ⟨[("task_id", .text task.recordId), ("n", .int n)],
      .setMinWorkersPerTask task.recordId n, ?_, rfl, ?_⟩
    · simp only [constraintArgs, recordId_singleton hgroup]
      rfl
    · simp only [Engine.constraintToOverride, recordIdOf_singleton _ hgroup]
      rfl
  | @scaleDemand task factor _ hgroup =>
    cases factor with
    | finite q =>
      cases hexact
      refine ⟨[("task_id", .text task.recordId), ("factor", .float (.finite q))],
        .scaleDemand task.recordId q, ?_, rfl, ?_⟩
      · simp only [constraintArgs, recordId_singleton hgroup]
        rfl
      · simp only [Engine.constraintToOverride, recordIdOf_singleton _ hgroup]
        rfl
    | _ => cases hexact
  | @lockWorkerShift worker startMinute _ _ hgroup =>
    cases hexact
    refine ⟨[("member_id", .text worker.recordId), ("day", .int (startMinute / 1440))],
      .lockWorkerShift worker.recordId (startMinute / 1440), ?_, rfl, ?_⟩
    · simp only [constraintArgs, recordId_singleton hgroup]
      rfl
    · simp only [Engine.constraintToOverride, recordIdOf_singleton _ hgroup]
      rfl
  | @excludeWorkerFromTask worker task _ hworker _ htask =>
    cases hexact
    refine ⟨[("member_id", .text worker.recordId), ("task_id", .text task.recordId)],
      .excludeWorkerFromTask worker.recordId task.recordId, ?_, rfl, ?_⟩
    · rw [constraintArgs]
      simp only [(recordId_pair hworker htask).1, (recordId_pair hworker htask).2]
      rfl
    · have hworkerId : Engine.recordIdOf [worker, task] .workers "workers" =
          .ok worker.recordId := by
        simp [Engine.recordIdOf, hworker, htask]
      have htaskId : Engine.recordIdOf [worker, task] .workAreasAndTasks
          "work-areas-and-tasks" = .ok task.recordId := by
        simp [Engine.recordIdOf, hworker, htask]
      simp only [Engine.constraintToOverride, hworkerId, htaskId]
      rfl
  | @setMaxHours worker maxHours _ hgroup =>
    cases maxHours with
    | finite q =>
      cases hexact
      refine ⟨[("member_id", .text worker.recordId), ("max_hours", .float (.finite q))],
        .setMaxHours worker.recordId q, ?_, rfl, ?_⟩
      · simp only [constraintArgs, recordId_singleton hgroup]
        rfl
      · simp only [Engine.constraintToOverride, recordIdOf_singleton _ hgroup]
        rfl
    | _ => cases hexact

/-- **The exact model.** Where the numbers of a resolved constraint are finite, its override call is
that of the exact engine. -/
theorem translation_exact {texts : Texts} {context : DraftResolutionContextV1}
    {proposal : DraftConstraintProposalV1} {horizonMinutes : Int} {constraint : DraftConstraintV1}
    {exact : ShiftMind.DraftConstraintV1}
    (hresolve : resolveConstraint texts context proposal horizonMinutes = .ok constraint)
    (hexact : constraint.exact = some exact) :
    ∃ call override, constraintToOverride sha256 floatRepr constraint = .ok call ∧
      exactCall call.tool call.args = some override ∧
      Engine.constraintToOverride exact = .ok override := by
  obtain ⟨args, override, hargs, hcall, hengine⟩ :=
    constraintArgs_exact (resolveConstraint_ok hresolve) hexact
  refine ⟨⟨overrideId sha256 floatRepr constraint.kind.value args, constraint.kind.value, args⟩,
    override, ?_, hcall, hengine⟩
  rw [constraintToOverride, hargs]
  rfl

end Faithful

/-! ## A locked window -/

def plainTexts : Texts := ⟨id, fun _ => "", fun _ => ""⟩

/-- A version that holds worker W1. -/
def pinned : DraftResolutionContextV1 where
  projectionReader group _ version recordId :=
    if group = .workers ∧ recordId = "W1" then
      some ⟨.resolved, version, some (.worker ⟨"W1", "C1", "Kim", "Full Time", "", "", 38, [], []⟩)⟩
    else none
  scenarioId := 1
  scenarioVersionId := 2

def lockProposal : DraftConstraintProposalV1 :=
  { kind := .lockWorkerShift, group := .workers, recordId := "W1", startMinute := some 1500
    endMinute := some 1980 }

def lockedConstraint : DraftConstraintV1 :=
  { kind := .lockWorkerShift, resolvedEntities := [⟨.workers, "W1", "Kim (C1)", some 2⟩]
    startMinute := some 1500, endMinute := some 1980
    description := "Keep Kim (C1) on the half-open window [1500, 1980)." }

theorem resolve_lockProposal :
    resolveConstraint plainTexts pinned lockProposal 10080 = .ok lockedConstraint := by
  decide +kernel

/-- The lock of W1 from minute 1500 is a lock of its day 1. -/
theorem translation_faithful_locked :
    ∃ call, constraintToOverride id (fun _ => []) lockedConstraint = .ok call ∧
      call.tool = "lock_worker_shift" ∧ Carries call.args lockedConstraint ∧
      builderArgs call = .ok call.args :=
  translation_faithful resolve_lockProposal

end ShiftMind.Drafting
