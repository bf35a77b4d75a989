import ShiftMind.Contracts.Workflow
import ShiftMind.Library.Binary64
import ShiftMind.Library.Fallible

/-!
# ShiftMind — resolving draft constraints

`application/drafting/resolve.py`: an untrusted constraint proposal is checked against the pinned
scenario version and becomes trusted solver input. Its numbers are those a caller may send: the
integers of any size, and the floats of Python, which may be infinite or no number at all.

* **`DraftConstraintProposalV1`**, **`DraftConstraintV1`** — the proposal and what it becomes.
* **`resolveEntity`** — one identifier, against the reader.
* **`resolveConstraint`** — the checks, kind by kind.
-/

namespace ShiftMind

/-- The literal of an evidence group. -/
def EvidenceGroup.value : EvidenceGroup → String
  | .workAreasAndTasks => "work-areas-and-tasks"
  | .workers => "workers"
  | .demand => "demand"
  | .baselineAssignments => "baseline-assignments"
  | .locks => "locks"
  | .constraintsAndObjectives => "constraints-and-objectives"

namespace Drafting

/-! ## Proposals and constraints -/

structure DraftConstraintProposalV1 where
  kind : DraftConstraintKind := .setMinWorkersPerTask
  group : EvidenceGroup := .workAreasAndTasks
  recordId : String := ""
  relatedGroup : Option EvidenceGroup := none
  relatedRecordId : Option String := none
  n : Option Int := none
  factor : Option Binary64 := none
  maxHours : Option Binary64 := none
  startMinute : Option Int := none
  endMinute : Option Int := none
  deriving DecidableEq, Repr

/-- `DraftConstraintV1`, with the floats it can hold. -/
structure DraftConstraintV1 where
  kind : DraftConstraintKind
  resolvedEntities : List ResolvedEntityV1
  n : Option Int := none
  factor : Option Binary64 := none
  maxHours : Option Binary64 := none
  startMinute : Option Int := none
  endMinute : Option Int := none
  description : String
  deriving DecidableEq, Repr

/-! ## The projection reader -/

structure ConstraintV1 where
  recordId : String
  constraintType : String
  value : String
  valueType : Option String
  deriving DecidableEq, Repr

/-- A record of any group. -/
inductive ScenarioRecord where
  | task (item : TaskV1)
  | worker (item : WorkerV1)
  | demand (item : DemandIntervalV1)
  | assignment (item : AssignmentV1)
  | lock (item : LockV1)
  | constraint (item : ConstraintV1)
  deriving DecidableEq, Repr

def ScenarioRecord.recordId : ScenarioRecord → String
  | .task item => item.recordId
  | .worker item => item.recordId
  | .demand item => item.recordId
  | .assignment item => item.recordId
  | .lock item => item.recordId
  | .constraint item => item.recordId

/-- The literal of a demand family. -/
def familyText : DemandFamily → String
  | .outbound => "outbound"
  | .inbound => "inbound"
  | .indirect => "indirect"

/-- `planner_label`. -/
def plannerLabel : ScenarioRecord → String
  | .task item => s!"{item.name} ({item.taskId})"
  | .worker item => s!"{item.name} ({item.contactId})"
  | .demand item => s!"{familyText item.family} {item.taskId} ({item.recordId})"
  | .assignment item => s!"{item.workerId} → {item.taskId} ({item.recordId})"
  | .lock item => s!"{item.targetType} {item.targetRef} ({item.recordId})"
  | .constraint item => s!"{item.constraintType} ({item.recordId})"

/-- The outcomes of a reader. -/
inductive ResolutionOutcome where
  | resolved
  | notFound
  | versionMismatch
  deriving DecidableEq, Repr

structure Resolution where
  outcome : ResolutionOutcome
  currentScenarioVersionId : Uuid
  item : Option ScenarioRecord
  deriving DecidableEq, Repr

/-- `DraftResolutionContextV1`; the reader is called with the connection it holds. -/
structure DraftResolutionContextV1 where
  projectionReader : EvidenceGroup → Uuid → Uuid → String → Option Resolution
  scenarioId : Uuid
  scenarioVersionId : Uuid

/-- How Python writes values into a text. -/
structure Texts where
  /-- `repr` of a string -/
  repr : String → String
  /-- `str` of a float -/
  str : Binary64 → String
  /-- a float under `:g` -/
  general : Binary64 → String

/-! ## The resolver

Every kind of constraint reads its own fields and refuses the others; the messages and their order
are those of the source. -/

section Resolve

variable (texts : Texts) (context : DraftResolutionContextV1)

/-- `resolve_entity`; an error is the text of the `DraftConstraintError`. -/
def resolveEntity (group : EvidenceGroup) (recordId : String) :
    Except String (ResolvedEntityV1 × ScenarioRecord) :=
  let missing := s!"{group.value} entity {texts.repr recordId} is missing or not resolvable"
  match context.projectionReader group context.scenarioId context.scenarioVersionId recordId with
  | none => .error missing
  | some resolution =>
    match resolution.item with
    | none => .error missing
    | some item =>
      if resolution.outcome ≠ .resolved ∨
          resolution.currentScenarioVersionId ≠ context.scenarioVersionId ∨
          item.recordId ≠ recordId then .error missing
      else .ok (⟨group, recordId, plannerLabel item, some context.scenarioVersionId⟩, item)

/-- `_require_primary`. -/
def requirePrimary (proposal : DraftConstraintProposalV1) (expectedGroup : EvidenceGroup) :
    Except String (ResolvedEntityV1 × ScenarioRecord) :=
  if proposal.group ≠ expectedGroup then
    .error (s!"{proposal.kind.value} requires group {texts.repr expectedGroup.value}, " ++
      s!"got {texts.repr proposal.group.value}")
  else resolveEntity texts context proposal.group proposal.recordId

/-- The names of the arguments that were given, in order. -/
def givenArguments (proposal : DraftConstraintProposalV1) : List String :=
  [("end_minute", proposal.endMinute.isSome), ("factor", proposal.factor.isSome),
    ("max_hours", proposal.maxHours.isSome), ("n", proposal.n.isSome),
    ("start_minute", proposal.startMinute.isSome)].filterMap fun argument =>
      if argument.2 then some argument.1 else none

/-- `require_only`. -/
def requireOnly (proposal : DraftConstraintProposalV1) (allowed : List String) :
    Except String Unit :=
  let unexpected := (givenArguments proposal).filter fun name => name ∉ allowed
  if unexpected ≠ [] then
    .error (s!"{proposal.kind.value} does not accept arguments [" ++
      ", ".intercalate (unexpected.map texts.repr) ++ "]")
  else .ok ()

/-- `HARD_MAX_HOURS_PER_WEEK`. -/
def hardMaxHoursPerWeek : Binary64 := .finite 56

/-- `resolve_constraint`. A comparison with a NaN is false, so the bounds on floats let it pass. -/
def resolveConstraint (proposal : DraftConstraintProposalV1) (horizonMinutes : Int) :
    Except String DraftConstraintV1 :=
  match proposal.kind with
  | .setMinWorkersPerTask => do
    requireOnly texts proposal ["n"]
    let (task, _) ← requirePrimary texts context proposal .workAreasAndTasks
    -- no number at all is answered like one that is too small
    match proposal.n with
    | none => .error "n must be greater than 0"
    | some n =>
      if n ≤ 0 then .error "n must be greater than 0"
      else
        .ok
          { kind := proposal.kind
            resolvedEntities := [task]
            n := some n
            description := s!"Keep at least {n} workers on {task.label}." }
  | .scaleDemand => do
    requireOnly texts proposal ["factor"]
    let (task, _) ← requirePrimary texts context proposal .workAreasAndTasks
    match proposal.factor with
    | none => .error "factor must be greater than 0"
    | some factor =>
      if factor.le (.finite 0) then .error "factor must be greater than 0"
      else
        .ok
          { kind := proposal.kind
            resolvedEntities := [task]
            factor := some factor
            description := s!"Scale demand for {task.label} by {texts.str factor}." }
  | .lockWorkerShift => do
    requireOnly texts proposal ["start_minute", "end_minute"]
    let (worker, _) ← requirePrimary texts context proposal .workers
    let outside :=
      "start_minute must be non-negative and end_minute must be greater than start_minute" ++
        s!" and no greater than the horizon bound {horizonMinutes}"
    -- one missing end is answered like a window outside the horizon
    match proposal.startMinute, proposal.endMinute with
    | some startMinute, some endMinute =>
      if startMinute < 0 ∨ endMinute ≤ startMinute ∨ horizonMinutes < endMinute then .error outside
      else
        .ok
          { kind := proposal.kind
            resolvedEntities := [worker]
            startMinute := some startMinute
            endMinute := some endMinute
            description := s!"Keep {worker.label} on the half-open window " ++
              s!"[{startMinute}, {endMinute})." }
    | _, _ => .error outside
  | .excludeWorkerFromTask => do
    requireOnly texts proposal []
    let (worker, _) ← requirePrimary texts context proposal .workers
    -- the related record is resolved after the worker, and an empty id is none
    match proposal.relatedGroup, proposal.relatedRecordId with
    | some .workAreasAndTasks, some relatedRecordId =>
      if relatedRecordId = "" then
        .error "exclude_worker_from_task requires a related work-areas-and-tasks record"
      else do
        let (task, _) ← resolveEntity texts context .workAreasAndTasks relatedRecordId
        .ok
          { kind := proposal.kind
            resolvedEntities := [worker, task]
            description := s!"Keep {worker.label} off {task.label}." }
    | _, _ => .error "exclude_worker_from_task requires a related work-areas-and-tasks record"
  | .setMaxHours => do
    requireOnly texts proposal ["max_hours"]
    let (worker, _) ← requirePrimary texts context proposal .workers
    match proposal.maxHours with
    | none => .error "max_hours must be greater than 0"
    | some maxHours =>
      if maxHours.le (.finite 0) then .error "max_hours must be greater than 0"
      else if hardMaxHoursPerWeek.lt maxHours then
        .error (s!"max_hours must not exceed the flat upper bound of " ++
          s!"{texts.general hardMaxHoursPerWeek} hours per week")
      else
        .ok
          { kind := proposal.kind
            resolvedEntities := [worker]
            maxHours := some maxHours
            description := s!"Cap {worker.label} at {texts.general maxHours} hours per week." }

end Resolve

/-! ## What a resolved constraint is -/

/-- The arguments and entities of a resolved constraint, kind by kind. -/
inductive DraftConstraintV1.Resolved (proposal : DraftConstraintProposalV1) (horizonMinutes : Int) :
    DraftConstraintV1 → Prop
  | setMinWorkersPerTask {task : ResolvedEntityV1} {n : Int} {description : String}
      (hgroup : task.group = .workAreasAndTasks) (hrecord : task.recordId = proposal.recordId)
      (hn : proposal.n = some n) (hpos : 0 < n) :
      Resolved proposal horizonMinutes
        { kind := .setMinWorkersPerTask, resolvedEntities := [task], n := some n, description }
  | scaleDemand {task : ResolvedEntityV1} {factor : Binary64} {description : String}
      (hgroup : task.group = .workAreasAndTasks) (hrecord : task.recordId = proposal.recordId)
      (hfactor : proposal.factor = some factor) (hpos : factor.le (.finite 0) = false) :
      Resolved proposal horizonMinutes
        { kind := .scaleDemand, resolvedEntities := [task], factor := some factor, description }
  | lockWorkerShift {worker : ResolvedEntityV1} {startMinute endMinute : Int}
      {description : String} (hgroup : worker.group = .workers)
      (hrecord : worker.recordId = proposal.recordId)
      (hstart : proposal.startMinute = some startMinute)
      (hend : proposal.endMinute = some endMinute)
      (hwindow : 0 ≤ startMinute ∧ startMinute < endMinute ∧ endMinute ≤ horizonMinutes) :
      Resolved proposal horizonMinutes
        { kind := .lockWorkerShift, resolvedEntities := [worker], startMinute := some startMinute
          endMinute := some endMinute, description }
  | excludeWorkerFromTask {worker task : ResolvedEntityV1} {description : String}
      (hworker : worker.group = .workers) (hrecord : worker.recordId = proposal.recordId)
      (htask : task.group = .workAreasAndTasks)
      (hrelated : proposal.relatedRecordId = some task.recordId) :
      Resolved proposal horizonMinutes
        { kind := .excludeWorkerFromTask, resolvedEntities := [worker, task], description }
  | setMaxHours {worker : ResolvedEntityV1} {maxHours : Binary64} {description : String}
      (hgroup : worker.group = .workers) (hrecord : worker.recordId = proposal.recordId)
      (hhours : proposal.maxHours = some maxHours) (hpos : maxHours.le (.finite 0) = false)
      (hbound : hardMaxHoursPerWeek.lt maxHours = false) :
      Resolved proposal horizonMinutes
        { kind := .setMaxHours, resolvedEntities := [worker], maxHours := some maxHours
          description }

section Resolved

variable {texts : Texts} {context : DraftResolutionContextV1}

theorem resolveEntity_ok {group : EvidenceGroup} {recordId : String}
    {entity : ResolvedEntityV1 × ScenarioRecord}
    (h : resolveEntity texts context group recordId = .ok entity) :
    entity.1.group = group ∧ entity.1.recordId = recordId := by
  unfold resolveEntity at h
  split at h
  · cases h
  · split at h
    · cases h
    · split at h
      · cases h
      · cases h
        exact ⟨rfl, rfl⟩

theorem requirePrimary_ok {proposal : DraftConstraintProposalV1} {group : EvidenceGroup}
    {entity : ResolvedEntityV1 × ScenarioRecord}
    (h : requirePrimary texts context proposal group = .ok entity) :
    entity.1.group = group ∧ entity.1.recordId = proposal.recordId := by
  unfold requirePrimary at h
  split at h
  · cases h
  · next hgroup =>
    rw [not_not] at hgroup
    rw [← hgroup]
    exact resolveEntity_ok h

/-- **What `resolve_constraint` returns.** -/
theorem resolveConstraint_ok {proposal : DraftConstraintProposalV1} {horizonMinutes : Int}
    {constraint : DraftConstraintV1}
    (h : resolveConstraint texts context proposal horizonMinutes = .ok constraint) :
    constraint.Resolved proposal horizonMinutes := by
  -- each kind asks for its primary record first, then for its own numbers
  unfold resolveConstraint at h
  cases hkind : proposal.kind with
  | setMinWorkersPerTask =>
    rw [hkind] at h
    dsimp only at h
    obtain ⟨_, -, h⟩ := Fallible.bind_ok h
    obtain ⟨⟨task, _⟩, hprimary, h⟩ := Fallible.bind_ok h
    obtain ⟨hgroup, hrecord⟩ := requirePrimary_ok hprimary
    dsimp only at h
    split at h
    · cases h
    · -- the count has to be positive
      next n hn =>
      split at h
      · cases h
      · next hpos =>
        cases h
        exact .setMinWorkersPerTask hgroup hrecord hn (not_le.mp hpos)
  | scaleDemand =>
    rw [hkind] at h
    dsimp only at h
    -- a factor, positive and finite
    obtain ⟨_, -, h⟩ := Fallible.bind_ok h
    obtain ⟨⟨task, _⟩, hprimary, h⟩ := Fallible.bind_ok h
    obtain ⟨hgroup, hrecord⟩ := requirePrimary_ok hprimary
    dsimp only at h
    split at h
    · cases h
    · next factor hfactor =>
      split at h
      · cases h
      · next hpos =>
        cases h
        exact .scaleDemand hgroup hrecord hfactor (Bool.not_eq_true _ ▸ hpos)
  | lockWorkerShift =>
    rw [hkind] at h
    dsimp only at h
    -- both ends of the shift, in order and within the horizon
    obtain ⟨_, -, h⟩ := Fallible.bind_ok h
    obtain ⟨⟨worker, _⟩, hprimary, h⟩ := Fallible.bind_ok h
    obtain ⟨hgroup, hrecord⟩ := requirePrimary_ok hprimary
    dsimp only at h
    split at h
    · next startMinute endMinute hstart hend =>
      split at h
      · cases h
      · next hwindow =>
        cases h
        exact .lockWorkerShift hgroup hrecord hstart hend (by omega)
    · cases h
  | excludeWorkerFromTask =>
    rw [hkind] at h
    dsimp only at h
    -- a worker, and beside it the task it names
    obtain ⟨_, -, h⟩ := Fallible.bind_ok h
    obtain ⟨⟨worker, _⟩, hprimary, h⟩ := Fallible.bind_ok h
    obtain ⟨hworker, hrecord⟩ := requirePrimary_ok hprimary
    dsimp only at h
    split at h
    · next relatedRecordId _ hrelated =>
      split at h
      · cases h
      · obtain ⟨⟨task, _⟩, hentity, h⟩ := Fallible.bind_ok h
        obtain ⟨htask, htaskRecord⟩ := resolveEntity_ok hentity
        cases h
        exact .excludeWorkerFromTask hworker hrecord htask (by rw [hrelated, htaskRecord])
    · cases h
  | setMaxHours =>
    rw [hkind] at h
    dsimp only at h
    -- the hours have two bounds, each with its message
    obtain ⟨_, -, h⟩ := Fallible.bind_ok h
    obtain ⟨⟨worker, _⟩, hprimary, h⟩ := Fallible.bind_ok h
    obtain ⟨hgroup, hrecord⟩ := requirePrimary_ok hprimary
    dsimp only at h
    split at h
    · cases h
    · next maxHours hhours =>
      split at h
      · cases h
      · next hpos =>
        split at h
        · cases h
        · next hbound =>
          cases h
          exact .setMaxHours hgroup hrecord hhours (Bool.not_eq_true _ ▸ hpos)
            (Bool.not_eq_true _ ▸ hbound)

end Resolved

end Drafting

end ShiftMind
