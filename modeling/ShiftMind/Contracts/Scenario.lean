import Mathlib.Data.Rat.Defs
import Mathlib.Tactic.TypeStar

/-!
# ShiftMind — the normalised scenario records

`application/contracts/scenario_projection.py` and the parts of
`application/contracts/proposal.py` a solve reads: the records every other layer exchanges. A
UUID is an opaque number, an instant a count of microseconds since the epoch (UTC), and a Python
`float` the exact rational it stands for.
-/

namespace ShiftMind

/-- A `uuid.UUID`: only its identity matters. -/
abbrev Uuid := Nat

/-- A UTC instant, in microseconds since the epoch. -/
abbrev Instant := Int

/-! ## Scenario projection -/

structure TaskV1 where
  recordId : String
  taskId : String
  name : String
  function : String
  areaId : String
  areaName : String
  unitTypeId : Option String
  deriving DecidableEq, Repr

structure QualificationRefV1 where
  taskId : String
  rate : ℚ
  deriving DecidableEq, Repr

inductive WindowKind where
  | roster
  | availability
  deriving DecidableEq, Repr

structure AvailabilityWindowV1 where
  kind : WindowKind
  startMinute : Int
  endMinute : Int
  deriving DecidableEq, Repr

structure WorkerV1 where
  recordId : String
  contactId : String
  name : String
  employmentType : String
  grade : String
  eba : String
  contractedHours : ℚ
  qualifications : List QualificationRefV1
  availabilityWindows : List AvailabilityWindowV1
  deriving DecidableEq, Repr

inductive DemandFamily where
  | outbound
  | inbound
  | indirect
  deriving DecidableEq, Repr

inductive DemandUnit where
  | volume
  | headcount
  deriving DecidableEq, Repr

structure DemandIntervalV1 where
  recordId : String
  family : DemandFamily
  taskId : String
  areaId : Option String
  startMinute : Int
  endMinute : Int
  amount : ℚ
  unit : DemandUnit
  deriving DecidableEq, Repr

structure AssignmentV1 where
  recordId : String
  workerId : String
  taskId : String
  shiftId : Option String
  startMinute : Int
  endMinute : Int
  qualificationRefs : List QualificationRefV1 := []
  source : String := "baseline"
  lockRef : Option String := none
  deriving DecidableEq, Repr

structure LockV1 where
  recordId : String
  targetType : String
  targetRef : String
  scope : String
  source : String
  deriving DecidableEq, Repr

/-! ## Draft constraints and evidence -/

/-- `DraftConstraintKindV1`: the closed vocabulary of draft constraints. -/
inductive DraftConstraintKind where
  | setMinWorkersPerTask
  | scaleDemand
  | lockWorkerShift
  | excludeWorkerFromTask
  | setMaxHours
  deriving DecidableEq, Repr

/-- The persisted name of a draft constraint kind. -/
def DraftConstraintKind.value : DraftConstraintKind → String
  | .setMinWorkersPerTask => "set_min_workers_per_task"
  | .scaleDemand => "scale_demand"
  | .lockWorkerShift => "lock_worker_shift"
  | .excludeWorkerFromTask => "exclude_worker_from_task"
  | .setMaxHours => "set_max_hours"

/-- `EvidenceGroupV1`. -/
inductive EvidenceGroup where
  | workAreasAndTasks
  | workers
  | demand
  | baselineAssignments
  | locks
  | constraintsAndObjectives
  deriving DecidableEq, Repr

structure ResolvedEntityV1 where
  group : EvidenceGroup
  recordId : String
  label : String
  scenarioVersionId : Option Uuid
  deriving DecidableEq, Repr

structure DraftConstraintV1 where
  kind : DraftConstraintKind
  resolvedEntities : List ResolvedEntityV1
  n : Option Int := none
  factor : Option ℚ := none
  maxHours : Option ℚ := none
  startMinute : Option Int := none
  endMinute : Option Int := none
  description : String := ""
  deriving DecidableEq, Repr

structure EvidenceRefV1 where
  scenarioVersionId : Uuid
  checksumAlgorithm : String
  checksumSchemaVersion : String
  checksumDigest : String
  producingRunVersion : Option String
  baselineScheduleVersion : Option String
  group : EvidenceGroup
  recordId : String
  field : Option String := none
  startMinute : Option Int := none
  endMinute : Option Int := none
  deriving DecidableEq, Repr

/-- `ProposalStateV1`. -/
inductive ProposalState where
  | active
  | rejected
  | applied
  deriving DecidableEq, Repr

/-- `ProposalV1`: `state` and `resourceVersion` are overridden by the proposal's row on every
read. -/
structure ProposalV1 where
  proposalId : Option Uuid
  proposalVersionId : Option Uuid
  scenarioId : Option Uuid
  scenarioVersionId : Option Uuid
  expectedBaselineScheduleVersion : Option String
  resolvedEntities : List ResolvedEntityV1
  constraints : List DraftConstraintV1
  preservedLocks : List LockV1
  consequenceSummary : String := ""
  canonicalHash : String := ""
  state : ProposalState
  resourceVersion : Int
  deriving DecidableEq, Repr

end ShiftMind
