import Mathlib.Data.Prod.Lex
import Mathlib.Data.String.Basic
import ShiftMind.Contracts.Activity
import ShiftMind.Contracts.Canonical
import ShiftMind.Drafting.Resolve

/-!
# ShiftMind — sealed run snapshots

`application/contracts/run_snapshot.py` with all of its fields, and the contracts nested in it as
they are stored: ids are 128-bit numbers, times are dates with a time of day, and numbers with a
fraction are binary64. A snapshot is sealed when it is built: its component versions are ordered and
its canonical hash is the digest of its other fields.

* **`PyValue.jsonValue`**, **`RunSnapshotRecord.canonicalPayload`** — what is digested.
* **`RunSnapshotRecord.postInit`** — `__post_init__`.
* **`postInit_sealed`** — sealing a sealed record again changes nothing.
-/

namespace ShiftMind.Snapshot

open Activity

/-! ## Values of Python -/

/-- What `asdict` of a contract is made of. -/
inductive PyValue where
  | none
  | str (text : String)
  | int (n : Int)
  | float (x : Binary64)
  | uuid (u : Uuid128)
  | datetime (t : DateTime)
  | tuple (items : List PyValue)
  | dict (members : List (String × PyValue))

/-- `text.replace(old, new)`, for an `old` that is not empty; `skip` characters of a match are still
to be dropped. -/
def replaceText (old new : List Char) : Nat → List Char → List Char
  | _, [] => []
  | skip + 1, _ :: text => replaceText old new skip text
  | 0, c :: text =>
    if old.isPrefixOf (c :: text) then new ++ replaceText old new (old.length - 1) text
    else c :: replaceText old new 0 text

namespace PyValue

mutual

/-- `_json_value`. -/
def jsonValue : PyValue → Json Binary64
  | .none => .null
  | .str text => .string text
  | .int n => .int n
  | .float x => .float x
  | .uuid u => .string u.str
  | .datetime t =>
    .string (String.ofList (replaceText ['+', '0', '0', ':', '0', '0'] ['Z'] 0 t.isoformat))
  | .tuple items => .list (jsonValues items)
  | .dict members => .object (jsonMembers members)
termination_by structural value => value

def jsonValues : List PyValue → List (Json Binary64)
  | [] => []
  | value :: values => jsonValue value :: jsonValues values
termination_by structural values => values

def jsonMembers : List (String × PyValue) → List (String × Json Binary64)
  | [] => []
  | (key, value) :: members => (key, jsonValue value) :: jsonMembers members
termination_by structural members => members

end

def optional {A : Type} (value : A → PyValue) : Option A → PyValue
  | Option.none => .none
  | some a => value a

end PyValue

/-- `SCHEMA_VERSION`. -/
def schemaVersion : String := "1"

/-! ## Nested contracts -/

/-- `ResolvedEntityV1`. -/
structure ResolvedEntityV1 where
  group : EvidenceGroup := .workAreasAndTasks
  recordId : String := ""
  label : String := ""
  scenarioVersionId : Option Uuid128 := none
  schemaVersion : String := schemaVersion
  deriving DecidableEq

/-- `DraftConstraintV1`. -/
structure DraftConstraintV1 where
  kind : DraftConstraintKind := .setMinWorkersPerTask
  resolvedEntities : List ResolvedEntityV1 := []
  n : Option Int := none
  factor : Option Binary64 := none
  maxHours : Option Binary64 := none
  startMinute : Option Int := none
  endMinute : Option Int := none
  description : String := ""
  schemaVersion : String := schemaVersion
  deriving DecidableEq

/-- `ConstraintV1` of the scenario projection. -/
structure ConstraintV1 where
  recordId : String
  constraintType : String
  value : String
  valueType : Option String
  deriving DecidableEq

/-- `EvidenceRefV1`. -/
structure EvidenceRefV1 where
  scenarioVersionId : Uuid128
  checksumAlgorithm : String
  checksumSchemaVersion : String
  checksumDigest : String
  producingRunVersion : Option String
  baselineScheduleVersion : Option String
  group : EvidenceGroup
  recordId : String
  field : Option String := none
  startMinute : Option Int := none
  endMinute : Option Int := none
  schemaVersion : String := schemaVersion
  deriving DecidableEq

/-- The fields of `GovernedSolverConfigV1`. -/
structure SolverConfigRecord where
  engineName : String := "cpsat"
  seed : Int := 42
  numSearchWorkers : Int := 1
  maxDeterministicTime : Binary64 := .finite 30
  wallTimeLimitSeconds : Binary64 := .finite 30
  schemaVersion : String := schemaVersion
  deriving DecidableEq

/-- `GovernedSolverConfigV1.__post_init__`: the error it raises. -/
def SolverConfigRecord.fault (config : SolverConfigRecord) : Option String :=
  if config.engineName = "" then some "engine_name is required"
  else if config.seed ≤ 0 then some "seed must be positive"
  else if config.numSearchWorkers ≤ 0 then some "num_search_workers must be positive"
  -- a NaN is not refused here: no comparison with it is true
  else if config.maxDeterministicTime.le (.finite 0) then
    some "max_deterministic_time must be positive"
  else if config.wallTimeLimitSeconds.le (.finite 0) then
    some "wall_time_limit_seconds must be positive"
  else none

/-- `GovernedSolverConfigV1`. -/
structure GovernedSolverConfigV1 extends SolverConfigRecord where
  valid : toSolverConfigRecord.fault = none
  deriving DecidableEq

/-- Building a configuration. -/
def SolverConfigRecord.build (config : SolverConfigRecord) : Except String GovernedSolverConfigV1 :=
  match h : config.fault with
  | some message => .error message
  | none => .ok ⟨config, h⟩

theorem GovernedSolverConfigV1.build_record (config : GovernedSolverConfigV1) :
    config.toSolverConfigRecord.build = .ok config := by
  unfold SolverConfigRecord.build
  split
  · rename_i message hfault
    rw [config.valid] at hfault
    cases hfault
  · rfl

/-! ## `RunSnapshotV1` -/

/-- The fields of `RunSnapshotV1`, as they are passed to its constructor. -/
structure RunSnapshotRecord where
  snapshotId : Option Uuid128 := none
  scheduleRunId : Option Uuid128 := none
  scenarioId : Option Uuid128 := none
  scenarioVersionId : Option Uuid128 := none
  checksumAlgorithm : String := ""
  checksumSchemaVersion : String := ""
  checksumDigest : String := ""
  baselineScheduleVersion : Option String := none
  proposalId : Option Uuid128 := none
  proposalVersionId : Option Uuid128 := none
  proposalResourceVersion : Int := 0
  preservedLocks : List LockV1 := []
  constraints : List DraftConstraintV1 := []
  objectives : List ConstraintV1 := []
  solverConfig : Option GovernedSolverConfigV1 := none
  componentVersions : List (String × String) := []
  acceptedAt : Option DateTime := none
  inputEvidenceRefs : List EvidenceRefV1 := []
  canonicalHash : String := ""
  canonicalHashAlgorithm : String := "sha256"
  canonicalHashSchemaVersion : String := "rfc8785-v1"
  schemaVersion : String := schemaVersion
  deriving DecidableEq

/-! ### `asdict` -/

open PyValue in
/-- `asdict(entity)`. -/
def ResolvedEntityV1.asdict (entity : ResolvedEntityV1) : PyValue :=
  .dict [("group", .str entity.group.value), ("record_id", .str entity.recordId),
    ("label", .str entity.label),
    ("scenario_version_id", optional .uuid entity.scenarioVersionId),
    ("schema_version", .str entity.schemaVersion)]

open PyValue in
/-- `asdict(constraint)`. -/
def DraftConstraintV1.asdict (constraint : DraftConstraintV1) : PyValue :=
  .dict [("kind", .str constraint.kind.value),
    ("resolved_entities", .tuple (constraint.resolvedEntities.map ResolvedEntityV1.asdict)),
    ("n", optional .int constraint.n), ("factor", optional .float constraint.factor),
    ("max_hours", optional .float constraint.maxHours),
    ("start_minute", optional .int constraint.startMinute),
    ("end_minute", optional .int constraint.endMinute),
    ("description", .str constraint.description),
    ("schema_version", .str constraint.schemaVersion)]

open PyValue in
def ConstraintV1.asdict (constraint : ConstraintV1) : PyValue :=
  .dict [("record_id", .str constraint.recordId),
    ("constraint_type", .str constraint.constraintType), ("value", .str constraint.value),
    ("value_type", optional .str constraint.valueType)]

def lockAsdict (lock : LockV1) : PyValue :=
  .dict [("record_id", .str lock.recordId), ("target_type", .str lock.targetType),
    ("target_ref", .str lock.targetRef), ("scope", .str lock.scope), ("source", .str lock.source)]

open PyValue in
def EvidenceRefV1.asdict (reference : EvidenceRefV1) : PyValue :=
  .dict [("scenario_version_id", .uuid reference.scenarioVersionId),
    ("checksum_algorithm", .str reference.checksumAlgorithm),
    ("checksum_schema_version", .str reference.checksumSchemaVersion),
    ("checksum_digest", .str reference.checksumDigest),
    ("producing_run_version", optional .str reference.producingRunVersion),
    ("baseline_schedule_version", optional .str reference.baselineScheduleVersion),
    ("group", .str reference.group.value), ("record_id", .str reference.recordId),
    ("field", optional .str reference.field),
    ("start_minute", optional .int reference.startMinute),
    ("end_minute", optional .int reference.endMinute),
    ("schema_version", .str reference.schemaVersion)]

def SolverConfigRecord.asdict (config : SolverConfigRecord) : PyValue :=
  .dict [("engine_name", .str config.engineName), ("seed", .int config.seed),
    ("num_search_workers", .int config.numSearchWorkers),
    ("max_deterministic_time", .float config.maxDeterministicTime),
    ("wall_time_limit_seconds", .float config.wallTimeLimitSeconds),
    ("schema_version", .str config.schemaVersion)]

open PyValue in
/-- `asdict(self)`. -/
def RunSnapshotRecord.asdict (r : RunSnapshotRecord) : List (String × PyValue) :=
  [("snapshot_id", optional .uuid r.snapshotId),
    ("schedule_run_id", optional .uuid r.scheduleRunId),
    ("scenario_id", optional .uuid r.scenarioId),
    ("scenario_version_id", optional .uuid r.scenarioVersionId),
    ("checksum_algorithm", .str r.checksumAlgorithm),
    ("checksum_schema_version", .str r.checksumSchemaVersion),
    ("checksum_digest", .str r.checksumDigest),
    ("baseline_schedule_version", optional .str r.baselineScheduleVersion),
    ("proposal_id", optional .uuid r.proposalId),
    ("proposal_version_id", optional .uuid r.proposalVersionId),
    ("proposal_resource_version", .int r.proposalResourceVersion),
    ("preserved_locks", .tuple (r.preservedLocks.map lockAsdict)),
    ("constraints", .tuple (r.constraints.map DraftConstraintV1.asdict)),
    ("objectives", .tuple (r.objectives.map ConstraintV1.asdict)),
    ("solver_config", optional (fun config => config.asdict) r.solverConfig),
    ("component_versions",
      .tuple (r.componentVersions.map fun version => .tuple [.str version.1, .str version.2])),
    ("accepted_at", optional .datetime r.acceptedAt),
    ("input_evidence_refs", .tuple (r.inputEvidenceRefs.map EvidenceRefV1.asdict)),
    ("canonical_hash", .str r.canonicalHash),
    ("canonical_hash_algorithm", .str r.canonicalHashAlgorithm),
    ("canonical_hash_schema_version", .str r.canonicalHashSchemaVersion),
    ("schema_version", .str r.schemaVersion)]

/-- `canonical_payload`: everything but the hash itself and how it is computed. -/
def RunSnapshotRecord.canonicalPayload (r : RunSnapshotRecord) : Json Binary64 :=
  (PyValue.dict (r.asdict.filter fun m => m.1 ∉
    ["canonical_hash", "canonical_hash_algorithm", "canonical_hash_schema_version"])).jsonValue

/-! ### `__post_init__` -/

/-- The first required field that is missing. -/
def RunSnapshotRecord.missing (r : RunSnapshotRecord) : Option String :=
  ([("snapshot_id", r.snapshotId.isNone), ("schedule_run_id", r.scheduleRunId.isNone),
    ("scenario_id", r.scenarioId.isNone), ("scenario_version_id", r.scenarioVersionId.isNone),
    ("checksum_algorithm", decide (r.checksumAlgorithm = "")),
    ("checksum_schema_version", decide (r.checksumSchemaVersion = "")),
    ("checksum_digest", decide (r.checksumDigest = "")), ("proposal_id", r.proposalId.isNone),
    ("proposal_version_id", r.proposalVersionId.isNone),
    ("proposal_resource_version", decide (r.proposalResourceVersion = 0)),
    ("solver_config", r.solverConfig.isNone),
    ("component_versions", decide (r.componentVersions = [])),
    ("accepted_at", r.acceptedAt.isNone)].find? fun field => field.2).map Prod.fst

/-- `sorted(component_versions)`: by component, then by version. -/
def sortVersions (versions : List (String × String)) : List (String × String) :=
  Log.sort (fun version => toLex version) versions

section Seal

variable (sha256 : ByteArray → String) (floatText : ℚ → List Char)

/-- `contract_digest`: the algorithm, its schema and the digest. -/
def contractDigest (value : Json Binary64) : Except String (String × String × String) :=
  (canonicalizeJson floatText value).map fun bytes => ("sha256", "rfc8785-v1", sha256 bytes)

/-- The record with its versions in order. -/
def RunSnapshotRecord.ordered (r : RunSnapshotRecord) : RunSnapshotRecord :=
  { r with componentVersions := sortVersions r.componentVersions }

/-- The record with its hash. -/
def RunSnapshotRecord.hashed (r : RunSnapshotRecord) : String × String × String → RunSnapshotRecord
  | (algorithm, digestSchema, digest) =>
    { r with
      canonicalHash := digest
      canonicalHashAlgorithm := algorithm
      canonicalHashSchemaVersion := digestSchema }

/-- `RunSnapshotV1.__post_init__`: the fields of the object that was built. -/
def RunSnapshotRecord.postInit (r : RunSnapshotRecord) : Except String RunSnapshotRecord :=
  match r.missing with
  | some name => .error s!"{name} is required"
  | none =>
    if r.acceptedAt.any fun t => decide (t.offset ≠ 0) then .error "accepted_at must be UTC-aware"
    else
      match contractDigest sha256 floatText r.ordered.canonicalPayload with
      | .error message => .error message
      | .ok digest =>
        if r.canonicalHash ≠ "" ∧ r.canonicalHash ≠ digest.2.2 then
          .error "canonical_hash does not match the snapshot payload"
        else .ok (r.ordered.hashed digest)

end Seal

/-! ## Sealing twice

A snapshot that was sealed passes its own check, and sealing it again changes nothing. -/

theorem sortVersions_sorted (versions : List (String × String)) :
    sortVersions (sortVersions versions) = sortVersions versions := by
  have hsorted : (sortVersions versions).Pairwise fun a b => toLex a ≤ toLex b :=
    Log.pairwise_sort versions
  exact hsorted.insertionSort_eq

theorem sortVersions_eq_nil {versions : List (String × String)} :
    sortVersions versions = [] ↔ versions = [] := by
  have hperm : (sortVersions versions).Perm versions := Log.perm_sort versions
  constructor
  · intro hnil
    rw [hnil] at hperm
    exact hperm.symm.eq_nil
  · intro hnil
    rw [hnil] at hperm ⊢
    exact hperm.eq_nil

/-- Ordering the versions loses no field. -/
theorem missing_ordered (r : RunSnapshotRecord) : r.ordered.missing = r.missing := by
  unfold RunSnapshotRecord.missing RunSnapshotRecord.ordered
  simp only [sortVersions_eq_nil]

theorem ordered_ordered (r : RunSnapshotRecord) : r.ordered.ordered = r.ordered := by
  unfold RunSnapshotRecord.ordered
  rw [sortVersions_sorted]

/-- The hash is not part of what is digested. -/
theorem canonicalPayload_hashed (r : RunSnapshotRecord) (digest : String × String × String) :
    (r.hashed digest).canonicalPayload = r.canonicalPayload := by
  unfold RunSnapshotRecord.canonicalPayload RunSnapshotRecord.asdict RunSnapshotRecord.hashed
  simp [List.filter]

section Sealed

variable {sha256 : ByteArray → String} {floatText : ℚ → List Char} {r s : RunSnapshotRecord}

/-- What `__post_init__` returns, and what it has checked. -/
theorem postInit_ok (h : r.postInit sha256 floatText = .ok s) :
    r.missing = none ∧ ¬ (r.acceptedAt.any fun t => decide (t.offset ≠ 0)) = true ∧
      ∃ digest, contractDigest sha256 floatText r.ordered.canonicalPayload = .ok digest ∧
        s = r.ordered.hashed digest := by
  unfold RunSnapshotRecord.postInit at h
  split at h
  · cases h
  · rename_i hmissing
    split at h
    · cases h
    · rename_i hutc
      split at h
      · cases h
      · rename_i digest hdigest
        split at h
        · cases h
        · cases h
          exact ⟨hmissing, hutc, digest, hdigest, rfl⟩

/-- **Sealing a sealed record again** changes nothing. -/
theorem postInit_sealed (h : r.postInit sha256 floatText = .ok s) :
    s.postInit sha256 floatText = .ok s := by
  obtain ⟨hmissing, hutc, digest, hdigest, rfl⟩ := postInit_ok h
  have hmissing' : (r.ordered.hashed digest).missing = none := (missing_ordered r).trans hmissing
  have hutc' : ¬ ((r.ordered.hashed digest).acceptedAt.any fun t => decide (t.offset ≠ 0)) = true :=
    hutc
  have hordered : (r.ordered.hashed digest).ordered = r.ordered.hashed digest :=
    congrArg (fun record => record.hashed digest) (ordered_ordered r)
  unfold RunSnapshotRecord.postInit
  rw [hmissing']
  simp only
  rw [if_neg hutc', hordered, canonicalPayload_hashed, hdigest]
  simp only
  rw [if_neg (fun hne => hne.2 rfl)]
  rfl

/-- The hash of a sealed record is the digest of its payload. -/
theorem digest_sealed (h : r.postInit sha256 floatText = .ok s) :
    contractDigest sha256 floatText s.canonicalPayload =
      .ok (s.canonicalHashAlgorithm, s.canonicalHashSchemaVersion, s.canonicalHash) := by
  obtain ⟨-, -, digest, hdigest, rfl⟩ := postInit_ok h
  rw [canonicalPayload_hashed]
  exact hdigest

end Sealed

/-! ## Sealed snapshots -/

/-- `RunSnapshotV1`: an object that was built, which is sealed. -/
structure RunSnapshotV1 (sha256 : ByteArray → String) (floatText : ℚ → List Char) extends
    RunSnapshotRecord where
  isSealed : toRunSnapshotRecord.postInit sha256 floatText = .ok toRunSnapshotRecord

/-- Building a snapshot. -/
def RunSnapshotRecord.build (sha256 : ByteArray → String) (floatText : ℚ → List Char)
    (r : RunSnapshotRecord) : Except String (RunSnapshotV1 sha256 floatText) :=
  match h : r.postInit sha256 floatText with
  | .error message => .error message
  | .ok s => .ok ⟨s, postInit_sealed h⟩

theorem RunSnapshotV1.build_record {sha256 : ByteArray → String} {floatText : ℚ → List Char}
    (s : RunSnapshotV1 sha256 floatText) :
    s.toRunSnapshotRecord.build sha256 floatText = .ok s := by
  unfold RunSnapshotRecord.build
  split
  · rename_i message hinit
    rw [s.isSealed] at hinit
    cases hinit
  · rename_i record hinit
    rw [s.isSealed] at hinit
    cases hinit
    rfl

end ShiftMind.Snapshot
