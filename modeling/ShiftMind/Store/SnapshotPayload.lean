import ShiftMind.Contracts.RunSnapshot
import ShiftMind.Library.Codec

/-!
# ShiftMind — stored run snapshots

`application/use_cases/create_run_snapshot.py` and the two functions of
`adapters/postgres/schedule_run.py` that write a snapshot into a JSON column and load it again for
its run.

* **`snapshotAdapter`** — the type adapter of a snapshot and of all that is nested in it.
* **`createRunSnapshot`**, **`createQueuedRun`**, **`loadSnapshot`** — the functions of the source.
* **`created_snapshot_loads`** — every snapshot that was created is loaded as it was created.
-/

namespace ShiftMind.Snapshot

open Activity

/-! ## Type adapters -/

section Adapters

variable {A : Type}

def uuidField : Codec Binary64 Uuid128 := .text Uuid128.str Uuid128.ofStr Uuid128.ofStr_str

def datetimeField : Codec Binary64 DateTime :=
  .text (fun t => String.ofList t.rfc3339) (fun text => DateTime.fromisoformat text.toList)
    (fun t => by rw [String.toList_ofList, DateTime.fromisoformat_rfc3339])

def floatField : Codec Binary64 Binary64 := .float fun n => .ofRat n

def kindField : Codec Binary64 DraftConstraintKind :=
  .enumeration [.setMinWorkersPerTask, .scaleDemand, .lockWorkerShift, .excludeWorkerFromTask,
    .setMaxHours] DraftConstraintKind.value (by intro kind; cases kind <;> rfl)

def groupField : Codec Binary64 EvidenceGroup :=
  .enumeration [.workAreasAndTasks, .workers, .demand, .baselineAssignments, .locks,
    .constraintsAndObjectives] EvidenceGroup.value (by intro group; cases group <;> rfl)

/-- A member of type `T | None`, whose default is `None`. -/
def optionalMember (name : String) (c : Codec Binary64 A) (hsolid : ∀ a, c.dump a ≠ .null) :
    Fields Binary64 (Option A) :=
  .one name (c.optional hsolid) (some none)

def optionalText (name : String) : Fields Binary64 (Option String) :=
  optionalMember name .string Codec.string_solid

def optionalInt (name : String) : Fields Binary64 (Option Int) :=
  optionalMember name .int (by intro n; nofun)

def optionalFloat (name : String) : Fields Binary64 (Option Binary64) :=
  optionalMember name floatField (by intro x; nofun)

def optionalUuid (name : String) : Fields Binary64 (Option Uuid128) :=
  optionalMember name uuidField (by intro u; nofun)

/-- A member that must be there. -/
def requiredText (name : String) : Fields Binary64 String := .one name .string none

/-- A member of type `T | None` that must be there. -/
def requiredOptionalText (name : String) : Fields Binary64 (Option String) :=
  .one name (.optional .string Codec.string_solid) none

def textMember (name default : String) : Fields Binary64 String := .one name .string (some default)

def lockAdapter : Codec Binary64 LockV1 :=
  .record
    (.both (requiredText "record_id") (.both (requiredText "target_type")
      (.both (requiredText "target_ref") (.both (requiredText "scope") (requiredText "source")))))
    (fun l => (l.recordId, l.targetType, l.targetRef, l.scope, l.source))
    (fun (recordId, targetType, targetRef, scope, source) =>
      some ⟨recordId, targetType, targetRef, scope, source⟩)
    (fun _ => rfl)

def constraintAdapter : Codec Binary64 ConstraintV1 :=
  .record
    (.both (requiredText "record_id") (.both (requiredText "constraint_type")
      (.both (requiredText "value") (requiredOptionalText "value_type"))))
    (fun c => (c.recordId, c.constraintType, c.value, c.valueType))
    (fun (recordId, constraintType, value, valueType) =>
      some ⟨recordId, constraintType, value, valueType⟩)
    (fun _ => rfl)

def entityAdapter : Codec Binary64 ResolvedEntityV1 :=
  .record
    (.both (.one "group" groupField (some .workAreasAndTasks))
      (.both (textMember "record_id" "") (.both (textMember "label" "")
        (.both (optionalUuid "scenario_version_id")
          (textMember "schema_version" schemaVersion)))))
    (fun e => (e.group, e.recordId, e.label, e.scenarioVersionId, e.schemaVersion))
    (fun (group, recordId, label, scenarioVersionId, schemaVersion) =>
      some ⟨group, recordId, label, scenarioVersionId, schemaVersion⟩)
    (fun _ => rfl)

def draftConstraintAdapter : Codec Binary64 DraftConstraintV1 :=
  .record
    (.both (.one "kind" kindField (some .setMinWorkersPerTask))
      (.both (.one "resolved_entities" (.list entityAdapter) (some []))
        (.both (optionalInt "n") (.both (optionalFloat "factor") (.both (optionalFloat "max_hours")
          (.both (optionalInt "start_minute") (.both (optionalInt "end_minute")
            (.both (textMember "description" "") (textMember "schema_version" schemaVersion)))))))))
    (fun c => (c.kind, c.resolvedEntities, c.n, c.factor, c.maxHours, c.startMinute, c.endMinute,
      c.description, c.schemaVersion))
    (fun (kind, resolvedEntities, n, factor, maxHours, startMinute, endMinute, description,
        schemaVersion) =>
      some ⟨kind, resolvedEntities, n, factor, maxHours, startMinute, endMinute, description,
        schemaVersion⟩)
    (fun _ => rfl)

def evidenceRefAdapter : Codec Binary64 EvidenceRefV1 :=
  .record
    (.both (.one "scenario_version_id" uuidField none)
      (.both (requiredText "checksum_algorithm") (.both (requiredText "checksum_schema_version")
        (.both (requiredText "checksum_digest")
          (.both (requiredOptionalText "producing_run_version")
          (.both (requiredOptionalText "baseline_schedule_version")
            (.both (.one "group" groupField none) (.both (requiredText "record_id")
              (.both (optionalText "field") (.both (optionalInt "start_minute")
                (.both (optionalInt "end_minute")
                  (textMember "schema_version" schemaVersion))))))))))))
    (fun e => (e.scenarioVersionId, e.checksumAlgorithm, e.checksumSchemaVersion, e.checksumDigest,
      e.producingRunVersion, e.baselineScheduleVersion, e.group, e.recordId, e.field, e.startMinute,
      e.endMinute, e.schemaVersion))
    (fun (scenarioVersionId, checksumAlgorithm, checksumSchemaVersion, checksumDigest,
        producingRunVersion, baselineScheduleVersion, group, recordId, field, startMinute,
        endMinute, schemaVersion) =>
      some ⟨scenarioVersionId, checksumAlgorithm, checksumSchemaVersion, checksumDigest,
        producingRunVersion, baselineScheduleVersion, group, recordId, field, startMinute,
        endMinute, schemaVersion⟩)
    (fun _ => rfl)

def solverConfigAdapter : Codec Binary64 GovernedSolverConfigV1 :=
  .record
    (.both (textMember "engine_name" "cpsat") (.both (.one "seed" .int (some 42))
      (.both (.one "num_search_workers" .int (some 1))
        (.both (.one "max_deterministic_time" floatField (some (.finite 30)))
          (.both (.one "wall_time_limit_seconds" floatField (some (.finite 30)))
            (textMember "schema_version" schemaVersion))))))
    (fun c => (c.engineName, c.seed, c.numSearchWorkers, c.maxDeterministicTime,
      c.wallTimeLimitSeconds, c.schemaVersion))
    (fun (engineName, seed, numSearchWorkers, maxDeterministicTime, wallTimeLimitSeconds,
        schemaVersion) =>
      (SolverConfigRecord.build ⟨engineName, seed, numSearchWorkers, maxDeterministicTime,
        wallTimeLimitSeconds, schemaVersion⟩).toOption)
    (fun config => congrArg Except.toOption config.build_record)

variable (sha256 : ByteArray → String) (floatText : ℚ → List Char)

/-- The members of a snapshot, in the order of its fields. -/
def snapshotMembers :=
  Fields.both (optionalUuid "snapshot_id") <| Fields.both (optionalUuid "schedule_run_id") <|
  Fields.both (optionalUuid "scenario_id") <| Fields.both (optionalUuid "scenario_version_id") <|
  Fields.both (textMember "checksum_algorithm" "") <|
  Fields.both (textMember "checksum_schema_version" "") <|
  Fields.both (textMember "checksum_digest" "") <|
  Fields.both (optionalText "baseline_schedule_version") <|
  Fields.both (optionalUuid "proposal_id") <| Fields.both (optionalUuid "proposal_version_id") <|
  Fields.both (.one "proposal_resource_version" .int (some 0)) <|
  Fields.both (.one "preserved_locks" (.list lockAdapter) (some [])) <|
  Fields.both (.one "constraints" (.list draftConstraintAdapter) (some [])) <|
  Fields.both (.one "objectives" (.list constraintAdapter) (some [])) <|
  Fields.both (optionalMember "solver_config" solverConfigAdapter (by intro config; nofun)) <|
  Fields.both (.one "component_versions" (.list (.pair .string .string)) (some [])) <|
  Fields.both (optionalMember "accepted_at" datetimeField (by intro t; nofun)) <|
  Fields.both (.one "input_evidence_refs" (.list evidenceRefAdapter) (some [])) <|
  Fields.both (textMember "canonical_hash" "") <|
  Fields.both (textMember "canonical_hash_algorithm" "sha256") <|
  Fields.both (textMember "canonical_hash_schema_version" "rfc8785-v1")
    (textMember "schema_version" schemaVersion)

/-- `TypeAdapter(RunSnapshotV1)`: what was read is built, so it is sealed again. -/
def snapshotAdapter : Codec Binary64 (RunSnapshotV1 sha256 floatText) :=
  .record snapshotMembers
    (fun s => (s.snapshotId, s.scheduleRunId, s.scenarioId, s.scenarioVersionId,
      s.checksumAlgorithm, s.checksumSchemaVersion, s.checksumDigest, s.baselineScheduleVersion,
      s.proposalId, s.proposalVersionId, s.proposalResourceVersion, s.preservedLocks, s.constraints,
      s.objectives, s.solverConfig, s.componentVersions, s.acceptedAt, s.inputEvidenceRefs,
      s.canonicalHash, s.canonicalHashAlgorithm, s.canonicalHashSchemaVersion, s.schemaVersion))
    (fun (snapshotId, scheduleRunId, scenarioId, scenarioVersionId, checksumAlgorithm,
        checksumSchemaVersion, checksumDigest, baselineScheduleVersion, proposalId,
        proposalVersionId, proposalResourceVersion, preservedLocks, constraints, objectives,
        solverConfig, componentVersions, acceptedAt, inputEvidenceRefs, canonicalHash,
        canonicalHashAlgorithm, canonicalHashSchemaVersion, schemaVersion) =>
      (RunSnapshotRecord.build sha256 floatText
        ⟨snapshotId, scheduleRunId, scenarioId, scenarioVersionId, checksumAlgorithm,
          checksumSchemaVersion, checksumDigest, baselineScheduleVersion, proposalId,
          proposalVersionId, proposalResourceVersion, preservedLocks, constraints, objectives,
          solverConfig, componentVersions, acceptedAt, inputEvidenceRefs, canonicalHash,
          canonicalHashAlgorithm, canonicalHashSchemaVersion, schemaVersion⟩).toOption)
    (fun s => congrArg Except.toOption s.build_record)

end Adapters

/-! ## Creating a snapshot -/

/-- What of `ProposalV1` a snapshot is made of. -/
structure ProposalV1 where
  proposalId : Option Uuid128
  proposalVersionId : Option Uuid128
  scenarioId : Option Uuid128
  scenarioVersionId : Option Uuid128
  expectedBaselineScheduleVersion : Option String
  resolvedEntities : List ResolvedEntityV1
  constraints : List DraftConstraintV1
  preservedLocks : List LockV1
  state : ProposalState
  resourceVersion : Int

/-- `ScenarioContext`. -/
structure ScenarioContext where
  scenarioVersionId : Uuid128
  checksumAlgorithm : String
  checksumSchemaVersion : String
  checksumDigest : String
  siteId : Uuid128
  baselineScheduleVersion : Option String

/-- The settings of the solver. -/
structure SolverSettings where
  solverEngineName : String
  solverSeed : Int
  solverNumSearchWorkers : Int
  solverMaxDeterministicTime : Binary64
  solverWallTimeLimitSeconds : Binary64

/-- What `create_run_snapshot` reads: the current proposal, its scenario, the settings, the version
of the solver's package, two fresh ids and the clock. -/
structure CreateRequest where
  proposal : Option ProposalV1
  catalogue : Uuid128 → Option ScenarioContext
  settings : SolverSettings
  ortools : String
  snapshotId : Uuid128
  scheduleRunId : Uuid128
  clock : DateTime

inductive SnapshotError where
  | creation (code message : String)
  | valueError (message : String)
  | assertionError
  | integrityError (name : String)
  | validationError
  | multipleResultsFound
  deriving DecidableEq, Repr

/-- `_input_evidence`. -/
def inputEvidence (proposal : ProposalV1) (context : ScenarioContext) : List EvidenceRefV1 :=
  let reference (group : EvidenceGroup) (recordId : String) : EvidenceRefV1 :=
    { scenarioVersionId := context.scenarioVersionId
      checksumAlgorithm := context.checksumAlgorithm
      checksumSchemaVersion := context.checksumSchemaVersion
      checksumDigest := context.checksumDigest
      producingRunVersion := none
      baselineScheduleVersion := context.baselineScheduleVersion
      group := group
      recordId := recordId }
  (proposal.resolvedEntities.map fun entity => reference entity.group entity.recordId) ++
    proposal.preservedLocks.map fun lock => reference .locks lock.recordId

/-- The solver's ceilings, from the settings. -/
def SolverSettings.config (settings : SolverSettings) : SolverConfigRecord where
  engineName := settings.solverEngineName
  seed := settings.solverSeed
  numSearchWorkers := settings.solverNumSearchWorkers
  maxDeterministicTime := settings.solverMaxDeterministicTime
  wallTimeLimitSeconds := settings.solverWallTimeLimitSeconds

/-- The arguments that `create_run_snapshot` passes to the constructor. -/
def CreateRequest.record (request : CreateRequest) (proposal : ProposalV1) (scenarioId : Uuid128)
    (context : ScenarioContext) (config : GovernedSolverConfigV1) : RunSnapshotRecord where
  snapshotId := some request.snapshotId
  scheduleRunId := some request.scheduleRunId
  scenarioId := some scenarioId
  scenarioVersionId := some context.scenarioVersionId
  checksumAlgorithm := context.checksumAlgorithm
  checksumSchemaVersion := context.checksumSchemaVersion
  checksumDigest := context.checksumDigest
  baselineScheduleVersion := context.baselineScheduleVersion
  proposalId := proposal.proposalId
  proposalVersionId := proposal.proposalVersionId
  proposalResourceVersion := proposal.resourceVersion
  preservedLocks := proposal.preservedLocks
  constraints := proposal.constraints
  objectives := []
  solverConfig := some config
  componentVersions :=
    [("application", "1"), ("contract", schemaVersion), ("ortools", request.ortools)]
  acceptedAt := some request.clock
  inputEvidenceRefs := inputEvidence proposal context

section Create

variable (sha256 : ByteArray → String) (floatText : ℚ → List Char)

/-- The snapshot of a proposal whose scenario was read. -/
def CreateRequest.freeze (request : CreateRequest) (proposal : ProposalV1) (scenarioId : Uuid128)
    (context : ScenarioContext) : Except SnapshotError (RunSnapshotV1 sha256 floatText × Uuid128) :=
  if proposal.scenarioVersionId ≠ some context.scenarioVersionId ∨
      proposal.expectedBaselineScheduleVersion ≠ context.baselineScheduleVersion then
    .error (.creation "stale_proposal" "proposal is stale; silent rebasing is forbidden")
  else if proposal.proposalId = none ∨ proposal.proposalVersionId = none then
    .error (.creation "invalid_proposal" "proposal does not carry durable version identifiers")
  else
    match request.settings.config.build with
    | .error message => .error (.valueError message)
    | .ok config =>
      match (request.record proposal scenarioId context config).build sha256 floatText with
      | .error message => .error (.valueError message)
      | .ok snapshot => .ok (snapshot, context.siteId)

/-- `create_run_snapshot`, up to the call of the repository: the snapshot and its site. -/
def createRunSnapshot (request : CreateRequest) :
    Except SnapshotError (RunSnapshotV1 sha256 floatText × Uuid128) :=
  match request.proposal with
  | none => .error (.creation "proposal_not_found" "proposal was not found")
  | some proposal =>
    match proposal.state with
    | .rejected =>
      .error (.creation "rejected_proposal" "a rejected proposal cannot be scheduled")
    | .applied => .error (.creation "applied_proposal" "an applied proposal cannot be scheduled")
    | .active =>
      match proposal.scenarioId with
      | none =>
        .error (.creation "invalid_proposal" "proposal does not carry a governed scenario")
      | some scenarioId =>
        match request.catalogue scenarioId with
        | none =>
          .error (.creation "scenario_unavailable" "the governed scenario could not be read")
        | some context => request.freeze sha256 floatText proposal scenarioId context

end Create

/-! ## The store -/

/-- A row of `run_snapshot`. -/
structure RunSnapshotRow where
  id : Uuid128
  siteId : Uuid128
  payload : Json Binary64
  canonicalHash : String
  checksumAlgorithm : String
  checksumSchemaVersion : String

/-- What a row of `schedule_run` says of its snapshot. -/
structure ScheduleRunRow where
  id : Uuid128
  siteId : Uuid128
  runSnapshotId : Uuid128

structure SnapshotStore where
  runSnapshots : List RunSnapshotRow := []
  scheduleRuns : List ScheduleRunRow := []

section Store

-- what a JSON column gives back for what was written into it
variable {sha256 : ByteArray → String} {floatText : ℚ → List Char}
  (column : Json Binary64 → Json Binary64)

/-- The row of a snapshot. -/
def snapshotRow (snapshot : RunSnapshotV1 sha256 floatText) (siteId snapshotId : Uuid128) :
    RunSnapshotRow where
  id := snapshotId
  siteId := siteId
  payload := column ((snapshotAdapter sha256 floatText).dump snapshot)
  canonicalHash := snapshot.canonicalHash
  checksumAlgorithm := snapshot.canonicalHashAlgorithm
  checksumSchemaVersion := snapshot.canonicalHashSchemaVersion

/-- `create_queued_run`, of the two tables that a snapshot is loaded from. -/
def createQueuedRun (store : SnapshotStore) (snapshot : RunSnapshotV1 sha256 floatText)
    (siteId : Uuid128) : Except SnapshotError SnapshotStore :=
  match snapshot.snapshotId, snapshot.scheduleRunId with
  | some snapshotId, some runId =>
    if snapshotId ∈ store.runSnapshots.map RunSnapshotRow.id then
      .error (.integrityError "run_snapshot_pkey")
    else if runId ∈ store.scheduleRuns.map ScheduleRunRow.id then
      .error (.integrityError "schedule_run_pkey")
    else .ok
      { runSnapshots := store.runSnapshots ++ [snapshotRow column snapshot siteId snapshotId]
        scheduleRuns := store.scheduleRuns ++ [⟨runId, siteId, snapshotId⟩] }
  | _, _ => .error .assertionError

/-- The payloads that the join of `load_snapshot` selects. -/
def SnapshotStore.payloads (store : SnapshotStore) (runId siteId : Uuid128) :
    List (Json Binary64) :=
  (store.scheduleRuns.filter fun run => decide (run.id = runId ∧ run.siteId = siteId)).flatMap
    fun run => (store.runSnapshots.filter fun row =>
      decide (row.id = run.runSnapshotId ∧ row.siteId = run.siteId)).map RunSnapshotRow.payload

variable (sha256 floatText)

/-- `load_snapshot`. -/
def loadSnapshot (store : SnapshotStore) (runId siteId : Uuid128) :
    Except SnapshotError (Option (RunSnapshotV1 sha256 floatText)) :=
  match store.payloads runId siteId with
  | [] => .ok none
  | [payload] =>
    match (snapshotAdapter sha256 floatText).validate payload with
    | some snapshot => .ok (some snapshot)
    | none => .error .validationError
  | _ => .error .multipleResultsFound

/-- A store, and the snapshots that were created in it, each with its site. -/
structure Creations where
  store : SnapshotStore := {}
  created : List (RunSnapshotV1 sha256 floatText × Uuid128) := []

variable {sha256 floatText}

/-- One creation; one that fails is rolled back. -/
def Creations.step (creations : Creations sha256 floatText) (request : CreateRequest) :
    Creations sha256 floatText :=
  match createRunSnapshot sha256 floatText request with
  | .error _ => creations
  | .ok (snapshot, siteId) =>
    match createQueuedRun column creations.store snapshot siteId with
    | .error _ => creations
    | .ok store => ⟨store, creations.created ++ [(snapshot, siteId)]⟩

variable (sha256 floatText)

/-- The creations of a list of requests. -/
def createAll (requests : List CreateRequest) : Creations sha256 floatText :=
  requests.foldl (Creations.step column) {}

end Store

/-! ## What is stored is loaded

The row of a snapshot gives back the record that made it. -/

section Stored

variable {sha256 : ByteArray → String} {floatText : ℚ → List Char}
  {column : Json Binary64 → Json Binary64}

/-- **Every snapshot created has its rows**, and the ids of the rows are different. -/
structure Stored (column : Json Binary64 → Json Binary64) (creations : Creations sha256 floatText) :
    Prop where
  snapshotIds : (creations.store.runSnapshots.map RunSnapshotRow.id).Nodup
  runIds : (creations.store.scheduleRuns.map ScheduleRunRow.id).Nodup
  rows : ∀ created ∈ creations.created, ∃ snapshotId runId,
    created.1.snapshotId = some snapshotId ∧ created.1.scheduleRunId = some runId ∧
      snapshotRow column created.1 created.2 snapshotId ∈ creations.store.runSnapshots ∧
      (⟨runId, created.2, snapshotId⟩ : ScheduleRunRow) ∈ creations.store.scheduleRuns

/-- A row with a new id keeps the ids different. -/
theorem nodup_ids_concat {R : Type} {id : R → Uuid128} {rows : List R} {row : R}
    (h : (rows.map id).Nodup) (hnew : id row ∉ rows.map id) : ((rows ++ [row]).map id).Nodup := by
  rw [List.map_append, List.map_singleton]
  apply List.nodup_append.mpr
  refine ⟨h, List.nodup_singleton _, fun a ha b hb heq => hnew ?_⟩
  rw [← List.mem_singleton.mp hb, ← heq]
  exact ha

/-- One creation keeps that. -/
theorem Stored.step {creations : Creations sha256 floatText} (h : Stored column creations)
    (request : CreateRequest) : Stored column (creations.step column request) := by
  unfold Creations.step
  split
  · exact h
  · rename_i snapshot siteId hcreated
    -- a refused insert leaves the tables as they were
    cases hstore : createQueuedRun column creations.store snapshot siteId with
    | error e => exact h
    | ok store =>
      unfold createQueuedRun at hstore
      split at hstore
      · rename_i snapshotId runId hsnapshotId hrunId
        split at hstore
        · cases hstore
        · rename_i hnewSnapshot
          split at hstore
          · cases hstore
          · rename_i hnewRun
            cases hstore
            -- both ids were fresh
            constructor
            · exact nodup_ids_concat h.snapshotIds hnewSnapshot
            · exact nodup_ids_concat h.runIds hnewRun
            · intro created hmem
              -- the older creations keep their rows; the new one has the two just inserted
              rcases List.mem_append.mp hmem with hold | hnew
              · obtain ⟨id, run, hid, hrun, hrow, hrunRow⟩ := h.rows created hold
                exact ⟨id, run, hid, hrun, List.mem_append_left _ hrow,
                  List.mem_append_left _ hrunRow⟩
              · rw [List.mem_singleton.mp hnew]
                exact ⟨snapshotId, runId, hsnapshotId, hrunId,
                  List.mem_append_right _ (List.mem_singleton_self _),
                  List.mem_append_right _ (List.mem_singleton_self _)⟩
      · cases hstore

/-- The creations of a list of requests keep it. -/
theorem Stored.foldl {creations : Creations sha256 floatText} (h : Stored column creations)
    (requests : List CreateRequest) :
    Stored column (requests.foldl (Creations.step column) creations) := by
  induction requests generalizing creations with
  | nil => exact h
  | cons request requests ih =>
    rw [List.foldl_cons]
    exact ih (h.step request)

theorem Stored.nil : Stored column ({} : Creations sha256 floatText) where
  snapshotIds := List.nodup_nil
  runIds := List.nodup_nil
  rows _ hmem := absurd hmem List.not_mem_nil

theorem stored_createAll (requests : List CreateRequest) :
    Stored column (createAll sha256 floatText column requests) := Stored.nil.foldl requests

/-- Of rows with different ids, one alone has a given id. -/
theorem filter_of_id {R : Type} {id : R → Uuid128} {rows : List R} (hids : (rows.map id).Nodup)
    {row : R} (hmem : row ∈ rows) {p : R → Bool} (hp : p row = true)
    (hid : ∀ other, p other = true → id other = id row) : rows.filter p = [row] := by
  have hnodup : rows.Nodup := hids.of_map
  have hperm : (rows.filter p).Perm [row] := by
    rw [List.perm_ext_iff_of_nodup (hnodup.filter p) (List.nodup_singleton row)]
    intro other
    rw [List.mem_filter, List.mem_singleton]
    constructor
    · intro hother
      exact List.inj_on_of_nodup_map hids hother.1 hmem (hid other hother.2)
    · intro heq
      rw [heq]
      exact ⟨hmem, hp⟩
  exact List.perm_singleton.mp hperm

/-- The run of a created snapshot selects its payload. -/
theorem payloads_of_stored {creations : Creations sha256 floatText} (h : Stored column creations)
    {created : RunSnapshotV1 sha256 floatText × Uuid128} (hmem : created ∈ creations.created) :
    ∃ snapshotId runId, created.1.scheduleRunId = some runId ∧
      snapshotRow column created.1 created.2 snapshotId ∈ creations.store.runSnapshots ∧
      created.1.snapshotId = some snapshotId ∧
      creations.store.payloads runId created.2 =
        [column ((snapshotAdapter sha256 floatText).dump created.1)] := by
  obtain ⟨snapshotId, runId, hsnapshotId, hrunId, hrow, hrun⟩ := h.rows created hmem
  refine ⟨snapshotId, runId, hrunId, hrow, hsnapshotId, ?_⟩
  unfold SnapshotStore.payloads
  rw [filter_of_id h.runIds hrun (decide_eq_true ⟨rfl, rfl⟩)
    fun other hother => (of_decide_eq_true hother).1, List.flatMap_singleton]
  rw [filter_of_id h.snapshotIds hrow (decide_eq_true ⟨rfl, rfl⟩)
    fun other hother => (of_decide_eq_true hother).1]
  rfl

end Stored

/-- **A snapshot survives its storage.** Whatever snapshots are created, each is loaded for its run
as it was created, and the digest of its payload is the one stored beside it. -/
theorem created_snapshot_loads (sha256 : ByteArray → String) (floatText : ℚ → List Char)
    (column : Json Binary64 → Json Binary64) (requests : List CreateRequest)
    (hcolumn : ∀ created ∈ (createAll sha256 floatText column requests).created,
      ((snapshotAdapter sha256 floatText).dump created.1).same
        (column ((snapshotAdapter sha256 floatText).dump created.1)) = true)
    (created : RunSnapshotV1 sha256 floatText × Uuid128)
    (hmem : created ∈ (createAll sha256 floatText column requests).created) :
    ∃ runId, created.1.scheduleRunId = some runId ∧
      loadSnapshot sha256 floatText (createAll sha256 floatText column requests).store runId
        created.2 = .ok (some created.1) ∧
      ∃ row ∈ (createAll sha256 floatText column requests).store.runSnapshots,
        created.1.snapshotId = some row.id ∧
        contractDigest sha256 floatText created.1.canonicalPayload =
          .ok (row.checksumAlgorithm, row.checksumSchemaVersion, row.canonicalHash) := by
  obtain ⟨snapshotId, runId, hrunId, hrow, hsnapshotId, hpayloads⟩ :=
    payloads_of_stored (stored_createAll requests) hmem
  refine ⟨runId, hrunId, ?_, _, hrow, hsnapshotId, digest_sealed created.1.isSealed⟩
  have hread := (snapshotAdapter sha256 floatText).reads (hcolumn created hmem)
  unfold loadSnapshot
  rw [hpayloads]
  simp only
  rw [hread]

namespace Created

def picking : ResolvedEntityV1 where
  recordId := "pick"
  label := "Picking"
  scenarioVersionId := some 2

def proposal : ProposalV1 where
  proposalId := some 3
  proposalVersionId := some 4
  scenarioId := some 1
  scenarioVersionId := some 2
  expectedBaselineScheduleVersion := none
  resolvedEntities := [picking]
  constraints :=
    [{ kind := .scaleDemand
       resolvedEntities := [picking]
       factor := some (.finite 2)
       description := "Demand for Picking is doubled." }]
  preservedLocks := []
  state := .active
  resourceVersion := 1

def context : ScenarioContext where
  scenarioVersionId := 2
  checksumAlgorithm := "sha256"
  checksumSchemaVersion := "rfc8785-v1"
  checksumDigest := "00"
  siteId := 9
  baselineScheduleVersion := none

def request : CreateRequest where
  proposal := some proposal
  catalogue := fun _ => some context
  settings := ⟨"cpsat", 42, 1, .finite 30, .finite 30⟩
  ortools := "9.10"
  snapshotId := 5
  scheduleRunId := 6
  clock := ⟨⟨2026, 7, 1, 8, 30, 0, 250, 0⟩, by decide⟩

/-- The digest of the one payload. -/
def sha256 (_ : ByteArray) : String :=
  "0710d5986800ee9ac86884e44fcd73c7cd475527de0e14dfa3ab4412981f2270"

/-- The text of a whole number. -/
def floatText (q : ℚ) : List Char := Json.intText q.num

/-- A column that keeps the members of an object in the order of their lengths, then of their
texts. -/
def column : Json Binary64 → Json Binary64 :=
  Json.sorted fun name => toLex (name.utf8ByteSize, name)

end Created

open Created in
theorem created_snapshot_loads_one : ∃ runId created,
    (createAll sha256 floatText column [request]).created = [created] ∧
      created.1.scheduleRunId = some runId ∧ created.1.canonicalHash = sha256 .empty ∧
      loadSnapshot sha256 floatText (createAll sha256 floatText column [request]).store runId
        created.2 = .ok (some created.1) := by
  have hrun : (createAll sha256 floatText column [request]).created.length = 1 ∧
      ∀ created ∈ (createAll sha256 floatText column [request]).created,
        created.1.canonicalHash = sha256 .empty ∧
        ((snapshotAdapter sha256 floatText).dump created.1).same
          (column ((snapshotAdapter sha256 floatText).dump created.1)) = true := by
    decide +kernel
  obtain ⟨created, hcreated⟩ := List.length_eq_one_iff.mp hrun.1
  have hmem : created ∈ (createAll sha256 floatText column [request]).created := by
    rw [hcreated]
    exact List.mem_singleton_self _
  obtain ⟨runId, hrunId, hload, -⟩ := created_snapshot_loads sha256 floatText column [request]
    (fun created hmem => (hrun.2 created hmem).2) created hmem
  exact ⟨runId, created, hcreated, hrunId, (hrun.2 created hmem).1, hload⟩

end ShiftMind.Snapshot
