import ShiftMind.Store.Proposal

/-!
# ShiftMind — enqueueing a computation

`application/use_cases/create_run_snapshot.py` and `application/use_cases/enqueue_compute.py`: one
transaction freezes the accepted proposal into a snapshot, opens its queued run, adds the job and
stores the replay receipt.
-/

namespace ShiftMind

open Transactional ScheduleRunRepository

/-- `ScenarioContext`: what the scenario catalogue reports of the governed version. -/
structure ScenarioContext where
  scenarioId : Uuid
  scenarioVersionId : Uuid
  checksumAlgorithm : String
  checksumSchemaVersion : String
  checksumDigest : String
  siteId : Uuid
  baselineScheduleVersion : Option String
  deriving DecidableEq, Repr

/-- The catalogue as one transaction reads it. -/
abbrev ScenarioCatalogue := Uuid → Option ScenarioContext

/-- A version of the scenario, among the rows of the site. -/
def isVersionOf (scenarioId siteId : Uuid) (v : ScenarioVersionRow) : Bool :=
  decide (v.scenarioId = scenarioId) && decide (v.siteId = siteId)

/-- What `get_scenario_context` and `get_overview` report of a version: its row, and the baseline of
the site at the moment. -/
def scenarioContext (db : Db) (v : ScenarioVersionRow) : ScenarioContext where
  scenarioId := v.scenarioId
  scenarioVersionId := v.id
  checksumAlgorithm := v.checksumAlgorithm
  checksumSchemaVersion := v.checksumSchemaVersion
  checksumDigest := v.checksumDigest
  siteId := v.siteId
  baselineScheduleVersion :=
    (db.siteBaseline.find? fun row => decide (row.siteId = v.siteId)).map fun row =>
      toString row.scheduleVersionId

/-- **The catalogue is read from these tables**, in a session of the site: a scenario is reported by
one of its versions (the newest by its ordinal, which nothing here depends on), and a scenario that
is not reported has none. -/
structure ScenarioCatalogue.ReadOf (catalogue : ScenarioCatalogue) (db : Db) (siteId : Uuid) :
    Prop where
  reported : ∀ scenarioId context, catalogue scenarioId = some context →
    ∃ v ∈ db.scenarioVersion, isVersionOf scenarioId siteId v = true ∧
      context = scenarioContext db v
  unreported : ∀ scenarioId, catalogue scenarioId = none →
    ∀ v ∈ db.scenarioVersion, isVersionOf scenarioId siteId v = false

/-! ## `create_run_snapshot` -/

/-- `_input_evidence`. -/
def inputEvidence (proposal : ProposalV1) (context : ScenarioContext) : List EvidenceRefV1 :=
  let reference (group : EvidenceGroup) (recordId : String) : EvidenceRefV1 :=
    { scenarioVersionId := context.scenarioVersionId
      checksumAlgorithm := context.checksumAlgorithm
      checksumSchemaVersion := context.checksumSchemaVersion
      checksumDigest := context.checksumDigest
      producingRunVersion := none
      baselineScheduleVersion := context.baselineScheduleVersion
      group := group
      recordId := recordId }
  (proposal.resolvedEntities.map fun entity => reference entity.group entity.recordId) ++
    proposal.preservedLocks.map fun lock => reference .locks lock.recordId

/-- `RunSnapshotV1.__post_init__`: the fields a snapshot may not lack. -/
def RunSnapshotV1.validated (snapshot : RunSnapshotV1) : Except PyError RunSnapshotV1 :=
  if snapshot.checksumAlgorithm = "" then .error (.valueError "checksum_algorithm is required")
  else if snapshot.checksumSchemaVersion = "" then
    .error (.valueError "checksum_schema_version is required")
  else if snapshot.checksumDigest = "" then .error (.valueError "checksum_digest is required")
  else if snapshot.proposalResourceVersion = 0 then
    .error (.valueError "proposal_resource_version is required")
  else .ok snapshot

/-- The snapshot of a validated proposal, refused when the proposal or the scenario moved. -/
def snapshotOf (env : Ambient) (catalogue : ScenarioCatalogue) (proposal : ProposalV1) :
    Except PyError (RunSnapshotV1 × Uuid) :=
  if proposal.state = .rejected then
    .error (.snapshotCreation "rejected_proposal" "a rejected proposal cannot be scheduled")
  else if proposal.state = .applied then
    .error (.snapshotCreation "applied_proposal" "an applied proposal cannot be scheduled")
  else match proposal.scenarioId with
    | none =>
      .error (.snapshotCreation "invalid_proposal" "proposal does not carry a governed scenario")
    | some scenarioId =>
      match catalogue scenarioId with
      | none => .error
          (.snapshotCreation "scenario_unavailable" "the governed scenario could not be read")
      | some context =>
        if proposal.scenarioVersionId ≠ some context.scenarioVersionId ∨
            proposal.expectedBaselineScheduleVersion ≠ context.baselineScheduleVersion then
          .error (.snapshotCreation "stale_proposal"
            "proposal is stale; silent rebasing is forbidden")
        else match proposal.proposalId, proposal.proposalVersionId with
          | some proposalId, some proposalVersionId => do
            let snapshot ← RunSnapshotV1.validated
              { snapshotId := env.uuid4 1
                scheduleRunId := env.uuid4 2
                scenarioId := scenarioId
                scenarioVersionId := context.scenarioVersionId
                checksumAlgorithm := context.checksumAlgorithm
                checksumSchemaVersion := context.checksumSchemaVersion
                checksumDigest := context.checksumDigest
                baselineScheduleVersion := context.baselineScheduleVersion
                proposalId := proposalId
                proposalVersionId := proposalVersionId
                proposalResourceVersion := proposal.resourceVersion
                preservedLocks := proposal.preservedLocks
                constraints := proposal.constraints
                acceptedAt := env.clock
                inputEvidenceRefs := inputEvidence proposal context }
            pure (snapshot, context.siteId)
          | _, _ => .error (.snapshotCreation "invalid_proposal"
              "proposal does not carry durable version identifiers")

def createRunSnapshot (env : Ambient) (catalogue : ScenarioCatalogue) (proposalId actorId : Uuid) :
    DbTx RunSnapshotV1 := do
  let record ← ProposalRepository.getCurrent proposalId
  match record with
  | none => throw (.snapshotCreation "proposal_not_found" "proposal was not found")
  | some record =>
    let (snapshot, siteId) ← Tx.lift (snapshotOf env catalogue record.proposal)
    createQueuedRun env snapshot siteId actorId
    pure snapshot

/-! ## `enqueue_compute` -/

structure EnqueueCommand where
  proposalId : Uuid
  siteId : Uuid
  actorId : Uuid
  expectedProposalResourceVersion : Int
  idempotencyKey : String
  capabilityVersion : String
  siteMaxConcurrentRuns : Nat
  deriving DecidableEq, Repr

namespace EnqueueCommand

def operation (cmd : EnqueueCommand) : String := s!"enqueue_compute:{cmd.proposalId}"

/-- `_body_hash`. -/
def bodyHash (env : Ambient) (cmd : EnqueueCommand) : String :=
  env.contractDigest
    [("proposal_id", .str (toString cmd.proposalId)),
      ("expected_proposal_resource_version", .int cmd.expectedProposalResourceVersion)]

end EnqueueCommand

/-- `NON_TERMINAL_RUN_STATUSES`. -/
def nonTerminalRunStatuses : List ScheduleRunStatus :=
  [.solverQueued, .solverRunning, .cancellationRequested]

/-- Replay a stored receipt. -/
def replayEnqueue (env : Ambient) (cmd : EnqueueCommand) (stored : CommandIdempotencyRow) :
    Except PyError EnqueueComputeResultV1 :=
  if stored.bodyHash ≠ cmd.bodyHash env then
    .error (.enqueueIdempotencyKeyConflict "idempotency key was already used with another body")
  else match stored.responsePayload with
    | .enqueued result => .ok result
    | _ => .error (.keyError "job_id")

/-- The refusals that come before the site's capacity is taken. -/
def admitEnqueue (cmd : EnqueueCommand) (proposal : ProposalV1) : Except PyError Unit :=
  if proposal.state = .rejected then
    .error (.snapshotCreation "rejected_proposal" "a rejected proposal cannot be scheduled")
  else if proposal.state = .applied then
    .error (.snapshotCreation "applied_proposal" "an applied proposal cannot be scheduled")
  else if proposal.resourceVersion ≠ cmd.expectedProposalResourceVersion then
    .error (.staleProposalResourceVersion cmd.expectedProposalResourceVersion
      proposal.resourceVersion)
  else .ok ()

/-- The snapshot, the queued run and its job, with the receipt, once capacity is free. -/
def createCompute (env : Ambient) (catalogue : ScenarioCatalogue) (cmd : EnqueueCommand) :
    DbTx EnqueueComputeResultV1 := do
  let snapshot ← createRunSnapshot env catalogue cmd.proposalId cmd.actorId
  let job : JobLeaseV1 :=
    { jobId := env.uuid4 3
      siteId := cmd.siteId
      actorId := cmd.actorId
      capabilityVersion := cmd.capabilityVersion
      scheduleRunId := snapshot.scheduleRunId
      idempotencyKey := cmd.idempotencyKey
      createdAt := env.clock }
  enqueueJob job cmd.siteId
  let result : EnqueueComputeResultV1 := ⟨snapshot.scheduleRunId, job.jobId⟩
  storeIdempotentResult cmd.siteId cmd.actorId cmd.operation cmd.idempotencyKey (cmd.bodyHash env)
    (.enqueued result)
  pure result

def enqueueCompute (env : Ambient) (catalogue : ScenarioCatalogue) (cmd : EnqueueCommand) :
    DbTx EnqueueComputeResultV1 := do
  let record ← ProposalRepository.getCurrent cmd.proposalId
  match record with
  | none => throw (.enqueueProposalNotFound "proposal was not found")
  | some record =>
    if cmd.idempotencyKey.length = 0 ∨ maxIdempotencyKeyLength < cmd.idempotencyKey.length then
      throw (.enqueueCompute
        ("idempotency_key must be 1.." ++ toString maxIdempotencyKeyLength ++ " characters"))
    else do
      let stored ← getIdempotentResult cmd.siteId cmd.actorId cmd.operation cmd.idempotencyKey
      match stored with
      -- a key that was used answers what it answered then
      | some stored => Tx.lift (replayEnqueue env cmd stored)
      | none => do
        Tx.lift (admitEnqueue cmd record.proposal)
        -- the per-site advisory lock is held from here to the end of the transaction
        let active ← countRunsWithStatuses cmd.siteId nonTerminalRunStatuses
        if cmd.siteMaxConcurrentRuns ≤ active then
          throw (.siteConcurrencyExhausted ("site has reached its limit of " ++
            toString cmd.siteMaxConcurrentRuns ++ " active runs"))
        else createCompute env catalogue cmd

end ShiftMind
