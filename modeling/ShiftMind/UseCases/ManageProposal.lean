import ShiftMind.Store.Proposal
import ShiftMind.UseCases.EnqueueCompute

/-!
# ShiftMind — revising and rejecting a draft

`application/use_cases/manage_proposal.py`: the two commands of a proposal card. Each locks the
proposal row, answers a repeated request from its receipt, and otherwise runs under its own guards
and stores the receipt with its writes.
-/

namespace ShiftMind

open Transactional ScheduleRunRepository ProposalRepository

/-- A refusal of a proposal command. -/
def refuseCommand {α : Type} (cls : ProposalCommandErrorClass) (message : String) :
    Except PyError α :=
  .error (.proposalCommand cls message)

/-- `_view`. -/
def proposalView (proposal : ProposalV1) (currentVersionId : Uuid) (versionOrdinal : Option Int)
    (endedBy : Option ProposalEndedBy := none) (appliedVersionOrdinal : Option Int := none) :
    ProposalViewV1 where
  proposal := proposal
  currentScenarioVersionId := currentVersionId
  stale := decide (proposal.scenarioVersionId ≠ some currentVersionId)
  versionOrdinal := versionOrdinal
  endedBy := endedBy
  appliedVersionOrdinal := appliedVersionOrdinal

/-- `_refuse_if_ended`. -/
def refuseIfEnded (proposal : ProposalV1) (action : String) : Except PyError Unit :=
  match proposal.state with
  | .rejected => refuseCommand .rejectedProposal ("a rejected proposal cannot be " ++ action)
  | .applied => refuseCommand .appliedProposal ("an applied proposal cannot be " ++ action)
  | .active => .ok ()

/-- `_replay_or_conflict`: a repeated request is told what the first one did, with its staleness
derived anew. -/
def replayOrConflict (stored : Option CommandIdempotencyRow) (bodyHash : String)
    (currentVersionId : Uuid) : Except PyError (Option ProposalViewV1) :=
  match stored with
  | none => .ok none
  | some stored =>
    if stored.bodyHash ≠ bodyHash then
      refuseCommand .idempotencyKeyConflict "idempotency key was already used with another body"
    else
      match stored.responsePayload with
      | .proposalView view => .ok (some (proposalView view.proposal currentVersionId
          view.versionOrdinal view.endedBy view.appliedVersionOrdinal))
      | _ => .error (.valueError "response_payload")

/-- `_current_for_command`: the locked draft, with the scenario version it is governed by. -/
def currentForCommand (catalogue : ScenarioCatalogue) (proposalId siteId : Uuid) :
    DbTx (Option (ProposalRecordV1 × ScenarioContext)) := do
  let record ← getCurrentForUpdate proposalId siteId
  match record with
  | none => pure none
  | some record =>
    match record.proposal.scenarioId with
    | none => pure none
    | some scenarioId =>
      match catalogue scenarioId with
      | none => Tx.lift (refuseCommand .projectionUnavailable
          "the proposal's scenario projection could not be read")
      | some overview => pure (some (record, overview))

/-- The receipt of a command that was just carried out. -/
def commandReceipt (siteId actorId : Uuid) (operation idempotencyKey bodyHash : String)
    (response : ProposalViewV1) : CommandReceipt :=
  ⟨siteId, actorId, operation, idempotencyKey, bodyHash, response⟩

/-! ## Revising -/

/-- What the resolver makes of the constraints of a revision: the constraints, their distinct
entities, the summary and the hash. -/
structure ResolvedRevision where
  constraints : List DraftConstraintV1
  resolvedEntities : List ResolvedEntityV1
  consequenceSummary : String
  canonicalHash : String
  deriving DecidableEq, Repr

/-- A revision as the route hands it over. Each untrusted constraint is its canonical JSON;
`maxConstraints` is the deployment's `scheduling_draft_max_constraints`, and `resolve` the resolver
on the draft's pinned scenario. -/
structure ReviseCommand where
  proposalId : Uuid
  siteId : Uuid
  actorId : Uuid
  constraints : List String
  maxConstraints : Nat
  expectedResourceVersion : Int
  idempotencyKey : String
  resolve : ProposalV1 → Except PyError ResolvedRevision

namespace ReviseCommand

def operation (cmd : ReviseCommand) : String := s!"revision:{cmd.proposalId}"

/-- `_body_hash`: the expected version is part of the command's identity. -/
def bodyHash (env : Ambient) (cmd : ReviseCommand) : String :=
  env.contractDigest
    [("expected_resource_version", .int cmd.expectedResourceVersion),
      ("constraints", .list cmd.constraints)]

end ReviseCommand

/-- The refusals of a revision that is not a repetition. -/
def admitRevision (cmd : ReviseCommand) (current : ProposalV1) (overview : ScenarioContext) :
    Except PyError ResolvedRevision := do
  refuseIfEnded current "revised"
  if current.scenarioVersionId ≠ some overview.scenarioVersionId then
    refuseCommand .staleProposal "proposal is stale against the governed scenario version"
  else if cmd.expectedResourceVersion ≠ current.resourceVersion then
    refuseCommand (.staleResourceVersion cmd.expectedResourceVersion current.resourceVersion)
      ("expected resource version " ++ toString cmd.expectedResourceVersion ++ "; current is " ++
        toString current.resourceVersion)
  else cmd.resolve current

/-- The next version of the draft. -/
def revisedProposal (env : Ambient) (current : ProposalV1) (resolved : ResolvedRevision) :
    ProposalV1 :=
  { current with
    proposalVersionId := some (env.uuid4 0)
    resolvedEntities := resolved.resolvedEntities
    constraints := resolved.constraints
    consequenceSummary := resolved.consequenceSummary
    canonicalHash := resolved.canonicalHash
    resourceVersion := current.resourceVersion + 1 }

/-- A revision of the locked draft. -/
def reviseCurrent (env : Ambient) (cmd : ReviseCommand) (record : ProposalRecordV1)
    (overview : ScenarioContext) : DbTx ProposalViewV1 := do
  let resolved ← Tx.lift (admitRevision cmd record.proposal overview)
  let revised := revisedProposal env record.proposal resolved
  let result := proposalView revised overview.scenarioVersionId (some (record.versionOrdinal + 1))
  appendRevision revised (record.versionOrdinal + 1)
    (commandReceipt cmd.siteId cmd.actorId cmd.operation cmd.idempotencyKey (cmd.bodyHash env)
      result)
  pure result

/-- `revise_proposal`. -/
def reviseProposal (env : Ambient) (catalogue : ScenarioCatalogue) (cmd : ReviseCommand) :
    DbTx (Option ProposalViewV1) := do
  if cmd.constraints.length < 1 ∨ cmd.maxConstraints < cmd.constraints.length then
    throw (.proposalCommand .proposalCommandError ("a revision requires between one and " ++
      toString cmd.maxConstraints ++ " constraints"))
  else do
    let current ← currentForCommand catalogue cmd.proposalId cmd.siteId
    match current with
    | none => pure none
    | some (record, overview) => do
      let stored ← getIdempotentResult cmd.siteId cmd.actorId cmd.operation cmd.idempotencyKey
      let replay ← Tx.lift (replayOrConflict stored (cmd.bodyHash env) overview.scenarioVersionId)
      match replay with
      | some view => pure (some view)
      | none => some <$> reviseCurrent env cmd record overview

/-! ## Rejecting -/

structure RejectCommand where
  proposalId : Uuid
  siteId : Uuid
  actorId : Uuid
  expectedResourceVersion : Int
  idempotencyKey : String
  deriving DecidableEq, Repr

namespace RejectCommand

def operation (cmd : RejectCommand) : String := s!"rejection:{cmd.proposalId}"

/-- `_body_hash`. -/
def bodyHash (env : Ambient) (cmd : RejectCommand) : String :=
  env.contractDigest [("expected_resource_version", .int cmd.expectedResourceVersion)]

end RejectCommand

/-- The refusals of a rejection that is not a repetition: a stale draft may be rejected. -/
def admitRejection (cmd : RejectCommand) (current : ProposalV1) : Except PyError Unit := do
  refuseIfEnded current "rejected again"
  if cmd.expectedResourceVersion ≠ current.resourceVersion then
    refuseCommand (.staleResourceVersion cmd.expectedResourceVersion current.resourceVersion)
      ("expected resource version " ++ toString cmd.expectedResourceVersion ++ "; current is " ++
        toString current.resourceVersion)
  else pure ()

/-- A rejection of the locked draft. -/
def rejectCurrent (env : Ambient) (cmd : RejectCommand) (record : ProposalRecordV1)
    (overview : ScenarioContext) : DbTx ProposalViewV1 := do
  Tx.lift (admitRejection cmd record.proposal)
  let rejected := { record.proposal with
    state := .rejected, resourceVersion := record.proposal.resourceVersion + 1 }
  let result := proposalView rejected overview.scenarioVersionId (some record.versionOrdinal)
    (some .planner)
  reject rejected
    (commandReceipt cmd.siteId cmd.actorId cmd.operation cmd.idempotencyKey (cmd.bodyHash env)
      result)
  pure result

/-- `reject_proposal`. -/
def rejectProposal (env : Ambient) (catalogue : ScenarioCatalogue) (cmd : RejectCommand) :
    DbTx (Option ProposalViewV1) := do
  let current ← currentForCommand catalogue cmd.proposalId cmd.siteId
  match current with
  | none => pure none
  | some (record, overview) => do
    let stored ← getIdempotentResult cmd.siteId cmd.actorId cmd.operation cmd.idempotencyKey
    let replay ← Tx.lift (replayOrConflict stored (cmd.bodyHash env) overview.scenarioVersionId)
    match replay with
    | some view => pure (some view)
    | none => some <$> rejectCurrent env cmd record overview

end ShiftMind
