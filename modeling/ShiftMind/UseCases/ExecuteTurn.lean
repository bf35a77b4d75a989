import ShiftMind.Contracts.Turn
import ShiftMind.Library.Dict
import ShiftMind.Store.ScheduleRun

/-!
# ShiftMind — what a turn drafts and how it ends

`application/drafting/turn_state.py`, the handlers of `scheduling_draft` and
`scheduling_draft_discard`, and `application/use_cases/execute_turn.py`: outside every transaction,
a turn resolves its drafts against the working draft it observed and is bound to one outcome.

* **`DraftTurnState`** — the observation of the turn, made once, and what its draft tools have done.
* **`schedulingDraft`**, **`schedulingDraftDiscard`** — the two draft tools.
* **`executeTurn`** — the model's answer bound to the turn's trusted results.
* **`terminalStatus`**, **`activityPayload`** — what the run is finalised with.
-/

namespace ShiftMind

open Transactional

/-! ## The working draft of a turn -/

/-- `DraftTurnState`; `observation` is set once the working draft was read. -/
structure DraftTurnState where
  observation : Option (Option WorkingDraftObservationV1) := none
  drafted : Bool := false
  discarded : Option WorkingDraftObservationV1 := none
  deriving DecidableEq, Repr

/-- A computation over the state of one turn. -/
abbrev TurnTx : Type → Type := Tx DraftTurnState PyError

namespace DraftTurnState

/-- `observe_with`, where a read of the working draft answers `working`. -/
def observeWith (working : Option WorkingDraftObservationV1) :
    TurnTx (Option WorkingDraftObservationV1) := do
  let turn ← Tx.read id
  match turn.observation with
  | some observation => pure observation
  | none => do
    Tx.write fun turn => { turn with observation := some working }
    pure working

/-- `note_drafted`. -/
def noteDrafted : TurnTx Unit := Tx.write fun turn => { turn with drafted := true }

/-- `record_discard`. -/
def recordDiscard (observation : WorkingDraftObservationV1) : TurnTx Unit :=
  Tx.write fun turn => { turn with discarded := some observation }

end DraftTurnState

/-! ## The draft tools -/

/-- What the governed reads and the resolver make of a draft request. -/
structure DraftContent where
  scenarioId : Uuid
  scenarioVersionId : Uuid
  expectedBaselineScheduleVersion : Option String
  resolvedEntities : List ResolvedEntityV1
  constraints : List DraftConstraintV1
  preservedLocks : List LockV1
  consequenceSummary : String
  canonicalHash : String
  deriving DecidableEq, Repr

/-- A trusted result of a tool of the turn, under its `result_id`. -/
inductive TurnResult where
  | draft (resultId : String) (write : AgentDraftWriteV1)
  | discard (resultId : String) (discard : AgentDraftDiscardV1)
  | other (resultId : String)
  deriving DecidableEq, Repr

def TurnResult.resultId : TurnResult → String
  | draft resultId _ => resultId
  | discard resultId _ => resultId
  | other resultId => resultId

/-- The proposal a draft request becomes: a first version, or the next one of the working draft it
observed. -/
def draftedProposal (env : Ambient) (content : DraftContent)
    (observed : Option WorkingDraftObservationV1) : ProposalV1 where
  proposalId := some ((observed.map WorkingDraftObservationV1.proposalId).getD (env.uuid4 0))
  proposalVersionId := some (env.uuid4 1)
  scenarioId := some content.scenarioId
  scenarioVersionId := some content.scenarioVersionId
  expectedBaselineScheduleVersion := content.expectedBaselineScheduleVersion
  resolvedEntities := content.resolvedEntities
  constraints := content.constraints
  preservedLocks := content.preservedLocks
  consequenceSummary := content.consequenceSummary
  canonicalHash := content.canonicalHash
  state := .active
  resourceVersion := (observed.map fun o => o.resourceVersion + 1).getD 1

/-- The write of a draft result. -/
def draftWrite (env : Ambient) (content : DraftContent)
    (observed : Option WorkingDraftObservationV1) : AgentDraftWriteV1 where
  proposal := draftedProposal env content observed
  outcome := if observed.isNone then .created else .updated
  versionOrdinal := (observed.map fun o => o.versionOrdinal + 1).getD 1
  observedWorkingId := observed.map WorkingDraftObservationV1.proposalId
  observedResourceVersion := observed.map WorkingDraftObservationV1.resourceVersion

/-- `scheduling_draft`, once its checks, reads and the resolver have ended in `content`. -/
def schedulingDraft (env : Ambient) (content : Except PyError DraftContent)
    (working : Option WorkingDraftObservationV1) : TurnTx TurnResult := do
  let content ← Tx.lift content
  let turn ← Tx.read id
  -- a discard of the same turn makes this a create
  let observed ← if turn.discarded.isSome then pure none else DraftTurnState.observeWith working
  DraftTurnState.noteDrafted
  pure (.draft content.canonicalHash (draftWrite env content observed))

/-- `scheduling_draft_discard`. -/
def schedulingDraftDiscard (budgetRemains : Bool)
    (working : Option WorkingDraftObservationV1) : TurnTx TurnResult := do
  let turn ← Tx.read id
  if budgetRemains = false then
    throw (.capability "budget_exhausted" "no tool-call budget remains for this run")
  else if turn.drafted then
    throw (.capability "draft_changed_this_turn" "this turn already changed the draft")
  else if turn.discarded.isSome then
    throw (.capability "no_working_draft" "this turn already discarded the draft")
  else do
    let observed ← DraftTurnState.observeWith working
    match observed with
    | none =>
      throw (.capability "no_working_draft" "this conversation has no working draft to discard")
    | some observed => do
      DraftTurnState.recordDiscard observed
      pure (.discard
        ("discard-" ++ toString observed.proposalId ++ "-" ++ toString observed.resourceVersion)
        ⟨observed.proposalId, observed.resourceVersion, observed.versionOrdinal⟩)

/-! ## Binding an outcome -/

/-- `trusted_results_by_citation`, for the results of a turn. -/
def trustedById (results : List TurnResult) (handleOf : String → Option String) :
    List (String × TurnResult) :=
  Dict.ofPairs (results.flatMap fun value =>
    (value.resultId, value) :: (handleOf value.resultId).toList.map fun handle => (handle, value))

/-- `resolve_draft_citation`. -/
def resolveDraftCitation (outcome : AgentRunOutcomeV1) (trusted : List (String × TurnResult)) :
    AgentRunOutcomeV1 :=
  match outcome.draft with
  | none => outcome
  | some draftId =>
    match Dict.get? trusted draftId with
    | some (.draft _ write) => { outcome with resolvedDraft := some write }
    | _ => { outcome with
        status := .failed
        failureReason := some "invalid_output"
        failureSource := some .agent }

/-- `resolve_discard`. -/
def resolveDiscard (results : List TurnResult) : Except PyError (Option AgentDraftDiscardV1) :=
  match results.filterMap fun
    | .discard _ discard => some discard
    | _ => none with
  | [] => .ok none
  | [discard] => .ok (some discard)
  | _ => .error (.assertionError "at most one scheduling_draft_discard result per turn")

/-- The services an answer is bound through. -/
structure TurnBinding where
  handleOf : String → Option String
  resolveClarification : ClarificationV1 → Except PyError ResolvedClarificationV1
  /-- `ground_answer`, and the wording check that may follow it -/
  ground : String → Except PyError GroundedResponseV1

/-- `execute_turn`, on what the runtime returned. -/
def executeTurn (binding : TurnBinding) (outcome : AgentRunOutcomeV1)
    (results : List TurnResult) : Except PyError AgentRunOutcomeV1 :=
  if outcome.status ≠ .completed then .ok outcome
  else do
    let discard ← resolveDiscard results
    let outcome := { outcome with resolvedDiscard := discard }
    match outcome.clarification, outcome.draft, outcome.answer with
    | some clarification, _, _ => do
      let resolved ← binding.resolveClarification clarification
      pure { outcome with resolvedClarification := some resolved }
    | none, some _, _ =>
      pure (resolveDraftCitation outcome (trustedById results binding.handleOf))
    | none, none, none => pure outcome
    | none, none, some answer => do
      let grounded ← binding.ground answer
      pure { outcome with groundedResponse := some grounded }

/-- The exceptions the execute route tells apart. -/
inductive TurnError where
  | incompleteManifest
  | agentProvider
  | other (error : PyError)
  deriving DecidableEq, Repr

/-- `failed_outcome_for_exception`. -/
def failedOutcomeForException : TurnError → AgentRunOutcomeV1
  | .incompleteManifest =>
    { status := .failed
      failureReason := some "capability_error"
      failureSource := some .capability }
  | .agentProvider =>
    { status := .failed, failureReason := some "provider_error", failureSource := some .agent }
  | .other _ =>
    { status := .failed, failureReason := some "invalid_output", failureSource := some .agent }

/-! ## What the run is finalised with -/

/-- A completed turn produced something a planner can use. -/
def AgentRunOutcomeV1.usable (outcome : AgentRunOutcomeV1) : Bool :=
  outcome.groundedResponse.isSome || outcome.clarification.isSome ||
    outcome.resolvedClarification.isSome || outcome.refusal.isSome || outcome.resolvedDraft.isSome

/-- `terminal_status`. -/
def terminalStatus (outcome : AgentRunOutcomeV1) : AgentRunStatus :=
  match outcome.status with
  | .completed => if outcome.usable then .agentCompleted else .agentFailed
  | .timedOut => .agentTimedOut
  | .failed => .agentFailed
  | .suspended => .approvalRequired

/-- `_bounded`. -/
def boundedCopy (text : String) : String := String.ofList (text.toList.take 1000)

/-- `_AGENT_TERMINAL_COPY`, with the reason it belongs to. -/
def agentTerminalCopy (reason : String) : TerminalReason × String :=
  match reason with
  | "provider_error" => (.providerError, "The provider failed before the turn completed.")
  | "budget_exhausted" => (.budgetExhausted, "The configured agent budget was exhausted.")
  | _ => (.invalidOutput, "The model returned an invalid response.")

def retryStep : String := "Retry the request or review Scenario Data."

/-- `terminal_outcome`. -/
def terminalOutcome (outcome : AgentRunOutcomeV1) : Option TerminalOutcomeV1 :=
  match outcome.status with
  | .completed =>
    match outcome.refusal with
    -- a refusal of the model's own is a completed turn
    | some refusal => some
        { status := .completed
          reason := .refused
          refusalReason := some refusal.reason
          detail := boundedCopy refusal.detail
          nextStep := refusal.nextStep.map boundedCopy }
    | none =>
      -- a usable answer is no terminal outcome but a response
      if outcome.usable then none
      else some
        { status := .failed
          reason := .invalidOutput
          detail := "The turn completed without a usable response."
          nextStep := some retryStep }
  | .timedOut => some
      { status := .timedOut
        reason := .deadlineExceeded
        detail := "The turn timed out before it completed."
        nextStep := some retryStep }
  | .suspended => some
      { status := .suspended
        reason := .approvalNotGrantable
        detail := "The requested action cannot be approved from this workflow."
        nextStep := some "Review the candidate and request approval from Results." }
  | .failed =>
    if outcome.failureSource = some .capability then some
      { status := .failed
        reason := .capabilityError
        detail := "A governed capability failed without executing an unsupported action."
        nextStep := some retryStep }
    else
      let copy := agentTerminalCopy (outcome.failureReason.getD "invalid_output")
      some { status := .failed, reason := copy.1, detail := copy.2, nextStep := some retryStep }

/-- `activity_payload`, in a turn on this version of the scenario. -/
def activityPayload (scenarioVersionId : Uuid) (outcome : AgentRunOutcomeV1) : TurnPayload :=
  match outcome.resolvedClarification, outcome.resolvedDraft, terminalOutcome outcome with
  | some clarification, _, _ => .answer (.clarification clarification)
  | none, some write, _ => .draft write
  | none, none, some terminal => .answer (.terminal terminal)
  | none, none, none =>
    .answer (.response (outcome.groundedResponse.getD ⟨some scenarioVersionId, []⟩))

end ShiftMind
