import ShiftMind.Store.Conversation
import ShiftMind.Store.Proposal

/-!
# ShiftMind — finalising a turn

`application/use_cases/finalize_agent_run.py`: one transaction ends the claimed run, shows its
activity and writes the turn's draft or discard. A turn that carries one is guarded: the working
draft, read under the conversation's lock, must still be what the turn observed, or the turn ends
failed and no draft row is written.
-/

namespace ShiftMind

open Transactional ConversationRepository ProposalRepository

/-- `_draft_changed`. -/
def draftChanged : TerminalOutcomeV1 where
  status := .failed
  reason := .capabilityError
  detail := "Your draft changed while I was working, so I didn't apply this change."
  nextStep := some "Ask again to apply it to the current draft."

/-- `_working_matches`. -/
def workingMatches (working : Option ProposalRecordV1) (proposalId : Option Uuid)
    (resourceVersion : Option Int) : Bool :=
  match working with
  | none => false
  | some working => decide (working.proposal.proposalId = proposalId) &&
      decide (some working.proposal.resourceVersion = resourceVersion)

/-- The guard: what the turn's writes assume of the working draft. -/
def draftApplies (working : Option ProposalRecordV1) (draft : Option AgentDraftWriteV1)
    (discard : Option AgentDraftDiscardV1) : Bool :=
  match discard, draft with
  | some discard, _ =>
    workingMatches working (some discard.proposalId) (some discard.observedResourceVersion)
  | none, some draft =>
    match draft.outcome with
    | .updated => workingMatches working draft.observedWorkingId draft.observedResourceVersion
    | .created => working.isNone
  | none, none => working.isNone

/-- The checks of a bundle that carries a draft. -/
def checkDraft (draft : AgentDraftWriteV1) (discard : Option AgentDraftDiscardV1) :
    Except PyError DraftReferenceV1 :=
  match draft.proposal.proposalId, draft.proposal.proposalVersionId with
  | some proposalId, some versionId =>
    if discard.isSome ∧ draft.outcome = .updated then
      .error (.valueError "a turn cannot both update and discard the working draft")
    else .ok ⟨proposalId, versionId, draft.proposal.consequenceSummary⟩
  | _, _ => .error (.valueError "a trusted proposal must carry durable identifiers")

/-- End the discarded draft. -/
def applyDiscard (claimed : ClaimedAgentRunV1) : Option AgentDraftDiscardV1 → DbTx Unit
  | none => pure ()
  | some discard =>
    endByAssistant discard.proposalId claimed.siteId (discard.observedResourceVersion + 1)

/-- Write the draft. -/
def applyDraft (claimed : ClaimedAgentRunV1) (draft : AgentDraftWriteV1) : DbTx Unit :=
  match draft.outcome with
  | .created =>
    createDraft draft.proposal claimed.siteId claimed.conversationId claimed.actorId
  | .updated => appendAgentVersion draft.proposal claimed.siteId draft.versionOrdinal

/-- The guard failed: the run ends, and nothing else happens. -/
def finishChanged (env : Ambient) (claimed : ClaimedAgentRunV1) (requestId : Uuid) :
    DbTx ExecutedAgentRunV1 :=
  finishAgentRun env claimed .agentFailed (.answer (.terminal draftChanged)) requestId

/-- A turn that writes a draft, and may discard the one before it. -/
def finalizeDraft (env : Ambient) (claimed : ClaimedAgentRunV1) (status : AgentRunStatus)
    (draft : AgentDraftWriteV1) (discard : Option AgentDraftDiscardV1) (requestId : Uuid) :
    DbTx ExecutedAgentRunV1 := do
  let reference ← Tx.lift (checkDraft draft discard)
  let _ ← lockClaimed claimed.conversationId claimed.siteId
  let working ← getWorking claimed.conversationId claimed.siteId
  if draftApplies working (some draft) discard = false then finishChanged env claimed requestId
  else do
    -- the run's own guard comes before every draft statement
    let executed ← finishAgentRun env claimed status (.draft reference) requestId
    applyDiscard claimed discard
    applyDraft claimed draft
    pure executed

/-- A turn that only discards. -/
def finalizeDiscard (env : Ambient) (claimed : ClaimedAgentRunV1) (status : AgentRunStatus)
    (answer : TurnAnswer) (discard : AgentDraftDiscardV1) (requestId : Uuid) :
    DbTx ExecutedAgentRunV1 := do
  let _ ← lockClaimed claimed.conversationId claimed.siteId
  let working ← getWorking claimed.conversationId claimed.siteId
  if draftApplies working none (some discard) = false then finishChanged env claimed requestId
  else do
    let executed ← finishAgentRun env claimed status (.answer answer) requestId
    applyDiscard claimed (some discard)
    pure executed

/-- `finalize_agent_run`. -/
def finalizeAgentRun (env : Ambient) (claimed : ClaimedAgentRunV1) (status : AgentRunStatus)
    (payload : TurnPayload) (discard : Option AgentDraftDiscardV1) (requestId : Uuid) :
    DbTx ExecutedAgentRunV1 :=
  match payload, discard with
  | .answer answer, none => finishAgentRun env claimed status (.answer answer) requestId
  | .answer answer, some discard => finalizeDiscard env claimed status answer discard requestId
  | .draft draft, discard => finalizeDraft env claimed status draft discard requestId

end ShiftMind
