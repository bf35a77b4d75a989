import ShiftMind.Store.ScheduleRun

/-!
# ShiftMind — the proposal repository

`adapters/postgres/proposal.py`: a conversation's draft is one `proposal` row and its immutable
`proposal_version` rows. A statement that names a row by its identifier alone sees the rows of the
session's site, which is an argument here.

* **`getWorking`** — the one active draft of a conversation.
* **`createDraft`**, **`appendVersion`** — a first version, and a further one.
* **`endByAssistant`**, **`reject`**, **`markApplied`** — the three ways a draft ends.
-/

namespace ShiftMind

open Relational Transactional

/-- `ProposalRecordV1`. -/
structure ProposalRecordV1 where
  proposal : ProposalV1
  versionOrdinal : Int
  createdByActorId : Uuid
  deriving DecidableEq, Repr

namespace ProposalRepository

/-! ## Drafts of a site -/

/-- `proposal.id = proposal_id`, among the rows of the site. -/
def isProposal (proposalId siteId : Uuid) (row : ProposalRow) : Bool :=
  decide (row.id = proposalId) && decide (row.siteId = siteId)

/-- The active draft of a conversation: `uq_proposal_one_active_per_conversation` admits one. -/
def isWorking (conversationId siteId : Uuid) (row : ProposalRow) : Bool :=
  decide (row.conversationId = conversationId) && decide (row.siteId = siteId) &&
    decide (row.state = .active)

/-- `_read_one`: the selected proposal with its current version's payload, whose lifecycle fields
come from the proposal row. -/
def readOne (sel : ProposalRow → Bool) : DbTx (Option ProposalRecordV1) := do
  let row ← Db.proposals.selectOne sel
  match row with
  | none => pure none
  | some row =>
    let version ← Tx.read fun db => db.proposalVersion.find? fun v =>
      decide (some v.id = row.currentVersionId) && decide (v.siteId = row.siteId)
    match version with
    | none =>
      throw (.runtimeError ("proposal " ++ toString row.id ++
        " has no current version row; the aggregate is inconsistent"))
    | some version =>
      pure (some
        { proposal := { version.payload with
            state := row.state, resourceVersion := row.resourceVersion }
          versionOrdinal := version.versionOrdinal
          createdByActorId := row.createdByActorId })

/-- `get_current`. -/
def getCurrent (proposalId : Uuid) : DbTx (Option ProposalRecordV1) :=
  readOne fun p => decide (p.id = proposalId)

/-- `get_current(for_update=True)` in a session of the site. -/
def getCurrentForUpdate (proposalId siteId : Uuid) : DbTx (Option ProposalRecordV1) :=
  readOne (isProposal proposalId siteId)

/-- `get_working`. -/
def getWorking (conversationId siteId : Uuid) : DbTx (Option ProposalRecordV1) :=
  readOne (isWorking conversationId siteId)

/-! ## Versions -/

/-- The row of a version. -/
def versionRow (proposal : ProposalV1) (versionId proposalId siteId : Uuid) (ordinal : Int) :
    ProposalVersionRow where
  id := versionId
  siteId := siteId
  proposalId := proposalId
  versionOrdinal := ordinal
  payload := proposal

def insertVersion (proposal : ProposalV1) (versionId proposalId siteId : Uuid) (ordinal : Int) :
    DbTx Unit := do
  Tx.lift (requireStorable proposal.storable)
  Db.proposalVersions.insertInto (.integrityError "uq_proposal_version_ordinal")
    (versionRow proposal versionId proposalId siteId ordinal)
  references "fk_proposal_version_proposal_site" fun db =>
    db.proposal.rows.any (isProposal proposalId siteId)

/-- `UPDATE proposal SET … WHERE id = proposal_id`. -/
def updateProposal (proposalId siteId : Uuid) (set : ProposalRow → ProposalRow) : DbTx Unit := do
  let _ ← Db.proposals.updateWhere (.integrityError "ck_proposal_lifecycle")
    (isProposal proposalId siteId) set
  pure ()

/-- The row a first draft inserts, before it has a version. -/
def draftRow (proposal : ProposalV1) (proposalId siteId conversationId actorId : Uuid) :
    ProposalRow where
  id := proposalId
  siteId := siteId
  conversationId := conversationId
  createdByActorId := actorId
  state := proposal.state
  currentVersionId := none
  resourceVersion := proposal.resourceVersion

/-- `create_draft`. -/
def createDraft (proposal : ProposalV1) (siteId conversationId actorId : Uuid) : DbTx Unit :=
  match proposal.proposalId, proposal.proposalVersionId with
  | some proposalId, some versionId =>
    if proposal.scenarioId.isNone ∨ proposal.scenarioVersionId.isNone then
      throw (.valueError "a trusted proposal must carry governed scenario identifiers")
    else do
      Db.proposals.insertInto (.integrityError "uq_proposal_one_active_per_conversation")
        (draftRow proposal proposalId siteId conversationId actorId)
      references "fk_proposal_conversation_site" fun db => db.conversation.rows.any fun c =>
        decide (c.id = conversationId) && decide (c.siteId = siteId)
      insertVersion proposal versionId proposalId siteId 1
      updateProposal proposalId siteId fun row => { row with currentVersionId := some versionId }
  | _, _ => throw (.valueError "a trusted proposal must carry durable identifiers")

/-- The statements `append_revision` and `append_agent_version` share. -/
def appendVersion (proposal : ProposalV1) (siteId : Uuid) (versionOrdinal : Int) : DbTx Unit :=
  match proposal.proposalId, proposal.proposalVersionId with
  | some proposalId, some versionId => do
    insertVersion proposal versionId proposalId siteId versionOrdinal
    updateProposal proposalId siteId fun row =>
      { row with currentVersionId := some versionId, resourceVersion := proposal.resourceVersion }
  | _, _ => throw (.assertionError "")

/-- `append_agent_version`. -/
def appendAgentVersion (proposal : ProposalV1) (siteId : Uuid) (versionOrdinal : Int) :
    DbTx Unit :=
  appendVersion proposal siteId versionOrdinal

/-- The receipt a planner's command leaves behind. -/
structure CommandReceipt where
  siteId : Uuid
  actorId : Uuid
  operation : String
  idempotencyKey : String
  bodyHash : String
  response : ProposalViewV1
  deriving DecidableEq, Repr

/-- `_store_idempotent_result`. -/
def storeReceipt (receipt : CommandReceipt) : DbTx Unit :=
  ScheduleRunRepository.storeIdempotentResult receipt.siteId receipt.actorId receipt.operation
    receipt.idempotencyKey receipt.bodyHash (.proposalView receipt.response)

/-- `append_revision`. -/
def appendRevision (proposal : ProposalV1) (versionOrdinal : Int) (receipt : CommandReceipt) :
    DbTx Unit := do
  appendVersion proposal receipt.siteId versionOrdinal
  storeReceipt receipt

/-! ## Ends -/

/-- What `end_by_assistant` and `reject` make of a row. -/
def ended (endedBy : ProposalEndedBy) (resourceVersion : Int) (row : ProposalRow) : ProposalRow :=
  { row with state := .rejected, endedBy := some endedBy, resourceVersion := resourceVersion }

/-- `end_by_assistant`. -/
def endByAssistant (proposalId siteId : Uuid) (resourceVersion : Int) : DbTx Unit :=
  updateProposal proposalId siteId (ended .assistant resourceVersion)

/-- `reject`. -/
def reject (proposal : ProposalV1) (receipt : CommandReceipt) : DbTx Unit :=
  match proposal.proposalId with
  | some proposalId => do
    updateProposal proposalId receipt.siteId (ended .planner proposal.resourceVersion)
    storeReceipt receipt
  | none => throw (.assertionError "")

/-- `mark_applied`: apply the still active proposal a candidate was computed from. An ended
proposal is left as it is. -/
def markApplied (siteId scheduleVersionId : Uuid) : DbTx Bool := do
  let pinned ← Db.scheduleVersions.selectOne fun v => decide (v.id = scheduleVersionId)
  match pinned with
  | none => pure false
  | some pinned =>
    let rows ← Db.proposals.updateWhere (.integrityError "ck_proposal_lifecycle")
      (fun p => decide (p.id = pinned.proposalId) && decide (p.siteId = siteId) &&
        decide (p.state = .active))
      fun p =>
        { p with
          state := .applied
          endedBy := some .system
          appliedVersionId := some pinned.proposalVersionId
          resourceVersion := p.resourceVersion + 1 }
    pure (rows ≠ [])

end ProposalRepository

end ShiftMind
