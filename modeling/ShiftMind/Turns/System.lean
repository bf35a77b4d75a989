import ShiftMind.Library.Transition
import ShiftMind.UseCases.DecideApproval
import ShiftMind.UseCases.FinishTurn
import ShiftMind.UseCases.ManageProposal

/-!
# ShiftMind — turns, card commands and decisions, interleaved

The conversation workflow as a transition system. A step is one transaction, or one tool call of a
turn. Between the transactions of a turn — its claim, its reads of the working draft, its finish —
every other party may commit, any number of times.

* **`TurnSys`** — the database, the states it has been in, and what the tools of each turn have
  left behind. A turn's tool calls run concurrently: a call may start from any state its turn has
  been in, so these states are kept and never replaced.
* **`TurnOutcome`** — the outcomes `execute_turn` can bind to what the tools of a turn returned.
* **`TurnAction`** — a step's label, `Enabled` and performed by `TurnSys.perform`.
-/

namespace ShiftMind

open Relational Transactional Transition ConversationRepository ProposalRepository

/-! ## What a turn reads -/

/-- The observation of a working draft; a stored draft carries its identifier. -/
def ProposalRecordV1.observation (working : ProposalRecordV1) : Option WorkingDraftObservationV1 :=
  working.proposal.proposalId.map fun proposalId =>
    ⟨proposalId, working.proposal.resourceVersion, working.versionOrdinal⟩

/-- `_observe_working_draft`. -/
def observeWorkingDraft (claimed : ClaimedAgentRunV1) :
    DbTx (Option WorkingDraftObservationV1) := do
  let working ← getWorking claimed.conversationId claimed.siteId
  pure (working.bind ProposalRecordV1.observation)

/-! ## The state of the system -/

/-- A turn: its claimed run, and whether it resumes after an approval. -/
structure Turn where
  claimed : ClaimedAgentRunV1
  resumed : Bool
  deriving DecidableEq, Repr

structure TurnSys where
  db : Db
  /-- the committed states before this one, the last one first -/
  past : List Db := []
  /-- every draft state a turn has been in -/
  turns : List (Turn × DraftTurnState) := []
  /-- every trusted result a tool of a turn has returned -/
  results : List (Turn × TurnResult) := []

namespace TurnSys

/-- The database was in this committed state at some time. -/
def Saw (s : TurnSys) (db : Db) : Prop := db = s.db ∨ db ∈ s.past

/-- The turn was opened. -/
def Opened (s : TurnSys) (turn : Turn) : Prop := ∃ t, (turn, t) ∈ s.turns

/-- A transaction has committed `db'`. -/
def commit (s : TurnSys) (db' : Db) : TurnSys :=
  { s with db := db', past := s.db :: s.past }

/-- A claim opens a turn. -/
def openTurn (s : TurnSys) (turn : Turn) : TurnSys :=
  { s with turns := (turn, {}) :: s.turns }

/-- A tool call ended, and left the draft state of its turn behind. -/
def toolEnded (s : TurnSys) (turn : Turn) (ended : Except PyError TurnResult × DraftTurnState) :
    TurnSys :=
  { s with
    turns := (turn, ended.2) :: s.turns
    results := (match ended.1 with
      | .ok result => [(turn, result)]
      | .error _ => []) ++ s.results }

end TurnSys

/-- What a turn may end in: an outcome of the runtime, bound to trusted results of this turn, or
the failure an exception is turned into. The runtime itself resolves no draft and no discard. -/
inductive TurnOutcome (s : TurnSys) (turn : Turn) : AgentRunOutcomeV1 → Prop
  | bound (binding : TurnBinding) (raw outcome : AgentRunOutcomeV1) (results : List TurnResult)
      (undrafted : raw.resolvedDraft = none) (undiscarded : raw.resolvedDiscard = none)
      (trusted : ∀ result ∈ results, (turn, result) ∈ s.results)
      (executed : executeTurn binding raw results = .ok outcome) : TurnOutcome s turn outcome
  | failed (error : TurnError) : TurnOutcome s turn (failedOutcomeForException error)

/-! ## The steps -/

inductive TurnAction where
  | acceptTurn (env : Ambient) (conversationId siteId actorId requestId : Uuid) (text : String)
  | claim (conversationId agentRunId siteId : Uuid)
  /-- the turn of a run that a decision has resumed -/
  | resume (claimed : ClaimedAgentRunV1)
  /-- the read of the working draft beside the workflow snapshot -/
  | observe (turn : Turn) (state : DraftTurnState) (working : Option WorkingDraftObservationV1)
  | draft (turn : Turn) (state : DraftTurnState) (working : Option WorkingDraftObservationV1)
      (env : Ambient) (content : Except PyError DraftContent)
  | discard (turn : Turn) (state : DraftTurnState) (working : Option WorkingDraftObservationV1)
      (budgetRemains : Bool)
  /-- a tool that reads -/
  | consult (turn : Turn) (resultId : String)
  | finish (turn : Turn) (env : Ambient) (settings : ApprovalSettings) (codec : ToolArgumentCodec)
      (view : RequestView) (outcome : AgentRunOutcomeV1) (requestId : Uuid)
  | revise (env : Ambient) (catalogue : ScenarioCatalogue) (cmd : ReviseCommand)
  | reject (env : Ambient) (catalogue : ScenarioCatalogue) (cmd : RejectCommand)
  | createApproval (env : Ambient) (settings : ApprovalSettings) (cmd : CreateApprovalCommand)
  | decideApproval (ctx : DecisionContext) (enabled : Bool) (cmd : DecideApprovalCommand)
      (view : DecisionView)
  /-- whatever the rest of the application commits -/
  | elsewhere (db' : Db)

/-- What the rest of the application leaves alone. -/
structure WorkflowKept (db db' : Db) : Prop where
  proposals : db'.proposal = db.proposal
  versions : db'.proposalVersion = db.proposalVersion
  runs : db'.agentRun = db.agentRun
  bindings : db'.approvalRequest = db.approvalRequest

/-- A tool call of a turn that reads the working draft: the turn is not resumed (the draft tools
are withheld there), it has been in this state, and this is what the working draft was at some
committed state. -/
structure DraftCall (s : TurnSys) (turn : Turn) (state : DraftTurnState)
    (working : Option WorkingDraftObservationV1) : Prop where
  first : turn.resumed = false
  state : (turn, state) ∈ s.turns
  read : ∃ db, s.Saw db ∧ (observeWorkingDraft turn.claimed).run db = (.ok working, db)

/-- A resumed turn is built from the consumed binding that resumed its run. -/
def ResumedBy (claimed : ClaimedAgentRunV1) (binding : ApprovalBindingV1) : Prop :=
  binding.state = .consumed ∧ binding.agentRunId = some claimed.agentRunId ∧
    binding.siteId = claimed.siteId ∧ binding.conversationId = claimed.conversationId ∧
    binding.initiatedByActorId = claimed.actorId

/-- When a party may take a step. -/
def TurnAction.Enabled (s : TurnSys) : TurnAction → Prop
  | .resume claimed => ∃ row ∈ s.db.approvalRequest, ResumedBy claimed row.binding
  | .observe turn state working => DraftCall s turn state working
  | .draft turn state working _ _ => DraftCall s turn state working
  | .discard turn state working _ => DraftCall s turn state working
  | .consult turn _ => s.Opened turn
  | .finish turn _ _ _ _ outcome _ => s.Opened turn ∧ TurnOutcome s turn outcome
  -- a decision may have read the binding in an older committed state
  | .decideApproval _ _ _ view => ∀ binding, view.binding = some binding →
      ∃ db, s.Saw db ∧ ∃ row ∈ db.approvalRequest, row.binding = binding
  | .elsewhere db' => WorkflowKept s.db db'
  | _ => True

/-- The finish step of a turn. -/
def Turn.finish (turn : Turn) (env : Ambient) (settings : ApprovalSettings)
    (codec : ToolArgumentCodec) (view : RequestView) (outcome : AgentRunOutcomeV1)
    (requestId : Uuid) : DbTx ExecutedAgentRunV1 :=
  if turn.resumed then finishResumed env turn.claimed outcome requestId
  else finishTurn env settings codec view turn.claimed outcome requestId

/-- The system after a claim: a claimed run opens its turn. -/
def TurnSys.claimed (s : TurnSys) (ended : Except PyError (Option ClaimedAgentRunV1) × Db) :
    TurnSys :=
  match ended.1 with
  | .ok (some claimed) => (s.commit ended.2).openTurn ⟨claimed, false⟩
  | _ => s.commit ended.2

/-- The state after a step. -/
def TurnSys.perform (s : TurnSys) : TurnAction → TurnSys
  | .acceptTurn env conversationId siteId actorId requestId text =>
    s.commit
      ((ConversationRepository.acceptTurn env conversationId siteId actorId requestId text).commit
        s.db).2
  | .claim conversationId agentRunId siteId =>
    s.claimed ((claimQueuedRun conversationId agentRunId siteId).commit s.db)
  | .resume claimed => s.openTurn ⟨claimed, true⟩
  -- the tools of a turn work on the turn's own state, not on the tables
  | .observe turn state working =>
    { s with turns := (turn, ((DraftTurnState.observeWith working).run state).2) :: s.turns }
  | .draft turn state working env content =>
    s.toolEnded turn ((schedulingDraft env content working).run state)
  | .discard turn state working budgetRemains =>
    s.toolEnded turn ((schedulingDraftDiscard budgetRemains working).run state)
  | .consult turn resultId => { s with results := (turn, .other resultId) :: s.results }
  -- the whole finish is one transaction
  | .finish turn env settings codec view outcome requestId =>
    s.commit ((turn.finish env settings codec view outcome requestId).commit s.db).2
  | .revise env catalogue cmd => s.commit ((reviseProposal env catalogue cmd).commit s.db).2
  | .reject env catalogue cmd => s.commit ((rejectProposal env catalogue cmd).commit s.db).2
  | .createApproval env settings cmd =>
    s.commit (approvalEndpoint (createApprovalRoute env settings cmd) s.db).2
  | .decideApproval ctx enabled cmd view => s.commit (decideRequest ctx enabled cmd view s.db).2
  | .elsewhere db' => s.commit db'

/-- A site where no turn was accepted yet. -/
structure TurnSys.Initial (s : TurnSys) : Prop where
  proposals : s.db.proposal = .empty
  versions : s.db.proposalVersion = .empty
  runs : s.db.agentRun = .empty
  bindings : s.db.approvalRequest = .empty
  past : s.past = []
  turns : s.turns = []
  results : s.results = []

/-- The conversation workflow. -/
def turnMachine : Machine TurnSys TurnAction where
  initial := TurnSys.Initial
  enabled := TurnAction.Enabled
  perform := TurnSys.perform

abbrev turnSystem : System TurnSys := turnMachine.system

theorem reachable_perform {s : TurnSys} (hreach : Reachable turnSystem s) {action : TurnAction}
    (henabled : action.Enabled s) : Reachable turnSystem (s.perform action) :=
  hreach.step ⟨action, henabled, rfl⟩

/-! ## A conversation

Conversation 2 of site 1, on which the later modules run concrete schedules. -/

namespace Card

def site : TurnSys where
  db :=
    { conversation := .ofRows [⟨2, 1, 20, 21, 1⟩]
      membership := .ofRows [⟨3, 1, none⟩] }

theorem site_initial : site.Initial := ⟨rfl, rfl, rfl, rfl, rfl, rfl, rfl⟩

/-- The transaction that starts at second `n` draws its identifiers from `100 * n` on. -/
def env (n : Nat) : Ambient where
  now := n * 1000000
  clock := n * 1000000
  uuid4 k := 100 * n + k
  contractDigest members := toString (members.map Prod.fst)

def settings : ApprovalSettings := ⟨true, 3600⟩

def catalogue : ScenarioCatalogue := fun scenarioId =>
  if scenarioId = 20 then some ⟨20, 21, "sha256", "v1", "digest", 1, none⟩ else none

/-- Requests for schedule run 102, without a baseline. -/
def codec : ToolArgumentCodec where
  loads _ := .ok (.object [(requestArgument, .null)])
  validate _ := .ok (102, none)

def view : RequestView := ⟨none, none, [], none⟩

def binding : TurnBinding where
  handleOf _ := none
  resolveClarification c := .ok ⟨c.question, [], none, 0⟩
  ground _ := .ok ⟨none, []⟩

/-- Message `100 * n` of the conversation, with its run `100 * n + 1`. -/
def accept (n : Nat) : TurnAction := .acceptTurn (env n) 2 1 3 50 "plan"

/-- The turn of that run. -/
def turn (n : Nat) : Turn := ⟨⟨100 * n + 1, 2, 20, 21, 1, 3, "plan"⟩, false⟩

def claim (n : Nat) : TurnAction := .claim 2 (100 * n + 1) 1

def content : DraftContent where
  scenarioId := 20
  scenarioVersionId := 21
  expectedBaselineScheduleVersion := none
  resolvedEntities := []
  constraints := []
  preservedLocks := []
  consequenceSummary := "summary"
  canonicalHash := "draft"

/-- A draft of turn `n`, resolved against what it observed. -/
def draft (n : Nat) (working : Option WorkingDraftObservationV1) : TurnAction :=
  .draft (turn n) {} working (env (n + 1)) (.ok content)

/-- The outcome of turn `n`: it cites its draft. -/
def outcome (n : Nat) (working : Option WorkingDraftObservationV1) : AgentRunOutcomeV1 where
  status := .completed
  draft := some "draft"
  resolvedDraft := some (draftWrite (env (n + 1)) content working)

def finish (n : Nat) (working : Option WorkingDraftObservationV1) : TurnAction :=
  .finish (turn n) (env (n + 2)) settings codec view (outcome n working) 60

end Card

end ShiftMind
