import ShiftMind.Library.Naming
import ShiftMind.Runs.CancelRace
import ShiftMind.Turns.DraftCommands

/-!
# ShiftMind — the four commands, interleaved

The requests that carry an idempotency key: enqueue a computation, cancel a run, revise a draft,
reject a draft. Planners send them and send them again while workers run, in any order; each is
answered by the step that ends it.

* **`Command`** — one request: who sent it, under which key, with which body.
* **`Reply`** — what the sender is told, with the result a success reports.
* **`CommandAction`** — the steps of planners and workers of `Runs.System`, with the two draft
  commands; `elsewhere` stands for the rest of the application.
* **`CommandAction.answer`** — the command a step ends, with its reply.
-/

namespace ShiftMind

open Relational Transactional Transition ScheduleRunRepository

/-! ## Requests -/

/-- A request that carries an idempotency key. -/
inductive Command where
  | enqueue (cmd : EnqueueCommand)
  | cancel (cmd : CancelCommand)
  | revise (cmd : ReviseCommand)
  | reject (cmd : RejectCommand)

namespace Command

def siteId : Command → Uuid
  | enqueue cmd => cmd.siteId
  | cancel cmd => cmd.siteId
  | revise cmd => cmd.siteId
  | reject cmd => cmd.siteId

def actorId : Command → Uuid
  | enqueue cmd => cmd.actorId
  | cancel cmd => cmd.actorId
  | revise cmd => cmd.actorId
  | reject cmd => cmd.actorId

def idempotencyKey : Command → String
  | enqueue cmd => cmd.idempotencyKey
  | cancel cmd => cmd.idempotencyKey
  | revise cmd => cmd.idempotencyKey
  | reject cmd => cmd.idempotencyKey

def operation : Command → String
  | enqueue cmd => cmd.operation
  | cancel cmd => cmd.operation
  | revise cmd => cmd.operation
  | reject cmd => cmd.operation

/-- The body, as the four `_body_hash` functions hand it to `contract_digest`. -/
def body : Command → List (String × JsonScalar)
  | enqueue cmd =>
    [("proposal_id", .str (toString cmd.proposalId)),
      ("expected_proposal_resource_version", .int cmd.expectedProposalResourceVersion)]
  | cancel cmd =>
    [("run_id", .str (toString cmd.runId)),
      ("expected_resource_version", .int cmd.expectedResourceVersion)]
  | revise cmd =>
    [("expected_resource_version", .int cmd.expectedResourceVersion),
      ("constraints", .list cmd.constraints)]
  | reject cmd => [("expected_resource_version", .int cmd.expectedResourceVersion)]

/-- Two requests under one key: of one actor, for one operation. -/
structure SameKey (a b : Command) : Prop where
  site : b.siteId = a.siteId
  actor : b.actorId = a.actorId
  operation : b.operation = a.operation
  key : b.idempotencyKey = a.idempotencyKey

/-- What a command does. -/
inductive Kind where
  | enqueue
  | cancel
  | revise
  | reject
  deriving DecidableEq, Repr

/-- The name of an operation, before the identifier of what it is about. -/
def Kind.verb : Kind → String
  | enqueue => "enqueue_compute:"
  | cancel => "cancel_schedule_run:"
  | revise => "revision:"
  | reject => "rejection:"

def kind : Command → Kind
  | enqueue _ => .enqueue
  | cancel _ => .cancel
  | revise _ => .revise
  | reject _ => .reject

/-- What a command is about. -/
def target : Command → Uuid
  | enqueue cmd => cmd.proposalId
  | cancel cmd => cmd.runId
  | revise cmd => cmd.proposalId
  | reject cmd => cmd.proposalId

theorem operation_eq (c : Command) : c.operation = c.kind.verb ++ toString c.target := by
  cases c <;> rfl

/-- Three letters of a verb, which tell the verbs apart. -/
def Kind.letters : Kind → List Char
  | enqueue => ['e', 'n', 'q']
  | cancel => ['c', 'a', 'n']
  | revise => ['r', 'e', 'v']
  | reject => ['r', 'e', 'j']

theorem Kind.letters_inj {k l : Kind} (h : k.letters = l.letters) : k = l := by
  cases k <;> cases l <;> first | rfl | exact absurd h (by decide)

theorem Kind.take_verb (k : Kind) (rest : String) :
    (k.verb ++ rest).toList.take 3 = k.letters := by
  rw [String.toList_append, List.take_append_of_le_length]
  · cases k <;> rfl
  · cases k <;> decide

/-- **Operations come apart** into what is done and what it is done to. -/
theorem operation_inj {a b : Command} (h : a.operation = b.operation) :
    a.kind = b.kind ∧ a.target = b.target := by
  rw [operation_eq, operation_eq] at h
  have hkind : a.kind = b.kind := by
    apply Kind.letters_inj
    rw [← a.kind.take_verb, h, b.kind.take_verb]
  exact ⟨hkind, (Naming.numbered_inj (by rw [hkind]) h).2⟩

end Command

/-! ## Replies -/

/-- What the sender of a command is told. -/
inductive Reply where
  | enqueued (outcome : Except PyError EnqueueComputeResultV1)
  | cancelled (response : CancelResponse)
  | drafted (outcome : Except PyError (Option ProposalViewV1))

namespace Reply

/-- The result a success reports. -/
def result? : Reply → Option ResponsePayload
  | enqueued (.ok result) => some (.enqueued result)
  | cancelled (.ok result) => some (.cancellation result)
  | drafted (.ok (some view)) => some (.proposalView view)
  | _ => none

end Reply

/-- A result without what a replay derives anew: the governed scenario version of the moment, and
whether the draft is stale against it. -/
def ResponsePayload.undated : ResponsePayload → ResponsePayload
  | .proposalView view => .proposalView { view with currentScenarioVersionId := 0, stale := false }
  | payload => payload

/-! ## The steps -/

/-- An operation of one of the four commands. -/
def IsCommand (operation : String) : Prop := ∃ cmd : Command, operation = cmd.operation

inductive CommandAction where
  /-- a step of a planner or a worker on the runs -/
  | onRuns (a : Action)
  | revise (env : Ambient) (catalogue : ScenarioCatalogue) (cmd : ReviseCommand)
  | reject (env : Ambient) (catalogue : ScenarioCatalogue) (cmd : RejectCommand)
  /-- whatever the rest of the application commits -/
  | elsewhere (db' : Db)

/-- A draft of a scenario that the site has a version of. -/
def ProposalV1.GovernedAt (proposal : ProposalV1) (db : Db) (siteId : Uuid) : Prop :=
  ∃ scenarioId, proposal.scenarioId = some scenarioId ∧
    ∃ v ∈ db.scenarioVersion, isVersionOf scenarioId siteId v = true

theorem ProposalV1.GovernedAt.of_scenarios {proposal : ProposalV1} {db db' : Db} {siteId : Uuid}
    (h : proposal.GovernedAt db siteId)
    (hkept : ∀ w ∈ db.scenarioVersion, w ∈ db'.scenarioVersion) :
    proposal.GovernedAt db' siteId := by
  obtain ⟨scenarioId, hscenario, w, hw, hversion⟩ := h
  exact ⟨scenarioId, hscenario, w, hkept w hw, hversion⟩

/-- What the rest of the application leaves alone: the runs, their jobs and the receipts of the
four commands, and the scenario versions, which are immutable. Its drafts are drafts of a scenario
of their site (`fk_proposal_scenario_version_site`, with `ON DELETE RESTRICT`). -/
structure BesideCommands (db db' : Db) : Prop where
  tables : db'.runTables = db.runTables
  jobs : db'.jobQueue = db.jobQueue
  receipts : ∀ row, IsCommand row.operation →
    (row ∈ db'.commandIdempotency ↔ row ∈ db.commandIdempotency)
  drafts : DraftMoves db db'
  scenarios : ∀ w ∈ db.scenarioVersion, w ∈ db'.scenarioVersion
  governed : ∀ v ∈ db'.proposalVersion, v ∈ db.proposalVersion ∨ v.payload.GovernedAt db' v.siteId

section Machine

variable (digest : List (String × JsonScalar) → String) (maxConstraints : Nat)

/-- The commands of a step hash their bodies with `digest` and read the catalogue of their moment;
what the rest of the application does is a step of its own. -/
def Action.Situated (db : Db) : Action → Prop
  | .enqueueCompute env catalogue cmd =>
    env.contractDigest = digest ∧ catalogue.ReadOf db cmd.siteId
  | .admitCancel env _ _ => env.contractDigest = digest
  | .elsewhere _ => False
  | _ => True

/-- A revision is held to the deployment's number of constraints. -/
def CommandAction.Enabled (s : Sys) : CommandAction → Prop
  | onRuns a => a.Enabled s ∧ a.Situated digest s.db
  | revise env catalogue cmd => env.contractDigest = digest ∧
      cmd.maxConstraints = maxConstraints ∧ catalogue.ReadOf s.db cmd.siteId
  | reject env catalogue cmd => env.contractDigest = digest ∧ catalogue.ReadOf s.db cmd.siteId
  | elsewhere db' => BesideCommands s.db db'

end Machine

def Sys.performCommand (s : Sys) : CommandAction → Sys
  | .onRuns a => s.perform a
  | .revise env catalogue cmd =>
    { s with db := ((reviseProposal env catalogue cmd).commit s.db).2 }
  | .reject env catalogue cmd =>
    { s with db := ((rejectProposal env catalogue cmd).commit s.db).2 }
  | .elsewhere db' => { s with db := db' }

/-- The command that a step ends, with its reply. A cancellation ends when it is admitted, or at its
write phase. -/
def CommandAction.answer (s : Sys) : CommandAction → Option (Command × Reply)
  | onRuns (.enqueueCompute env catalogue cmd) =>
    some (.enqueue cmd, .enqueued ((enqueueCompute env catalogue cmd).commit s.db).1)
  | onRuns (.admitCancel env cmd observed) =>
    match admitCancel env cmd observed (s.db.cancelReceipt cmd) with
    | .ok (.write _) => none
    | .ok (.finished result) => some (.cancel cmd, .cancelled (cancelRequest (pure result) s.db).1)
    | .error e => some (.cancel cmd, .cancelled (cancelRequest (throw e) s.db).1)
  | onRuns (.writeCancel session) =>
    some (.cancel session.cmd, .cancelled
      (cancelRequest (cancelWrite session.env session.cmd session.state) s.db).1)
  | revise env catalogue cmd =>
    some (.revise cmd, .drafted ((reviseProposal env catalogue cmd).commit s.db).1)
  | reject env catalogue cmd =>
    some (.reject cmd, .drafted ((rejectProposal env catalogue cmd).commit s.db).1)
  | _ => none

/-- A site where nothing was scheduled and no command was answered yet. -/
structure Sys.InitialForCommands (s : Sys) : Prop extends s.Initial where
  receipts : s.db.commandIdempotency = .empty
  sound : DraftsSound s.db
  governed : ∀ v ∈ s.db.proposalVersion, v.payload.GovernedAt s.db v.siteId

end ShiftMind
