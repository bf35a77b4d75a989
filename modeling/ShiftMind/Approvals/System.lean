import ShiftMind.Approvals.Effects
import ShiftMind.Library.Transition

/-!
# ShiftMind — requests and decisions, interleaved

The approval workflow as a transition system. A step is one transaction: a planner's request, the
request of a suspended agent turn, a decision — which approves, rejects, or finds the binding
expired or stale — or anything the rest of the application commits outside the approval tables.
Any request and any decision may be taken at any time, by anyone, on any site.

* **`ApprovalSys`** — the database, and the bindings in the order in which they were consumed.
* **`ApprovalAction`** — a step's label, `Enabled` and performed by `ApprovalSys.perform`.
* **`Desk`** — a planning desk with one completed run, on which concrete requests are decided.
-/

namespace ShiftMind

open Relational Transactional Transition

/-! ## The state of the system -/

/-- The baseline of a site. -/
def Db.baselineOf (db : Db) (siteId : Uuid) : Option SiteBaselineRow :=
  db.siteBaseline.find? (SiteBaseline.ofSite siteId)

/-- The bindings that a step left consumed and did not find so. -/
def newlyConsumed (db db' : Db) : List ApprovalBindingV1 :=
  (db'.approvalRequest.rows.filter fun row =>
    decide (row.binding.state = .consumed) && !db.approvalRequest.rows.contains row).map
      ApprovalRequestRow.binding

structure ApprovalSys where
  db : Db
  /-- the bindings consumed so far, the last one first -/
  consumptions : List ApprovalBindingV1 := []

/-- The system once a transaction has committed `db'`. -/
def ApprovalSys.commit (s : ApprovalSys) (db' : Db) : ApprovalSys where
  db := db'
  consumptions := newlyConsumed s.db db' ++ s.consumptions

/-! ## The steps -/

inductive ApprovalAction where
  /-- the route of a planner's request -/
  | createApproval (env : Ambient) (settings : ApprovalSettings) (cmd : CreateApprovalCommand)
  /-- the request of a suspended turn -/
  | requestSuspended (env : Ambient) (settings : ApprovalSettings) (call : SuspendedCall)
  /-- the route of a decision -/
  | decideApproval (ctx : DecisionContext) (enabled : Bool) (cmd : DecideApprovalCommand)
  | elsewhere (db' : Db)

/-- When a party may take a step. -/
def ApprovalAction.Enabled (s : ApprovalSys) : ApprovalAction → Prop
  | .elsewhere db' => ApprovalsKept s.db db'
  | _ => True

/-- The state after a step. -/
def ApprovalSys.perform (s : ApprovalSys) : ApprovalAction → ApprovalSys
  | .createApproval env settings cmd =>
    s.commit (approvalEndpoint (createApprovalRoute env settings cmd) s.db).2
  | .requestSuspended env settings call =>
    s.commit ((ShiftMind.requestSuspended env settings call).commit s.db).2
  | .decideApproval ctx enabled cmd =>
    s.commit (approvalEndpoint (decideFreshly ctx enabled cmd) s.db).2
  | .elsewhere db' => s.commit db'

/-- A site that has neither a baseline nor a binding nor the audit row of one. -/
structure ApprovalSys.Initial (siteId : Uuid) (s : ApprovalSys) : Prop where
  bindings : ∀ row ∈ s.db.approvalRequest, row.binding.siteId ≠ siteId
  baseline : ∀ row ∈ s.db.siteBaseline, row.siteId ≠ siteId
  audits : ∀ audit ∈ s.db.auditEvent, audit.success = true → audit.siteId ≠ siteId
  consumptions : s.consumptions = []

/-- The approval workflow, from such a site. -/
def approvalMachine (siteId : Uuid) : Machine ApprovalSys ApprovalAction where
  initial := ApprovalSys.Initial siteId
  enabled := ApprovalAction.Enabled
  perform := ApprovalSys.perform

abbrev approvalSystem (siteId : Uuid) : System ApprovalSys := (approvalMachine siteId).system

/-! ## A planning desk -/

namespace Desk

def candidate : ScheduleVersionV1 where
  scheduleVersionId := 104
  scheduleRunId := 102
  scenarioId := 20
  scenarioVersionId := 21
  proposalId := 10
  proposalVersionId := 11
  feasibleSolverStatus := .optimal
  assignments := []
  metrics := {}
  constraintResults := []
  warnings := []
  evidenceRefs := []
  createdAt := 0

/-- Run 102 of proposal 10 has completed with candidate 104; agent run 300 is at work in the
conversation. -/
def db : Db where
  scheduleRun := .ofRows [⟨102, 1, 101, .solverCompleted, none, some 104, 3, some 0⟩]
  scheduleVersion := .ofRows [⟨104, 1, 102, 10, 11, .optimal, candidate, 0⟩]
  proposal := .ofRows [⟨10, 1, 2, 3, .active, some 11, 1, none, none⟩]
  conversation := .ofRows [⟨2, 1, 20, 21, 1⟩]
  agentRun := .ofRows [⟨300, 1, 2, 301, .agentRunning, none⟩]
  membership := .ofRows [⟨3, 1, none⟩]

def site : ApprovalSys := ⟨db, []⟩

theorem site_initial : site.Initial 1 := by
  refine ⟨?_, ?_, ?_, rfl⟩ <;> intro row hrow <;> cases hrow

/-- The transaction that starts at second `n` draws its identifiers from `100 * n` on. -/
def env (n : Nat) : Ambient where
  now := n * 1000000
  clock := n * 1000000
  uuid4 k := 100 * n + k
  contractDigest members := toString (members.map Prod.fst)

def settings : ApprovalSettings := ⟨true, 3600⟩

/-- A tool call of agent run 300 asks to promote the candidate. -/
def call (pending : PendingPayload) : SuspendedCall where
  siteId := 1
  actorId := 3
  conversationId := 2
  agentRunId := 300
  toolCallId := "call"
  scheduleRunId := 102
  expectedBaselineScheduleVersion := none
  requestId := 50
  pending := pending

def ctx (n : Nat) : DecisionContext where
  env := env n
  outage := fun _ => none
  siteId := 1
  actorId := 3
  requestId := 60

/-- Approve the binding that the request of second 5 created. -/
def approve : DecideApprovalCommand where
  approvalId := 500
  idempotencyKey := "approve"
  decision := .approve
  expectedResourceVersion := 1

/-- The site once the agent's request was bound, with the payload it stored. -/
def bound (pending : PendingPayload) : ApprovalSys :=
  site.perform (.requestSuspended (env 5) settings (call pending))

end Desk

end ShiftMind
