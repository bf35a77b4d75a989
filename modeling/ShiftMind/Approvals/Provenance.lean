import Mathlib.Data.Prod.Lex
import Mathlib.Data.String.Basic
import ShiftMind.Contracts.Approval
import ShiftMind.Contracts.Grounding
import ShiftMind.Library.Log
import ShiftMind.Streaming.StreamCursor

/-!
# ShiftMind — the provenance timeline of a decision

`application/queries/decision_provenance.py`: the records of a schedule run, of its approvals, their
audits and their conversations are merged into one timeline, by the time each was written at, then
by the rank of its type, then by an identifier. Each time was read from the clock of the process
that wrote the record.

* **`queryDecisionProvenance`** — the query, over what its ports answer.
* **`Causes`** — what causally follows what.
* **`timeline_keeps_order`** — the timeline keeps causal order as far as the clocks do.
-/

namespace ShiftMind.Provenance

/-! ## What the ports answer -/

/-- The part of `ScheduleRunViewV1` the query reads. -/
structure RunView where
  status : ScheduleRunStatus
  reason : Option String
  createdAt : Instant

/-- An event of the stream of the run. -/
structure RunEvent where
  sequence : Int
  occurredAt : Instant
  requestId : Uuid
  conversationId : Option Uuid := none
  agentRunId : Option Uuid := none
  actorId : Uuid
  payload : RunProgressActivityV1

/-- The payload of an event of a conversation, by its class. -/
inductive TurnPayload where
  | draft (scenarioVersionId proposalId proposalVersionId : Uuid) (consequenceSummary : String)
  | agentResponse (scenarioVersionId : Uuid) (response : GroundedResponseV1)
  | other

/-- An event of a conversation. -/
structure TurnEvent where
  occurredAt : Instant
  requestId : Uuid
  conversationId : Option Uuid
  agentRunId : Option Uuid
  actorId : Uuid
  payload : TurnPayload

/-- `WorkerFactsV1`. -/
structure WorkerFactsV1 where
  leaseOwner : Option String := none
  attemptId : Option Uuid := none
  fencingEpoch : Option Int := none
  deriving DecidableEq, Repr

/-- An audit as it is read back. -/
structure StoredAudit extends AuditEnvelopeV1 where
  action : String
  appVersion : String
  workerFacts : WorkerFactsV1

/-- What the ports answer for a run and a site. -/
structure Ports where
  run : Option RunView
  snapshot : Option RunSnapshotV1
  candidate : Option ScheduleVersionV1
  bindings : List ApprovalBindingV1
  audits : List StoredAudit
  runEvents : List RunEvent
  timeline : Uuid → Option (List TurnEvent)
  pendingPayload : Uuid → PendingPayload
  now : Instant

/-! ## Items -/

inductive ItemType where
  | solverRun
  | runProgress
  | draft
  | evidenceClaim
  | toolProposal
  | approvalRequest
  | approvalDecision
  | auditRecord
  | baselinePromotion
  deriving DecidableEq, Repr

/-- `_SOURCE_RANK`. -/
def ItemType.rank : ItemType → Nat
  | solverRun => 0
  | runProgress => 1
  | draft => 2
  | evidenceClaim => 3
  | toolProposal => 4
  | approvalRequest => 5
  | approvalDecision => 6
  | auditRecord => 7
  | baselinePromotion => 8

/-- What an item has beyond the common fields. -/
inductive Detail where
  | solverRun (status : ScheduleRunStatus) (reason baselineScheduleVersion : Option String)
    (candidateScheduleVersionId : Option Uuid) (comparisonStatus : String)
    (comparisonReason : Option String) (metrics : Option MetricSetV1)
  | runProgress (status : ScheduleRunStatus) (reason : Option String) (resourceVersion : Int)
  | draft (proposalId proposalVersionId : Uuid) (consequenceSummary : String)
  | evidenceClaim (claim : Metric) (value : Option PyNumber) (unit : Option GroundingUnit)
  | toolProposal (toolName : String)
  | approvalRequest (state : ApprovalState)
    (consequenceSummary parameterHash consequenceHash policyVersion : String) (expiresAt : Instant)
  | approvalDecision (outcome : AuditOutcome) (state : ApprovalState)
  | auditRecord (action : String) (outcome : AuditOutcome) (success : Bool)
    (safeSummary parameterHash consequenceHash policyVersion appVersion : String)
    (workerFacts : WorkerFactsV1)
  | baselinePromotion (beforeVersion : Option String) (afterVersion : String)
  deriving DecidableEq, Repr

/-- The type of an item. -/
def Detail.itemType : Detail → ItemType
  | solverRun .. => .solverRun
  | runProgress .. => .runProgress
  | draft .. => .draft
  | evidenceClaim .. => .evidenceClaim
  | toolProposal .. => .toolProposal
  | approvalRequest .. => .approvalRequest
  | approvalDecision .. => .approvalDecision
  | auditRecord .. => .auditRecord
  | baselinePromotion .. => .baselinePromotion

/-- `ProvenanceCommonV1`, with what the item has beyond it. -/
structure Item where
  occurredAt : Instant
  detail : Detail
  siteId : Uuid
  actorId : Option Uuid := none
  initiatedByActorId : Option Uuid := none
  decidedByActorId : Option Uuid := none
  requestId : Option Uuid := none
  attemptId : Option Uuid := none
  conversationId : Option Uuid := none
  agentRunId : Option Uuid := none
  toolCallId : Option String := none
  approvalId : Option Uuid := none
  jobAttemptId : Option Uuid := none
  scheduleRunId : Option Uuid
  auditId : Option Uuid := none
  scheduleVersionId : Option Uuid := none
  scenarioVersionId : Option Uuid := none
  evidenceRefs : List EvidenceRefV1 := []
  deriving DecidableEq, Repr

def Item.itemType (item : Item) : ItemType := item.detail.itemType

/-- `str` of a UUID. -/
def uuidStr (u : Uuid) : String := String.ofList (StreamCursor.uuidText u)

/-- `_sort_id`. -/
def Item.sortId (item : Item) : String :=
  match [item.auditId, item.approvalId, item.scheduleVersionId, item.requestId, item.attemptId,
      item.scheduleRunId].findSome? id with
  | some value => uuidStr value
  | none => ""

/-- The key of the sort. -/
def Item.key (item : Item) : Instant ×ₗ (Nat ×ₗ String) :=
  toLex (item.occurredAt, toLex (item.itemType.rank, item.sortId))

structure DecisionProvenanceV1 where
  scheduleRunId : Uuid
  siteId : Uuid
  items : List Item
  deriving DecidableEq, Repr

/-! ## The query -/

def comparisonUnavailable : String :=
  "Comparison unavailable: the frozen baseline schedule has no authoritative assignment supply; " ++
    "it is linked by reference and never recomputed."

def comparisonNoCandidate : String :=
  "Comparison unavailable: this run produced no candidate schedule version, so there is no " ++
    "comparison to link."

section Query

variable (scheduleRunId siteId : Uuid) (ports : Ports)

/-- The item of the run. -/
def solverRunItem (run : RunView) : Item :=
  let baselineVersion := ports.snapshot.bind RunSnapshotV1.baselineScheduleVersion
  let candidateId := ports.candidate.map ScheduleVersionV1.scheduleVersionId
  let comparisonReason :=
    if baselineVersion.isSome then some comparisonUnavailable
    else if candidateId.isNone then some comparisonNoCandidate else none
  let firstActor := ports.runEvents.head?.map RunEvent.actorId
  { occurredAt := (ports.snapshot.map RunSnapshotV1.acceptedAt).getD run.createdAt
    detail := .solverRun run.status run.reason baselineVersion candidateId
      (if comparisonReason.isSome then "unavailable" else "available") comparisonReason
      (ports.candidate.map ScheduleVersionV1.metrics)
    siteId := siteId
    actorId := firstActor
    initiatedByActorId := firstActor
    scheduleRunId := some scheduleRunId
    scheduleVersionId := candidateId
    scenarioVersionId := ports.snapshot.map RunSnapshotV1.scenarioVersionId
    evidenceRefs := (ports.candidate.map ScheduleVersionV1.evidenceRefs).getD [] }

/-- The item of an event of the run. -/
def progressItem (event : RunEvent) : Item where
  occurredAt := event.occurredAt
  detail := .runProgress event.payload.status event.payload.reason event.payload.resourceVersion
  siteId := siteId
  actorId := some event.actorId
  initiatedByActorId := some event.actorId
  requestId := some event.requestId
  conversationId := event.conversationId
  agentRunId := event.agentRunId
  scheduleRunId := some scheduleRunId
  scenarioVersionId := ports.snapshot.map RunSnapshotV1.scenarioVersionId

/-- The common fields of the items of a turn. -/
def turnItem (event : TurnEvent) (scenarioVersionId : Uuid) (detail : Detail)
    (evidenceRefs : List EvidenceRefV1) : Item where
  occurredAt := event.occurredAt
  detail := detail
  siteId := siteId
  actorId := some event.actorId
  initiatedByActorId := some event.actorId
  requestId := some event.requestId
  conversationId := event.conversationId
  agentRunId := event.agentRunId
  scheduleRunId := some scheduleRunId
  scenarioVersionId := some scenarioVersionId
  evidenceRefs := evidenceRefs

/-- The items of an event of a conversation: those of a bound agent run only. -/
def turnItems (boundAgentRuns : List Uuid) (event : TurnEvent) : List Item :=
  if event.agentRunId.all fun agentRunId => decide (agentRunId ∉ boundAgentRuns) then []
  else
    match event.payload with
    | .draft scenarioVersionId proposalId proposalVersionId consequenceSummary =>
      [turnItem scheduleRunId siteId event scenarioVersionId
        (.draft proposalId proposalVersionId consequenceSummary) []]
    | .agentResponse scenarioVersionId response =>
      response.claims.map fun claim =>
        turnItem scheduleRunId siteId event scenarioVersionId
          (.evidenceClaim claim.metric claim.value claim.unit) claim.evidenceRefs
    | .other => []

/-- The items of the conversations that an approval is bound to. -/
def conversationItems : List Item :=
  let boundAgentRuns := ports.bindings.filterMap ApprovalBindingV1.agentRunId
  (Log.sort uuidStr (ports.bindings.map ApprovalBindingV1.conversationId).dedup).flatMap
    fun conversationId =>
      ((ports.timeline conversationId).getD []).flatMap
        (turnItems scheduleRunId siteId boundAgentRuns)

/-- `audits_by_outcome.get`: the earliest audit of an approval with an outcome. -/
def auditOf (approvalId : Uuid) (outcome : AuditOutcome) : Option StoredAudit :=
  ports.audits.find? fun audit =>
    decide (audit.approvalId = some approvalId ∧ audit.outcome = outcome)

/-- `state_outcome`. -/
def stateOutcome : ApprovalState → Option AuditOutcome
  | .pending => none
  | .consumed => some .approvalConsumed
  | .rejected => some .approvalRejected
  | .expired => some .approvalExpired
  | .stale => some .approvalStale

/-- The common fields of the items of an approval. -/
def bindingItem (binding : ApprovalBindingV1) (occurredAt : Instant) (detail : Detail) : Item where
  occurredAt := occurredAt
  detail := detail
  siteId := siteId
  actorId := some binding.initiatedByActorId
  initiatedByActorId := some binding.initiatedByActorId
  conversationId := some binding.conversationId
  agentRunId := binding.agentRunId
  approvalId := some binding.approvalId
  scheduleRunId := some scheduleRunId
  scenarioVersionId := some binding.scenarioVersionId

def approvalRequestItem (binding : ApprovalBindingV1) : Item :=
  let audit := auditOf ports binding.approvalId .approvalRequested
  { bindingItem scheduleRunId siteId binding binding.createdAt
      (.approvalRequest (presentedApprovalState binding ports.now) binding.consequenceSummary
        binding.parameterHash binding.consequenceHash binding.policyVersion binding.expiresAt) with
    requestId := audit.map (·.requestId)
    attemptId := audit.map (·.attemptId)
    scheduleVersionId := some binding.candidateScheduleVersionId }

/-- The tool call an approval was asked for by, where exactly one is readable. -/
def toolProposalItems (binding : ApprovalBindingV1) : List Item :=
  match binding.agentRunId, ports.pendingPayload binding.approvalId with
  | some _, .readable [call] =>
    [{ bindingItem scheduleRunId siteId binding binding.createdAt (.toolProposal call.toolName) with
      toolCallId := some call.toolCallId }]
  | _, _ => []

def approvalDecisionItems (binding : ApprovalBindingV1) : List Item :=
  let state := presentedApprovalState binding ports.now
  match stateOutcome state, binding.decidedAt with
  | some outcome, some decidedAt =>
    let audit := auditOf ports binding.approvalId outcome
    [{ bindingItem scheduleRunId siteId binding decidedAt (.approvalDecision outcome state) with
      decidedByActorId := binding.decidedByActorId
      requestId := audit.map (·.requestId)
      attemptId := audit.map (·.attemptId)
      scheduleVersionId := some binding.candidateScheduleVersionId }]
  | _, _ => []

/-- The items of an approval. -/
def bindingItems (binding : ApprovalBindingV1) : List Item :=
  approvalRequestItem scheduleRunId siteId ports binding ::
    (toolProposalItems scheduleRunId siteId ports binding ++
      approvalDecisionItems scheduleRunId siteId ports binding)

/-- The common fields of the items of an audit. -/
def auditItem (audit : StoredAudit) (detail : Detail) : Item where
  occurredAt := audit.occurredAt
  detail := detail
  siteId := siteId
  actorId := some audit.initiatedByActorId
  initiatedByActorId := some audit.initiatedByActorId
  decidedByActorId := audit.decidedByActorId
  requestId := some audit.requestId
  attemptId := some audit.attemptId
  conversationId := audit.conversationId
  agentRunId := audit.agentRunId
  approvalId := audit.approvalId
  jobAttemptId := audit.workerFacts.attemptId
  scheduleRunId := some scheduleRunId
  auditId := some audit.auditId
  scheduleVersionId := ports.candidate.map ScheduleVersionV1.scheduleVersionId
  scenarioVersionId := ports.snapshot.map RunSnapshotV1.scenarioVersionId
  evidenceRefs := audit.evidenceRefs

/-- The items of an audit. -/
def auditItems (audit : StoredAudit) : List Item :=
  auditItem scheduleRunId siteId ports audit
    (.auditRecord audit.action audit.outcome audit.success audit.safeSummary audit.parameterHash
      audit.consequenceHash audit.policyVersion audit.appVersion audit.workerFacts) ::
    match audit.outcome, audit.afterVersion with
    | .approvalConsumed, some afterVersion =>
      [auditItem scheduleRunId siteId ports audit
        (.baselinePromotion audit.beforeVersion afterVersion)]
    | _, _ => []

/-- The items, as they are gathered. -/
def gatheredItems (run : RunView) : List Item :=
  solverRunItem scheduleRunId siteId ports run ::
    (ports.runEvents.map (progressItem scheduleRunId siteId ports) ++
      (conversationItems scheduleRunId siteId ports ++
        (ports.bindings.flatMap (bindingItems scheduleRunId siteId ports) ++
          ports.audits.flatMap (auditItems scheduleRunId siteId ports))))

/-- `query_decision_provenance`. -/
def queryDecisionProvenance : Option DecisionProvenanceV1 :=
  ports.run.map fun run =>
    ⟨scheduleRunId, siteId, Log.sort Item.key (gatheredItems scheduleRunId siteId ports run)⟩

end Query

/-! ## Causal order

The causal order is read off the kinds of the items and the approval they name; the clocks have no
part in it. -/

/-- **What causally follows what**: the run is accepted before it progresses, both before an
approval of its candidate is asked for; an approval is asked for before it is decided, and it is
decided before the baseline is promoted. -/
def Causes (x y : Item) : Prop :=
  match x.itemType, y.itemType with
  | .solverRun, .runProgress => True
  | .solverRun, .approvalRequest | .solverRun, .approvalDecision | .solverRun, .baselinePromotion =>
    True
  | .runProgress, .approvalRequest | .runProgress, .approvalDecision
  | .runProgress, .baselinePromotion => True
  | .approvalRequest, .approvalDecision | .approvalRequest, .baselinePromotion
  | .approvalDecision, .baselinePromotion => x.approvalId = y.approvalId
  | _, _ => False

/-- What follows has a higher rank. -/
theorem Causes.rank {x y : Item} (h : Causes x y) : x.itemType.rank < y.itemType.rank := by
  unfold Causes at h
  split at h
  all_goals first
    | exact h.elim
    | simp_all [ItemType.rank]

instance : DecidableRel Causes := fun x y => by
  unfold Causes
  split <;> infer_instance

/-! ## The order of the timeline

The sort goes by time, then by kind, then by id, so it keeps the causal order where the clocks do.
-/

theorem key_le_iff {x y : Item} : x.key ≤ y.key ↔
    x.occurredAt < y.occurredAt ∨ (x.occurredAt = y.occurredAt ∧
      (x.itemType.rank < y.itemType.rank ∨
        (x.itemType.rank = y.itemType.rank ∧ x.sortId ≤ y.sortId))) := by
  unfold Item.key
  rw [Prod.Lex.toLex_le_toLex, Prod.Lex.toLex_le_toLex]

/-- **The timeline is in causal order as far as the clocks are**: an item that causally follows
another has the higher rank, so equal readings do no harm. -/
theorem pairwise_causes {timeline : List Item}
    (hsorted : timeline.Pairwise fun x y => x.key ≤ y.key)
    (hclocks : ∀ x ∈ timeline, ∀ y ∈ timeline, Causes x y → x.occurredAt ≤ y.occurredAt) :
    timeline.Pairwise fun x y => ¬ Causes y x := by
  apply hsorted.imp_of_mem
  intro x y hx hy hle hcauses
  have hclock := hclocks y hy x hx hcauses
  have hrank := hcauses.rank
  rcases key_le_iff.mp hle with hlt | ⟨-, hlt | ⟨heq, -⟩⟩
  · exact absurd hlt (not_lt.mpr hclock)
  · exact absurd hlt (not_lt.mpr hrank.le)
  · exact hrank.ne' heq

def isProgress (item : Item) : Bool := decide (item.itemType = .runProgress)

theorem filter_progress_eq_nil {items : List Item}
    (h : ∀ item ∈ items, item.itemType ≠ .runProgress) : items.filter isProgress = [] := by
  rw [List.filter_eq_nil_iff]
  intro item hmem hprogress
  exact h item hmem (of_decide_eq_true hprogress)

section Query

variable {scheduleRunId siteId : Uuid} {ports : Ports}

/-- Only the events of the run are run progress. -/
theorem filter_gatheredItems (run : RunView) :
    (gatheredItems scheduleRunId siteId ports run).filter isProgress =
      ports.runEvents.map (progressItem scheduleRunId siteId ports) := by
  -- none of the other sources gives an item of run progress
  have hturns : (conversationItems scheduleRunId siteId ports).filter isProgress = [] := by
    apply filter_progress_eq_nil
    intro item hitem
    unfold conversationItems at hitem
    obtain ⟨_, -, hitem⟩ := List.mem_flatMap.mp hitem
    obtain ⟨event, -, hitem⟩ := List.mem_flatMap.mp hitem
    unfold turnItems at hitem
    split at hitem
    · cases hitem
    · split at hitem
      · rw [List.mem_singleton.mp hitem]
        exact nofun
      · obtain ⟨claim, -, rfl⟩ := List.mem_map.mp hitem
        exact nofun
      · cases hitem
  have hbindings : (ports.bindings.flatMap (bindingItems scheduleRunId siteId ports)).filter
      isProgress = [] := by
    apply filter_progress_eq_nil
    intro item hitem
    obtain ⟨binding, -, hitem⟩ := List.mem_flatMap.mp hitem
    rcases List.mem_cons.mp hitem with rfl | hitem
    · exact nofun
    · rcases List.mem_append.mp hitem with hitem | hitem
      · unfold toolProposalItems at hitem
        split at hitem
        · rw [List.mem_singleton.mp hitem]
          exact nofun
        · cases hitem
      · unfold approvalDecisionItems at hitem
        simp only at hitem
        split at hitem
        · rw [List.mem_singleton.mp hitem]
          exact nofun
        · cases hitem
  have haudits : (ports.audits.flatMap (auditItems scheduleRunId siteId ports)).filter
      isProgress = [] := by
    apply filter_progress_eq_nil
    intro item hitem
    obtain ⟨audit, -, hitem⟩ := List.mem_flatMap.mp hitem
    rcases List.mem_cons.mp hitem with rfl | hitem
    · exact nofun
    · split at hitem
      · rw [List.mem_singleton.mp hitem]
        exact nofun
      · cases hitem
  -- and every event of the run does
  have hevents : (ports.runEvents.map (progressItem scheduleRunId siteId ports)).filter
      isProgress = ports.runEvents.map (progressItem scheduleRunId siteId ports) := by
    rw [List.filter_eq_self]
    intro item hitem
    obtain ⟨event, -, rfl⟩ := List.mem_map.mp hitem
    rfl
  have hsolver : isProgress (solverRunItem scheduleRunId siteId ports run) = false := rfl
  unfold gatheredItems
  rw [List.filter_cons, hsolver, if_neg Bool.false_ne_true, List.filter_append,
    List.filter_append, List.filter_append, hevents, hturns, hbindings, haudits, List.append_nil,
    List.append_nil, List.append_nil]

/-- Events whose readings increase stay in their order. -/
theorem filter_timeline (run : RunView)
    (hclocks : ports.runEvents.Pairwise fun e e' => e.occurredAt < e'.occurredAt) :
    (Log.sort Item.key (gatheredItems scheduleRunId siteId ports run)).filter isProgress =
      ports.runEvents.map (progressItem scheduleRunId siteId ports) := by
  have hperm : ((Log.sort Item.key (gatheredItems scheduleRunId siteId ports run)).filter
      isProgress).Perm (ports.runEvents.map (progressItem scheduleRunId siteId ports)) := by
    rw [← filter_gatheredItems run]
    exact (Log.perm_sort _).filter _
  have hincreasing : Log.Increasing Item.key
      (ports.runEvents.map (progressItem scheduleRunId siteId ports)) := by
    unfold Log.Increasing
    rw [List.pairwise_map]
    apply hclocks.imp
    intro e e' hlt
    exact Prod.Lex.toLex_lt_toLex.mpr (Or.inl hlt)
  apply hincreasing.eq_of_sorted _ hperm
  exact (Log.pairwise_sort _).sublist List.filter_sublist

end Query

/-- **The timeline keeps causal order as far as the clocks do.** It holds every item once, by time,
rank and identifier; the events of the run stand in their order where their readings increase, and
no item stands after one that causally follows it where the readings do not decrease. -/
theorem timeline_keeps_order (scheduleRunId siteId : Uuid) (ports : Ports) (run : RunView)
    (hrun : ports.run = some run) :
    ∃ timeline, queryDecisionProvenance scheduleRunId siteId ports =
        some ⟨scheduleRunId, siteId, timeline⟩ ∧
      timeline.Perm (gatheredItems scheduleRunId siteId ports run) ∧
      timeline.Pairwise (fun x y => x.key ≤ y.key) ∧
      ((ports.runEvents.Pairwise fun e e' => e.sequence < e'.sequence) →
        (∀ e ∈ ports.runEvents, ∀ e' ∈ ports.runEvents, e.sequence < e'.sequence →
          e.occurredAt < e'.occurredAt) →
        timeline.filter isProgress =
          ports.runEvents.map (progressItem scheduleRunId siteId ports)) ∧
      ((∀ x ∈ timeline, ∀ y ∈ timeline, Causes x y → x.occurredAt ≤ y.occurredAt) →
        timeline.Pairwise fun x y => ¬ Causes y x) := by
  refine ⟨Log.sort Item.key (gatheredItems scheduleRunId siteId ports run), ?_, Log.perm_sort _,
    Log.pairwise_sort _, fun hstream hclocks => ?_, fun hclocks => ?_⟩
  · rw [queryDecisionProvenance, hrun]
    rfl
  · apply filter_timeline
    apply hstream.imp_of_mem
    intro e e' he he' hlt
    exact hclocks e he e' he' hlt
  · exact pairwise_causes (Log.pairwise_sort _) hclocks

/-! ## Clocks that disagree -/

namespace Skewed

/-- An event of the run, read from a clock. -/
def event (sequence : Int) (status : ScheduleRunStatus) (occurredAt : Instant) (requestId : Uuid) :
    RunEvent where
  sequence := sequence
  occurredAt := occurredAt
  requestId := requestId
  actorId := 5
  payload := ⟨1, status, none, sequence, occurredAt⟩

/-- The approval of the candidate, asked for at a reading. -/
def binding (createdAt : Instant) : ApprovalBindingV1 where
  approvalId := 7
  state := .pending
  siteId := 2
  initiatedByActorId := 5
  conversationId := 8
  agentRunId := none
  scheduleRunId := 1
  candidateScheduleVersionId := 9
  scenarioVersionId := 3
  baselineScheduleVersion := none
  baselineResourceVersion := none
  parameterHash := "p"
  consequenceSummary := "promote"
  consequenceHash := "c"
  policyVersion := "v1"
  createdAt := createdAt
  expiresAt := 1000
  requestEffectKey := "k"

def ports (runEvents : List RunEvent) (bindings : List ApprovalBindingV1) : Ports where
  run := some ⟨.solverCompleted, none, 100⟩
  snapshot := none
  candidate := none
  bindings := bindings
  audits := []
  runEvents := runEvents
  timeline := fun _ => none
  pendingPayload := fun _ => .unreadable
  now := 500

/-- The worker's clock is behind that of the process that queued the run, and ahead of that of the
process that asked for the approval. -/
def skewed : Ports :=
  ports [event 1 .solverQueued 100 11, event 2 .solverRunning 90 12,
    event 3 .solverCompleted 400 13] [binding 300]

/-- One reading for two events. -/
def tied : Ports :=
  ports [event 1 .solverRunning 100 12, event 2 .solverCompleted 100 11] []

/-- Clocks that agree. -/
def agreed : Ports :=
  ports [event 1 .solverQueued 100 11, event 2 .solverRunning 190 12,
    event 3 .solverCompleted 200 13] [binding 300]

end Skewed

open Skewed in
/-- A slow clock puts the start of a run before its acceptance, a fast one its end behind the
request for an approval, and events of one reading stand in the order of their request ids. -/
theorem timeline_out_of_order :
    (∃ timeline, queryDecisionProvenance 1 2 skewed = some ⟨1, 2, timeline⟩ ∧
      timeline.filter isProgress ≠ skewed.runEvents.map (progressItem 1 2 skewed) ∧
      ¬ timeline.Pairwise fun x y => ¬ Causes y x) ∧
    (∃ timeline, queryDecisionProvenance 1 2 tied = some ⟨1, 2, timeline⟩ ∧
      timeline.filter isProgress ≠ tied.runEvents.map (progressItem 1 2 tied)) := by
  refine ⟨⟨_, rfl, ?_, ?_⟩, ⟨_, rfl, ?_⟩⟩
  · decide +kernel
  · decide +kernel
  · decide +kernel

open Skewed in
theorem timeline_keeps_order_agreed :
    ∃ timeline, queryDecisionProvenance 1 2 agreed = some ⟨1, 2, timeline⟩ ∧
      timeline.filter isProgress = agreed.runEvents.map (progressItem 1 2 agreed) ∧
      timeline.Pairwise fun x y => ¬ Causes y x := by
  obtain ⟨timeline, htimeline, hperm, -, hprogress, hcauses⟩ :=
    timeline_keeps_order 1 2 agreed _ rfl
  have hclocks : ∀ x ∈ gatheredItems 1 2 agreed ⟨.solverCompleted, none, 100⟩,
      ∀ y ∈ gatheredItems 1 2 agreed ⟨.solverCompleted, none, 100⟩,
        Causes x y → x.occurredAt ≤ y.occurredAt := by
    decide +kernel
  refine ⟨timeline, htimeline, hprogress (by decide) (by decide), hcauses fun x hx y hy => ?_⟩
  exact hclocks x (hperm.mem_iff.mp hx) y (hperm.mem_iff.mp hy)

end ShiftMind.Provenance
