import ShiftMind.Store.ScheduleRun

/-!
# ShiftMind — approvals, the site baseline and the audit trail

`adapters/postgres/{approval,site_baseline,audit,membership}.py`: the three tables that a
consequential decision moves together, and the reads that revalidate it.

* **`ApprovalRepository`** — a binding is inserted pending and leaves that state through one of
  two compare-and-sets, `terminalize` and `consume`.
* **`SiteBaseline`** — the one baseline row of a site: created by the first promotion, moved by
  every later one under a compare-and-set on its resource version.
* **`AuditWriter`** — append-only.
-/

namespace ShiftMind

open Relational Transactional

/-- A statement that the database may fail to execute for reasons of its own. -/
def attempt {α : Type} (failure : Option String) (statement : DbTx α) : DbTx α :=
  match failure with
  | some message => throw (.databaseError message)
  | none => statement

namespace ApprovalRepository

/-- `approval_request.id = approval_id AND approval_request.site_id = site_id`. -/
def isApproval (approvalId siteId : Uuid) (row : ApprovalRequestRow) : Bool :=
  decide (row.binding.approvalId = approvalId) && decide (row.binding.siteId = siteId)

/-- The guard of both compare-and-sets: still pending, at the version the caller decided on. -/
def pendingAt (approvalId siteId : Uuid) (expectedResourceVersion : Int)
    (row : ApprovalRequestRow) : Bool :=
  isApproval approvalId siteId row && decide (row.binding.state = .pending) &&
    decide (row.binding.resourceVersion = expectedResourceVersion)

def createPending (binding : ApprovalBindingV1) (pendingPayload : Option PendingPayload) :
    DbTx Unit := do
  Tx.lift (requireStorable (binding.storable pendingPayload))
  Db.approvalRequests.insertInto (.integrityError "uq_approval_request_pending_run")
    ⟨binding, pendingPayload⟩
  references "fk_approval_request_run_site" fun db =>
    db.scheduleRun.rows.any (ScheduleRunRepository.isRun binding.scheduleRunId binding.siteId)
  references "fk_approval_request_candidate_site" fun db => db.scheduleVersion.rows.any fun v =>
    decide (v.id = binding.candidateScheduleVersionId) && decide (v.siteId = binding.siteId)

def get (approvalId siteId : Uuid) : DbTx (Option ApprovalBindingV1) := do
  let row ← Db.approvalRequests.selectOne (isApproval approvalId siteId)
  pure (row.map ApprovalRequestRow.binding)

def listForScheduleRun (scheduleRunId siteId : Uuid) : DbTx (List ApprovalBindingV1) :=
  Tx.read fun db => ((db.approvalRequest.rows.map ApprovalRequestRow.binding).filter fun b =>
    decide (b.scheduleRunId = scheduleRunId) && decide (b.siteId = siteId)).insertionSort
      fun a b => a.createdAt ≤ b.createdAt

/-- `get_pending_payload`: the column of the row whatever its state, since a promotion reads it
after it has consumed the binding. -/
def getPendingPayload (approvalId siteId : Uuid) : DbTx (Option PendingPayload) := do
  let row ← Db.approvalRequests.selectOne (isApproval approvalId siteId)
  pure (row.bind ApprovalRequestRow.pendingPayload)

/-- The shared body of `terminalize` and `consume`: leave `pending` for `state`, or report that no
row matched. -/
def leavePending (state : ApprovalState) (approvalId siteId decidedByActorId : Uuid)
    (decidedAt : Instant) (consumedAt : Option Instant) (expectedResourceVersion : Int) :
    DbTx (Option ApprovalBindingV1) := do
  let rows ← Db.approvalRequests.updateWhere (.integrityError "approval_request")
    (pendingAt approvalId siteId expectedResourceVersion)
    fun row =>
      { row with
        binding := { row.binding with
          state := state
          decidedByActorId := some decidedByActorId
          decidedAt := some decidedAt
          consumedAt := consumedAt.or row.binding.consumedAt
          resourceVersion := row.binding.resourceVersion + 1 } }
  pure (rows.head?.map ApprovalRequestRow.binding)

def terminalize (approvalId siteId : Uuid) (state : ApprovalState) (decidedByActorId : Uuid)
    (decidedAt : Instant) (expectedResourceVersion : Int) : DbTx (Option ApprovalBindingV1) :=
  leavePending state approvalId siteId decidedByActorId decidedAt none expectedResourceVersion

def consume (approvalId siteId decidedByActorId : Uuid) (decidedAt : Instant)
    (expectedResourceVersion : Int) : DbTx (Option ApprovalBindingV1) :=
  leavePending .consumed approvalId siteId decidedByActorId decidedAt (some decidedAt)
    expectedResourceVersion

end ApprovalRepository

/-! ## The site baseline -/

namespace SiteBaseline

/-- `site_baseline.site_id = site_id`. -/
def ofSite (siteId : Uuid) (row : SiteBaselineRow) : Bool := decide (row.siteId = siteId)

/-- `PostgresSiteBaselineReader.get`. -/
def get (siteId : Uuid) : DbTx (Option SiteBaselineRow) :=
  Db.siteBaselines.selectOne (ofSite siteId)

/-- The candidate a baseline row may point to. -/
def referencesVersion (siteId scheduleVersionId : Uuid) : DbTx Unit :=
  references "fk_site_baseline_version_site" fun db => db.scheduleVersion.rows.any fun v =>
    decide (v.id = scheduleVersionId) && decide (v.siteId = siteId)

/-- The row a first promotion inserts. -/
def firstRow (siteId scheduleVersionId actorId : Uuid) (occurredAt : Instant) :
    SiteBaselineRow where
  siteId := siteId
  scheduleVersionId := scheduleVersionId
  resourceVersion := 1
  updatedAt := occurredAt
  updatedByActorId := actorId

/-- What a later promotion makes of the row. -/
def movedRow (scheduleVersionId actorId : Uuid) (occurredAt : Instant) (row : SiteBaselineRow) :
    SiteBaselineRow :=
  { row with
    scheduleVersionId := scheduleVersionId
    resourceVersion := row.resourceVersion + 1
    updatedAt := occurredAt
    updatedByActorId := actorId }

/-- The first promotion of a site, inside a savepoint. -/
def insertBaseline (siteId scheduleVersionId actorId : Uuid) (occurredAt : Instant) :
    DbTx SiteBaselineRow := do
  Db.siteBaselines.insertInto (.integrityError "uq_site_baseline_site")
    (firstRow siteId scheduleVersionId actorId occurredAt)
  referencesVersion siteId scheduleVersionId
  pure (firstRow siteId scheduleVersionId actorId occurredAt)

/-- A later promotion: a compare-and-set on the resource version. -/
def moveBaseline (siteId scheduleVersionId actorId : Uuid) (occurredAt : Instant)
    (expectedResourceVersion : Int) : DbTx (Option SiteBaselineRow) := do
  let rows ← Db.siteBaselines.updateWhere (.integrityError "site_baseline")
    (fun row => ofSite siteId row && decide (row.resourceVersion = expectedResourceVersion))
    (movedRow scheduleVersionId actorId occurredAt)
  match rows with
  | [] => pure none
  | row :: _ =>
    referencesVersion siteId scheduleVersionId
    pure (some row)

/-- `PostgresSiteBaselineWriter.promote`: `none` when the baseline is not where the caller pinned
it. Only the uniqueness race of the first promotion reads as that; any other violation is raised
as the fault it is. -/
def promote (siteId scheduleVersionId actorId : Uuid) (occurredAt : Instant)
    (expectedResourceVersion : Option Int) : DbTx (Option SiteBaselineRow) :=
  match expectedResourceVersion with
  | some expected => moveBaseline siteId scheduleVersionId actorId occurredAt expected
  | none =>
    tryCatch
      (some <$> insertBaseline siteId scheduleVersionId actorId occurredAt).savepoint
      fun e =>
        if e = .integrityError "uq_site_baseline_site" then pure none else throw e

end SiteBaseline

/-! ## Audit and membership -/

namespace AuditWriter

def append (envelope : AuditEnvelopeV1) : DbTx Unit :=
  Db.auditEvents.insertInto (.integrityError "uq_audit_event_success_effect") envelope

end AuditWriter

/-- `has_active_membership`. -/
def hasActiveMembership (appUserId siteId : Uuid) : DbTx Bool :=
  Tx.read fun db => db.membership.rows.any fun row =>
    decide (row.appUserId = appUserId) && decide (row.siteId = siteId) && row.revokedAt.isNone

end ShiftMind
