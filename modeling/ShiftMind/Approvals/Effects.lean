import ShiftMind.Runs.Effects
import ShiftMind.UseCases.DecideApproval

/-!
# ShiftMind — what the statements of a decision do

One lemma for each repository call of the approval workflow, from which both results about it are
assembled: that a promotion is all or nothing, and that bindings, baseline and audit trail agree.

* **`LeavesPending`** — a binding left `pending`, the only change of the approval table after its
  creation; `Left` says that nothing else changed with it.
* **`MovesTo`** — the baseline of a site moved to a candidate; `Promoted` says that nothing else
  changed with it.
* **`ApprovalsKept`** — the three approval tables are untouched: what the conversation, the agent
  run, the proposal and the receipt of a decision do.
-/

namespace ShiftMind

open Relational Transactional

/-! ## Statements the database may fail to execute -/

section Attempt

variable {α : Type} {failure : Option String} {statement : DbTx α} {db db' : Db}

theorem attempt_ok {a : α} :
    (attempt failure statement).run db = (.ok a, db') ↔
      failure = none ∧ statement.run db = (.ok a, db') := by
  cases failure <;> simp [attempt]

theorem attempt_error {e : PyError} :
    (attempt failure statement).run db = (.error e, db') ↔
      (∃ message, failure = some message ∧ e = .databaseError message ∧ db' = db) ∨
        (failure = none ∧ statement.run db = (.error e, db')) := by
  cases failure with
  | none => simp [attempt]
  | some message => simp [attempt, eq_comm]

theorem attempt_still (hstill : statement.Still) : (attempt failure statement).Still := by
  cases failure with
  | none => exact hstill
  | some message => exact .throw _

theorem attempt_leads {R : Db → Db → Prop} (hleads : statement.Leads R) :
    (attempt failure statement).Leads R :=
  ⟨fun h => hleads.led (attempt_ok.mp h).2⟩

end Attempt

/-! ## The approval tables -/

/-- The approval tables are untouched. -/
structure ApprovalsKept (db db' : Db) : Prop where
  bindings : db'.approvalRequest = db.approvalRequest
  baselines : db'.siteBaseline = db.siteBaseline
  audits : db'.auditEvent = db.auditEvent

/-! ## Receipts -/

/-- Nothing but a command's receipt was written. -/
def ReceiptOnly (db db' : Db) : Prop :=
  db' = { db with commandIdempotency := db'.commandIdempotency }

theorem ReceiptOnly.refl (db : Db) : ReceiptOnly db db := rfl

theorem ReceiptOnly.trans (db db' db'' : Db) (h : ReceiptOnly db db') (h' : ReceiptOnly db' db'') :
    ReceiptOnly db db'' := by
  unfold ReceiptOnly at *
  rw [h', h]

theorem storeIdempotentResult_receiptOnly (siteId actorId : Uuid)
    (operation idempotencyKey bodyHash : String) (response : ResponsePayload) :
    (ScheduleRunRepository.storeIdempotentResult siteId actorId operation idempotencyKey bodyHash
      response).Leads ReceiptOnly := by
  refine .bind ReceiptOnly.trans (.of_still ReceiptOnly.refl (Relvar.still_selectOne ..))
    fun stored => ?_
  cases stored with
  | some _ => exact .of_still ReceiptOnly.refl (.pure _)
  | none =>
    refine ⟨fun {db u db'} h => ?_⟩
    obtain ⟨t, -, rfl⟩ := Relvar.insertInto_ok.mp h
    rfl

/-! ## Leaving `pending`

A guarded update moves at most the one row of the binding, and only from `pending`. -/

namespace ApprovalRepository

/-- The row a compare-and-set writes over a pending one. -/
def decided (state : ApprovalState) (decidedByActorId : Uuid) (decidedAt : Instant)
    (consumedAt : Option Instant) (row : ApprovalRequestRow) : ApprovalRequestRow :=
  { row with
    binding := { row.binding with
      state := state
      decidedByActorId := some decidedByActorId
      decidedAt := some decidedAt
      consumedAt := consumedAt.or row.binding.consumedAt
      resourceVersion := row.binding.resourceVersion + 1 } }

theorem isApproval_iff {approvalId siteId : Uuid} {row : ApprovalRequestRow} :
    isApproval approvalId siteId row = true ↔
      row.binding.approvalId = approvalId ∧ row.binding.siteId = siteId := by
  simp [isApproval]

theorem pendingAt_iff {approvalId siteId : Uuid} {expected : Int} {row : ApprovalRequestRow} :
    pendingAt approvalId siteId expected row = true ↔
      isApproval approvalId siteId row = true ∧ row.binding.state = .pending ∧
        row.binding.resourceVersion = expected := by
  simp [pendingAt, and_assoc]

/-- The approval id is the primary key. -/
theorem clash_of_isApproval {approvalId siteId : Uuid} {a b : ApprovalRequestRow}
    (ha : isApproval approvalId siteId a = true) (hb : isApproval approvalId siteId b = true) :
    clash a b = true := by
  have ha' := (isApproval_iff.mp ha).1
  have hb' := (isApproval_iff.mp hb).1
  simp [clash, ha', hb']

theorem clash_of_pendingAt (approvalId siteId : Uuid) (expected : Int)
    (a b : ApprovalRequestRow) (ha : pendingAt approvalId siteId expected a = true)
    (hb : pendingAt approvalId siteId expected b = true) : clash a b = true :=
  clash_of_isApproval (pendingAt_iff.mp ha).1 (pendingAt_iff.mp hb).1

/-- A decision on a row creates no clash: the identifiers stay and a pending row goes. -/
theorem clash_decided {state : ApprovalState} (hstate : state ≠ .pending) (actorId : Uuid)
    (decidedAt : Instant) (consumedAt : Option Instant) (sel : ApprovalRequestRow → Bool)
    (a b : ApprovalRequestRow)
    (h : clash (if sel a then decided state actorId decidedAt consumedAt a else a)
      (if sel b then decided state actorId decidedAt consumedAt b else b) = true) :
    clash a b = true := by
  revert h
  cases sel a <;> cases sel b <;>
    simp only [clash, decided, hstate, if_true, if_false, Bool.or_eq_true, Bool.and_eq_true,
      decide_eq_true_eq, Bool.false_eq_true, decide_false, Bool.false_and, Bool.and_false,
      or_false]
  · exact id
  · rintro h; exact .inl h
  · rintro h; exact .inl h
  · rintro h; exact .inl h

end ApprovalRepository

open ApprovalRepository

/-- The pending row `row` of a table became `row'`, in the state `reached`. -/
structure LeavesPending (reached : ApprovalState) (row row' : ApprovalRequestRow)
    (t t' : Table ApprovalRequestRow) : Prop where
  replaced : t.Replaced t' row row'
  pending : row.binding.state = .pending
  written : ∃ actorId decidedAt consumedAt,
    row' = decided reached actorId decidedAt consumedAt row

/-- A binding left `pending`, and nothing else of the database changed. -/
structure Left (reached : ApprovalState) (row row' : ApprovalRequestRow) (db db' : Db) : Prop
    extends LeavesPending reached row row' db.approvalRequest db'.approvalRequest where
  frame : db' = { db with approvalRequest := db'.approvalRequest }

section LeavesPending

variable {reached : ApprovalState} {row row' : ApprovalRequestRow}
  {t t' : Table ApprovalRequestRow}

theorem LeavesPending.state (h : LeavesPending reached row row' t t') :
    row'.binding.state = reached := by
  obtain ⟨actorId, decidedAt, consumedAt, hwritten⟩ := h.written
  rw [hwritten]; rfl

theorem LeavesPending.pendingPayload (h : LeavesPending reached row row' t t') :
    row'.pendingPayload = row.pendingPayload := by
  obtain ⟨actorId, decidedAt, consumedAt, hwritten⟩ := h.written
  rw [hwritten]; rfl

theorem LeavesPending.siteId (h : LeavesPending reached row row' t t') :
    row'.binding.siteId = row.binding.siteId := by
  obtain ⟨actorId, decidedAt, consumedAt, hwritten⟩ := h.written
  rw [hwritten]; rfl

theorem LeavesPending.candidate (h : LeavesPending reached row row' t t') :
    row'.binding.candidateScheduleVersionId = row.binding.candidateScheduleVersionId := by
  obtain ⟨actorId, decidedAt, consumedAt, hwritten⟩ := h.written
  rw [hwritten]; rfl

theorem LeavesPending.isApproval {approvalId siteId : Uuid}
    (h : LeavesPending reached row row' t t') :
    ApprovalRepository.isApproval approvalId siteId row' =
      ApprovalRepository.isApproval approvalId siteId row := by
  obtain ⟨actorId, decidedAt, consumedAt, hwritten⟩ := h.written
  rw [hwritten]; rfl

/-- A row that left `pending` is new. -/
theorem LeavesPending.new (h : LeavesPending reached row row' t t') : row' ∉ t := by
  intro hmem
  obtain ⟨actorId, decidedAt, consumedAt, hwritten⟩ := h.written
  have hsame : row' = row :=
    Table.eq_of_clash hmem h.replaced.mem_old (by simp [clash, hwritten, decided])
  have hversion : row'.binding.resourceVersion = row.binding.resourceVersion + 1 := by
    rw [hwritten]; rfl
  rw [hsame] at hversion
  omega

end LeavesPending

/-- **The compare-and-set on a binding.** It leaves `pending` exactly where a row still stands at
the version the caller decided on, and otherwise writes nothing; it is never refused. -/
theorem leavePending_run {state : ApprovalState} (hstate : state ≠ .pending)
    (approvalId siteId actorId : Uuid) (decidedAt : Instant) (consumedAt : Option Instant)
    (expected : Int) (db : Db) :
    (∃ row row' db', pendingAt approvalId siteId expected row = true ∧ Left state row row' db db' ∧
      (leavePending state approvalId siteId actorId decidedAt consumedAt expected).run db =
        (.ok (some row'.binding), db')) ∨
    ((∀ row ∈ db.approvalRequest, pendingAt approvalId siteId expected row = false) ∧
      (leavePending state approvalId siteId actorId decidedAt consumedAt expected).run db =
        (.ok none, db)) := by
  unfold leavePending
  by_cases hrow : ∃ row ∈ db.approvalRequest, pendingAt approvalId siteId expected row = true
  · left
    obtain ⟨row, hmem, hsel⟩ := hrow
    obtain ⟨t, hreplaced, hrun⟩ := Relvar.updateWhere_key Db.approvalRequests
      (PyError.integrityError "approval_request") (decided state actorId decidedAt consumedAt)
      (clash_of_pendingAt approvalId siteId expected) hmem hsel (fun _ _ _ => rfl)
      (fun a _ b _ => clash_decided hstate actorId decidedAt consumedAt _ a b)
    refine ⟨row, decided state actorId decidedAt consumedAt row, { db with approvalRequest := t },
      hsel, ⟨⟨hreplaced, (pendingAt_iff.mp hsel).2.1, ⟨_, _, _, rfl⟩⟩, rfl⟩, ?_⟩
    exact Tx.run_bind_of_ok hrun
  · right
    have hnone : ∀ row ∈ db.approvalRequest, pendingAt approvalId siteId expected row = false :=
      fun row hmem => Bool.eq_false_iff.mpr fun hsel => hrow ⟨row, hmem, hsel⟩
    exact ⟨hnone, Tx.run_bind_of_ok (Relvar.updateWhere_none hnone)⟩

/-! ## Moving the baseline

The first promotion of a site inserts its row, and a later one compares and sets it. -/

/-- The baseline of a site stands where a binding pinned it. -/
def Db.BaselineStands (db : Db) (siteId : Uuid) : Option Int → Prop
  | none => ∀ row ∈ db.siteBaseline, row.siteId ≠ siteId
  | some pinned => ∃ row ∈ db.siteBaseline, row.siteId = siteId ∧ row.resourceVersion = pinned

/-- The schedule version a baseline may point to is there. -/
def Db.HasVersion (db : Db) (siteId scheduleVersionId : Uuid) : Prop :=
  ∃ version ∈ db.scheduleVersion, version.id = scheduleVersionId ∧ version.siteId = siteId

/-- The baseline of a site moved to a schedule version: `baseline` is its only row now, one
resource version above the pinned one. -/
structure MovesTo (siteId scheduleVersionId : Uuid) (pinned : Option Int)
    (baseline : SiteBaselineRow) (t t' : Table SiteBaselineRow) : Prop where
  site : baseline.siteId = siteId
  version : baseline.scheduleVersionId = scheduleVersionId
  counted : baseline.resourceVersion = pinned.getD 0 + 1
  rows : ∀ row, row ∈ t' ↔ row = baseline ∨ (row ∈ t ∧ row.siteId ≠ siteId)

/-- A baseline moved, and nothing else of the database changed. -/
structure Promoted (siteId scheduleVersionId : Uuid) (pinned : Option Int)
    (baseline : SiteBaselineRow) (db db' : Db) : Prop
    extends MovesTo siteId scheduleVersionId pinned baseline db.siteBaseline db'.siteBaseline where
  frame : db' = { db with siteBaseline := db'.siteBaseline }

/-- A promoted baseline is new. -/
theorem Promoted.new {siteId scheduleVersionId : Uuid} {pinned : Option Int}
    {baseline : SiteBaselineRow} {db db' : Db}
    (h : Promoted siteId scheduleVersionId pinned baseline db db')
    (hstands : db.BaselineStands siteId pinned) : baseline ∉ db.siteBaseline := by
  intro hmem
  have hcounted := h.counted
  cases pinned with
  | none => exact hstands baseline hmem h.site
  | some pinned =>
    obtain ⟨row, hrow, hsite, hpinned⟩ := hstands
    have hsame : baseline = row := Table.eq_of_clash hmem hrow (by simp [clash, h.site, hsite])
    rw [hsame, hpinned] at hcounted
    simp at hcounted

/-- Where a baseline stands only depends on the baseline table. -/
theorem Db.baselineStands_congr {db db' : Db} (h : db'.siteBaseline = db.siteBaseline)
    {siteId : Uuid} {pinned : Option Int} :
    db'.BaselineStands siteId pinned ↔ db.BaselineStands siteId pinned := by
  cases pinned <;> simp only [Db.BaselineStands, h]

namespace SiteBaseline

theorem ofSite_iff {siteId : Uuid} {row : SiteBaselineRow} :
    ofSite siteId row = true ↔ row.siteId = siteId := by
  simp [ofSite]

theorem referencesVersion_run (siteId scheduleVersionId : Uuid) (db : Db) :
    (db.HasVersion siteId scheduleVersionId ∧
      (referencesVersion siteId scheduleVersionId).run db = (.ok (), db)) ∨
    (¬ db.HasVersion siteId scheduleVersionId ∧
      (referencesVersion siteId scheduleVersionId).run db =
        (.error (.integrityError "fk_site_baseline_version_site"), db)) := by
  have hany : (db.scheduleVersion.rows.any fun v =>
      decide (v.id = scheduleVersionId) && decide (v.siteId = siteId)) = true ↔
      db.HasVersion siteId scheduleVersionId := by
    simp [Db.HasVersion, List.any_eq_true]
  unfold referencesVersion references
  by_cases hversion : db.HasVersion siteId scheduleVersionId
  · left
    exact ⟨hversion, by rw [Tx.run_read_bind, hany.mpr hversion]; rfl⟩
  · right
    have hfalse := Bool.eq_false_iff.mpr (mt hany.mp hversion)
    exact ⟨hversion, by rw [Tx.run_read_bind, hfalse]; rfl⟩

/-- The first row of a site is refused exactly when the site has a baseline. -/
theorem insert_firstRow (siteId scheduleVersionId actorId : Uuid) (occurredAt : Instant) (db : Db) :
    (∃ t, db.siteBaseline.insert? (firstRow siteId scheduleVersionId actorId occurredAt) = some t) ↔
      db.BaselineStands siteId none := by
  unfold Table.insert? Db.BaselineStands
  constructor
  · rintro ⟨t, ht⟩ row hrow hsite
    split at ht
    · rename_i hfree
      have := hfree.2 row hrow
      simp [clash, firstRow, hsite] at this
    · cases ht
  · intro hnone
    rw [dif_pos]
    · exact ⟨_, rfl⟩
    · exact ⟨rfl, fun row hrow => decide_eq_false (hnone row hrow)⟩

theorem promoted_of_insert {siteId scheduleVersionId actorId : Uuid} {occurredAt : Instant}
    {db : Db} {t : Table SiteBaselineRow}
    (h : db.siteBaseline.insert? (firstRow siteId scheduleVersionId actorId occurredAt) = some t) :
    Promoted siteId scheduleVersionId none (firstRow siteId scheduleVersionId actorId occurredAt)
      db { db with siteBaseline := t } := by
  have hnone := (insert_firstRow siteId scheduleVersionId actorId occurredAt db).mp ⟨t, h⟩
  refine ⟨⟨rfl, rfl, rfl, fun row => ?_⟩, rfl⟩
  show row ∈ t ↔ _
  rw [Table.mem_of_insert? h]
  constructor
  · rintro (hrow | rfl)
    · exact .inr ⟨hrow, hnone row hrow⟩
    · exact .inl rfl
  · rintro (rfl | ⟨hrow, -⟩)
    · exact .inr rfl
    · exact .inl hrow

theorem clash_of_ofSite (siteId : Uuid) (expected : Int) (a b : SiteBaselineRow)
    (ha : (ofSite siteId a && decide (a.resourceVersion = expected)) = true)
    (hb : (ofSite siteId b && decide (b.resourceVersion = expected)) = true) :
    clash a b = true := by
  simp only [ofSite, Bool.and_eq_true, decide_eq_true_eq] at ha hb
  simp [clash, ha.1, hb.1]

theorem promoted_of_replaced {siteId scheduleVersionId actorId : Uuid} {occurredAt : Instant}
    {pinned : Int} {db : Db} {row : SiteBaselineRow} {t : Table SiteBaselineRow}
    (hsite : row.siteId = siteId) (hpinned : row.resourceVersion = pinned)
    (h : db.siteBaseline.Replaced t row (movedRow scheduleVersionId actorId occurredAt row)) :
    Promoted siteId scheduleVersionId (some pinned)
      (movedRow scheduleVersionId actorId occurredAt row) db { db with siteBaseline := t } := by
  refine ⟨⟨hsite, rfl, by simp [movedRow, hpinned], fun other => ?_⟩, rfl⟩
  show other ∈ t ↔ _
  rw [h.mem_iff]
  -- the row of the site is the row that was replaced
  have hother : other ∈ db.siteBaseline → (other ≠ row ↔ other.siteId ≠ siteId) := by
    intro hmem
    refine not_congr ⟨fun heq => by rw [heq]; exact hsite, fun heq => ?_⟩
    exact Table.eq_of_clash hmem h.mem_old (by simp [clash, heq, hsite])
  constructor
  · rintro (rfl | ⟨hmem, hne⟩)
    · exact .inl rfl
    · exact .inr ⟨hmem, (hother hmem).mp hne⟩
  · rintro (rfl | ⟨hmem, hne⟩)
    · exact .inl rfl
    · exact .inr ⟨hmem, (hother hmem).mpr hne⟩

section Promote

variable (siteId scheduleVersionId actorId : Uuid) (occurredAt : Instant)

/-- How a promotion ends: it moves the baseline from where it was pinned, or it matches no row, or
it raises a violation. -/
def Ends (pinned : Option Int) (body : DbTx (Option SiteBaselineRow)) (db : Db) : Prop :=
  (db.BaselineStands siteId pinned ∧ db.HasVersion siteId scheduleVersionId ∧
    ∃ baseline db', body.run db = (.ok (some baseline), db') ∧
      Promoted siteId scheduleVersionId pinned baseline db db') ∨
  (¬ (db.BaselineStands siteId pinned ∧ db.HasVersion siteId scheduleVersionId) ∧
    (body.run db = (.ok none, db) ∨
      ∃ constraint db', body.run db = (.error (.integrityError constraint), db')))

/-- A first promotion: the savepoint takes a refused insert back, and only the uniqueness race
reads as "no match". -/
theorem promote_first (db : Db) :
    Ends siteId scheduleVersionId none
      (promote siteId scheduleVersionId actorId occurredAt none) db := by
  have hrunOf : ∀ {e db'}, (insertBaseline siteId scheduleVersionId actorId occurredAt).run db =
      (.error e, db') → (promote siteId scheduleVersionId actorId occurredAt none).run db =
        (if e = .integrityError "uq_site_baseline_site" then pure none else throw e :
          DbTx (Option SiteBaselineRow)).run db := fun h =>
    Tx.run_tryCatch_of_error (Tx.run_savepoint_of_error (Tx.run_map_of_error some h))
  cases hinsert :
      db.siteBaseline.insert? (firstRow siteId scheduleVersionId actorId occurredAt) with
  | none =>
    right
    -- the site has a baseline already: the race reads as no match
    refine ⟨fun h => ?_, .inl ?_⟩
    · obtain ⟨t, ht⟩ := (insert_firstRow siteId scheduleVersionId actorId occurredAt db).mpr h.1
      rw [hinsert] at ht; cases ht
    · rw [hrunOf (Tx.run_bind_of_error (Relvar.insertInto_error.mpr ⟨hinsert, rfl, rfl⟩))]
      rfl
  | some t =>
    have hrun : (Db.siteBaselines.insertInto (PyError.integrityError "uq_site_baseline_site")
        (firstRow siteId scheduleVersionId actorId occurredAt)).run db =
        (.ok (), { db with siteBaseline := t }) :=
      Relvar.insertInto_ok.mpr ⟨t, hinsert, rfl⟩
    -- the row is in; the reference to the version may still refuse it
    rcases referencesVersion_run siteId scheduleVersionId { db with siteBaseline := t } with
      ⟨hversion, href⟩ | ⟨hversion, href⟩
    · left
      refine ⟨(insert_firstRow ..).mp ⟨t, hinsert⟩, hversion, _, _, ?_, promoted_of_insert hinsert⟩
      refine Tx.run_tryCatch_of_ok (Tx.run_savepoint_of_ok (Tx.run_map_of_ok some ?_))
      unfold insertBaseline
      rw [Tx.run_bind_of_ok hrun]
      exact Tx.run_bind_of_ok href
    · right
      refine ⟨fun h => hversion h.2, .inr ⟨"fk_site_baseline_version_site", db, ?_⟩⟩
      have hinsertRun : (insertBaseline siteId scheduleVersionId actorId occurredAt).run db =
          (.error (.integrityError "fk_site_baseline_version_site"),
            { db with siteBaseline := t }) := by
        unfold insertBaseline
        rw [Tx.run_bind_of_ok hrun]
        exact Tx.run_bind_of_error href
      rw [hrunOf hinsertRun]
      rfl

/-- A later promotion: the compare-and-set on the resource version. -/
theorem promote_later (pinned : Int) (db : Db) :
    Ends siteId scheduleVersionId (some pinned)
      (promote siteId scheduleVersionId actorId occurredAt (some pinned)) db := by
  show Ends siteId scheduleVersionId (some pinned)
    (moveBaseline siteId scheduleVersionId actorId occurredAt pinned) db
  unfold moveBaseline
  -- the update meets a row exactly if the baseline still stands as pinned
  by_cases hstands : db.BaselineStands siteId (some pinned)
  · obtain ⟨row, hmem, hsite, hpinned⟩ := id hstands
    obtain ⟨t, hreplaced, hrun⟩ := Relvar.updateWhere_key Db.siteBaselines
      (PyError.integrityError "site_baseline") (movedRow scheduleVersionId actorId occurredAt)
      (clash_of_ofSite siteId pinned) hmem (by simp [ofSite, hsite, hpinned])
      (fun _ _ _ => rfl)
      (fun a _ b _ h => by revert h; simp only [clash, movedRow]; split <;> split <;> exact id)
    -- the foreign key is checked after it
    rcases referencesVersion_run siteId scheduleVersionId { db with siteBaseline := t } with
      ⟨hversion, href⟩ | ⟨hversion, href⟩
    · left
      refine ⟨hstands, hversion, _, _, ?_, promoted_of_replaced hsite hpinned hreplaced⟩
      rw [Tx.run_bind_of_ok hrun]
      exact Tx.run_bind_of_ok href
    · right
      refine ⟨fun h => hversion h.2, .inr
        ⟨"fk_site_baseline_version_site", Db.siteBaselines.put t db, ?_⟩⟩
      rw [Tx.run_bind_of_ok hrun]
      exact Tx.run_bind_of_error href
  · right
    refine ⟨fun h => hstands h.1, .inl ?_⟩
    rw [Tx.run_bind_of_ok (Relvar.updateWhere_none fun row hrow => ?_)]
    · rfl
    · refine Bool.eq_false_iff.mpr fun hsel => hstands ⟨row, hrow, ?_⟩
      simpa [ofSite] using hsel

/-- **The compare-and-set on a baseline.** -/
theorem promote_run (pinned : Option Int) (db : Db) :
    Ends siteId scheduleVersionId pinned
      (promote siteId scheduleVersionId actorId occurredAt pinned) db :=
  match pinned with
  | none => promote_first siteId scheduleVersionId actorId occurredAt db
  | some pinned => promote_later siteId scheduleVersionId actorId occurredAt pinned db

end Promote

end SiteBaseline

/-! ## The conversation and the agent run -/

namespace ConversationRepository

theorem lockConversation_still (conversationId siteId : Uuid) :
    (lockConversation conversationId siteId).Still :=
  .bind (Relvar.still_selectOne ..) fun row => by
    cases row with
    | none => exact .throw _
    | some row => exact .pure _

theorem requireAgentRun_still (agentRunId siteId : Uuid) (expected : AgentRunStatus)
    (message : String) : (requireAgentRun agentRunId siteId expected message).Still :=
  .bind (Relvar.still_selectOne ..) fun _ => .ite (.pure _) (.throw _)

/-- The guard passed: the agent run is there, in the status it was required in. -/
theorem requireAgentRun_ok {agentRunId siteId : Uuid} {expected : AgentRunStatus}
    {message : String} {db db' : Db} {u : Unit}
    (h : (requireAgentRun agentRunId siteId expected message).run db = (.ok u, db')) :
    db' = db ∧ ∃ run ∈ db.agentRun, isAgentRun agentRunId siteId run = true ∧
      run.status = expected := by
  refine ⟨(requireAgentRun_still ..).eq_of_run h, ?_⟩
  unfold requireAgentRun at h
  obtain ⟨row, db₁, hrow, h⟩ := Tx.bind_ok.mp h
  cases hrow
  rw [Tx.run_ite] at h
  split at h
  · rename_i hstatus
    obtain ⟨run, hrun, hstatus⟩ := Option.map_eq_some_iff.mp hstatus
    obtain ⟨hmem, hsel⟩ := Table.find?_eq_some hrun
    exact ⟨run, hmem, hsel, hstatus⟩
  · exact absurd h Tx.throw_ok

theorem updateAgentRun_ok {agentRunId siteId : Uuid} {set : AgentRunRow → AgentRunRow} {db db' : Db}
    {u : Unit} (h : (updateAgentRun agentRunId siteId set).run db = (.ok u, db')) :
    db.agentRun.update? (isAgentRun agentRunId siteId) set = some db'.agentRun ∧
      db' = { db with agentRun := db'.agentRun } := by
  unfold updateAgentRun at h
  obtain ⟨rows, db₁, hupdate, h⟩ := Tx.bind_ok.mp h
  cases h
  obtain ⟨t, ht, rfl, -⟩ := Relvar.updateWhere_ok.mp hupdate
  exact ⟨ht, rfl⟩

/-- An event that shows an approval in a state. -/
def Shows (approvalId : Uuid) (state : ApprovalState) (event : PersistedEventRow) : Prop :=
  ∃ activity, event.payload = .approvalRequest activity ∧ activity.approvalId = approvalId ∧
    activity.approvalState = state

/-- A stored event fits its column. -/
theorem insertEvent_ok {event : PersistedEventRow} {db db' : Db} {u : Unit}
    (h : (insertEvent event).run db = (.ok u, db')) : event.payload.storable = true ∧
      ∃ t, db.persistedEvent.insert? event = some t ∧ db' = { db with persistedEvent := t } := by
  unfold insertEvent at h
  obtain ⟨u', db₁, hcheck, hinsert⟩ := Tx.bind_ok.mp h
  obtain ⟨hstorable, rfl⟩ := Tx.lift_ok.mp hcheck
  obtain ⟨t, ht, rfl⟩ := Relvar.insertInto_ok.mp hinsert
  exact ⟨requireStorable_ok.mp hstorable, t, ht, rfl⟩

/-- **The activity of an approval**: one new event, which shows the binding in its state. -/
theorem appendApprovalActivity_ok {binding : ApprovalBindingV1} {actorId requestId : Uuid}
    {agentRunId : Option Uuid} {occurredAt : Instant} {agentRunStatus : Option AgentRunStatus}
    {db db' : Db} {activity : ExecutedAgentRunV1}
    (h : (appendApprovalActivity binding actorId requestId agentRunId occurredAt
      agentRunStatus).run db = (.ok activity, db')) :
    ∃ event, Shows binding.approvalId binding.state event ∧
      db.persistedEvent.insert? event = some db'.persistedEvent ∧
      db' = { db with persistedEvent := db'.persistedEvent, conversation := db'.conversation } := by
  unfold appendApprovalActivity at h
  obtain ⟨conversation, db₁, hlock, h₁⟩ := Tx.bind_ok.mp h
  obtain rfl := (lockConversation_still ..).eq_of_run hlock
  obtain ⟨sequence, db₂, hsequence, h₂⟩ := Tx.bind_ok.mp h₁
  cases hsequence
  obtain ⟨u, db₃, hinsert, h₃⟩ := Tx.bind_ok.mp h₂
  obtain ⟨-, events, hevents, rfl⟩ := insertEvent_ok hinsert
  obtain ⟨rows, db₄, hupdate, h₄⟩ := Tx.bind_ok.mp h₃
  obtain ⟨conversations, -, rfl, -⟩ := Relvar.updateWhere_ok.mp hupdate
  cases h₄
  exact ⟨_, ⟨_, rfl, rfl, rfl⟩, hevents, rfl⟩

/-- A resumed run was waiting, and runs again. -/
theorem resumeAgentRunForApproval_ok {agentRunId : Uuid} {binding : ApprovalBindingV1}
    {requestId : Uuid} {occurredAt : Instant} {db db' : Db} {activity : ExecutedAgentRunV1}
    (h : (resumeAgentRunForApproval agentRunId binding requestId occurredAt).run db =
      (.ok activity, db')) :
    (∃ run ∈ db.agentRun, isAgentRun agentRunId binding.siteId run = true ∧
      run.status = .approvalRequired) ∧
    db.agentRun.update? (isAgentRun agentRunId binding.siteId)
      (fun row => { row with status := .agentRunning, statusReason := none }) =
        some db'.agentRun ∧
    ∃ event, Shows binding.approvalId binding.state event ∧
      db.persistedEvent.insert? event = some db'.persistedEvent ∧
      db' = { db with
        agentRun := db'.agentRun
        persistedEvent := db'.persistedEvent
        conversation := db'.conversation } := by
  unfold resumeAgentRunForApproval at h
  obtain ⟨conversation, db₁, hlock, h₁⟩ := Tx.bind_ok.mp h
  obtain rfl := (lockConversation_still ..).eq_of_run hlock
  obtain ⟨u, db₂, hrequire, h₂⟩ := Tx.bind_ok.mp h₁
  obtain ⟨rfl, hrun⟩ := requireAgentRun_ok hrequire
  obtain ⟨u', db₃, hupdate, h₃⟩ := Tx.bind_ok.mp h₂
  obtain ⟨hruns, hframe⟩ := updateAgentRun_ok hupdate
  cases hactor : binding.decidedByActorId with
  | none => rw [hactor] at h₃; exact absurd h₃ Tx.throw_ok
  | some actorId =>
    rw [hactor] at h₃
    obtain ⟨event, hshows, hevents, hframe'⟩ := appendApprovalActivity_ok h₃
    rw [hframe] at hevents hframe'
    refine ⟨hrun, ?_, event, hshows, hevents, ?_⟩
    · rw [hframe']; exact hruns
    · rw [hframe']

end ConversationRepository

/-! ## The originating proposal -/

namespace ProposalRepository

/-- The proposal a promotion applies. -/
def appliedAt (versionId : Uuid) (p : ProposalRow) : ProposalRow :=
  { p with
    state := .applied
    endedBy := some .system
    appliedVersionId := some versionId
    resourceVersion := p.resourceVersion + 1 }

/-- Applying a proposal creates no clash: its identifier stays and an active row goes. -/
theorem clash_appliedAt (versionId : Uuid) (sel : ProposalRow → Bool) (a b : ProposalRow)
    (h : clash (if sel a then appliedAt versionId a else a)
      (if sel b then appliedAt versionId b else b) = true) : clash a b = true := by
  revert h
  cases sel a <;> cases sel b <;>
    simp only [clash, appliedAt, if_true, if_false, Bool.or_eq_true, Bool.and_eq_true,
      decide_eq_true_eq, Bool.false_eq_true, reduceCtorEq, decide_false, Bool.false_and,
      Bool.and_false, or_false]
  · exact id
  · rintro h; exact .inl h
  · rintro h; exact .inl h
  · rintro h; exact .inl h

/-- **Applying the originating proposal** is never refused; a proposal that is still active ends
applied, at the version the candidate was computed from. -/
theorem markApplied_run (siteId scheduleVersionId : Uuid) (db : Db) :
    ∃ applied proposals, (markApplied siteId scheduleVersionId).run db =
      (.ok applied, { db with proposal := proposals }) ∧
      ∀ version ∈ db.scheduleVersion, version.id = scheduleVersionId →
        ∀ p ∈ db.proposal, p.id = version.proposalId → p.siteId = siteId → p.state = .active →
          appliedAt version.proposalVersionId p ∈ proposals := by
  unfold markApplied
  cases hpinned : db.scheduleVersion.find? fun v => decide (v.id = scheduleVersionId) with
  | none =>
    refine ⟨false, db.proposal, ?_, fun version hversion hid => ?_⟩
    · rw [Tx.run_bind, Relvar.run_selectOne]
      simp only [Db.scheduleVersions_get, hpinned]
      rfl
    · have := Table.find?_eq_none.mp hpinned version hversion
      simp [hid] at this
  | some pinned =>
    obtain ⟨hmem, hsel⟩ := Table.find?_eq_some hpinned
    obtain ⟨t, ht⟩ := db.proposal.update?_of_keeps
      (fun p => decide (p.id = pinned.proposalId) && decide (p.siteId = siteId) &&
        decide (p.state = .active))
      (appliedAt pinned.proposalVersionId) (fun _ _ _ => rfl)
      (fun a _ b _ => clash_appliedAt pinned.proposalVersionId (fun p =>
        decide (p.id = pinned.proposalId) && decide (p.siteId = siteId) &&
          decide (p.state = .active)) a b)
    rw [Tx.run_bind, Relvar.run_selectOne]
    simp only [Db.scheduleVersions_get, hpinned]
    refine ⟨_, t, Tx.run_bind_of_ok (Relvar.updateWhere_ok.mpr ⟨t, ht, rfl, rfl⟩),
      fun version hversion hid p hp hpid hsite hstate => ?_⟩
    -- the version is the one the statement pinned
    obtain rfl : version = pinned :=
      Table.eq_of_clash hversion hmem (by simp [clash, hid, of_decide_eq_true hsel])
    refine (Table.mem_of_update? ht).mpr ⟨p, hp, ?_⟩
    rw [if_pos (by simp [hpid, hsite, hstate])]

end ProposalRepository

end ShiftMind
