import ShiftMind.Store.Schema
import ShiftMind.Approvals.Effects

/-!
# ShiftMind — agent runs and their bindings

The two tables that an approval moves together, apart from the statements that move them. A run
waits in `approval_required` exactly while one pending binding names it.

* **`RunStep`** — what one transaction does to the two tables.
* **`RunsAgree`** — the joint invariant, kept by every step (`RunsAgree.step`).
* **`RunsFollow`** — what a step says of the bindings that leave `pending` and of the runs that
  enter or leave `approval_required`.
-/

namespace ShiftMind

open Relational

/-! ## Steps of the two tables

What a committed transaction may do to agent runs and bindings together. -/

/-- Neither table changed. -/
structure RunTablesKept (db db' : Db) : Prop where
  runs : db'.agentRun = db.agentRun
  bindings : db'.approvalRequest = db.approvalRequest

/-- A binding names an agent run, on its site. -/
def Names (row : ApprovalRequestRow) (run : AgentRunRow) : Prop :=
  row.binding.agentRunId = some run.id ∧ row.binding.siteId = run.siteId

/-- The run after `pause_agent_run_for_approval`. -/
def AgentRunRow.paused (run : AgentRunRow) : AgentRunRow :=
  { run with status := .approvalRequired }

/-- The run after `resume_agent_run_for_approval`. -/
def AgentRunRow.resumed (run : AgentRunRow) : AgentRunRow :=
  { run with status := .agentRunning, statusReason := none }

/-- The run after `cancel_agent_run_for_approval`, for a binding in this state. -/
def AgentRunRow.cancelled (reached : ApprovalState) (run : AgentRunRow) : AgentRunRow :=
  { run with status := .agentCancelled, statusReason := some ("approval_" ++ reached.value) }

inductive RunStep (db db' : Db) : Prop
  | kept (h : RunTablesKept db db')
  /-- a turn is accepted -/
  | accepted (run : AgentRunRow) (bindings : db'.approvalRequest = db.approvalRequest)
      (runs : db.agentRun.insert? run = some db'.agentRun) (queued : run.status = .agentQueued)
  /-- a run is claimed, or finished -/
  | moved (run run' : AgentRunRow) (bindings : db'.approvalRequest = db.approvalRequest)
      (runs : db.agentRun.Replaced db'.agentRun run run') (same : run'.id = run.id)
      (before : run.status ≠ .approvalRequired) (after : run'.status ≠ .approvalRequired)
  /-- a planner asks for an approval -/
  | bound (row : ApprovalRequestRow) (runs : db'.agentRun = db.agentRun)
      (bindings : db.approvalRequest.insert? row = some db'.approvalRequest)
      (planner : row.binding.agentRunId = none)
  /-- a turn asks for an approval -/
  | paused (row : ApprovalRequestRow) (run : AgentRunRow)
      (bindings : db.approvalRequest.insert? row = some db'.approvalRequest)
      (pending : row.binding.state = .pending) (names : Names row run)
      (running : run.status = .agentRunning)
      (runs : db.agentRun.Replaced db'.agentRun run run.paused)
  /-- a planner's binding is decided -/
  | decided (reached : ApprovalState) (row row' : ApprovalRequestRow)
      (runs : db'.agentRun = db.agentRun) (terminal : reached ≠ .pending)
      (bindings : LeavesPending reached row row' db.approvalRequest db'.approvalRequest)
      (planner : row.binding.agentRunId = none)
  /-- a turn's binding is consumed -/
  | resumed (row row' : ApprovalRequestRow) (run : AgentRunRow)
      (bindings : LeavesPending .consumed row row' db.approvalRequest db'.approvalRequest)
      (names : Names row run) (waiting : run.status = .approvalRequired)
      (runs : db.agentRun.Replaced db'.agentRun run run.resumed)
  /-- a turn's binding is closed -/
  | cancelled (reached : ApprovalState) (row row' : ApprovalRequestRow) (run : AgentRunRow)
      (closed : reached ≠ .pending ∧ reached ≠ .consumed)
      (bindings : LeavesPending reached row row' db.approvalRequest db'.approvalRequest)
      (names : Names row run) (waiting : run.status = .approvalRequired)
      (runs : db.agentRun.Replaced db'.agentRun run (run.cancelled reached))

/-! ## Identity -/

theorem eq_of_runId {t : Table AgentRunRow} {a b : AgentRunRow} (ha : a ∈ t) (hb : b ∈ t)
    (hid : a.id = b.id) : a = b :=
  Table.eq_of_clash ha hb (by simp [clash, hid])

theorem eq_of_approvalId {t : Table ApprovalRequestRow} {a b : ApprovalRequestRow} (ha : a ∈ t)
    (hb : b ∈ t) (hid : a.binding.approvalId = b.binding.approvalId) : a = b :=
  Table.eq_of_clash ha hb (by simp [clash, hid])

/-- **One pending binding.** Two pending bindings of one agent run are one. -/
theorem eq_of_pendingRun {t : Table ApprovalRequestRow} {a b : ApprovalRequestRow} (ha : a ∈ t)
    (hb : b ∈ t) (hpending : a.binding.state = .pending) (hpending' : b.binding.state = .pending)
    {agentRunId : Uuid} (hrun : a.binding.agentRunId = some agentRunId)
    (hrun' : b.binding.agentRunId = some agentRunId) : a = b :=
  Table.eq_of_clash ha hb (by simp [clash, hpending, hpending', hrun, hrun'])

theorem LeavesPending.approvalId {reached : ApprovalState} {row row' : ApprovalRequestRow}
    {t t' : Table ApprovalRequestRow} (h : LeavesPending reached row row' t t') :
    row'.binding.approvalId = row.binding.approvalId := by
  obtain ⟨actorId, decidedAt, consumedAt, hwritten⟩ := h.written
  rw [hwritten]
  rfl

theorem LeavesPending.agentRunId {reached : ApprovalState} {row row' : ApprovalRequestRow}
    {t t' : Table ApprovalRequestRow} (h : LeavesPending reached row row' t t') :
    row'.binding.agentRunId = row.binding.agentRunId := by
  obtain ⟨actorId, decidedAt, consumedAt, hwritten⟩ := h.written
  rw [hwritten]
  rfl

/-- A pending binding after one has left `pending` was pending before. -/
theorem LeavesPending.pending_before {reached : ApprovalState} {row row' r : ApprovalRequestRow}
    {t t' : Table ApprovalRequestRow} (h : LeavesPending reached row row' t t')
    (hreached : reached ≠ .pending) (hr : r ∈ t') (hpending : r.binding.state = .pending) :
    r ∈ t ∧ r ≠ row := by
  cases (h.replaced.mem_iff r).mp hr with
  | inr hold => exact hold
  | inl heq =>
    rw [heq, h.state] at hpending
    exact absurd hpending hreached

/-! ## The joint invariant -/

structure RunsAgree (db : Db) : Prop where
  /-- a waiting run is named by a pending binding -/
  waiting : ∀ run ∈ db.agentRun, run.status = .approvalRequired →
    ∃ row ∈ db.approvalRequest, row.binding.state = .pending ∧ Names row run
  /-- a pending binding of a run names a waiting one -/
  named : ∀ row ∈ db.approvalRequest, row.binding.state = .pending → row.binding.agentRunId ≠ none →
    ∃ run ∈ db.agentRun, run.status = .approvalRequired ∧ Names row run

section Step

variable {db db' : Db}

theorem RunsAgree.congr (h : RunsAgree db) (hkept : RunTablesKept db db') : RunsAgree db' := by
  refine ⟨fun run hrun => ?_, fun row hrow => ?_⟩
  · rw [hkept.runs] at hrun
    rw [hkept.bindings]
    exact h.waiting run hrun
  · rw [hkept.bindings] at hrow
    rw [hkept.runs]
    exact h.named row hrow

/-- Bindings stay, and a run that does not wait is exchanged for one that does not either. -/
theorem RunsAgree.moved (h : RunsAgree db) {run run' : AgentRunRow}
    (hbindings : db'.approvalRequest = db.approvalRequest)
    (hruns : db.agentRun.Replaced db'.agentRun run run')
    (hbefore : run.status ≠ .approvalRequired) (hafter : run'.status ≠ .approvalRequired) :
    RunsAgree db' := by
  refine ⟨fun r hr hwaiting => ?_, fun row hrow hpending hnamed => ?_⟩
  · rw [hbindings]
    cases (hruns.mem_iff r).mp hr with
    | inl heq => exact absurd (heq ▸ hwaiting) hafter
    | inr hold => exact h.waiting r hold.1 hwaiting
  · rw [hbindings] at hrow
    obtain ⟨r, hr, hwaiting, hnames⟩ := h.named row hrow hpending hnamed
    exact ⟨r, (hruns.mem_iff r).mpr (.inr ⟨hr, fun heq => hbefore (heq ▸ hwaiting)⟩), hwaiting,
      hnames⟩

theorem RunsAgree.accepted (h : RunsAgree db) {run : AgentRunRow}
    (hbindings : db'.approvalRequest = db.approvalRequest)
    (hruns : db.agentRun.insert? run = some db'.agentRun) (hqueued : run.status = .agentQueued) :
    RunsAgree db' := by
  refine ⟨fun r hr hwaiting => ?_, fun row hrow hpending hnamed => ?_⟩
  · rw [hbindings]
    cases (Table.mem_of_insert? hruns).mp hr with
    | inl hold => exact h.waiting r hold hwaiting
    | inr heq =>
      rw [heq, hqueued] at hwaiting
      cases hwaiting
  · rw [hbindings] at hrow
    obtain ⟨r, hr, hwaiting, hnames⟩ := h.named row hrow hpending hnamed
    exact ⟨r, (Table.mem_of_insert? hruns).mpr (.inl hr), hwaiting, hnames⟩

theorem RunsAgree.bound (h : RunsAgree db) {row : ApprovalRequestRow}
    (hruns : db'.agentRun = db.agentRun)
    (hbindings : db.approvalRequest.insert? row = some db'.approvalRequest)
    (hplanner : row.binding.agentRunId = none) : RunsAgree db' := by
  refine ⟨fun run hrun hwaiting => ?_, fun r hr hpending hnamed => ?_⟩
  · rw [hruns] at hrun
    obtain ⟨r, hr, hpending, hnames⟩ := h.waiting run hrun hwaiting
    exact ⟨r, (Table.mem_of_insert? hbindings).mpr (.inl hr), hpending, hnames⟩
  · rw [hruns]
    cases (Table.mem_of_insert? hbindings).mp hr with
    | inl hold => exact h.named r hold hpending hnamed
    | inr heq => exact absurd (heq ▸ hplanner) hnamed

theorem RunsAgree.paused (h : RunsAgree db) {row : ApprovalRequestRow} {run : AgentRunRow}
    (hbindings : db.approvalRequest.insert? row = some db'.approvalRequest)
    (hpending : row.binding.state = .pending) (hnames : Names row run)
    (hrunning : run.status = .agentRunning)
    (hruns : db.agentRun.Replaced db'.agentRun run run.paused) : RunsAgree db' := by
  refine ⟨fun r hr hwaiting => ?_, fun r hr hr' hnamed => ?_⟩
  · cases (hruns.mem_iff r).mp hr with
    | inl heq =>
      rw [heq]
      exact ⟨row, (Table.mem_of_insert? hbindings).mpr (.inr rfl), hpending, hnames⟩
    | inr hold =>
      obtain ⟨other, hother, hotherPending, hotherNames⟩ := h.waiting r hold.1 hwaiting
      exact ⟨other, (Table.mem_of_insert? hbindings).mpr (.inl hother), hotherPending, hotherNames⟩
  · cases (Table.mem_of_insert? hbindings).mp hr with
    | inr heq =>
      rw [heq]
      exact ⟨run.paused, hruns.mem_new, rfl, hnames⟩
    | inl hold =>
      obtain ⟨other, hother, hwaiting, hotherNames⟩ := h.named r hold hr' hnamed
      refine ⟨other, (hruns.mem_iff other).mpr (.inr ⟨hother, fun heq => ?_⟩), hwaiting,
        hotherNames⟩
      rw [heq, hrunning] at hwaiting
      cases hwaiting

theorem RunsAgree.decided (h : RunsAgree db) {reached : ApprovalState}
    {row row' : ApprovalRequestRow} (hruns : db'.agentRun = db.agentRun)
    (hterminal : reached ≠ .pending)
    (hbindings : LeavesPending reached row row' db.approvalRequest db'.approvalRequest)
    (hplanner : row.binding.agentRunId = none) : RunsAgree db' := by
  refine ⟨fun run hrun hwaiting => ?_, fun r hr hpending hnamed => ?_⟩
  · rw [hruns] at hrun
    obtain ⟨r, hr, hpending, hnames⟩ := h.waiting run hrun hwaiting
    refine ⟨r, (hbindings.replaced.mem_iff r).mpr (.inr ⟨hr, fun heq => ?_⟩), hpending, hnames⟩
    have := hnames.1
    rw [heq, hplanner] at this
    cases this
  · rw [hruns]
    exact h.named r (hbindings.pending_before hterminal hr hpending).1 hpending hnamed

/-- The binding of a run leaves `pending`, and the run leaves `approval_required` with it. -/
theorem RunsAgree.released (h : RunsAgree db) {reached : ApprovalState}
    {row row' : ApprovalRequestRow} {run run' : AgentRunRow} (hterminal : reached ≠ .pending)
    (hbindings : LeavesPending reached row row' db.approvalRequest db'.approvalRequest)
    (hnames : Names row run) (hafter : run'.status ≠ .approvalRequired)
    (hruns : db.agentRun.Replaced db'.agentRun run run') : RunsAgree db' := by
  refine ⟨fun r hr hwaiting => ?_, fun r hr hpending hnamed => ?_⟩
  · cases (hruns.mem_iff r).mp hr with
    | inl heq => exact absurd (heq ▸ hwaiting) hafter
    | inr hold =>
      obtain ⟨other, hother, hpending, hotherNames⟩ := h.waiting r hold.1 hwaiting
      refine ⟨other, (hbindings.replaced.mem_iff other).mpr (.inr ⟨hother, fun heq => ?_⟩),
        hpending,
        hotherNames⟩
      -- the released binding names the released run
      refine hold.2 (eq_of_runId hold.1 hruns.mem_old ?_)
      rw [heq] at hotherNames
      exact Option.some.inj (hotherNames.1.symm.trans hnames.1)
  · obtain ⟨hold, hne⟩ := hbindings.pending_before hterminal hr hpending
    obtain ⟨other, hother, hwaiting, hotherNames⟩ := h.named r hold hpending hnamed
    refine ⟨other, (hruns.mem_iff other).mpr (.inr ⟨hother, fun heq => hne ?_⟩), hwaiting,
      hotherNames⟩
    rw [heq] at hotherNames
    exact eq_of_pendingRun hold hbindings.replaced.mem_old hpending hbindings.pending
      hotherNames.1 hnames.1

/-- **The joint invariant is kept by every step.** -/
theorem RunsAgree.step (h : RunsAgree db) (hstep : RunStep db db') : RunsAgree db' := by
  cases hstep with
  | kept hkept => exact h.congr hkept
  | accepted run bindings runs queued => exact h.accepted bindings runs queued
  | moved run run' bindings runs same before after => exact h.moved bindings runs before after
  | bound row runs bindings planner => exact h.bound runs bindings planner
  | paused row run bindings pending names running runs =>
    exact h.paused bindings pending names running runs
  | decided reached row row' runs terminal bindings planner =>
    exact h.decided runs terminal bindings planner
  | resumed row row' run bindings names waiting runs =>
    exact h.released (by decide) bindings names (by simp [AgentRunRow.resumed]) runs
  | cancelled reached row row' run closed bindings names waiting runs =>
    exact h.released closed.1 bindings names (by simp [AgentRunRow.cancelled]) runs

end Step

/-- A run waits exactly while one pending binding names it. -/
theorem RunsAgree.iff_existsUnique {db : Db} (h : RunsAgree db) {run : AgentRunRow}
    (hrun : run ∈ db.agentRun) :
    run.status = .approvalRequired ↔
      ∃! row, row ∈ db.approvalRequest ∧ row.binding.state = .pending ∧
        row.binding.agentRunId = some run.id := by
  constructor
  · intro hwaiting
    obtain ⟨row, hrow, hpending, hnames⟩ := h.waiting run hrun hwaiting
    refine ⟨row, ⟨hrow, hpending, hnames.1⟩, fun other hother => ?_⟩
    exact eq_of_pendingRun hother.1 hrow hother.2.1 hpending hother.2.2 hnames.1
  · intro hunique
    obtain ⟨row, ⟨hrow, hpending, hnamed⟩, -⟩ := hunique
    obtain ⟨other, hother, hwaiting, hnames⟩ := h.named row hrow hpending (by rw [hnamed]; simp)
    have heq : other = run :=
      eq_of_runId hother hrun (Option.some.inj (hnames.1.symm.trans hnamed))
    rw [← heq]
    exact hwaiting

/-! ## What a step says of runs and bindings -/

/-- The run a decided binding named moved with it. -/
structure RunMovedBy (reached : ApprovalState) (run run' : AgentRunRow) : Prop where
  same : run'.id = run.id ∧ run'.siteId = run.siteId
  waited : run.status = .approvalRequired
  consumed : reached = .consumed → run'.status = .agentRunning ∧ run'.statusReason = none
  closed : reached ≠ .consumed → run'.status = .agentCancelled ∧
    run'.statusReason = some ("approval_" ++ reached.value)

structure RunsFollow (db db' : Db) : Prop where
  /-- a decided binding is never written again -/
  terminal : ∀ row ∈ db.approvalRequest, row.binding.state ≠ .pending → row ∈ db'.approvalRequest
  /-- a binding that leaves `pending` moves its run in the same step -/
  decided : ∀ row ∈ db.approvalRequest, ∀ row' ∈ db'.approvalRequest,
    row'.binding.approvalId = row.binding.approvalId → row.binding.state = .pending →
    row'.binding.state ≠ .pending → row.binding.agentRunId ≠ none →
    ∃ run ∈ db.agentRun, ∃ run' ∈ db'.agentRun, Names row run ∧
      RunMovedBy row'.binding.state run run'
  /-- a run enters `approval_required` for a binding that was not there before -/
  entered : ∀ run ∈ db.agentRun, ∀ run' ∈ db'.agentRun, run'.id = run.id →
    run.status ≠ .approvalRequired → run'.status = .approvalRequired →
    ∃ row ∈ db'.approvalRequest, row.binding.state = .pending ∧ Names row run' ∧
      ∀ old ∈ db.approvalRequest, old.binding.approvalId ≠ row.binding.approvalId
  /-- a run leaves `approval_required` for a binding that leaves `pending` -/
  left : ∀ run ∈ db.agentRun, ∀ run' ∈ db'.agentRun, run'.id = run.id →
    run.status = .approvalRequired → run'.status ≠ .approvalRequired →
    ∃ row ∈ db.approvalRequest, ∃ row' ∈ db'.approvalRequest, Names row run ∧
      row'.binding.approvalId = row.binding.approvalId ∧ row.binding.state = .pending ∧
      row'.binding.state ≠ .pending

section Follow

variable {db db' : Db}

theorem follow_of_runsKept (hruns : db'.agentRun = db.agentRun)
    (hterminal : ∀ row ∈ db.approvalRequest, row.binding.state ≠ .pending →
      row ∈ db'.approvalRequest)
    (hdecided : ∀ row ∈ db.approvalRequest, ∀ row' ∈ db'.approvalRequest,
      row'.binding.approvalId = row.binding.approvalId → row.binding.state = .pending →
      row'.binding.state ≠ .pending → row.binding.agentRunId = none) : RunsFollow db db' where
  terminal := hterminal
  decided row hrow row' hrow' hid hpending hleft hnamed :=
    absurd (hdecided row hrow row' hrow' hid hpending hleft) hnamed
  entered run hrun run' hrun' hid hbefore hafter := by
    rw [hruns] at hrun'
    rw [eq_of_runId hrun' hrun hid] at hafter
    exact absurd hafter hbefore
  left run hrun run' hrun' hid hbefore hafter := by
    rw [hruns] at hrun'
    rw [eq_of_runId hrun' hrun hid] at hafter
    exact absurd hbefore hafter

/-- Bindings that stay in their table do not leave `pending`. -/
theorem undecided_of_kept (hbindings : db'.approvalRequest = db.approvalRequest)
    {row row' : ApprovalRequestRow} (hrow : row ∈ db.approvalRequest)
    (hrow' : row' ∈ db'.approvalRequest)
    (hid : row'.binding.approvalId = row.binding.approvalId)
    (hpending : row.binding.state = .pending) : row'.binding.state = .pending := by
  rw [hbindings] at hrow'
  rw [eq_of_approvalId hrow' hrow hid]
  exact hpending

theorem undecided_of_insert {new row row' : ApprovalRequestRow}
    (hbindings : db.approvalRequest.insert? new = some db'.approvalRequest)
    (hrow : row ∈ db.approvalRequest) (hrow' : row' ∈ db'.approvalRequest)
    (hid : row'.binding.approvalId = row.binding.approvalId)
    (hpending : row.binding.state = .pending) : row'.binding.state = .pending := by
  have hmem : row ∈ db'.approvalRequest := (Table.mem_of_insert? hbindings).mpr (.inl hrow)
  rw [eq_of_approvalId hrow' hmem hid]
  exact hpending

/-- An inserted binding has a fresh identifier. -/
theorem fresh_of_insert {new : ApprovalRequestRow}
    (hbindings : db.approvalRequest.insert? new = some db'.approvalRequest) :
    ∀ old ∈ db.approvalRequest, old.binding.approvalId ≠ new.binding.approvalId := by
  intro old hold hid
  have hfree := (Table.insert?_eq_some hbindings).2.1 old hold
  simp [clash, hid] at hfree

/-- The binding that changed is the one that left `pending`. -/
theorem LeavesPending.changed {reached : ApprovalState} {row row' r r' : ApprovalRequestRow}
    {t t' : Table ApprovalRequestRow} (h : LeavesPending reached row row' t t') (hr : r ∈ t)
    (hr' : r' ∈ t') (hid : r'.binding.approvalId = r.binding.approvalId)
    (hpending : r.binding.state = .pending) (hleft : r'.binding.state ≠ .pending) :
    r = row ∧ r' = row' := by
  cases (h.replaced.mem_iff r').mp hr' with
  | inl heq =>
    refine ⟨eq_of_approvalId hr h.replaced.mem_old ?_, heq⟩
    rw [← hid, heq, h.approvalId]
  | inr hold =>
    rw [eq_of_approvalId hold.1 hr hid] at hleft
    exact absurd hpending hleft

theorem LeavesPending.terminal {reached : ApprovalState} {row row' r : ApprovalRequestRow}
    {t t' : Table ApprovalRequestRow} (h : LeavesPending reached row row' t t') (hr : r ∈ t)
    (hterminal : r.binding.state ≠ .pending) : r ∈ t' :=
  (h.replaced.mem_iff r).mpr (.inr ⟨hr, fun heq => hterminal (heq ▸ h.pending)⟩)

/-- A step that releases a run with its binding. -/
theorem follow_of_released {reached : ApprovalState} {row row' : ApprovalRequestRow}
    {run run' : AgentRunRow} (hterminal : reached ≠ .pending)
    (hbindings : LeavesPending reached row row' db.approvalRequest db'.approvalRequest)
    (hnames : Names row run) (hmoved : RunMovedBy reached run run')
    (hafter : run'.status ≠ .approvalRequired)
    (hruns : db.agentRun.Replaced db'.agentRun run run') : RunsFollow db db' where
  terminal r hr hstate := hbindings.terminal hr hstate
  decided r hr r' hr' hid hpending hleft _ := by
    obtain ⟨rfl, rfl⟩ := hbindings.changed hr hr' hid hpending hleft
    refine ⟨run, hruns.mem_old, run', hruns.mem_new, hnames, ?_⟩
    rw [hbindings.state]
    exact hmoved
  entered r hr r' hr' hid hbefore hwaiting := by
    cases (hruns.mem_iff r').mp hr' with
    | inl heq => exact absurd (heq ▸ hwaiting) hafter
    | inr hold =>
      rw [eq_of_runId hold.1 hr hid] at hwaiting
      exact absurd hwaiting hbefore
  left r hr r' hr' hid hwaiting hleft := by
    cases (hruns.mem_iff r').mp hr' with
    | inr hold =>
      rw [eq_of_runId hold.1 hr hid] at hleft
      exact absurd hwaiting hleft
    | inl heq =>
      -- the released run is the run that left
      have hrun : r = run := by
        refine eq_of_runId hr hruns.mem_old ?_
        rw [← hid, heq, hmoved.same.1]
      rw [hrun]
      exact ⟨row, hbindings.replaced.mem_old, row', hbindings.replaced.mem_new, hnames,
        hbindings.approvalId, hbindings.pending, by rw [hbindings.state]; exact hterminal⟩

/-- **What every step says of runs and bindings.** -/
theorem RunStep.follow (hstep : RunStep db db') : RunsFollow db db' := by
  -- a binding leaves `pending` only where it is decided, and a run waits only where it is paused
  cases hstep with
  | kept hkept =>
    refine follow_of_runsKept hkept.runs (fun row hrow _ => by rw [hkept.bindings]; exact hrow)
      fun row hrow row' hrow' hid hpending hleft => ?_
    exact absurd (undecided_of_kept hkept.bindings hrow hrow' hid hpending) hleft
  | bound row runs bindings planner =>
    refine follow_of_runsKept runs
      (fun r hr _ => (Table.mem_of_insert? bindings).mpr (.inl hr))
      fun r hr r' hr' hid hpending hleft => ?_
    exact absurd (undecided_of_insert bindings hr hr' hid hpending) hleft
  | decided reached row row' runs terminal bindings planner =>
    refine follow_of_runsKept runs (fun r hr hstate => bindings.terminal hr hstate)
      fun r hr r' hr' hid hpending hleft => ?_
    rw [(bindings.changed hr hr' hid hpending hleft).1]
    exact planner
  | accepted run bindings runs queued =>
    refine ⟨fun row hrow _ => by rw [bindings]; exact hrow,
      fun row hrow row' hrow' hid hpending hleft => ?_, fun r hr r' hr' hid hbefore hafter => ?_,
      fun r hr r' hr' hid hbefore hafter => ?_⟩
    · exact absurd (undecided_of_kept bindings hrow hrow' hid hpending) hleft
    · -- the run is new, so no other run moves
      rw [eq_of_runId hr' ((Table.mem_of_insert? runs).mpr (.inl hr)) hid] at hafter
      exact absurd hafter hbefore
    · rw [eq_of_runId hr' ((Table.mem_of_insert? runs).mpr (.inl hr)) hid] at hafter
      exact absurd hbefore hafter
  | moved run run' bindings runs same before after =>
    refine ⟨fun row hrow _ => by rw [bindings]; exact hrow,
      fun row hrow row' hrow' hid hpending hleft => ?_, fun r hr r' hr' hid hbefore hafter => ?_,
      fun r hr r' hr' hid hbefore hafter => ?_⟩
    · exact absurd (undecided_of_kept bindings hrow hrow' hid hpending) hleft
    · -- the run that moved waits neither before nor after
      cases (runs.mem_iff r').mp hr' with
      | inl heq => exact absurd (heq ▸ hafter) after
        -- the paused run waits for the binding that was written with it
      | inr hold =>
        rw [eq_of_runId hold.1 hr hid] at hafter
        exact absurd hafter hbefore
    · cases (runs.mem_iff r').mp hr' with
      | inl heq =>
        have hrun : r = run := eq_of_runId hr runs.mem_old (by rw [← hid, heq, same])
        exact absurd (hrun ▸ hbefore) before
      | inr hold =>
        rw [eq_of_runId hold.1 hr hid] at hafter
        exact absurd hbefore hafter
  | paused row run bindings pending names running runs =>
    refine ⟨fun r hr _ => (Table.mem_of_insert? bindings).mpr (.inl hr),
      fun r hr r' hr' hid hpending hleft => ?_, fun r hr r' hr' hid hbefore hafter => ?_,
      fun r hr r' hr' hid hbefore hafter => ?_⟩
    · exact absurd (undecided_of_insert bindings hr hr' hid hpending) hleft
    · cases (runs.mem_iff r').mp hr' with
      | inl heq =>
        rw [heq]
        exact ⟨row, (Table.mem_of_insert? bindings).mpr (.inr rfl), pending, names,
          fresh_of_insert bindings⟩
      | inr hold =>
        rw [eq_of_runId hold.1 hr hid] at hafter
        exact absurd hafter hbefore
    · cases (runs.mem_iff r').mp hr' with
      | inl heq => rw [heq] at hafter; exact absurd rfl hafter
      | inr hold =>
        rw [eq_of_runId hold.1 hr hid] at hafter
        exact absurd hbefore hafter
  | resumed row row' run bindings names waiting runs =>
    -- a decision moves the waiting run its binding names
    have hmoved : RunMovedBy .consumed run run.resumed :=
      ⟨⟨rfl, rfl⟩, waiting, fun _ => ⟨rfl, rfl⟩, fun hne => absurd rfl hne⟩
    exact follow_of_released (by decide) bindings names hmoved (by simp [AgentRunRow.resumed]) runs
  | cancelled reached row row' run closed bindings names waiting runs =>
    have hmoved : RunMovedBy reached run (run.cancelled reached) :=
      ⟨⟨rfl, rfl⟩, waiting, fun heq => absurd heq closed.2, fun _ => ⟨rfl, rfl⟩⟩
    exact follow_of_released closed.1 bindings names hmoved (by simp [AgentRunRow.cancelled]) runs

end Follow

end ShiftMind
