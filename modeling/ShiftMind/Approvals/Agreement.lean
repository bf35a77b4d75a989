import ShiftMind.Approvals.Steps

/-!
# ShiftMind — approvals and baseline agree

The invariant of the approval workflow on one site, over every interleaving of requests and
decisions from a site without a baseline. Three tables move together under separate guards:

* the resource version of the baseline counts the consumed bindings, and its schedule version is
  the candidate of the one consumed last (**`BaselineAgrees`**);
* the success audit rows are the transitions of the bindings, one row each (**`TrailAgrees`**).

One step either leaves the site alone, or requests a binding, or decides one (`ApprovalStep`), and
the invariant is carried through each case by itself.
-/

namespace ShiftMind

open Relational Transition ApprovalRepository

/-! ## What agreement means

The trail of a binding is what the audit must hold of it; the baseline counts the consumed bindings
and is the candidate of the last one. -/

/-- The outcomes that a binding in this state has left on the audit trail. -/
def ApprovalBindingV1.trail (binding : ApprovalBindingV1) : List AuditOutcome :=
  if binding.state = .pending then [.approvalRequested]
  else [.approvalRequested, binding.state.auditOutcome]

theorem ApprovalBindingV1.trail_pending {binding : ApprovalBindingV1}
    (h : binding.state = .pending) : binding.trail = [.approvalRequested] := if_pos h

theorem ApprovalBindingV1.trail_decided {binding : ApprovalBindingV1}
    (h : binding.state ≠ .pending) :
    binding.trail = [.approvalRequested, binding.state.auditOutcome] := if_neg h

/-- Whether a row is a consumed binding of a site. -/
def isConsumedOf (siteId : Uuid) (row : ApprovalRequestRow) : Bool :=
  decide (row.binding.state = .consumed) && decide (row.binding.siteId = siteId)

/-- The consumed bindings of a site. -/
def Db.consumedOf (db : Db) (siteId : Uuid) : List ApprovalBindingV1 :=
  (db.approvalRequest.rows.filter (isConsumedOf siteId)).map ApprovalRequestRow.binding

/-- The bindings of a site in the order in which they were consumed, the last one first. -/
def ApprovalSys.consumptionsOf (s : ApprovalSys) (siteId : Uuid) : List ApprovalBindingV1 :=
  s.consumptions.filter fun binding => decide (binding.siteId = siteId)

/-- The baseline of a site and its consumed bindings. -/
structure BaselineAgrees (siteId : Uuid) (s : ApprovalSys) : Prop where
  /-- the baseline counts the consumed bindings; no baseline, no consumed binding -/
  counted : (s.db.baselineOf siteId).map SiteBaselineRow.resourceVersion =
    if s.db.consumedOf siteId = [] then none else some ((s.db.consumedOf siteId).length : Int)
  /-- every consumption is on record, once -/
  recorded : (s.consumptionsOf siteId).Perm (s.db.consumedOf siteId)
  /-- the baseline is the candidate of the binding consumed last -/
  latest : (s.db.baselineOf siteId).map SiteBaselineRow.scheduleVersionId =
    (s.consumptionsOf siteId).head?.map ApprovalBindingV1.candidateScheduleVersionId

/-- The success audit rows of a site are the transitions of its bindings. -/
structure TrailAgrees (siteId : Uuid) (db : Db) : Prop where
  /-- each transition has exactly one success audit row -/
  audited : ∀ row ∈ db.approvalRequest, row.binding.siteId = siteId →
    ∀ outcome ∈ row.binding.trail, ∃! audit, audit ∈ db.auditEvent ∧
      Audits audit row.binding outcome
  /-- and each success audit row has its transition -/
  justified : ∀ audit ∈ db.auditEvent, audit.success = true → audit.siteId = siteId →
    ∃ row ∈ db.approvalRequest, Audits audit row.binding audit.outcome ∧
      audit.outcome ∈ row.binding.trail

/-- At most one binding of a schedule run of a site is pending. -/
def OnePendingPerRun (siteId : Uuid) (db : Db) : Prop :=
  ∀ row ∈ db.approvalRequest, ∀ other ∈ db.approvalRequest,
    row.binding.siteId = siteId → other.binding.siteId = siteId →
    row.binding.scheduleRunId = other.binding.scheduleRunId →
    row.binding.state = .pending → other.binding.state = .pending → row = other

/-- **Approvals and baseline agree.** -/
structure Agreement (siteId : Uuid) (s : ApprovalSys) : Prop extends
    BaselineAgrees siteId s, TrailAgrees siteId s.db where
  onePending : OnePendingPerRun siteId s.db

/-- A binding row, later: the same, or decided — which happens to a pending row only. -/
def DecidedOnce (row row' : ApprovalRequestRow) : Prop :=
  row' = row ∨ (row.binding.state = .pending ∧ ∃ state actorId decidedAt consumedAt,
    state ≠ .pending ∧ row' = decided state actorId decidedAt consumedAt row)

/-- What one step does to the bindings. -/
structure BindingsMove (db db' : Db) : Prop where
  /-- a binding is requested pending, pinning the baseline of that moment -/
  requested : ∀ row' ∈ db'.approvalRequest,
    (∀ row ∈ db.approvalRequest, row.binding.approvalId ≠ row'.binding.approvalId) →
    row'.binding.state = .pending ∧ Pins db row'.binding
  /-- a binding is kept or decided, and consumed only while what it pinned is still current -/
  decided : ∀ row ∈ db.approvalRequest, ∃ row' ∈ db'.approvalRequest, DecidedOnce row row' ∧
    (row.binding.state = .pending → row'.binding.state = .consumed →
      Pins db row.binding ∧
      (db'.baselineOf row.binding.siteId).map SiteBaselineRow.scheduleVersionId =
        some row.binding.candidateScheduleVersionId)

/-! ## Rows through a step -/

theorem DecidedOnce.refl (row : ApprovalRequestRow) : DecidedOnce row row := .inl rfl

/-- A decided row is not decided again. -/
theorem DecidedOnce.trans (a b c : ApprovalRequestRow) (h : DecidedOnce a b)
    (h' : DecidedOnce b c) : DecidedOnce a c := by
  rcases h with rfl | ⟨hpending, state, actorId, decidedAt, consumedAt, hstate, rfl⟩
  · exact h'
  · rcases h' with rfl | ⟨hpending', -⟩
    · exact .inr ⟨hpending, state, actorId, decidedAt, consumedAt, hstate, rfl⟩
    · exact absurd hpending' hstate

theorem LeavesPending.decidedOnce {reached : ApprovalState} {row row' : ApprovalRequestRow}
    {t t' : Table ApprovalRequestRow} (hterminal : reached ≠ .pending)
    (h : LeavesPending reached row row' t t') : DecidedOnce row row' := by
  obtain ⟨actorId, decidedAt, consumedAt, hwritten⟩ := h.written
  exact .inr ⟨h.pending, reached, actorId, decidedAt, consumedAt, hterminal, hwritten⟩

theorem clash_self_approvalRequest (row : ApprovalRequestRow) : clash row row = true := by
  simp [clash]

/-- Two pending bindings of a run would clash on `uq_approval_request_pending_run`. -/
theorem onePendingPerRun (siteId : Uuid) (db : Db) : OnePendingPerRun siteId db := by
  intro row hrow other hother hsite hsite' hrun hpending hpending'
  refine Table.eq_of_clash hrow hother ?_
  simp [clash, hsite, hsite', hrun, hpending, hpending']

/-- An audit row of a transition is the only one of its effect and outcome. -/
theorem Audits.unique {t : Table AuditEnvelopeV1} {audit other : AuditEnvelopeV1}
    {binding : ApprovalBindingV1} {outcome : AuditOutcome} (hmem : audit ∈ t) (hother : other ∈ t)
    (h : Audits audit binding outcome) (h' : Audits other binding outcome) : other = audit := by
  refine Table.eq_of_clash hother hmem ?_
  simp [clash, h.success, h'.success, h.site, h'.site, h.effect, h'.effect, h.outcome, h'.outcome]

theorem TrailAgrees.of_exists {siteId : Uuid} {db : Db}
    (haudited : ∀ row ∈ db.approvalRequest, row.binding.siteId = siteId →
      ∀ outcome ∈ row.binding.trail, ∃ audit ∈ db.auditEvent, Audits audit row.binding outcome)
    (hjustified : ∀ audit ∈ db.auditEvent, audit.success = true → audit.siteId = siteId →
      ∃ row ∈ db.approvalRequest, Audits audit row.binding audit.outcome ∧
        audit.outcome ∈ row.binding.trail) : TrailAgrees siteId db := by
  refine ⟨fun row hrow hsite outcome houtcome => ?_, hjustified⟩
  obtain ⟨audit, hmem, haudits⟩ := haudited row hrow hsite outcome houtcome
  exact ⟨audit, ⟨hmem, haudits⟩, fun other hother => Audits.unique hmem hother.1 haudits hother.2⟩

/-- A decision keeps what the audit rows of a binding refer to. -/
theorem Audits.decided {audit : AuditEnvelopeV1} {row : ApprovalRequestRow}
    {outcome : AuditOutcome} (h : Audits audit row.binding outcome) (state : ApprovalState)
    (actorId : Uuid) (decidedAt : Instant) (consumedAt : Option Instant) :
    Audits audit (decided state actorId decidedAt consumedAt row).binding outcome :=
  ⟨h.success, h.outcome, h.site, h.effect, h.approval⟩

/-! ## The baseline through a step -/

theorem baselineOf_congr {db db' : Db} (h : db'.siteBaseline = db.siteBaseline) (siteId : Uuid) :
    db'.baselineOf siteId = db.baselineOf siteId := by
  unfold Db.baselineOf
  rw [h]

theorem clash_of_same_site (siteId : Uuid) (a b : SiteBaselineRow)
    (ha : SiteBaseline.ofSite siteId a = true) (hb : SiteBaseline.ofSite siteId b = true) :
    clash a b = true := by
  simp [clash, SiteBaseline.ofSite_iff.mp ha, SiteBaseline.ofSite_iff.mp hb]

section MovesTo

variable {siteId versionId : Uuid} {pinned : Option Int} {baseline : SiteBaselineRow} {db db' : Db}

theorem MovesTo.baselineOf
    (h : MovesTo siteId versionId pinned baseline db.siteBaseline db'.siteBaseline) :
    db'.baselineOf siteId = some baseline :=
  Table.find?_of_mem ((h.rows baseline).mpr (.inl rfl)) (SiteBaseline.ofSite_iff.mpr h.site)
    (clash_of_same_site siteId)

/-- The baselines of the other sites stay. -/
theorem MovesTo.baselineOf_other
    (h : MovesTo siteId versionId pinned baseline db.siteBaseline db'.siteBaseline) {other : Uuid}
    (hother : other ≠ siteId) : db'.baselineOf other = db.baselineOf other := by
  refine Table.find?_eq_of_mem_iff (clash_of_same_site other) fun row hsel => ?_
  have hsite := SiteBaseline.ofSite_iff.mp hsel
  rw [h.rows row]
  constructor
  · rintro (rfl | ⟨hmem, -⟩)
    · exact absurd (hsite.symm.trans h.site) hother
    · exact hmem
  · intro hmem
    exact .inr ⟨hmem, fun heq => hother (hsite.symm.trans heq)⟩

end MovesTo

/-! ## The consumed bindings through a step -/

/-- An inserted binding that is not consumed joins no list of consumed ones. -/
theorem consumed_of_insert {db db' : Db} {row : ApprovalRequestRow}
    (h : db.approvalRequest.insert? row = some db'.approvalRequest)
    (hpending : row.binding.state = .pending) :
    newlyConsumed db db' = [] ∧ ∀ siteId, db'.consumedOf siteId = db.consumedOf siteId := by
  obtain ⟨-, -, hrows⟩ := Table.insert?_eq_some h
  constructor
  · unfold newlyConsumed
    rw [hrows, List.map_eq_nil_iff, List.filter_eq_nil_iff]
    intro r hr
    rcases List.mem_append.mp hr with hr | hr
    · simp [hr]
    · rw [List.mem_singleton.mp hr]
      simp [hpending]
  · intro siteId
    unfold Db.consumedOf
    rw [hrows, List.filter_append, List.filter_cons_of_neg (by simp [isConsumedOf, hpending]),
      List.filter_nil, List.append_nil]

section Decided

variable {reached : ApprovalState} {row row' : ApprovalRequestRow} {db db' : Db}

/-- A step that decides a binding consumes that one or none. -/
theorem newlyConsumed_of_decided
    (h : LeavesPending reached row row' db.approvalRequest db'.approvalRequest) :
    newlyConsumed db db' = if reached = .consumed then [row'.binding] else [] := by
  have hnew : ∀ r ∈ db'.approvalRequest, r ∉ db.approvalRequest → r = row' := by
    intro r hr hnot
    rcases (h.replaced.mem_iff r).mp hr with rfl | ⟨hold, -⟩
    · rfl
    · exact absurd hold hnot
  unfold newlyConsumed
  by_cases hconsumed : reached = .consumed
  · rw [if_pos hconsumed, Table.filter_key ?_ h.replaced.mem_new ?_]
    · rfl
    · intro a ha b hb hsel hsel'
      simp only [Bool.and_eq_true, Bool.not_eq_true', List.contains_eq_mem,
        decide_eq_false_iff_not, Table.mem_rows] at hsel hsel'
      rw [hnew a ha hsel.2, hnew b hb hsel'.2]
      exact clash_self_approvalRequest row'
    · simp [h.state, hconsumed, Table.mem_rows, h.new]
  · rw [if_neg hconsumed, List.map_eq_nil_iff, List.filter_eq_nil_iff]
    intro r hr hsel
    simp only [Bool.and_eq_true, decide_eq_true_eq, Bool.not_eq_true', List.contains_eq_mem,
      decide_eq_false_iff_not, Table.mem_rows] at hsel
    rw [hnew r hr hsel.2, h.state] at hsel
    exact hconsumed hsel.1

theorem consumedOf_of_decided
    (h : LeavesPending reached row row' db.approvalRequest db'.approvalRequest) (siteId : Uuid) :
    (db'.consumedOf siteId).Perm
      ((if reached = .consumed ∧ row.binding.siteId = siteId then [row'.binding] else []) ++
        db.consumedOf siteId) := by
  have hold : isConsumedOf siteId row = false := by simp [isConsumedOf, h.pending]
  have hperm := (h.replaced.filter_perm clash_self_approvalRequest h.new hold).map
    ApprovalRequestRow.binding
  have hnew : isConsumedOf siteId row' = true ↔
      reached = .consumed ∧ row.binding.siteId = siteId := by
    simp [isConsumedOf, h.state, h.siteId]
  by_cases hcond : reached = .consumed ∧ row.binding.siteId = siteId
  · rw [if_pos hcond]
    rw [if_pos (hnew.mpr hcond)] at hperm
    exact hperm
  · rw [if_neg hcond]
    rw [if_neg (mt hnew.mp hcond)] at hperm
    exact hperm

end Decided

/-! ## The invariant, step by step

Each part of the invariant is kept for its own reason, so each has its own step lemma. -/

section Step

variable {siteId : Uuid} {s : ApprovalSys} {db' : Db}

@[simp] theorem commit_db (s : ApprovalSys) (db' : Db) : (s.commit db').db = db' := rfl

theorem commit_consumptionsOf (s : ApprovalSys) (db' : Db) (siteId : Uuid) :
    (s.commit db').consumptionsOf siteId =
      ((newlyConsumed s.db db').filter fun binding => decide (binding.siteId = siteId)) ++
        s.consumptionsOf siteId :=
  List.filter_append ..

/-- A step that consumes no binding of the site and keeps its baseline keeps the count. -/
theorem BaselineAgrees.of_kept (h : BaselineAgrees siteId s)
    (hnone : (newlyConsumed s.db db').filter (fun binding => decide (binding.siteId = siteId)) = [])
    (hconsumed : (db'.consumedOf siteId).Perm (s.db.consumedOf siteId))
    (hbaseline : db'.baselineOf siteId = s.db.baselineOf siteId) :
    BaselineAgrees siteId (s.commit db') := by
  have hsame : (s.commit db').consumptionsOf siteId = s.consumptionsOf siteId := by
    rw [commit_consumptionsOf, hnone, List.nil_append]
  have hempty : db'.consumedOf siteId = [] ↔ s.db.consumedOf siteId = [] := by
    rw [← List.length_eq_zero_iff, ← List.length_eq_zero_iff, hconsumed.length_eq]
  refine ⟨?_, ?_, ?_⟩
  · rw [commit_db, hbaseline, h.counted, hconsumed.length_eq]
    exact if_congr hempty.symm rfl rfl
  · rw [hsame]
    exact h.recorded.trans hconsumed.symm
  · rw [hsame, commit_db, hbaseline, h.latest]

/-- **A consumption counts one up.** It is admitted only where the baseline stands at the version
the binding pinned, so the new version is the old count plus one. -/
theorem BaselineAgrees.of_consumed (h : BaselineAgrees siteId s) {row row' : ApprovalRequestRow}
    (hleaves : LeavesPending .consumed row row' s.db.approvalRequest db'.approvalRequest)
    (hsite : row.binding.siteId = siteId) (hpins : Pins s.db row.binding)
    {baseline : SiteBaselineRow}
    (hmoves : MovesTo row.binding.siteId row.binding.candidateScheduleVersionId
      row.binding.baselineResourceVersion baseline s.db.siteBaseline db'.siteBaseline) :
    BaselineAgrees siteId (s.commit db') := by
  have hlog : (s.commit db').consumptionsOf siteId = row'.binding :: s.consumptionsOf siteId := by
    rw [commit_consumptionsOf, newlyConsumed_of_decided hleaves, if_pos rfl]
    simp [hleaves.siteId, hsite]
  have hconsumed : (db'.consumedOf siteId).Perm (row'.binding :: s.db.consumedOf siteId) := by
    simpa [hsite] using consumedOf_of_decided hleaves siteId
  have hbaseline : db'.baselineOf siteId = some baseline := by
    rw [← hsite]; exact hmoves.baselineOf
  -- the version the binding pinned is the number of consumptions so far
  have hpinned : row.binding.baselineResourceVersion.getD 0 = (s.db.consumedOf siteId).length := by
    have hcurrent := hpins.resourceVersion
    rw [hsite, h.counted] at hcurrent
    rw [← hcurrent]
    split
    · rename_i hnil; simp [hnil]
    · rfl
  refine ⟨?_, ?_, ?_⟩
  · have hlength := hconsumed.length_eq
    rw [List.length_cons] at hlength
    rw [commit_db, hbaseline, if_neg fun hnil => by rw [hnil] at hlength; cases hlength]
    show some baseline.resourceVersion = _
    rw [hmoves.counted, hpinned, hlength, Nat.cast_succ]
  · rw [hlog]
    exact (h.recorded.cons _).trans hconsumed.symm
  · rw [hlog, commit_db, hbaseline]
    show _ = some row'.binding.candidateScheduleVersionId
    rw [hleaves.candidate]
    exact congrArg some hmoves.version

/-- The baseline follows the bindings through every step. -/
theorem BaselineAgrees.step (h : BaselineAgrees siteId s) (hstep : ApprovalStep s.db db') :
    BaselineAgrees siteId (s.commit db') := by
  cases hstep with
  | quiet bindings baselines _ =>
    refine h.of_kept ?_ ?_ (baselineOf_congr baselines siteId)
    · have hnil : newlyConsumed s.db db' = [] := by
        unfold newlyConsumed
        rw [bindings, List.map_eq_nil_iff, List.filter_eq_nil_iff]
        intro row hrow
        simp [hrow]
      rw [hnil, List.filter_nil]
    · unfold Db.consumedOf
      rw [bindings]
  | requested row audit inserted pending pins baselines audited audits =>
    obtain ⟨hnil, hconsumed⟩ := consumed_of_insert inserted pending
    refine h.of_kept ?_ (by rw [hconsumed]) (baselineOf_congr baselines siteId)
    rw [hnil, List.filter_nil]
  | decided reached row row' audit terminal leaves baseline audited audits =>
    unfold BaselineFollows at baseline
    by_cases hconsumed : reached = .consumed
    · subst hconsumed
      rw [if_pos rfl] at baseline
      obtain ⟨hpins, moved, hmoves⟩ := baseline
      by_cases hsite : row.binding.siteId = siteId
      · exact h.of_consumed leaves hsite hpins hmoves
      · -- a consumption of another site
        refine h.of_kept ?_ ?_ (hmoves.baselineOf_other fun heq => hsite heq.symm)
        · rw [newlyConsumed_of_decided leaves, if_pos rfl]
          simp [leaves.siteId, hsite]
        · simpa [hsite] using consumedOf_of_decided leaves siteId
    · rw [if_neg hconsumed] at baseline
      refine h.of_kept ?_ ?_ (baselineOf_congr baseline siteId)
      · rw [newlyConsumed_of_decided leaves, if_neg hconsumed, List.filter_nil]
      · simpa [hconsumed] using consumedOf_of_decided leaves siteId

/-- A transition is audited in the step that commits it, and no other success is. -/
theorem TrailAgrees.step {db db' : Db} (h : TrailAgrees siteId db) (hstep : ApprovalStep db db') :
    TrailAgrees siteId db' := by
  -- one case for each kind of step, and in each both directions
  cases hstep with
  | quiet bindings _ audits =>
    refine .of_exists ?_ ?_
    · intro row hrow hsite outcome houtcome
      rw [bindings] at hrow
      obtain ⟨audit, ⟨hmem, haudits⟩, -⟩ := h.audited row hrow hsite outcome houtcome
      exact ⟨audit, (audits audit haudits.success).mpr hmem, haudits⟩
    · intro audit hmem hsuccess hsite
      rw [bindings]
      exact h.justified audit ((audits audit hsuccess).mp hmem) hsuccess hsite
  | requested new audit inserted pending pins baselines audited audits =>
    refine .of_exists ?_ ?_
    · intro row hrow hsite outcome houtcome
      rcases (Table.mem_of_insert? inserted).mp hrow with hrow | rfl
      · obtain ⟨old, ⟨hmem, haudits⟩, -⟩ := h.audited row hrow hsite outcome houtcome
        exact ⟨old, (Table.mem_of_insert? audited).mpr (.inl hmem), haudits⟩
      · rw [ApprovalBindingV1.trail_pending pending, List.mem_singleton] at houtcome
        rw [houtcome]
        exact ⟨audit, (Table.mem_of_insert? audited).mpr (.inr rfl), audits⟩
    · intro other hmem hsuccess hsite
      rcases (Table.mem_of_insert? audited).mp hmem with hmem | rfl
      · obtain ⟨row, hrow, hjustified⟩ := h.justified other hmem hsuccess hsite
        exact ⟨row, (Table.mem_of_insert? inserted).mpr (.inl hrow), hjustified⟩
      · refine ⟨new, (Table.mem_of_insert? inserted).mpr (.inr rfl), ?_⟩
        rw [audits.outcome, ApprovalBindingV1.trail_pending pending]
        exact ⟨audits, List.mem_cons_self⟩
  | decided reached row row' audit terminal leaves baseline audited audits =>
    -- the decision writes one row, and only what a decision writes
    obtain ⟨actorId, decidedAt, consumedAt, hwritten⟩ := leaves.written
    have htrail : row'.binding.trail = [.approvalRequested, reached.auditOutcome] := by
      rw [ApprovalBindingV1.trail_decided (by rw [leaves.state]; exact terminal), leaves.state]
    have hpending := ApprovalBindingV1.trail_pending leaves.pending
    refine .of_exists ?_ ?_
    · intro r hr hsite outcome houtcome
      rcases (leaves.replaced.mem_iff r).mp hr with rfl | ⟨hr, -⟩
      · rw [htrail] at houtcome
        rcases List.mem_cons.mp houtcome with rfl | houtcome
        · -- the request of the decided binding was audited before
          obtain ⟨old, ⟨hmem, haudits⟩, -⟩ := h.audited row leaves.replaced.mem_old
            (leaves.siteId ▸ hsite) _ (by rw [hpending]; exact List.mem_cons_self)
          refine ⟨old, (Table.mem_of_insert? audited).mpr (.inl hmem), ?_⟩
          rw [hwritten]
          exact haudits.decided ..
        · rw [List.mem_singleton.mp houtcome]
          refine ⟨audit, (Table.mem_of_insert? audited).mpr (.inr rfl), ?_⟩
          rw [hwritten]
          exact audits.decided ..
      · obtain ⟨old, ⟨hmem, haudits⟩, -⟩ := h.audited r hr hsite outcome houtcome
        exact ⟨old, (Table.mem_of_insert? audited).mpr (.inl hmem), haudits⟩
    · intro other hmem hsuccess hsite
      rcases (Table.mem_of_insert? audited).mp hmem with hmem | rfl
      · obtain ⟨r, hr, haudits, houtcome⟩ := h.justified other hmem hsuccess hsite
        -- an older audit stands for the request, also of the row that was decided
        by_cases hsame : r = row
        · refine ⟨row', leaves.replaced.mem_new, ?_, ?_⟩
          · rw [hwritten]
            exact (hsame ▸ haudits).decided ..
          · rw [hsame, hpending, List.mem_singleton] at houtcome
            rw [htrail, houtcome]
            exact List.mem_cons_self
        · exact ⟨r, (leaves.replaced.mem_iff r).mpr (.inr ⟨hr, hsame⟩), haudits, houtcome⟩
      · refine ⟨row', leaves.replaced.mem_new, ?_, ?_⟩
        · rw [hwritten, audits.outcome]
          exact audits.decided ..
        · rw [htrail, audits.outcome]
          simp

end Step

/-! ## The bindings, step by step -/

/-- **What one step does to the bindings.** -/
theorem ApprovalStep.bindingsMove {db db' : Db} (h : ApprovalStep db db') :
    BindingsMove db db' := by
  cases h with
  | quiet bindings _ _ =>
    refine ⟨fun row' hrow' hfresh => ?_, fun row hrow => ?_⟩
    · rw [bindings] at hrow'
      exact absurd rfl (hfresh row' hrow')
    · refine ⟨row, by rw [bindings]; exact hrow, .refl row, fun hpending hconsumed => ?_⟩
      rw [hpending] at hconsumed
      cases hconsumed
  | requested new audit inserted pending pins baselines audited audits =>
    refine ⟨fun row' hrow' hfresh => ?_, fun row hrow => ?_⟩
    · rcases (Table.mem_of_insert? inserted).mp hrow' with hrow' | rfl
      · exact absurd rfl (hfresh row' hrow')
      · exact ⟨pending, pins⟩
    · refine ⟨row, (Table.mem_of_insert? inserted).mpr (.inl hrow), .refl row,
        fun hpending hconsumed => ?_⟩
      rw [hpending] at hconsumed
      cases hconsumed
  | decided reached old new audit terminal leaves baseline audited audits =>
    refine ⟨fun row' hrow' hfresh => ?_, fun row hrow => ?_⟩
    · rcases (leaves.replaced.mem_iff row').mp hrow' with rfl | ⟨hrow', -⟩
      · obtain ⟨actorId, decidedAt, consumedAt, hwritten⟩ := leaves.written
        exact absurd (by rw [hwritten]; rfl) (hfresh old leaves.replaced.mem_old)
      · exact absurd rfl (hfresh row' hrow')
    · -- only the decided binding moves, and a consumed one takes the baseline with it
      by_cases hsame : row = old
      · refine ⟨new, leaves.replaced.mem_new, hsame ▸ leaves.decidedOnce terminal,
          fun _ hconsumed => ?_⟩
        rw [leaves.state] at hconsumed
        rw [BaselineFollows, if_pos hconsumed] at baseline
        obtain ⟨hpins, moved, hmoves⟩ := baseline
        rw [hsame]
        refine ⟨hpins, ?_⟩
        rw [hmoves.baselineOf]
        exact congrArg some hmoves.version
      · refine ⟨row, (leaves.replaced.mem_iff row).mpr (.inr ⟨hrow, hsame⟩), .refl row,
          fun hpending hconsumed => ?_⟩
        rw [hpending] at hconsumed
        cases hconsumed

theorem BindingsMove.persists {db db' : Db} (h : BindingsMove db db') :
    db.approvalRequest.Persists DecidedOnce db'.approvalRequest := by
  intro row hrow
  obtain ⟨row', hrow', hdecided, -⟩ := h.decided row hrow
  exact ⟨row', hrow', hdecided⟩

/-! ## Every interleaving

The step lemmas in one induction over the runs of the desk. -/

theorem ApprovalSys.perform_eq_commit (s : ApprovalSys) (action : ApprovalAction) :
    s.perform action = s.commit (s.perform action).db := by
  cases action <;> rfl

theorem ApprovalSys.Initial.baselineOf {siteId : Uuid} {s : ApprovalSys} (h : s.Initial siteId) :
    s.db.baselineOf siteId = none := by
  refine Table.find?_eq_none.mpr fun row hrow => Bool.eq_false_iff.mpr fun hsel => ?_
  exact h.baseline row hrow (SiteBaseline.ofSite_iff.mp hsel)

theorem ApprovalSys.Initial.consumedOf {siteId : Uuid} {s : ApprovalSys} (h : s.Initial siteId) :
    s.db.consumedOf siteId = [] := by
  rw [Db.consumedOf, List.map_eq_nil_iff, List.filter_eq_nil_iff]
  intro row hrow
  simp [isConsumedOf, h.bindings row hrow]

theorem ApprovalSys.Initial.consumptionsOf {siteId : Uuid} {s : ApprovalSys}
    (h : s.Initial siteId) : s.consumptionsOf siteId = [] := by
  rw [ApprovalSys.consumptionsOf, h.consumptions, List.filter_nil]

theorem Agreement.initial {siteId : Uuid} {s : ApprovalSys} (h : s.Initial siteId) :
    Agreement siteId s where
  counted := by
    rw [h.baselineOf, if_pos h.consumedOf]
    rfl
  recorded := by
    rw [h.consumedOf, h.consumptionsOf]
  latest := by
    rw [h.baselineOf, h.consumptionsOf]
    rfl
  audited row hrow hsite := absurd hsite (h.bindings row hrow)
  justified audit hmem hsuccess hsite := absurd hsite (h.audits audit hmem hsuccess)
  onePending := onePendingPerRun siteId s.db

theorem Agreement.perform {siteId : Uuid} {s : ApprovalSys} {action : ApprovalAction}
    (h : Agreement siteId s) (henabled : action.Enabled s) :
    Agreement siteId (s.perform action) := by
  have hstep := perform_step henabled
  rw [s.perform_eq_commit action]
  exact ⟨h.toBaselineAgrees.step hstep, h.toTrailAgrees.step hstep, onePendingPerRun siteId _⟩

/-- **Approvals and baseline agree**, whatever requests and decisions interleave on a site that
started without a baseline: in every state the tables agree, every step requests or decides a
binding as it may, and no binding is decided twice, over any number of steps. -/
theorem approvals_and_baseline_agree (siteId : Uuid) {s : ApprovalSys}
    (hreach : Reachable (approvalSystem siteId) s) :
    Agreement siteId s ∧
    (∀ action, action.Enabled s → BindingsMove s.db (s.perform action).db) ∧
    ∀ s', Run (approvalSystem siteId) s s' →
      s.db.approvalRequest.Persists DecidedOnce s'.db.approvalRequest := by
  refine ⟨?_, fun action henabled => (perform_step henabled).bindingsMove, fun s' hrun => ?_⟩
  · exact Machine.reachable_invariant (m := approvalMachine siteId) (Agreement siteId)
      (fun _ => Agreement.initial) (fun _ _ => Agreement.perform) hreach
  · refine hrun.leads (R := fun s s' => s.db.approvalRequest.Persists DecidedOnce
      s'.db.approvalRequest) (fun s => .refl DecidedOnce.refl _)
      (fun _ _ _ => .trans DecidedOnce.trans) ?_ hreach
    rintro s s' - ⟨action, henabled, rfl⟩
    exact (perform_step henabled).bindingsMove.persists

/-- The desk after the agent's request was approved: its one binding is consumed. -/
theorem approvals_and_baseline_agree_desk :
    let s := (Desk.bound (.readable [{ toolCallId := "call" }])).perform
      (.decideApproval (Desk.ctx 6) true Desk.approve)
    (s.db.baselineOf 1).map SiteBaselineRow.resourceVersion = some 1 ∧ Agreement 1 s := by
  have hreach : Reachable (approvalSystem 1) ((approvalMachine 1).performAll Desk.site
      [.requestSuspended (Desk.env 5) Desk.settings
          (Desk.call (.readable [{ toolCallId := "call" }])),
        .decideApproval (Desk.ctx 6) true Desk.approve]) :=
    Machine.reachable_of_schedule Desk.site_initial ⟨trivial, trivial, trivial⟩
  exact ⟨by decide +kernel, (approvals_and_baseline_agree 1 hreach).1⟩

end ShiftMind
