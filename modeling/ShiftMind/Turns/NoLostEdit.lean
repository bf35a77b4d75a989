import ShiftMind.Turns.Lifecycle

/-!
# ShiftMind — no draft edit is lost

The guard of a finish compares identifiers and resource versions only. That suffices: a draft that
has changed since a turn observed it has gone up in its resource version.

* **`TurnCurrent`** — what the guard of a finish asks: the working draft still has the identifier
  and the resource version that the writes of the turn were resolved against.
* **`NoLostEdit`** — a finish that finds anything else writes no draft row, and whatever draft it
  does change stands as the turn observed it, versions included.
* **`draft_lifecycle`** — for every interleaving.
-/

namespace ShiftMind

open Relational Transactional Transition ConversationRepository ProposalRepository

/-! ## What a finish does to the drafts -/

/-- The working draft is still the one that the writes of an outcome were resolved against. -/
def TurnCurrent (claimed : ClaimedAgentRunV1) (outcome : AgentRunOutcomeV1) (db : Db) : Prop :=
  ∃ working, (observeWorkingDraft claimed).run db = (.ok working, db) ∧
    match outcome.resolvedDiscard, outcome.resolvedDraft with
    | some discard, _ => working.map WorkingDraftObservationV1.proposalId =
          some discard.proposalId ∧
        working.map WorkingDraftObservationV1.resourceVersion =
          some discard.observedResourceVersion
    | none, some draft =>
        working.map WorkingDraftObservationV1.proposalId = draft.observedWorkingId ∧
        working.map WorkingDraftObservationV1.resourceVersion = draft.observedResourceVersion
    | none, none => True

theorem observe_of_getWorking {claimed : ClaimedAgentRunV1} {working : Option ProposalRecordV1}
    {db : Db} (h : (getWorking claimed.conversationId claimed.siteId).run db = (.ok working, db)) :
    (observeWorkingDraft claimed).run db =
      (.ok (working.bind ProposalRecordV1.observation), db) :=
  Tx.run_bind_of_ok h

/-- A matching working draft is observed at what it matches. -/
theorem observation_of_matches {working : Option ProposalRecordV1} {proposalId : Uuid}
    {version : Int} (h : workingMatches working (some proposalId) (some version) = true) :
    (working.bind ProposalRecordV1.observation).map WorkingDraftObservationV1.proposalId =
        some proposalId ∧
      (working.bind ProposalRecordV1.observation).map WorkingDraftObservationV1.resourceVersion =
        some version := by
  obtain ⟨record, rfl, hid, hversion⟩ := workingMatches_iff.mp h
  simp [ProposalRecordV1.observation, hid, hversion]

/-- The guard of a bundle with a draft says that the turn is current. -/
theorem turnCurrent_of_draft {claimed : ClaimedAgentRunV1} {outcome : AgentRunOutcomeV1} {db : Db}
    {w : AgentDraftWriteV1} (hw : outcome.resolvedDraft = some w) (hdraft : DraftOfTurn w)
    {working : Option ProposalRecordV1}
    (hrun : (getWorking claimed.conversationId claimed.siteId).run db = (.ok working, db))
    (happlies : draftApplies working (some w) outcome.resolvedDiscard = true) :
    TurnCurrent claimed outcome db := by
  refine ⟨_, observe_of_getWorking hrun, ?_⟩
  cases hdiscard : outcome.resolvedDiscard with
  | some d =>
    rw [hdiscard] at happlies
    exact observation_of_matches happlies
  | none =>
    rw [hdiscard] at happlies
    simp only [hw]
    cases houtcome : w.outcome with
    | updated =>
      obtain ⟨proposalId, version, hid, hversion, -⟩ := hdraft.updated houtcome
      simp only [draftApplies, houtcome, hid, hversion] at happlies
      rw [hid, hversion]
      exact observation_of_matches happlies
    | created =>
      simp only [draftApplies, houtcome] at happlies
      rw [Option.isNone_iff_eq_none.mp happlies]
      obtain ⟨env, content, observed, rfl, -⟩ := hdraft
      cases observed with
      | none => exact ⟨rfl, rfl⟩
      | some o => cases houtcome

theorem turnCurrent_of_discard {claimed : ClaimedAgentRunV1} {outcome : AgentRunOutcomeV1} {db : Db}
    {d : AgentDraftDiscardV1} (hd : outcome.resolvedDiscard = some d)
    {working : Option ProposalRecordV1}
    (hrun : (getWorking claimed.conversationId claimed.siteId).run db = (.ok working, db))
    (happlies : draftApplies working none (some d) = true) : TurnCurrent claimed outcome db := by
  refine ⟨_, observe_of_getWorking hrun, ?_⟩
  rw [hd]
  exact observation_of_matches happlies

theorem activityPayload_draft {scenarioVersionId : Uuid} {outcome : AgentRunOutcomeV1}
    {w : AgentDraftWriteV1} (h : activityPayload scenarioVersionId outcome = .draft w) :
    outcome.resolvedDraft = some w := by
  unfold activityPayload at h
  split at h
  · cases h
  · rename_i write hwrite
    cases h
    exact hwrite
  · cases h
  · cases h

theorem terminalStatus_of_draft {outcome : AgentRunOutcomeV1} {w : AgentDraftWriteV1}
    (hw : outcome.resolvedDraft = some w) (hstatus : outcome.status = .completed) :
    terminalStatus outcome = .agentCompleted := by
  simp [terminalStatus, hstatus, AgentRunOutcomeV1.usable, hw]

/-- What the finish of a turn did to the drafts. -/
structure FinishMoves (claimed : ClaimedAgentRunV1) (outcome : AgentRunOutcomeV1) (db db' : Db) :
    Prop where
  moves : DraftMoves db db'
  others : OthersStay claimed db db'
  guarded : DraftTablesKept db db' ∨
    (TurnCurrent claimed outcome db ∧
      (outcome.resolvedDiscard.isSome ∨ outcome.resolvedDraft.isSome))

theorem FinishMoves.of_kept {claimed : ClaimedAgentRunV1} {outcome : AgentRunOutcomeV1}
    {db db' : Db}
    (h : DraftTablesKept db db') : FinishMoves claimed outcome db db' :=
  ⟨h.moves, fun _ hrow _ => h.stays hrow, .inl h⟩

/-- The hypotheses on an outcome that the finish lemmas share. -/
structure OutcomeSound (outcome : AgentRunOutcomeV1) : Prop where
  draft : ∀ w, outcome.resolvedDraft = some w → DraftOfTurn w
  completed : ∀ w, outcome.resolvedDraft = some w → outcome.status = .completed

section Finish

variable {env : Ambient} {settings : ApprovalSettings} {codec : ToolArgumentCodec}
  {view : RequestView} {claimed : ClaimedAgentRunV1} {outcome : AgentRunOutcomeV1}
  {requestId : Uuid} {db db' : Db} {executed : ExecutedAgentRunV1}

/-- A turn that was not suspended. -/
theorem finishEnded_moves (hsound : DraftsSound db) (houtcome : OutcomeSound outcome)
    (h : (finishEnded env claimed outcome requestId).run db = (.ok executed, db')) :
    FinishMoves claimed outcome db db' := by
  unfold finishEnded at h
  -- the drafts it leaves alone, and the one it writes under the guard
  have hfinished := finalizeAgentRun_drafts hsound
    (fun w hw => houtcome.draft w (activityPayload_draft hw)) h
  refine ⟨hfinished.moves, hfinished.others, ?_⟩
  cases hfinished.guarded with
  | inl hkept => exact .inl hkept
  | inr hguard =>
    obtain ⟨working, hrun, happlies⟩ := hguard
    cases hpayload : activityPayload claimed.scenarioVersionId outcome with
    | draft w =>
      have hw := activityPayload_draft hpayload
      rw [hpayload, terminalStatus_of_draft hw (houtcome.completed w hw), if_pos rfl] at happlies
      exact .inr ⟨turnCurrent_of_draft hw (houtcome.draft w hw) hrun happlies, .inr (by simp [hw])⟩
    | answer answer =>
      rw [hpayload] at happlies h
      -- only a completed turn discards
      by_cases hcompleted : terminalStatus outcome = .agentCompleted
      · rw [if_pos hcompleted] at happlies h
        cases hdiscard : outcome.resolvedDiscard with
        | some d =>
          rw [hdiscard] at happlies
          exact .inr ⟨turnCurrent_of_discard hdiscard hrun happlies, .inl rfl⟩
        | none =>
          rw [hdiscard] at h
          exact .inl ((finishAgentRun_draftsKept ..).followed h)
      · rw [if_neg hcompleted] at h
        exact .inl ((finishAgentRun_draftsKept ..).followed h)

/-- A finish without a draft and without a discard leaves the drafts alone. -/
theorem finalizeAnswer_draftsKept (hdraft : outcome.resolvedDraft = none) (status : AgentRunStatus)
    (scenarioVersionId : Uuid) :
    (finalizeAgentRun env claimed status (activityPayload scenarioVersionId outcome) none
      requestId).Follows DraftTablesKept := by
  cases hpayload : activityPayload scenarioVersionId outcome with
  | answer answer => exact finishAgentRun_draftsKept ..
  | draft w =>
    rw [activityPayload_draft hpayload] at hdraft
    cases hdraft

/-- A suspended turn asks for its approval, or ends cancelled. -/
theorem finishSuspended_draftsKept (hdraft : outcome.resolvedDraft = none) :
    (finishSuspended env settings codec view claimed outcome requestId).Follows
      DraftTablesKept := by
  have hbeside := beside_draftTablesKept
  unfold finishSuspended
  refine hbeside.afterStill (.lift _) fun call => ?_
  refine .ite (fun _ => finalizeAnswer_draftsKept hdraft ..) fun _ => ?_
  refine hbeside.afterStill (.lift _) fun request => ?_
  refine Tx.Follows.tryCatch hbeside.trans ?_ fun e => ?_
  · exact (requestSuspendedFrom_follows hbeside.toBeside (fun _ _ => ⟨rfl, rfl⟩)
      (fun _ _ => ⟨rfl, rfl⟩)
      ..).map _
  · split
    · exact finalizeAnswer_draftsKept hdraft ..
    · exact hbeside.throw _

/-- **The finish of a turn.** -/
theorem finish_moves {turn : Turn} (hsound : DraftsSound db) (houtcome : OutcomeSound outcome)
    (hresumed : turn.resumed = true → outcome.resolvedDraft = none)
    (h : (turn.finish env settings codec view outcome requestId).run db = (.ok executed, db')) :
    FinishMoves turn.claimed outcome db db' := by
  unfold Turn.finish at h
  split at h
  · rename_i hresume
    have hdraft : (resumedOutcome outcome).resolvedDraft = none := by
      unfold resumedOutcome
      split
      · rfl
      · exact hresumed hresume
    exact .of_kept ((finalizeAnswer_draftsKept hdraft ..).followed h)
  unfold finishTurn at h
  split at h
  · rename_i hsuspended
    have hdraft : outcome.resolvedDraft = none := by
      cases hw : outcome.resolvedDraft with
      | none => rfl
      | some w =>
        have := houtcome.completed w hw
        rw [hsuspended] at this
        cases this
    exact .of_kept ((finishSuspended_draftsKept hdraft).followed h)
  · exact finishEnded_moves hsound houtcome h

end Finish

/-! ## Outcomes of a turn -/

/-- Two committed states of the system, one observed by a turn. -/
theorem observed_draft {s : TurnSys} (h : TurnsSound s) {turn : Turn}
    {o : WorkingDraftObservationV1} (hobserved : ObservedAt s turn o) :
    ∃ seen, s.Saw seen ∧ (observeWorkingDraft turn.claimed).run seen = (.ok (some o), seen) ∧
      ∃ row ∈ seen.proposal, row.id = o.proposalId ∧ row.resourceVersion = o.resourceVersion ∧
        o.versionOrdinal = o.resourceVersion := by
  obtain ⟨seen, hsaw, hrun⟩ := hobserved
  refine ⟨seen, hsaw, hrun, ?_⟩
  unfold observeWorkingDraft at hrun
  obtain ⟨working, db, hworking, hpure⟩ := Tx.bind_ok.mp hrun
  obtain ⟨rfl, hread, -⟩ := readOne_ok (h.seen seen hsaw).1 hworking
  obtain ⟨hobservation, -⟩ := Prod.mk.inj hpure
  cases working with
  | none => cases hobservation
  | some record =>
    obtain ⟨row, hsel, hrow⟩ := hread record rfl
    obtain ⟨-, -, hactive⟩ := isWorking_iff.mp hsel
    have ho : ⟨row.id, row.resourceVersion, row.latestOrdinal⟩ = o := by
      have := Except.ok.inj hobservation
      simp only [Option.bind_some, ProposalRecordV1.observation, hrow.id, Option.map_some,
        Option.some.injEq, hrow.version, hrow.ordinal] at this
      exact this
    refine ⟨row, hrow.mem, ?_, ?_, ?_⟩
    · rw [← ho]
    · rw [← ho]
    · rw [← ho]
      exact if_pos hactive

theorem TurnOutcome.sound {s : TurnSys} (h : TurnsSound s) {turn : Turn}
    {outcome : AgentRunOutcomeV1} (houtcome : TurnOutcome s turn outcome) :
    OutcomeSound outcome := by
  have hcarries := houtcome.carries
  refine ⟨fun w hw => ?_, fun w hw => (hcarries.draft w hw).1⟩
  obtain ⟨-, resultId, hmem⟩ := hcarries.draft w hw
  obtain ⟨-, env, content, observed, hwrite, hobserved⟩ := h.drafts turn resultId w hmem
  refine ⟨env, content, observed, hwrite, fun o ho => ?_⟩
  obtain ⟨seen, -, -, row, -, -, -, hordinal⟩ := observed_draft h (hobserved o ho)
  exact hordinal

/-- A resumed turn resolves no draft. -/
theorem TurnOutcome.undrafted {s : TurnSys} (h : TurnsSound s) {turn : Turn}
    {outcome : AgentRunOutcomeV1} (houtcome : TurnOutcome s turn outcome)
    (hresumed : turn.resumed = true) : outcome.resolvedDraft = none := by
  cases hw : outcome.resolvedDraft with
  | none => rfl
  | some w =>
    obtain ⟨-, resultId, hmem⟩ := houtcome.carries.draft w hw
    have := (h.drafts turn resultId w hmem).1
    rw [hresumed] at this
    cases this

/-! ## No edit is lost

A turn that writes has seen the version it builds on, and a turn that has not leaves the card's edit
alone. -/

/-- The draft stands as the turn observed it, row and versions. -/
def SeenByTurn (s : TurnSys) (turn : Turn) (row : ProposalRow) : Prop :=
  ∃ seen o, s.Saw seen ∧ (observeWorkingDraft turn.claimed).run seen = (.ok (some o), seen) ∧
    o.proposalId = row.id ∧ o.resourceVersion = row.resourceVersion ∧ row ∈ seen.proposal ∧
    SameVersions seen s.db row.id

/-- What the finish of a turn may do to the drafts. -/
structure NoLostEdit (s : TurnSys) (turn : Turn) (outcome : AgentRunOutcomeV1) (db' : Db) :
    Prop where
  stale : ¬ TurnCurrent turn.claimed outcome s.db → DraftTablesKept s.db db'
  observed : ∀ row ∈ s.db.proposal, DraftStays s.db db' row ∨ SeenByTurn s turn row

theorem seenByTurn_of_observed {s : TurnSys} (h : TurnsSound s) {turn : Turn}
    {o : WorkingDraftObservationV1} (hobserved : ObservedAt s turn o) {row : ProposalRow}
    (hrow : row ∈ s.db.proposal) (hid : o.proposalId = row.id)
    (hversion : o.resourceVersion = row.resourceVersion) : SeenByTurn s turn row := by
  obtain ⟨seen, hsaw, hrun, old, hold, holdId, holdVersion, -⟩ := observed_draft h hobserved
  obtain ⟨hsame, hversions⟩ := (h.seen seen hsaw).2.unchanged hold hrow
    (by rw [holdId, hid]) (by rw [holdVersion, hversion])
  rw [hsame]
  rw [hsame] at hid hversion
  exact ⟨seen, o, hsaw, hrun, hid, hversion, hold, hversions⟩

/-- A current turn that writes over a working draft observed it. -/
theorem seenByTurn_of_current {s : TurnSys} (h : TurnsSound s) {turn : Turn}
    {outcome : AgentRunOutcomeV1} (houtcome : TurnOutcome s turn outcome)
    (hcurrent : TurnCurrent turn.claimed outcome s.db)
    (hwrites : outcome.resolvedDiscard.isSome ∨ outcome.resolvedDraft.isSome) {row : ProposalRow}
    (hrow : row ∈ s.db.proposal)
    (hworking : isWorking turn.claimed.conversationId turn.claimed.siteId row = true) :
    SeenByTurn s turn row := by
  have hcarries := houtcome.carries
  -- what the read now observes is this draft
  have hread : (observeWorkingDraft turn.claimed).run s.db =
      (.ok (some ⟨row.id, row.resourceVersion, row.latestOrdinal⟩), s.db) := by
    rcases readOne_sound h.sound (isWorking turn.claimed.conversationId turn.claimed.siteId) with
      ⟨found, record, hsel, hrecord, hrun⟩ | ⟨hnone, -⟩
    · obtain ⟨hconversation, -, hactive⟩ := isWorking_iff.mp hworking
      obtain ⟨hconversation', -, hactive'⟩ := isWorking_iff.mp hsel
      obtain rfl := eq_of_active hrecord.mem hrow hactive' hactive
        (hconversation'.trans hconversation.symm)
      rw [observe_of_getWorking hrun]
      simp [ProposalRecordV1.observation, hrecord.id, hrecord.version, hrecord.ordinal]
    · rw [hnone row hrow] at hworking
      cases hworking
  obtain ⟨working, hrun, hmatch⟩ := hcurrent
  rw [hread] at hrun
  cases hrun
  cases hdiscard : outcome.resolvedDiscard with
  | some d =>
    rw [hdiscard] at hmatch
    obtain ⟨resultId, hmem⟩ := hcarries.discard d hdiscard
    refine seenByTurn_of_observed h (h.discards turn resultId d hmem).2 hrow ?_ ?_
    · exact (Option.some.inj hmatch.1).symm
    · exact (Option.some.inj hmatch.2).symm
  | none =>
    cases hdraft : outcome.resolvedDraft with
    | none => simp [hdiscard, hdraft] at hwrites
    | some w =>
      rw [hdiscard, hdraft] at hmatch
      obtain ⟨-, resultId, hmem⟩ := hcarries.draft w hdraft
      obtain ⟨-, env, content, observed, rfl, hobserved⟩ := h.drafts turn resultId w hmem
      cases observed with
      | none => cases hmatch.1
      | some o =>
        refine seenByTurn_of_observed h (hobserved o rfl) hrow ?_ ?_
        · exact (Option.some.inj hmatch.1).symm
        · exact (Option.some.inj hmatch.2).symm

/-- **A finish loses no edit.** -/
theorem finish_noLostEdit {s : TurnSys} (h : TurnsSound s) {turn : Turn} (env : Ambient)
    (settings : ApprovalSettings) (codec : ToolArgumentCodec) (view : RequestView)
    {outcome : AgentRunOutcomeV1} (requestId : Uuid) (houtcome : TurnOutcome s turn outcome) :
    DraftMoves s.db ((turn.finish env settings codec view outcome requestId).commit s.db).2 ∧
      NoLostEdit s turn outcome
        ((turn.finish env settings codec view outcome requestId).commit s.db).2 := by
  rcases Tx.commit_cases (turn.finish env settings codec view outcome requestId) s.db with
    ⟨executed, hrun⟩ | hsame
  · obtain ⟨hmoves, hothers, hguarded⟩ := finish_moves h.sound (houtcome.sound h)
      (houtcome.undrafted h) hrun
    refine ⟨hmoves, fun hstale => ?_, fun row hrow => ?_⟩
    · cases hguarded with
      | inl hkept => exact hkept
      | inr hcurrent => exact absurd hcurrent.1 hstale
    · cases hguarded with
      | inl hkept => exact .inl (hkept.stays hrow)
      | inr hcurrent =>
        cases hworking : isWorking turn.claimed.conversationId turn.claimed.siteId row with
        | false => exact .inl (hothers row hrow hworking)
        | true =>
          exact .inr (seenByTurn_of_current h houtcome hcurrent.1 hcurrent.2 hrow hworking)
  · rw [hsame]
    exact ⟨.refl, fun _ => beside_draftTablesKept.refl _,
      fun row hrow => .inl ⟨hrow, fun _ _ => Iff.rfl⟩⟩

/-! ## The invariant holds -/

theorem TurnsSound.initial {s : TurnSys} (h : s.Initial) : TurnsSound s where
  seen db hsaw := by
    have hdb : db = s.db := by
      cases hsaw with
      | inl heq => exact heq
      | inr hmem => rw [h.past] at hmem; cases hmem
    rw [hdb]
    refine ⟨⟨fun row hrow => ?_, fun v hv => ?_⟩, .refl _⟩
    · rw [h.proposals] at hrow
      exact absurd hrow (Table.not_mem_empty row)
    · rw [h.versions] at hv
      exact absurd hv (Table.not_mem_empty v)
  states turn state hmem := by rw [h.turns] at hmem; cases hmem
  drafts turn resultId w hmem := by rw [h.results] at hmem; cases hmem
  discards turn resultId d hmem := by rw [h.results] at hmem; cases hmem

/-- What a transaction commits moves drafts when its returning runs do. -/
theorem draftMoves_commit {α : Type} {x : DbTx α} {db : Db}
    (h : ∀ {a db'}, x.run db = (.ok a, db') → DraftMoves db db') :
    DraftMoves db (x.commit db).2 := by
  rcases Tx.commit_cases x db with ⟨a, ha⟩ | hsame
  · exact h ha
  · rw [hsame]

/-- **Every action keeps the invariant.** -/
theorem TurnsSound.perform {s : TurnSys} (h : TurnsSound s) {action : TurnAction}
    (henabled : action.Enabled s) : TurnsSound (s.perform action) := by
  cases action with
  | acceptTurn env conversationId siteId actorId requestId text =>
    exact h.commit ((acceptTurn_follows beside_draftMoves draftMoves_runs (fun _ _ => .kept rfl rfl)
      ..).leads.commit beside_draftMoves.refl s.db)
  | claim conversationId agentRunId siteId =>
    have hmoves := (claimQueuedRun_follows beside_draftMoves.toBeside draftMoves_runs conversationId
      agentRunId siteId).leads.commit beside_draftMoves.refl s.db
    show TurnsSound (s.claimed _)
    unfold TurnSys.claimed
    split
    · exact (h.commit hmoves).openTurn _
    · exact h.commit hmoves
  | resume claimed => exact h.openTurn _
  | observe turn state working =>
    -- only this turn's observation is new
    refine ⟨h.seen, fun other state' hmem o ho => ?_, h.drafts, h.discards⟩
    cases List.mem_cons.mp hmem with
    | inr hmem => exact h.states other state' hmem o ho
    | inl heq =>
      obtain ⟨rfl, rfl⟩ := Prod.mk.inj heq
      obtain ⟨observed, state'', hrun, -⟩ := observeWith_total working state
      rw [hrun] at ho
      exact (observeWith_observed h henabled hrun).2 o ho
  | draft turn state working env content =>
    exact h.toolEnded henabled.first (schedulingDraft_sound h henabled env content)
  | discard turn state working budgetRemains =>
    exact h.toolEnded henabled.first (schedulingDraftDiscard_sound h henabled budgetRemains)
  | consult turn resultId =>
    -- a result of another tool is neither a draft nor a discard
    refine ⟨h.seen, h.states, fun other id w hmem => ?_, fun other id d hmem => ?_⟩
    · cases List.mem_cons.mp hmem with
      | inl heq => cases (Prod.mk.inj heq).2
      | inr hmem => exact h.drafts other id w hmem
    · cases List.mem_cons.mp hmem with
      | inl heq => cases (Prod.mk.inj heq).2
      | inr hmem => exact h.discards other id d hmem
  | finish turn env settings codec view outcome requestId =>
    exact h.commit (finish_noLostEdit h env settings codec view requestId henabled.2).1
  | revise env catalogue cmd =>
    exact h.commit (draftMoves_commit fun hrun => reviseProposal_moves h.sound hrun)
  | reject env catalogue cmd =>
    exact h.commit (draftMoves_commit fun hrun => rejectProposal_moves h.sound hrun)
  | createApproval env settings cmd =>
    exact h.commit (createApproval_draftsKept env settings cmd s.db).moves
  | decideApproval ctx enabled cmd view =>
    exact h.commit (decideRequest_moves ctx enabled cmd view s.db)
  | elsewhere db' => exact h.commit (.kept henabled.proposals henabled.versions)

theorem turnsSound_of_reachable {s : TurnSys} (hreach : Reachable turnSystem s) : TurnsSound s :=
  Machine.reachable_invariant TurnsSound (fun _ => .initial) (fun _ _ h => h.perform) hreach

/-- The drafts of one state only evolve along a run. -/
theorem draftsEvolve_of_run {s s' : TurnSys} (hreach : Reachable turnSystem s)
    (hrun : Run turnSystem s s') : DraftsEvolve s.db s'.db := by
  have hpast : s'.Saw s.db := by
    refine Run.preserves (P := fun s' => s'.Saw s.db) ?_ hreach hrun (.inl rfl)
    intro s₁ s₂ _ hsaw hstep
    obtain ⟨action, -, rfl⟩ := hstep
    show (s₁.perform action).Saw s.db
    cases action with
    | claim conversationId agentRunId siteId =>
      show (s₁.claimed _).Saw s.db
      unfold TurnSys.claimed
      split
      · exact hsaw.commit
      · exact hsaw.commit
    | resume claimed => exact hsaw
    | observe turn state working => exact hsaw
    | draft turn state working env content => exact hsaw
    | discard turn state working budgetRemains => exact hsaw
    | consult turn resultId => exact hsaw
    | _ => exact hsaw.commit
  exact ((turnsSound_of_reachable (hreach.run hrun)).seen s.db hpast).2

/-! ## The lifecycle of drafts -/

/-- A draft counts its versions: their ordinals are `1 … n`, each taken once; its resource version
is `n` while it is active and `n + 1` once it has ended. -/
structure DraftNumbered (db : Db) (row : ProposalRow) (n : Int) : Prop where
  positive : 1 ≤ n
  ordinals : ∀ k, (∃ v ∈ db.proposalVersion, v.proposalId = row.id ∧ v.versionOrdinal = k) ↔
    1 ≤ k ∧ k ≤ n
  once : ∀ v ∈ db.proposalVersion, ∀ w ∈ db.proposalVersion, v.proposalId = row.id →
    w.proposalId = row.id → v.versionOrdinal = w.versionOrdinal → v = w
  active : row.state = .active → row.resourceVersion = n
  ended : row.state ≠ .active → row.resourceVersion = n + 1

theorem DraftSound.numbered {db : Db} {row : ProposalRow} (h : DraftSound db row) :
    DraftNumbered db row row.latestOrdinal where
  positive := h.one_le
  ordinals := h.ordinals
  once v hv w hw hdraft hdraft' hordinal :=
    Table.eq_of_clash hv hw (by simp [clash, hdraft, hdraft', hordinal])
  active hactive := by rw [ProposalRow.latestOrdinal, if_pos hactive]
  ended hended := by rw [ProposalRow.latestOrdinal, if_neg hended]; omega

/-- **Draft lifecycle and no lost edit**, for every interleaving of turns, card commands and
decisions: a conversation has at most one active draft; a draft counts its versions; an ended
draft stays as it is for ever; and a finish loses no edit. -/
theorem draft_lifecycle {s : TurnSys} (hreach : Reachable turnSystem s) :
    (∀ a ∈ s.db.proposal, ∀ b ∈ s.db.proposal, a.state = .active → b.state = .active →
      a.conversationId = b.conversationId → a = b) ∧
    (∀ row ∈ s.db.proposal, ∃ n, DraftNumbered s.db row n) ∧
    (∀ s', Run turnSystem s s' → ∀ row ∈ s.db.proposal, row.state ≠ .active →
      DraftStays s.db s'.db row) ∧
    ∀ turn env settings codec view outcome requestId,
      (TurnAction.finish turn env settings codec view outcome requestId).Enabled s →
      NoLostEdit s turn outcome
        (s.perform (.finish turn env settings codec view outcome requestId)).db := by
  have hsound := turnsSound_of_reachable hreach
  refine ⟨fun a ha b hb => eq_of_active ha hb, fun row hrow => ?_,
    fun s' hrun row hrow hended => ?_,
    fun turn env settings codec view outcome requestId henabled => ?_⟩
  · exact ⟨_, (hsound.sound.drafts row hrow).numbered⟩
  · exact (draftsEvolve_of_run hreach hrun).ended hrow hended
  · exact (finish_noLostEdit hsound env settings codec view requestId henabled.2).2

namespace Card

/-- Turn 1 drafts; turn 4 observes that draft and drafts a change of it. -/
def drafted : TurnSys := turnMachine.performAll site
  [accept 1, claim 1, draft 1 none, finish 1 none, accept 4, claim 4, draft 4 (some ⟨200, 1, 1⟩)]

def reject : TurnAction := .reject (env 8) catalogue ⟨200, 1, 3, 1, "reject"⟩

/-- The planner rejects the draft on its card, before turn 4 finishes. -/
def rejected : TurnSys := drafted.perform reject

theorem observe_of_value {claimed : ClaimedAgentRunV1} {db : Db}
    {working : Option WorkingDraftObservationV1}
    (h : ((observeWorkingDraft claimed).run db).1 = .ok working) :
    (observeWorkingDraft claimed).run db = (.ok working, db) := by
  have hstill : (observeWorkingDraft claimed).Still := .bind (readOne_still _) fun _ => .pure _
  have hdb : ((observeWorkingDraft claimed).run db).2 = db := hstill.unchanged db
  exact Prod.ext h hdb

/-- A tool call of a turn that has just been claimed and reads the current state. -/
theorem draftCall {s : TurnSys} {n : Nat} {working : Option WorkingDraftObservationV1}
    (hstate : (turn n, {}) ∈ s.turns)
    (hread : ((observeWorkingDraft (turn n).claimed).run s.db).1 = .ok working) :
    DraftCall s (turn n) {} working :=
  ⟨rfl, hstate, s.db, .inl rfl, observe_of_value hread⟩

theorem finishEnabled {s : TurnSys} {n : Nat} {working : Option WorkingDraftObservationV1}
    (hstate : (turn n, {}) ∈ s.turns)
    (hresult : (turn n, .draft "draft" (draftWrite (env (n + 1)) content working)) ∈ s.results) :
    (finish n working).Enabled s := by
  refine ⟨⟨{}, hstate⟩, .bound binding { status := .completed, draft := some "draft" } _
    [.draft "draft" (draftWrite (env (n + 1)) content working)] rfl rfl ?_ ?_⟩
  · intro result hmem
    rw [List.mem_singleton.mp hmem]
    exact hresult
  · rfl

theorem drafted_reachable : Reachable turnSystem drafted := by
  refine Machine.reachable_of_schedule site_initial ⟨trivial, trivial, ?_, ?_, trivial, trivial, ?_,
    trivial⟩
  · exact draftCall (by decide +kernel) (by decide +kernel)
  · exact finishEnabled (by decide +kernel) (by decide +kernel)
  · exact draftCall (by decide +kernel) (by decide +kernel)

theorem rejected_reachable : Reachable turnSystem rejected :=
  reachable_perform drafted_reachable (show reject.Enabled drafted from trivial)

end Card

/-- Turn 4 observed the draft at version 1; the planner has rejected it since, so the finish of
the turn writes no draft row. -/
theorem draft_lifecycle_card :
    DraftTablesKept Card.rejected.db
      (Card.rejected.perform (Card.finish 4 (some ⟨200, 1, 1⟩))).db := by
  refine ((draft_lifecycle Card.rejected_reachable).2.2.2 _ _ _ _ _ _ _
    (Card.finishEnabled (by decide +kernel) (by decide +kernel))).stale ?_
  intro hcurrent
  obtain ⟨working, hrun, hmatch⟩ := hcurrent
  have hnone : ((observeWorkingDraft (Card.turn 4).claimed).run Card.rejected.db).1 = .ok none := by
    decide +kernel
  rw [hrun] at hnone
  cases hnone
  exact absurd hmatch.1 (by decide)

end ShiftMind
