import ShiftMind.Library.Fallible
import ShiftMind.Turns.Beside
import ShiftMind.Turns.Drafts
import ShiftMind.Turns.System

/-!
# ShiftMind — what each command does to the drafts

Every transaction of the workflow is a sequence of draft moves: the statements of the proposal
repository are inverted once, and the commands are read off them.

* **`ReadDraft`** — what a read of a sound draft returns (`readOne_sound`).
* **`createDraft_move`**, **`appendVersion_move`**, **`endDraft_move`**, **`markApplied_moves`** —
  the four statement groups.
* **`finalizeAgentRun_drafts`**, **`reviseProposal_moves`**, **`rejectProposal_moves`**,
  **`decideRequest_moves`** — the transactions.
-/

namespace ShiftMind

open Relational Transactional ConversationRepository ProposalRepository ScheduleRunRepository

/-! ## Transactions beside the drafts -/

/-- Everything but the two draft tables may change. -/
theorem beside_draftMoves : BesideStreams DraftMoves :=
  .of_tables (fun _ => .refl) (fun _ _ _ h h' => h.trans h') (fun _ _ => .kept rfl rfl)
    (fun _ _ => .kept rfl rfl) (fun _ _ => .kept rfl rfl) (fun _ _ => .kept rfl rfl)
    fun _ _ => .kept rfl rfl

theorem draftMoves_runs (t : Table AgentRunRow) (db : Db) :
    DraftMoves db (Db.agentRuns.put t db) :=
  .kept rfl rfl

theorem draftMoves_bindings (t : Table ApprovalRequestRow) (db : Db) :
    DraftMoves db (Db.approvalRequests.put t db) :=
  .kept rfl rfl

/-- The draft tables are untouched. -/
structure DraftTablesKept (db db' : Db) : Prop where
  drafts : db'.proposal = db.proposal
  versions : db'.proposalVersion = db.proposalVersion

theorem beside_draftTablesKept : BesideStreams DraftTablesKept :=
  .of_tables (fun _ => ⟨rfl, rfl⟩)
    (fun _ _ _ h h' => ⟨h'.drafts.trans h.drafts, h'.versions.trans h.versions⟩)
    (fun _ _ => ⟨rfl, rfl⟩) (fun _ _ => ⟨rfl, rfl⟩) (fun _ _ => ⟨rfl, rfl⟩)
    (fun _ _ => ⟨rfl, rfl⟩) fun _ _ => ⟨rfl, rfl⟩

theorem DraftTablesKept.moves {db db' : Db} (h : DraftTablesKept db db') : DraftMoves db db' :=
  .kept h.drafts h.versions

theorem DraftTablesKept.sound {db db' : Db} (h : DraftTablesKept db db') (hsound : DraftsSound db) :
    DraftsSound db' :=
  hsound.moves h.moves

theorem finishAgentRun_draftsKept (env : Ambient) (claimed : ClaimedAgentRunV1)
    (status : AgentRunStatus) (payload : ActivityPayload) (requestId : Uuid) :
    (finishAgentRun env claimed status payload requestId).Follows DraftTablesKept :=
  finishAgentRun_follows beside_draftTablesKept (fun _ _ => ⟨rfl, rfl⟩) ..

/-! ## Reading a draft -/

theorem isProposal_iff {proposalId siteId : Uuid} {row : ProposalRow} :
    isProposal proposalId siteId row = true ↔ row.id = proposalId ∧ row.siteId = siteId := by
  simp [isProposal]

theorem clash_of_isProposal (proposalId siteId : Uuid) (a b : ProposalRow)
    (ha : isProposal proposalId siteId a = true) (hb : isProposal proposalId siteId b = true) :
    clash a b = true := by
  rw [isProposal_iff] at ha hb
  simp [clash, ha.1, hb.1]

theorem isWorking_iff {conversationId siteId : Uuid} {row : ProposalRow} :
    isWorking conversationId siteId row = true ↔
      row.conversationId = conversationId ∧ row.siteId = siteId ∧ row.state = .active := by
  simp [isWorking, and_assoc]

/-- The record is what a read of this draft returns. -/
structure ReadDraft (db : Db) (row : ProposalRow) (record : ProposalRecordV1) : Prop where
  mem : row ∈ db.proposal
  id : record.proposal.proposalId = some row.id
  state : record.proposal.state = row.state
  version : record.proposal.resourceVersion = row.resourceVersion
  ordinal : record.versionOrdinal = row.latestOrdinal

/-- **Reading a sound draft** never fails, and returns its current version. -/
theorem readOne_sound {db : Db} (hsound : DraftsSound db) (sel : ProposalRow → Bool) :
    (∃ row record, sel row = true ∧ ReadDraft db row record ∧
      (readOne sel).run db = (.ok (some record), db)) ∨
    ((∀ row ∈ db.proposal, sel row = false) ∧ (readOne sel).run db = (.ok none, db)) := by
  unfold readOne
  cases hrow : db.proposal.find? sel with
  | none =>
    right
    refine ⟨Table.find?_eq_none.mp hrow, ?_⟩
    rw [Tx.run_bind, Relvar.run_selectOne]
    simp only [Db.proposals_get, hrow, Tx.run_pure]
  | some row =>
    left
    obtain ⟨hmem, hsel⟩ := Table.find?_eq_some hrow
    -- a sound draft names a version there is
    obtain ⟨v, hv, hcurrent⟩ := (hsound.drafts row hmem).current
    -- and no other row has its id
    have hfind : (db.proposalVersion.find? fun w =>
        decide (some w.id = row.currentVersionId) && decide (w.siteId = row.siteId)) = some v := by
      refine Table.find?_of_mem hv ?_ fun a b ha hb => ?_
      · simp [hcurrent.id, hcurrent.site]
      · simp only [Bool.and_eq_true, decide_eq_true_eq] at ha hb
        have hid : a.id = b.id := Option.some.inj (ha.1.trans hb.1.symm)
        simp [clash, hid]
    refine ⟨row, ⟨{ v.payload with state := row.state, resourceVersion := row.resourceVersion },
      v.versionOrdinal, row.createdByActorId⟩, hsel,
      ⟨hmem, hcurrent.payload, rfl, rfl, hcurrent.ordinal⟩, ?_⟩
    · rw [Tx.run_bind, Relvar.run_selectOne]
      simp only [Db.proposals_get, hrow, Tx.run_read_bind, hfind, Tx.run_pure]

/-- What a read that returned says of the tables. -/
theorem readOne_ok {db db' : Db} (hsound : DraftsSound db) {sel : ProposalRow → Bool}
    {working : Option ProposalRecordV1} (h : (readOne sel).run db = (.ok working, db')) :
    db' = db ∧ (∀ record, working = some record →
      ∃ row, sel row = true ∧ ReadDraft db row record) ∧
      (working = none → ∀ row ∈ db.proposal, sel row = false) := by
  rcases readOne_sound hsound sel with ⟨row, record, hsel, hread, hrun⟩ | ⟨hnone, hrun⟩
  · rw [hrun] at h
    cases h
    refine ⟨rfl, fun record' heq => ?_, fun heq => by cases heq⟩
    cases heq
    exact ⟨row, hsel, hread⟩
  · rw [hrun] at h
    cases h
    exact ⟨rfl, fun record heq => (by cases heq), fun _ => hnone⟩

/-! ## The statements of the proposal repository -/

/-- An update through an identifier of the table replaces that row. -/
theorem updateProposal_ok {proposalId siteId : Uuid} {set : ProposalRow → ProposalRow} {db db' : Db}
    {u : Unit} {row : ProposalRow} (hmem : row ∈ db.proposal)
    (hsel : isProposal proposalId siteId row = true)
    (h : (updateProposal proposalId siteId set).run db = (.ok u, db')) :
    db.proposal.Replaced db'.proposal row (set row) ∧
      db' = { db with proposal := db'.proposal } := by
  unfold updateProposal at h
  obtain ⟨rows, db₁, hupdate, h₁⟩ := Tx.bind_ok.mp h
  cases h₁
  obtain ⟨t, ht, rfl, -⟩ := Relvar.updateWhere_ok.mp hupdate
  exact ⟨.of_update? (clash_of_isProposal proposalId siteId) hmem hsel ht, rfl⟩

theorem adds_of_insert? {Row : Type} [Constrained Row] {t t' : Table Row} {row : Row}
    (h : t.insert? row = some t') : Adds t t' row :=
  fun _ => Table.mem_of_insert? h

theorem insertVersion_ok {proposal : ProposalV1} {versionId proposalId siteId : Uuid}
    {ordinal : Int} {db db' : Db} {u : Unit}
    (h : (insertVersion proposal versionId proposalId siteId ordinal).run db = (.ok u, db')) :
    Adds db.proposalVersion db'.proposalVersion
        (versionRow proposal versionId proposalId siteId ordinal) ∧
      db' = { db with proposalVersion := db'.proposalVersion } := by
  unfold insertVersion at h
  obtain ⟨u₀, db₀, hcheck, h₀⟩ := Tx.bind_ok.mp h
  obtain ⟨-, rfl⟩ := Tx.lift_ok.mp hcheck
  obtain ⟨u₁, db₁, hinsert, h₁⟩ := Tx.bind_ok.mp h₀
  obtain ⟨t, ht, rfl⟩ := Relvar.insertInto_ok.mp hinsert
  obtain rfl := (references_still ..).eq_of_run h₁
  exact ⟨adds_of_insert? ht, rfl⟩

/-- **A first draft.** -/
theorem createDraft_move {proposal : ProposalV1} {siteId conversationId actorId : Uuid}
    {db db' : Db}
    {u : Unit} (hactive : proposal.state = .active) (hfirst : proposal.resourceVersion = 1)
    (h : (createDraft proposal siteId conversationId actorId).run db = (.ok u, db')) :
    ∃ row v, DraftCreated row v db db' := by
  unfold createDraft at h
  split at h
  case h_2 => exact absurd h Tx.throw_ok
  rename_i proposalId versionId hproposal hversion
  rw [Tx.run_ite] at h
  split at h
  · exact absurd h Tx.throw_ok
  obtain ⟨u₁, db₁, hinsert, h₁⟩ := Tx.bind_ok.mp h
  obtain ⟨t, ht, rfl⟩ := Relvar.insertInto_ok.mp hinsert
  obtain ⟨u₂, db₂, href, h₂⟩ := Tx.bind_ok.mp h₁
  obtain rfl := (references_still ..).eq_of_run href
  obtain ⟨u₃, db₃, hversions, h₃⟩ := Tx.bind_ok.mp h₂
  obtain ⟨hadds, hframe⟩ := insertVersion_ok hversions
  have hproposals : db₃.proposal = t := by rw [hframe]; rfl
  have hmem : draftRow proposal proposalId siteId conversationId actorId ∈ db₃.proposal := by
    rw [hproposals]
    exact (Table.mem_of_insert? ht).mpr (.inr rfl)
  obtain ⟨hreplaced, hframe'⟩ := updateProposal_ok hmem (isProposal_iff.mpr ⟨rfl, rfl⟩) h₃
  -- the inserted row is the only one with its identifier
  have hnew : ∀ other ∈ db.proposal, other.id ≠ proposalId := by
    intro other hother hid
    have hfree := (Table.insert?_eq_some ht).2.1 other hother
    simp [clash, hid, draftRow] at hfree
  refine ⟨{ draftRow proposal proposalId siteId conversationId actorId with
      currentVersionId := some versionId }, versionRow proposal versionId proposalId siteId 1,
    ⟨?_, ?_, hnew, hactive, hfirst, rfl, ⟨rfl, rfl, rfl, hproposal⟩⟩⟩
  · intro r
    rw [hreplaced.mem_iff r, hproposals, Table.mem_of_insert? ht]
    constructor
    · intro hr
      cases hr with
      | inl heq => exact .inr heq
      | inr hr =>
        cases hr.1 with
        | inl hold => exact .inl hold
        | inr heq => exact absurd heq hr.2
    · intro hr
      cases hr with
      | inl hold =>
        refine .inr ⟨.inl hold, fun heq => hnew r hold ?_⟩
        rw [heq]
        rfl
      | inr heq => exact .inl heq
  · intro v
    rw [hframe']
    exact hadds v

/-- **A further version**, written over the working draft at the resource version it was read at. -/
theorem appendVersion_move {proposal : ProposalV1} {siteId : Uuid} {ordinal : Int} {db db' : Db}
    {u : Unit} {row : ProposalRow} (hmem : row ∈ db.proposal) (hsite : row.siteId = siteId)
    (hid : proposal.proposalId = some row.id) (hactive : row.state = .active)
    (hversion : proposal.resourceVersion = row.resourceVersion + 1)
    (hordinal : ordinal = row.resourceVersion + 1)
    (h : (appendVersion proposal siteId ordinal).run db = (.ok u, db')) :
    ∃ row' v, DraftRevised row row' v db db' ∧
      db' = { db with proposal := db'.proposal, proposalVersion := db'.proposalVersion } := by
  unfold appendVersion at h
  split at h
  case h_2 => exact absurd h Tx.throw_ok
  rename_i proposalId versionId hproposal hversionId
  obtain rfl : row.id = proposalId := Option.some.inj (hid.symm.trans hproposal)
  obtain ⟨u₁, db₁, hversions, h₁⟩ := Tx.bind_ok.mp h
  obtain ⟨hadds, hframe⟩ := insertVersion_ok hversions
  have hmem' : row ∈ db₁.proposal := by rw [hframe]; exact hmem
  obtain ⟨hreplaced, hframe'⟩ := updateProposal_ok hmem' (isProposal_iff.mpr ⟨rfl, hsite⟩) h₁
  rw [show db₁.proposal = db.proposal by rw [hframe]] at hreplaced
  refine ⟨_, versionRow proposal versionId row.id siteId ordinal,
    ⟨hreplaced, ?_, hactive, by rw [hversion]; rfl, ?_⟩, ?_⟩
  · intro v
    rw [hframe']
    exact hadds v
  · exact ⟨hsite.symm, rfl, hordinal, hproposal⟩
  · rw [hframe', hframe]

/-- **An end** of the working draft, at the resource version it was read at. -/
theorem endDraft_move {proposalId siteId : Uuid} {endedBy : ProposalEndedBy} {version : Int}
    {db db' : Db} {u : Unit} {row : ProposalRow} (hmem : row ∈ db.proposal)
    (hsel : isProposal proposalId siteId row = true) (hactive : row.state = .active)
    (hversion : version = row.resourceVersion + 1)
    (h : (updateProposal proposalId siteId (ended endedBy version)).run db = (.ok u, db')) :
    DraftEnded row (ended endedBy version row) db db' ∧
      db' = { db with proposal := db'.proposal } := by
  obtain ⟨hreplaced, hframe⟩ := updateProposal_ok hmem hsel h
  refine ⟨⟨hreplaced, by rw [hframe], hactive, by simp [ended], ⟨rfl, rfl, rfl, rfl⟩, hversion⟩,
    hframe⟩

/-- **Applying the originating draft** ends it if it is still active, and changes nothing else. -/
theorem markApplied_moves (siteId scheduleVersionId : Uuid) :
    (markApplied siteId scheduleVersionId).Follows DraftMoves := by
  unfold markApplied
  refine beside_draftMoves.afterStill (Relvar.still_selectOne ..) fun pinned => ?_
  cases pinned with
  | none => exact beside_draftMoves.pure _
  | some pinned =>
    refine beside_draftMoves.bind ⟨fun {db result db'} h => ?_⟩ fun _ => beside_draftMoves.pure _
    cases result with
    | error e => rw [(Relvar.updateWhere_error.mp h).2.2]
    | ok rows =>
      cases rows with
      | nil => rw [Relvar.updateWhere_nil h]
      | cons row rest =>
        -- the predicate names the primary key, so one row was written
        obtain ⟨old, t, hsel, rfl, hreplaced, -, rfl⟩ := Relvar.updateWhere_first (by
          intro a b ha hb
          simp only [Bool.and_eq_true, decide_eq_true_eq] at ha hb
          simp [clash, ha.1.1, hb.1.1]) h
        simp only [Bool.and_eq_true, decide_eq_true_eq] at hsel
        exact .single (.ended old _ ⟨hreplaced, rfl, hsel.2, by simp, ⟨rfl, rfl, rfl, rfl⟩, rfl⟩)

/-! ## Finishing a turn

A finish moves the drafts only if the draft it observed is still the working one. -/

/-- A draft of a turn: a first one, or the next version of a draft that was read while its ordinal
was its resource version. -/
def DraftOfTurn (w : AgentDraftWriteV1) : Prop :=
  ∃ env content observed, w = draftWrite env content observed ∧
    ∀ o, observed = some o → o.versionOrdinal = o.resourceVersion

/-- Only the working drafts of the conversation change. -/
def OthersStay (claimed : ClaimedAgentRunV1) (db db' : Db) : Prop :=
  ∀ row ∈ db.proposal, isWorking claimed.conversationId claimed.siteId row = false →
    DraftStays db db' row

/-- A move of the working draft leaves the others alone. -/
theorem othersStay_of_evolve {claimed : ClaimedAgentRunV1} {db db' : Db} {working : ProposalRow}
    (hworking : isWorking claimed.conversationId claimed.siteId working = true)
    (h : ∀ row ∈ db.proposal, row ≠ working → DraftStays db db' row) :
    OthersStay claimed db db' := by
  intro row hrow hother
  refine h row hrow fun heq => ?_
  rw [heq, hworking] at hother
  cases hother

theorem DraftRevised.others {row row' : ProposalRow} {v : ProposalVersionRow} {db db' : Db}
    (h : DraftRevised row row' v db db') (other : ProposalRow) (hother : other ∈ db.proposal)
    (hne : other ≠ row) : DraftStays db db' other := by
  refine ⟨(h.drafts.mem_iff other).mpr (.inr ⟨hother, hne⟩), h.versions.other ?_⟩
  rw [h.version.draft]
  exact fun hid => hne (eq_of_id hother h.drafts.mem_old hid.symm)

theorem DraftEnded.others {row row' : ProposalRow} {db db' : Db} (h : DraftEnded row row' db db')
    (other : ProposalRow) (hother : other ∈ db.proposal) (hne : other ≠ row) :
    DraftStays db db' other :=
  ⟨(h.drafts.mem_iff other).mpr (.inr ⟨hother, hne⟩), fun v _ => by rw [h.versions]⟩

theorem DraftCreated.others {row : ProposalRow} {v : ProposalVersionRow} {db db' : Db}
    (h : DraftCreated row v db db') (other : ProposalRow) (hother : other ∈ db.proposal) :
    DraftStays db db' other := by
  refine ⟨(h.drafts other).mpr (.inl hother), h.versions.other ?_⟩
  rw [h.version.draft]
  exact fun heq => h.new other hother heq.symm

theorem DraftStays.trans {db db' db'' : Db} {row : ProposalRow} (h : DraftStays db db' row)
    (h' : DraftStays db' db'' row) : DraftStays db db'' row :=
  ⟨h'.1, fun v hv => (h'.2 v hv).trans (h.2 v hv)⟩

theorem DraftTablesKept.stays {db db' : Db} (h : DraftTablesKept db db') {row : ProposalRow}
    (hrow : row ∈ db.proposal) : DraftStays db db' row :=
  ⟨by rw [h.drafts]; exact hrow, fun v _ => by rw [h.versions]⟩

theorem DraftOfTurn.created {w : AgentDraftWriteV1} (h : DraftOfTurn w)
    (hcreated : w.outcome = .created) :
    w.proposal.state = .active ∧ w.proposal.resourceVersion = 1 := by
  obtain ⟨env, content, observed, rfl, -⟩ := h
  cases observed with
  | none => exact ⟨rfl, rfl⟩
  | some o => cases hcreated

theorem DraftOfTurn.updated {w : AgentDraftWriteV1} (h : DraftOfTurn w)
    (hupdated : w.outcome = .updated) :
    ∃ proposalId version, w.observedWorkingId = some proposalId ∧
      w.observedResourceVersion = some version ∧ w.proposal.proposalId = some proposalId ∧
      w.proposal.resourceVersion = version + 1 ∧ w.versionOrdinal = version + 1 := by
  obtain ⟨env, content, observed, rfl, hordinal⟩ := h
  cases observed with
  | none => cases hupdated
  | some o =>
    refine ⟨o.proposalId, o.resourceVersion, rfl, rfl, rfl, rfl, ?_⟩
    rw [← hordinal o rfl]
    rfl

theorem workingMatches_iff {working : Option ProposalRecordV1} {proposalId : Uuid}
    {version : Int} :
    workingMatches working (some proposalId) (some version) = true ↔
      ∃ record, working = some record ∧ record.proposal.proposalId = some proposalId ∧
        record.proposal.resourceVersion = version := by
  cases working with
  | none => simp [workingMatches]
  | some record => simp [workingMatches]

/-- A guard that passed found the working draft at the identifier and the version it assumed. -/
theorem row_of_matches {db : Db} {claimed : ClaimedAgentRunV1} {working : Option ProposalRecordV1}
    (hread : ∀ record, working = some record →
      ∃ row, isWorking claimed.conversationId claimed.siteId row = true ∧ ReadDraft db row record)
    {proposalId : Uuid} {version : Int}
    (h : workingMatches working (some proposalId) (some version) = true) :
    ∃ row ∈ db.proposal, isWorking claimed.conversationId claimed.siteId row = true ∧
      row.id = proposalId ∧ row.resourceVersion = version := by
  obtain ⟨record, hrecord, hid, hversion⟩ := workingMatches_iff.mp h
  obtain ⟨row, hworking, hrow⟩ := hread record hrecord
  refine ⟨row, hrow.mem, hworking, ?_, ?_⟩
  · exact Option.some.inj (hrow.id.symm.trans hid)
  · rw [← hversion, hrow.version]

/-- What a finish did to the drafts: nothing, or what its guard admitted. -/
structure DraftsFinished (claimed : ClaimedAgentRunV1) (draft : Option AgentDraftWriteV1)
    (discard : Option AgentDraftDiscardV1) (db db' : Db) : Prop where
  moves : DraftMoves db db'
  others : OthersStay claimed db db'
  guarded : DraftTablesKept db db' ∨
    ∃ working, (getWorking claimed.conversationId claimed.siteId).run db = (.ok working, db) ∧
      draftApplies working draft discard = true

theorem DraftsFinished.of_kept {claimed : ClaimedAgentRunV1} {draft : Option AgentDraftWriteV1}
    {discard : Option AgentDraftDiscardV1} {db db' : Db} (h : DraftTablesKept db db') :
    DraftsFinished claimed draft discard db db' :=
  ⟨h.moves, fun _ hrow _ => h.stays hrow, .inl h⟩

/-- The discard of a guarded bundle ends the working draft. -/
theorem applyDiscard_ok {claimed : ClaimedAgentRunV1} {discard : AgentDraftDiscardV1} {db db' : Db}
    {u : Unit} {row : ProposalRow} (hmem : row ∈ db.proposal)
    (hworking : isWorking claimed.conversationId claimed.siteId row = true)
    (hid : row.id = discard.proposalId)
    (hversion : row.resourceVersion = discard.observedResourceVersion)
    (h : (applyDiscard claimed (some discard)).run db = (.ok u, db')) :
    ∃ row', DraftEnded row row' db db' := by
  obtain ⟨-, hsite, hactive⟩ := isWorking_iff.mp hworking
  exact ⟨_, (endDraft_move hmem (isProposal_iff.mpr ⟨hid, hsite⟩) hactive (by rw [hversion]) h).1⟩

/-- A discard alone. -/
theorem finalizeDiscard_ok {env : Ambient} {claimed : ClaimedAgentRunV1} {status : AgentRunStatus}
    {answer : TurnAnswer} {discard : AgentDraftDiscardV1} {requestId : Uuid} {db db' : Db}
    {executed : ExecutedAgentRunV1} (hsound : DraftsSound db)
    (h : (finalizeDiscard env claimed status answer discard requestId).run db =
      (.ok executed, db')) : DraftsFinished claimed none (some discard) db db' := by
  unfold finalizeDiscard at h
  obtain ⟨conversation, db₁, hlock, h₁⟩ := Tx.bind_ok.mp h
  obtain rfl := (lockClaimed_still ..).eq_of_run hlock
  obtain ⟨working, db₂, hworking, h₂⟩ := Tx.bind_ok.mp h₁
  obtain ⟨rfl, hread, -⟩ := readOne_ok hsound hworking
  rw [Tx.run_ite] at h₂
  split at h₂
  · exact .of_kept ((finishAgentRun_draftsKept ..).followed h₂)
  rename_i happlies
  rw [Bool.not_eq_false] at happlies
  obtain ⟨executed', db₃, hfinish, h₃⟩ := Tx.bind_ok.mp h₂
  have hkept := (finishAgentRun_draftsKept ..).followed hfinish
  obtain ⟨u, db₄, hdiscard, h₄⟩ := Tx.bind_ok.mp h₃
  cases h₄
  obtain ⟨row, hmem, hrow, hid, hversion⟩ := row_of_matches hread happlies
  obtain ⟨row', hended⟩ := applyDiscard_ok (by rw [hkept.drafts]; exact hmem) hrow hid hversion
    hdiscard
  refine ⟨hkept.moves.trans (.single (.ended row row' hended)), ?_,
    .inr ⟨working, hworking, happlies⟩⟩
  refine othersStay_of_evolve hrow fun other hother hne => ?_
  exact (hkept.stays hother).trans (hended.others other (by rw [hkept.drafts]; exact hother) hne)

/-- A draft, and the discard of the draft before it. -/
theorem finalizeDraft_ok {env : Ambient} {claimed : ClaimedAgentRunV1} {status : AgentRunStatus}
    {draft : AgentDraftWriteV1} {discard : Option AgentDraftDiscardV1} {requestId : Uuid}
    {db db' : Db} {executed : ExecutedAgentRunV1} (hsound : DraftsSound db)
    (hdraft : DraftOfTurn draft)
    (h : (finalizeDraft env claimed status draft discard requestId).run db =
      (.ok executed, db')) : DraftsFinished claimed (some draft) discard db db' := by
  unfold finalizeDraft at h
  obtain ⟨reference, db₀, hcheck, h₀⟩ := Tx.bind_ok.mp h
  obtain ⟨hchecked, rfl⟩ := Tx.lift_ok.mp hcheck
  obtain ⟨conversation, db₁, hlock, h₁⟩ := Tx.bind_ok.mp h₀
  obtain rfl := (lockClaimed_still ..).eq_of_run hlock
  obtain ⟨working, db₂, hworking, h₂⟩ := Tx.bind_ok.mp h₁
  obtain ⟨rfl, hread, hnone⟩ := readOne_ok hsound hworking
  rw [Tx.run_ite] at h₂
  -- the observed draft is gone: the turn is finished without a write
  split at h₂
  · exact .of_kept ((finishAgentRun_draftsKept ..).followed h₂)
  rename_i happlies
  rw [Bool.not_eq_false] at happlies
  -- else the run is finished, the old draft discarded and the new one written
  obtain ⟨executed', db₃, hfinish, h₃⟩ := Tx.bind_ok.mp h₂
  have hkept := (finishAgentRun_draftsKept ..).followed hfinish
  obtain ⟨u, db₄, hdiscarded, h₄⟩ := Tx.bind_ok.mp h₃
  obtain ⟨u', db₅, happlied, h₅⟩ := Tx.bind_ok.mp h₄
  cases h₅
  have hguard : ∃ working, (getWorking claimed.conversationId claimed.siteId).run db₂ =
      (.ok working, db₂) ∧ draftApplies working (some draft) discard = true :=
    ⟨working, hworking, happlies⟩
  cases houtcome : draft.outcome with
  | created =>
    obtain ⟨hactive, hfirst⟩ := hdraft.created houtcome
    have hcreate : (createDraft draft.proposal claimed.siteId claimed.conversationId
        claimed.actorId).run db₄ = (.ok u', db') := by
      unfold applyDraft at happlied
      rw [houtcome] at happlied
      exact happlied
    obtain ⟨row, v, hcreated⟩ := createDraft_move hactive hfirst hcreate
    cases discard with
    | none =>
      cases hdiscarded
      refine ⟨hkept.moves.trans (.single (.created row v hcreated)), fun other hother _ => ?_,
        .inr hguard⟩
      exact (hkept.stays hother).trans
        (hcreated.others other (by rw [hkept.drafts]; exact hother))
    | some discard =>
      -- the discarded draft leaves `active` before the new one is created
      obtain ⟨old, hmem, hold, hid, hversion⟩ := row_of_matches hread happlies
      obtain ⟨old', hended⟩ := applyDiscard_ok (by rw [hkept.drafts]; exact hmem) hold hid hversion
        hdiscarded
      refine ⟨(hkept.moves.trans (.single (.ended old old' hended))).trans
        (.single (.created row v hcreated)), ?_, .inr hguard⟩
      refine othersStay_of_evolve hold fun other hother hne => ?_
      have hstays := (hkept.stays hother).trans
        (hended.others other (by rw [hkept.drafts]; exact hother) hne)
      exact hstays.trans (hcreated.others other hstays.1)
  | updated =>
    obtain ⟨proposalId, version, hid, hversion, hproposal, hnext, hordinal⟩ :=
      hdraft.updated houtcome
    have happend : (appendVersion draft.proposal claimed.siteId draft.versionOrdinal).run db₄ =
        (.ok u', db') := by
      unfold applyDraft at happlied
      rw [houtcome] at happlied
      exact happlied
    cases discard with
    | some discard =>
      -- a bundle does not both update and discard
      unfold checkDraft at hchecked
      split at hchecked
      · simp [houtcome] at hchecked
      · cases hchecked
    | none =>
      cases hdiscarded
      have hmatches : workingMatches working (some proposalId) (some version) = true := by
        simpa only [draftApplies, houtcome, hid, hversion] using happlies
      obtain ⟨row, hmem, hrow, hrowId, hrowVersion⟩ := row_of_matches hread hmatches
      obtain ⟨-, hsite, hactive⟩ := isWorking_iff.mp hrow
      obtain ⟨row', v, hrevised, -⟩ := appendVersion_move (by rw [hkept.drafts]; exact hmem) hsite
        (by rw [hproposal, hrowId]) hactive (by rw [hnext, hrowVersion])
        (by rw [hordinal, hrowVersion]) happend
      refine ⟨hkept.moves.trans (.single (.revised row row' v hrevised)), ?_, .inr hguard⟩
      refine othersStay_of_evolve hrow fun other hother hne => ?_
      exact (hkept.stays hother).trans
        (hrevised.others other (by rw [hkept.drafts]; exact hother) hne)

/-- The draft a payload carries. -/
def TurnPayload.write? : TurnPayload → Option AgentDraftWriteV1
  | answer _ => none
  | draft write => some write

/-- **`finalize_agent_run` and the drafts.** -/
theorem finalizeAgentRun_drafts {env : Ambient} {claimed : ClaimedAgentRunV1}
    {status : AgentRunStatus} {payload : TurnPayload} {discard : Option AgentDraftDiscardV1}
    {requestId : Uuid} {db db' : Db} {executed : ExecutedAgentRunV1} (hsound : DraftsSound db)
    (hdraft : ∀ w, payload = .draft w → DraftOfTurn w)
    (h : (finalizeAgentRun env claimed status payload discard requestId).run db =
      (.ok executed, db')) : DraftsFinished claimed payload.write? discard db db' := by
  cases payload with
  | draft w => exact finalizeDraft_ok hsound (hdraft w rfl) h
  | answer answer =>
    cases discard with
    | none => exact .of_kept ((finishAgentRun_draftsKept ..).followed h)
    | some discard => exact finalizeDiscard_ok hsound h

/-! ## Card commands -/

/-- The locked draft of a command. -/
theorem currentForCommand_ok {catalogue : ScenarioCatalogue} {proposalId siteId : Uuid}
    {db db' : Db}
    {record : ProposalRecordV1} {overview : ScenarioContext} (hsound : DraftsSound db)
    (h : (currentForCommand catalogue proposalId siteId).run db =
      (.ok (some (record, overview)), db')) :
    db' = db ∧ ∃ row, isProposal proposalId siteId row = true ∧ ReadDraft db row record := by
  unfold currentForCommand at h
  obtain ⟨working, db₁, hworking, h₁⟩ := Tx.bind_ok.mp h
  obtain ⟨rfl, hread, -⟩ := readOne_ok hsound hworking
  cases working with
  | none => cases h₁
  | some found =>
    simp only at h₁
    split at h₁
    · cases h₁
    split at h₁
    · cases h₁
    · cases h₁
      exact ⟨rfl, hread record rfl⟩

/-- A command that was not refused runs on an active draft. -/
theorem refuseIfEnded_ok {proposal : ProposalV1} {action : String} {u : Unit}
    (h : refuseIfEnded proposal action = .ok u) : proposal.state = .active := by
  unfold refuseIfEnded at h
  cases hstate : proposal.state with
  | active => rfl
  | rejected => rw [hstate] at h; cases h
  | applied => rw [hstate] at h; cases h

theorem admitRevision_ok {cmd : ReviseCommand} {current : ProposalV1} {overview : ScenarioContext}
    {resolved : ResolvedRevision} (h : admitRevision cmd current overview = .ok resolved) :
    current.state = .active ∧ current.scenarioVersionId = some overview.scenarioVersionId ∧
      cmd.expectedResourceVersion = current.resourceVersion ∧
      cmd.resolve current = .ok resolved := by
  unfold admitRevision at h
  obtain ⟨u, hactive, h₁⟩ := Fallible.bind_ok h
  split at h₁
  · cases h₁
  rename_i hscenario
  split at h₁
  · cases h₁
  rename_i hversion
  exact ⟨refuseIfEnded_ok hactive, not_not.mp hscenario, not_not.mp hversion, h₁⟩

theorem admitRejection_ok {cmd : RejectCommand} {current : ProposalV1} {u : Unit}
    (h : admitRejection cmd current = .ok u) :
    current.state = .active ∧ cmd.expectedResourceVersion = current.resourceVersion := by
  unfold admitRejection at h
  obtain ⟨u', hactive, h₁⟩ := Fallible.bind_ok h
  split at h₁
  · cases h₁
  rename_i hversion
  exact ⟨refuseIfEnded_ok hactive, not_not.mp hversion⟩

/-- A revision of the locked draft is one move. -/
theorem reviseCurrent_move {env : Ambient} {cmd : ReviseCommand} {record : ProposalRecordV1}
    {overview : ScenarioContext} {db db' : Db} {view : ProposalViewV1} {row : ProposalRow}
    (hsel : isProposal cmd.proposalId cmd.siteId row = true) (hread : ReadDraft db row record)
    (h : (reviseCurrent env cmd record overview).run db = (.ok view, db')) : DraftMoves db db' := by
  unfold reviseCurrent at h
  obtain ⟨resolved, db₁, hlifted, h₁⟩ := Tx.bind_ok.mp h
  obtain ⟨hadmitted, rfl⟩ := Tx.lift_ok.mp hlifted
  obtain ⟨hstate, -⟩ := admitRevision_ok hadmitted
  have hactive : row.state = .active := hread.state.symm.trans hstate
  obtain ⟨u, db₂, happend, h₂⟩ := Tx.bind_ok.mp h₁
  cases h₂
  obtain ⟨u', db₃, hversion, hreceipt⟩ := Tx.bind_ok.mp happend
  have hordinal : record.versionOrdinal + 1 = row.resourceVersion + 1 := by
    rw [hread.ordinal, ProposalRow.latestOrdinal, if_pos hactive]
  have hid : (revisedProposal env record.proposal resolved).proposalId = some row.id := hread.id
  obtain ⟨row', v, hrevised, -⟩ := appendVersion_move hread.mem (isProposal_iff.mp hsel).2
    hid hactive (by rw [← hread.version]; rfl) hordinal hversion
  have hkept : DraftTablesKept db₃ db' :=
    (storeIdempotentResult_follows beside_draftTablesKept.toBeside ..).followed hreceipt
  exact (Relation.ReflTransGen.single (.revised row row' v hrevised)).trans hkept.moves

/-- `revise_proposal`. -/
theorem reviseProposal_moves {env : Ambient} {catalogue : ScenarioCatalogue} {cmd : ReviseCommand}
    {db db' : Db} {view : Option ProposalViewV1} (hsound : DraftsSound db)
    (h : (reviseProposal env catalogue cmd).run db = (.ok view, db')) : DraftMoves db db' := by
  unfold reviseProposal at h
  rw [Tx.run_ite] at h
  split at h
  · exact absurd h Tx.throw_ok
  obtain ⟨current, db₁, hcurrent, h₁⟩ := Tx.bind_ok.mp h
  cases current with
  | none =>
    obtain rfl := (currentForCommand_still ..).eq_of_run hcurrent
    cases h₁
    exact .refl
  | some current =>
    obtain ⟨record, overview⟩ := current
    -- the draft written is the one that was read
    obtain ⟨rfl, row, hsel, hread⟩ := currentForCommand_ok hsound hcurrent
    obtain ⟨stored, db₂, hstored, h₂⟩ := Tx.bind_ok.mp h₁
    cases hstored
    obtain ⟨replay, db₃, hreplay, h₃⟩ := Tx.bind_ok.mp h₂
    obtain ⟨-, rfl⟩ := Tx.lift_ok.mp hreplay
    cases replay with
    | some view => cases h₃; exact .refl
    | none =>
      obtain ⟨revised, db₄, hrevise, h₄⟩ := Tx.bind_ok.mp h₃
      cases h₄
      exact reviseCurrent_move hsel hread hrevise

/-- A rejection of the locked draft is one move. -/
theorem rejectCurrent_move {env : Ambient} {cmd : RejectCommand} {record : ProposalRecordV1}
    {overview : ScenarioContext} {db db' : Db} {view : ProposalViewV1} {row : ProposalRow}
    (hsel : isProposal cmd.proposalId cmd.siteId row = true) (hread : ReadDraft db row record)
    (h : (rejectCurrent env cmd record overview).run db = (.ok view, db')) : DraftMoves db db' := by
  unfold rejectCurrent at h
  obtain ⟨u, db₁, hlifted, h₁⟩ := Tx.bind_ok.mp h
  obtain ⟨hadmitted, rfl⟩ := Tx.lift_ok.mp hlifted
  obtain ⟨hstate, -⟩ := admitRejection_ok hadmitted
  have hactive : row.state = .active := hread.state.symm.trans hstate
  obtain ⟨u', db₂, hreject, h₂⟩ := Tx.bind_ok.mp h₁
  cases h₂
  unfold ProposalRepository.reject at hreject
  simp only [hread.id] at hreject
  obtain ⟨u'', db₃, hend, hreceipt⟩ := Tx.bind_ok.mp hreject
  have hended := (endDraft_move hread.mem
    (isProposal_iff.mpr ⟨rfl, (isProposal_iff.mp hsel).2⟩) hactive
    (by rw [hread.version]) hend).1
  have hkept : DraftTablesKept db₃ db' :=
    (storeIdempotentResult_follows beside_draftTablesKept.toBeside ..).followed hreceipt
  exact (Relation.ReflTransGen.single (.ended row _ hended)).trans hkept.moves

/-- `reject_proposal`. -/
theorem rejectProposal_moves {env : Ambient} {catalogue : ScenarioCatalogue} {cmd : RejectCommand}
    {db db' : Db} {view : Option ProposalViewV1} (hsound : DraftsSound db)
    (h : (rejectProposal env catalogue cmd).run db = (.ok view, db')) : DraftMoves db db' := by
  unfold rejectProposal at h
  obtain ⟨current, db₁, hcurrent, h₁⟩ := Tx.bind_ok.mp h
  cases current with
  | none =>
    obtain rfl := (currentForCommand_still ..).eq_of_run hcurrent
    cases h₁
    exact .refl
  | some current =>
    obtain ⟨record, overview⟩ := current
    obtain ⟨rfl, row, hsel, hread⟩ := currentForCommand_ok hsound hcurrent
    obtain ⟨stored, db₂, hstored, h₂⟩ := Tx.bind_ok.mp h₁
    cases hstored
    obtain ⟨replay, db₃, hreplay, h₃⟩ := Tx.bind_ok.mp h₂
    obtain ⟨-, rfl⟩ := Tx.lift_ok.mp hreplay
    cases replay with
    | some view => cases h₃; exact .refl
    | none =>
      obtain ⟨rejected, db₄, hreject, h₄⟩ := Tx.bind_ok.mp h₃
      cases h₄
      exact rejectCurrent_move hsel hread hreject

/-! ## Approvals -/

theorem decideRequest_moves (ctx : DecisionContext) (enabled : Bool) (cmd : DecideApprovalCommand)
    (view : DecisionView) (db : Db) : DraftMoves db (decideRequest ctx enabled cmd view db).2 := by
  rw [decideRequest, approvalEndpoint_snd]
  exact (decideApprovalRoute_follows beside_draftMoves.toBeside draftMoves_runs draftMoves_bindings
    markApplied_moves ..).leads.commit (fun _ => .refl) db

theorem createApproval_draftsKept (env : Ambient) (settings : ApprovalSettings)
    (cmd : CreateApprovalCommand) (db : Db) :
    DraftTablesKept db (approvalEndpoint (createApprovalRoute env settings cmd) db).2 := by
  rw [approvalEndpoint_snd]
  exact (createApprovalRoute_follows beside_draftTablesKept.toBeside (fun _ _ => ⟨rfl, rfl⟩)
    (fun _ _ => ⟨rfl, rfl⟩) ..).leads.commit beside_draftTablesKept.refl db

end ShiftMind
