import ShiftMind.Turns.DraftCommands

/-!
# ShiftMind — what the turns hold of the drafts

The drafts of a conversation over every interleaving of turns, card commands and decisions. What a
turn writes was resolved against an observation that it made at some committed state.

* **`TurnsSound`** — the invariant: every committed state is sound and has evolved into this one,
  and what turns hold was observed at one of these states.
* **`TurnOutcome.carries`** — the writes of an outcome are those of its tools.
* **`ToolSound`** — what the tools of a turn resolve, they resolve against what it observed.
-/

namespace ShiftMind

open Relational Transactional Transition ConversationRepository ProposalRepository

/-! ## What an outcome carries -/

theorem resolveDiscard_ok {results : List TurnResult} {d : AgentDraftDiscardV1}
    (h : resolveDiscard results = .ok (some d)) : ∃ resultId, .discard resultId d ∈ results := by
  unfold resolveDiscard at h
  split at h
  · cases h
  · rename_i discard heq
    cases h
    have hmem : d ∈ [d] := List.mem_singleton.mpr rfl
    rw [← heq] at hmem
    obtain ⟨result, hresult, hsome⟩ := List.mem_filterMap.mp hmem
    cases result with
    | discard resultId discard =>
      cases hsome
      exact ⟨resultId, hresult⟩
    | draft resultId write => cases hsome
    | other resultId => cases hsome
  · cases h

/-- A citation resolves to a draft among the results. -/
theorem mem_of_trustedById {results : List TurnResult} {handleOf : String → Option String}
    {cited : String} {value : TurnResult}
    (h : Dict.get? (trustedById results handleOf) cited = some value) : value ∈ results := by
  have hpair := Dict.mem_of_get?_ofPairs h
  obtain ⟨result, hresult, hmem⟩ := List.mem_flatMap.mp hpair
  cases List.mem_cons.mp hmem with
  | inl heq =>
    rw [(Prod.mk.inj heq).2]
    exact hresult
  | inr hmem =>
    obtain ⟨handle, -, heq⟩ := List.mem_map.mp hmem
    rw [← (Prod.mk.inj heq).2]
    exact hresult

/-- A citation either resolves to a draft among the results, or no draft is resolved. -/
theorem resolveDraftCitation_draft {outcome : AgentRunOutcomeV1}
    {trusted : List (String × TurnResult)} {w : AgentDraftWriteV1}
    (hundrafted : outcome.resolvedDraft = none)
    (h : (resolveDraftCitation outcome trusted).resolvedDraft = some w) :
    (resolveDraftCitation outcome trusted).status = outcome.status ∧
      ∃ cited resultId, Dict.get? trusted cited = some (.draft resultId w) := by
  unfold resolveDraftCitation at h ⊢
  cases hdraft : outcome.draft with
  | none => simp [hdraft, hundrafted] at h
  | some cited =>
    simp only [hdraft] at h ⊢
    split at h
    · rename_i resultId write hget
      cases h
      exact ⟨rfl, cited, resultId, hget⟩
    · simp [hundrafted] at h

/-- What an outcome resolves was returned by a tool of its turn, and a resolved draft belongs to a
completed turn. -/
structure Carries (s : TurnSys) (turn : Turn) (outcome : AgentRunOutcomeV1) : Prop where
  draft : ∀ w, outcome.resolvedDraft = some w → outcome.status = .completed ∧
    ∃ resultId, (turn, .draft resultId w) ∈ s.results
  discard : ∀ d, outcome.resolvedDiscard = some d →
    ∃ resultId, (turn, .discard resultId d) ∈ s.results

theorem resolveDraftCitation_discard (outcome : AgentRunOutcomeV1)
    (trusted : List (String × TurnResult)) :
    (resolveDraftCitation outcome trusted).resolvedDiscard = outcome.resolvedDiscard := by
  unfold resolveDraftCitation
  split
  · rfl
  split <;> rfl

theorem TurnOutcome.carries {s : TurnSys} {turn : Turn} {outcome : AgentRunOutcomeV1}
    (h : TurnOutcome s turn outcome) : Carries s turn outcome := by
  cases h with
  | failed error => cases error <;> exact ⟨fun w hw => (by cases hw), fun d hd => by cases hd⟩
  | bound binding raw outcome results undrafted undiscarded trusted executed =>
    unfold executeTurn at executed
    split at executed
    · cases executed
      exact ⟨fun w hw => (by rw [undrafted] at hw; cases hw),
        fun d hd => by rw [undiscarded] at hd; cases hd⟩
    rename_i hcompleted
    obtain ⟨discard, hdiscard, hrest⟩ := Fallible.bind_ok executed
    -- a discard is the trusted discard of the turn, whatever the answer is
    have hdiscards : ∀ d, discard = some d →
        ∃ resultId, (turn, .discard resultId d) ∈ s.results := by
      intro d hd
      rw [hd] at hdiscard
      obtain ⟨resultId, hmem⟩ := resolveDiscard_ok hdiscard
      exact ⟨resultId, trusted _ hmem⟩
    dsimp only at hrest
    split at hrest
    · obtain ⟨resolved, -, heq⟩ := Fallible.bind_ok hrest
      cases heq
      exact ⟨fun w hw => (by rw [undrafted] at hw; cases hw), hdiscards⟩
    · cases hrest
      refine ⟨fun w hw => ?_, fun d hd => ?_⟩
      · have hraw : ({ raw with resolvedDiscard := discard } : AgentRunOutcomeV1).resolvedDraft =
            none := undrafted
        obtain ⟨hstatus, cited, resultId, hget⟩ := resolveDraftCitation_draft hraw hw
        refine ⟨hstatus.trans (not_not.mp hcompleted), resultId, ?_⟩
        exact trusted _ (mem_of_trustedById hget)
      · rw [resolveDraftCitation_discard] at hd
        exact hdiscards d hd
    · cases hrest
      exact ⟨fun w hw => (by rw [undrafted] at hw; cases hw), hdiscards⟩
    · obtain ⟨grounded, -, heq⟩ := Fallible.bind_ok hrest
      cases heq
      exact ⟨fun w hw => (by rw [undrafted] at hw; cases hw), hdiscards⟩

/-! ## The invariant -/

/-- The turn observed this working draft, at some committed state. -/
def ObservedAt (s : TurnSys) (turn : Turn) (o : WorkingDraftObservationV1) : Prop :=
  ∃ db, s.Saw db ∧ (observeWorkingDraft turn.claimed).run db = (.ok (some o), db)

structure TurnsSound (s : TurnSys) : Prop where
  seen : ∀ db, s.Saw db → DraftsSound db ∧ DraftsEvolve db s.db
  states : ∀ turn state, (turn, state) ∈ s.turns → ∀ o, state.observation = some (some o) →
    ObservedAt s turn o
  drafts : ∀ turn resultId w, (turn, .draft resultId w) ∈ s.results → turn.resumed = false ∧
    ∃ env content observed, w = draftWrite env content observed ∧
      ∀ o, observed = some o → ObservedAt s turn o
  discards : ∀ turn resultId d, (turn, .discard resultId d) ∈ s.results → turn.resumed = false ∧
    ObservedAt s turn ⟨d.proposalId, d.observedResourceVersion, d.versionOrdinal⟩

theorem TurnsSound.sound {s : TurnSys} (h : TurnsSound s) : DraftsSound s.db :=
  (h.seen s.db (.inl rfl)).1

theorem TurnSys.Saw.commit {s : TurnSys} {db db' : Db} (h : s.Saw db) : (s.commit db').Saw db := by
  cases h with
  | inl heq => exact .inr (heq ▸ List.mem_cons_self)
  | inr hmem => exact .inr (List.mem_cons_of_mem _ hmem)

theorem ObservedAt.commit {s : TurnSys} {turn : Turn} {o : WorkingDraftObservationV1}
    (h : ObservedAt s turn o) (db' : Db) : ObservedAt (s.commit db') turn o := by
  obtain ⟨db, hsaw, hrun⟩ := h
  exact ⟨db, hsaw.commit, hrun⟩

/-- A transaction that moves drafts. -/
theorem TurnsSound.commit {s : TurnSys} (h : TurnsSound s) {db' : Db}
    (hmoves : DraftMoves s.db db') : TurnsSound (s.commit db') where
  seen db hsaw := by
    cases hsaw with
    | inl heq =>
      rw [heq]
      exact ⟨h.sound.moves hmoves, .refl _⟩
    | inr hmem =>
      have hold : s.Saw db := by
        cases List.mem_cons.mp hmem with
        | inl heq => exact .inl heq
        | inr hmem => exact .inr hmem
      exact ⟨(h.seen db hold).1, (h.seen db hold).2.trans _ _ _ hmoves.evolve⟩
  states turn state hmem o ho := (h.states turn state hmem o ho).commit db'
  drafts turn resultId w hmem := by
    obtain ⟨hfirst, env, content, observed, hw, hobserved⟩ := h.drafts turn resultId w hmem
    exact ⟨hfirst, env, content, observed, hw, fun o ho => (hobserved o ho).commit db'⟩
  discards turn resultId d hmem :=
    ⟨(h.discards turn resultId d hmem).1, (h.discards turn resultId d hmem).2.commit db'⟩

/-- A turn that has observed nothing yet. -/
theorem TurnsSound.openTurn {s : TurnSys} (h : TurnsSound s) (turn : Turn) :
    TurnsSound (s.openTurn turn) where
  seen := h.seen
  states other state hmem o ho := by
    cases List.mem_cons.mp hmem with
    | inl heq =>
      rw [(Prod.mk.inj heq).2] at ho
      cases ho
    | inr hmem => exact h.states other state hmem o ho
  drafts := h.drafts
  discards := h.discards

/-! ## Tool calls -/

/-- What a turn holds of the working draft after it observed. -/
theorem observeWith_observed {s : TurnSys} {turn : Turn} {state state' : DraftTurnState}
    {working observed : Option WorkingDraftObservationV1} (h : TurnsSound s)
    (hcall : DraftCall s turn state working)
    (hrun : (DraftTurnState.observeWith working).run state = (.ok observed, state')) :
    (∀ o, observed = some o → ObservedAt s turn o) ∧
      ∀ o, state'.observation = some (some o) → ObservedAt s turn o := by
  unfold DraftTurnState.observeWith at hrun
  rw [Tx.run_read_bind] at hrun
  cases hobservation : (id state).observation with
  | some observation =>
    rw [hobservation] at hrun
    cases hrun
    have hstate : ∀ o, state.observation = some (some o) → ObservedAt s turn o :=
      h.states turn state hcall.state
    exact ⟨fun o ho => hstate o (ho ▸ hobservation), hstate⟩
  | none =>
    rw [hobservation] at hrun
    cases hrun
    obtain ⟨db, hsaw, hread⟩ := hcall.read
    have hworking : ∀ o, working = some o → ObservedAt s turn o :=
      fun o ho => ⟨db, hsaw, ho ▸ hread⟩
    exact ⟨hworking, fun o ho => hworking o (Option.some.inj ho)⟩

theorem observeWith_total (working : Option WorkingDraftObservationV1) (state : DraftTurnState) :
    ∃ observed state', (DraftTurnState.observeWith working).run state = (.ok observed, state') ∧
      state'.drafted = state.drafted ∧ state'.discarded = state.discarded := by
  unfold DraftTurnState.observeWith
  rw [Tx.run_read_bind]
  cases hobservation : (id state).observation with
  | some observation => exact ⟨_, _, rfl, rfl, rfl⟩
  | none => exact ⟨_, _, rfl, rfl, rfl⟩

/-- A draft state and a result of a tool, as the invariant wants them. -/
structure ToolSound (s : TurnSys) (turn : Turn)
    (ended : Except PyError TurnResult × DraftTurnState) : Prop where
  state : ∀ o, ended.2.observation = some (some o) → ObservedAt s turn o
  draft : ∀ resultId w, ended.1 = .ok (.draft resultId w) →
    ∃ env content observed, w = draftWrite env content observed ∧
      ∀ o, observed = some o → ObservedAt s turn o
  discard : ∀ resultId d, ended.1 = .ok (.discard resultId d) →
    ObservedAt s turn ⟨d.proposalId, d.observedResourceVersion, d.versionOrdinal⟩

theorem TurnsSound.toolEnded {s : TurnSys} (h : TurnsSound s) {turn : Turn}
    (hfirst : turn.resumed = false) {ended : Except PyError TurnResult × DraftTurnState}
    (htool : ToolSound s turn ended) : TurnsSound (s.toolEnded turn ended) := by
  -- one result is new at most: the one the tool returned
  have hresults : ∀ other result, (other, result) ∈ (s.toolEnded turn ended).results →
      (other = turn ∧ ended.1 = .ok result) ∨ (other, result) ∈ s.results := by
    intro other result hmem
    cases List.mem_append.mp hmem with
    | inr hmem => exact .inr hmem
    | inl hmem =>
      cases hended : ended.1 with
      | error e => rw [hended] at hmem; cases hmem
      | ok value =>
        rw [hended] at hmem
        obtain ⟨rfl, rfl⟩ := Prod.mk.inj (List.mem_singleton.mp hmem)
        exact .inl ⟨rfl, rfl⟩
  refine ⟨h.seen, fun other state hmem o ho => ?_, fun other resultId w hmem => ?_,
    fun other resultId d hmem => ?_⟩
  · cases List.mem_cons.mp hmem with
    | inl heq =>
      obtain ⟨rfl, rfl⟩ := Prod.mk.inj heq
      exact htool.state o ho
    | inr hmem => exact h.states other state hmem o ho
  · cases hresults other _ hmem with
    | inl heq => exact ⟨heq.1 ▸ hfirst, heq.1 ▸ htool.draft resultId w heq.2⟩
    | inr hmem => exact h.drafts other resultId w hmem
  · cases hresults other _ hmem with
    | inl heq => exact ⟨heq.1 ▸ hfirst, heq.1 ▸ htool.discard resultId d heq.2⟩
    | inr hmem => exact h.discards other resultId d hmem

/-- `scheduling_draft`. -/
theorem schedulingDraft_sound {s : TurnSys} {turn : Turn} {state : DraftTurnState}
    {working : Option WorkingDraftObservationV1} (h : TurnsSound s)
    (hcall : DraftCall s turn state working) (env : Ambient)
    (content : Except PyError DraftContent) :
    ToolSound s turn ((schedulingDraft env content working).run state) := by
  have hstate := h.states turn state hcall.state
  unfold schedulingDraft
  cases content with
  | error e => exact ⟨hstate, fun _ _ heq => (by cases heq), fun _ _ heq => by cases heq⟩
  | ok content =>
    rw [Tx.run_bind_of_ok (Tx.run_lift _ _), Tx.run_read_bind]
    cases hdiscarded : (id state).discarded with
    | some discarded =>
      -- a create: the discard of this turn comes first
      refine ⟨hstate, fun resultId w heq => ?_, fun _ _ heq => by cases heq⟩
      cases heq
      exact ⟨env, content, none, rfl, fun o ho => by cases ho⟩
    | none =>
      obtain ⟨observed, state', hrun, -⟩ := observeWith_total working state
      obtain ⟨hobserved, hstate'⟩ := observeWith_observed h hcall hrun
      simp only [Option.isSome_none, Bool.false_eq_true, if_false]
      rw [Tx.run_bind_of_ok hrun]
      refine ⟨hstate', fun resultId w heq => ?_, fun _ _ heq => by cases heq⟩
      cases heq
      exact ⟨env, content, observed, rfl, hobserved⟩

/-- `scheduling_draft_discard`. -/
theorem schedulingDraftDiscard_sound {s : TurnSys} {turn : Turn} {state : DraftTurnState}
    {working : Option WorkingDraftObservationV1} (h : TurnsSound s)
    (hcall : DraftCall s turn state working) (budgetRemains : Bool) :
    ToolSound s turn ((schedulingDraftDiscard budgetRemains working).run state) := by
  have hstate := h.states turn state hcall.state
  have hrefused : ∀ e : PyError, ToolSound s turn (.error e, state) :=
    fun e => ⟨hstate, fun _ _ heq => (by cases heq), fun _ _ heq => by cases heq⟩
  unfold schedulingDraftDiscard
  simp only [Tx.run_read_bind, id_eq, Tx.run_ite]
  split
  · exact hrefused _
  split
  · exact hrefused _
  split
  · exact hrefused _
  obtain ⟨observed, state', hrun, -⟩ := observeWith_total working state
  obtain ⟨hobserved, hstate'⟩ := observeWith_observed h hcall hrun
  rw [Tx.run_bind_of_ok hrun]
  cases observed with
  | none => exact ⟨hstate', fun _ _ heq => (by cases heq), fun _ _ heq => by cases heq⟩
  | some observed =>
    refine ⟨hstate', fun _ _ heq => (by cases heq), fun resultId d heq => ?_⟩
    cases heq
    exact hobserved observed rfl

end ShiftMind
