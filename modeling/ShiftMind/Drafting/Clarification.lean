import Mathlib.Data.List.Induction
import Mathlib.Data.List.Nodup
import ShiftMind.Contracts.Turn
import ShiftMind.Drafting.Resolve

/-!
# ShiftMind — resolving a clarification

`application/clarification/resolve.py`: the candidates a model proposes are read once each, at the
pinned version, and what does not resolve is dropped and counted. The reader may answer as it likes,
depending on what was read before, and may raise.

* **`resolveClarification`** — the loop.
* **`Tally`** — the bookkeeping that every pass keeps.
* **`Reader.Total`** — a reader that never raises, on which the loop ends with an answer.
* **`resolveClarification_resolved`** — what is kept, what is counted, and how often the reader is
  asked.
-/

namespace ShiftMind.Clarification

/-- `MAX_CANDIDATES`. -/
def maxCandidates : Nat := 10

/-- `(proposal.group, proposal.record_id)`: a proposal has nothing else. -/
abbrev Locator := EvidenceGroup × String

/-- One read and its answer. -/
abbrev Read := Locator × Option Drafting.Resolution

/-- The projection reader: an answer, or an exception, after the reads before. -/
abbrev Reader := List Read → Locator → Except String (Option Drafting.Resolution)

/-- A reader that never raises. -/
def Reader.Total (reader : Reader) : Prop :=
  ∀ reads locator, ∃ answer, reader reads locator = .ok answer

def locatorOf (candidate : EntityCandidateV1) : Locator := (candidate.group, candidate.recordId)

/-- What the loop has gathered, with the reads it made. -/
structure LoopState where
  reads : List Read := []
  seen : List Locator := []
  candidates : List EntityCandidateV1 := []
  dropped : Nat := 0

section Resolve

variable (reader : Reader) (scenarioVersionId : Uuid)

/-- The record an answer resolves a proposal to: one of its id, at the pinned version. -/
def resolvedItem (recordId : String) (answer : Option Drafting.Resolution) :
    Option Drafting.ScenarioRecord :=
  match answer with
  | none => none
  | some resolution =>
    match resolution.item with
    | none => none
    | some item =>
      if resolution.outcome ≠ .resolved ∨
          resolution.currentScenarioVersionId ≠ scenarioVersionId ∨ item.recordId ≠ recordId then
        none
      else some item

/-- The candidate a read leads to. -/
def candidateOf (read : Read) : Option EntityCandidateV1 :=
  (resolvedItem scenarioVersionId read.1.2 read.2).map fun item =>
    ⟨read.1.1, read.1.2, Drafting.plannerLabel item, some scenarioVersionId⟩

/-- One pass of the loop; an exception leaves the reads that were made. -/
def step (state : LoopState) (locator : Locator) : Except (List Read × String) LoopState :=
  if locator ∈ state.seen then .ok { state with dropped := state.dropped + 1 }
  else
    match reader state.reads locator with
    | .error error => .error (state.reads ++ [(locator, none)], error)
    | .ok answer =>
      let reads := state.reads ++ [(locator, answer)]
      let seen := state.seen ++ [locator]
      match candidateOf scenarioVersionId (locator, answer) with
      | none => .ok ⟨reads, seen, state.candidates, state.dropped + 1⟩
      | some candidate => .ok ⟨reads, seen, state.candidates ++ [candidate], state.dropped⟩

/-- `resolve_clarification`, with the reads it made. -/
def resolveClarification (clarification : ClarificationV1) :
    Except (List Read × String) (ResolvedClarificationV1 × List Read) := do
  let state ← (clarification.candidates.take maxCandidates).foldlM
    (step reader scenarioVersionId) {}
  pure
    ({ question := clarification.question
       candidates := state.candidates
       scenarioVersionId := some scenarioVersionId
       droppedCandidateCount := state.dropped + (clarification.candidates.length - maxCandidates) },
      state.reads)

/-! ## The bookkeeping

What the loop has asked, kept and dropped after each candidate; one pass keeps it. -/

/-- **After some proposals**: each was read once, where it came first; the candidates are those of
the reads; and what is no candidate was counted. -/
structure Tally (state : LoopState) (done : List Locator) : Prop where
  seen : state.reads.map Prod.fst = state.seen
  once : state.seen.Nodup
  covered : ∀ locator ∈ done, locator ∈ state.seen
  order : state.seen.Sublist done
  candidates : state.candidates = state.reads.filterMap (candidateOf scenarioVersionId)
  count : state.candidates.length + state.dropped = done.length
  asked : ∀ before read after, state.reads = before ++ read :: after →
    reader before read.1 = .ok read.2

variable {reader scenarioVersionId}

theorem Tally.nil : Tally reader scenarioVersionId {} [] where
  seen := rfl
  once := List.nodup_nil
  covered := nofun
  order := List.nil_sublist _
  candidates := rfl
  count := rfl
  asked before read after h := by
    have hlength := congrArg List.length h
    simp at hlength

/-- One more read at the end. -/
theorem asked_concat {reads : List Read} (read : Read)
    (h : ∀ before read after, reads = before ++ read :: after → reader before read.1 = .ok read.2)
    (hread : reader reads read.1 = .ok read.2) (before : List Read) (read' : Read)
    (after : List Read) (heq : reads ++ [read] = before ++ read' :: after) :
    reader before read'.1 = .ok read'.2 := by
  cases after using List.reverseRecOn with
  | nil =>
    obtain ⟨rfl, hlast⟩ := List.append_inj' heq rfl
    rw [← (List.cons.inj hlast).1]
    exact hread
  | append_singleton after last _ =>
    have hassoc : before ++ read' :: (after ++ [last]) = (before ++ read' :: after) ++ [last] := by
      simp
    rw [hassoc] at heq
    exact h before read' after (List.append_inj' heq rfl).1

/-- One pass keeps the bookkeeping. -/
theorem Tally.step {state state' : LoopState} {done : List Locator} {locator : Locator}
    (h : Tally reader scenarioVersionId state done)
    (hstep : step reader scenarioVersionId state locator = .ok state') :
    Tally reader scenarioVersionId state' (done ++ [locator]) := by
  unfold Clarification.step at hstep
  by_cases hmem : locator ∈ state.seen
  · -- a duplicate is dropped
    rw [if_pos hmem] at hstep
    cases hstep
    have hcount := h.count
    refine ⟨h.seen, h.once, ?_, h.order.trans (List.sublist_append_left _ _), h.candidates, ?_,
      h.asked⟩
    · intro l hl
      rcases List.mem_append.mp hl with hl | hl
      · exact h.covered l hl
      · rw [List.mem_singleton.mp hl]
        exact hmem
    · simp only [List.length_append, List.length_singleton]
      omega
  · rw [if_neg hmem] at hstep
    cases hread : reader state.reads locator with
    | error error => rw [hread] at hstep; cases hstep
    | ok answer =>
      -- a new locator is read once, and kept where the record is there
      rw [hread] at hstep
      have hcount := h.count
      have hseen : (state.reads ++ [(locator, answer)]).map Prod.fst = state.seen ++ [locator] := by
        rw [List.map_append, h.seen]
        rfl
      have honce : (state.seen ++ [locator]).Nodup := by
        rw [List.nodup_append]
        refine ⟨h.once, List.nodup_singleton _, fun a ha b hb => ?_⟩
        rw [List.mem_singleton.mp hb]
        exact fun heq => hmem (heq ▸ ha)
      have hcovered : ∀ l ∈ done ++ [locator], l ∈ state.seen ++ [locator] := by
        intro l hl
        rcases List.mem_append.mp hl with hl | hl
        · exact List.mem_append_left _ (h.covered l hl)
        · exact List.mem_append_right _ hl
      have horder : (state.seen ++ [locator]).Sublist (done ++ [locator]) :=
        h.order.append (List.Sublist.refl _)
      have hasked := asked_concat (locator, answer) h.asked hread
      cases hcandidate : candidateOf scenarioVersionId (locator, answer) with
      | none =>
        -- the record is gone: one more candidate is dropped
        simp only [hcandidate] at hstep
        cases hstep
        refine ⟨hseen, honce, hcovered, horder, ?_, ?_, hasked⟩
        · rw [List.filterMap_append, ← h.candidates]
          simp [hcandidate]
        · simp only [List.length_append, List.length_singleton]
          omega
      | some candidate =>
        simp only [hcandidate] at hstep
        cases hstep
        refine ⟨hseen, honce, hcovered, horder, ?_, ?_, hasked⟩
        · rw [List.filterMap_append, ← h.candidates]
          simp [hcandidate]
        · simp only [List.length_append, List.length_singleton]
          omega

/-- The loop keeps the bookkeeping. -/
theorem Tally.run {state final : LoopState} {done rest : List Locator}
    (h : Tally reader scenarioVersionId state done)
    (hrun : rest.foldlM (Clarification.step reader scenarioVersionId) state = .ok final) :
    Tally reader scenarioVersionId final (done ++ rest) := by
  induction rest generalizing state done with
  | nil =>
    cases hrun
    rw [List.append_nil]
    exact h
  | cons locator rest ih =>
    obtain ⟨next, hnext, hrest⟩ := Fallible.foldlM_ok_cons hrun
    have htally := ih (h.step hnext) hrest
    rwa [List.append_assoc] at htally

/-- A loop that is left by an exception has read no more often. -/
theorem Tally.raised {state : LoopState} {done rest : List Locator} {reads : List Read}
    {error : String} (h : Tally reader scenarioVersionId state done)
    (hrun : rest.foldlM (Clarification.step reader scenarioVersionId) state =
      .error (reads, error)) :
    (reads.map Prod.fst).Nodup ∧ reads.length ≤ done.length + rest.length := by
  induction rest generalizing state done with
  | nil => cases hrun
  | cons locator rest ih =>
    rw [List.foldlM_cons] at hrun
    cases hnext : Clarification.step reader scenarioVersionId state locator with
    | ok next =>
      rw [hnext] at hrun
      have hlater := ih (h.step hnext) hrun
      rw [List.length_append, List.length_singleton] at hlater
      rw [List.length_cons]
      exact ⟨hlater.1, by omega⟩
    | error e =>
      rw [hnext] at hrun
      cases hrun
      -- this pass raised: the locator was new
      unfold Clarification.step at hnext
      by_cases hmem : locator ∈ state.seen
      · rw [if_pos hmem] at hnext; cases hnext
      · rw [if_neg hmem] at hnext
        cases hread : reader state.reads locator with
        | ok answer =>
          simp only [hread] at hnext
          split at hnext <;> cases hnext
        | error text =>
          simp only [hread] at hnext
          cases hnext
          have hlength : state.seen.length ≤ done.length := h.order.length_le
          rw [← h.seen, List.length_map] at hlength
          constructor
          · rw [List.map_append, h.seen, List.nodup_append]
            refine ⟨h.once, List.nodup_singleton _, fun a ha b hb => ?_⟩
            have hb' : b = locator := List.mem_singleton.mp hb
            rw [hb']
            exact fun heq => hmem (heq ▸ ha)
          · simp only [List.length_append, List.length_cons, List.length_nil]
            omega

/-- A pass over a reader that does not raise ends with a state. -/
theorem Reader.Total.step (htotal : Reader.Total reader) (state : LoopState) (locator : Locator) :
    ∃ next, Clarification.step reader scenarioVersionId state locator = .ok next := by
  unfold Clarification.step
  by_cases hmem : locator ∈ state.seen
  · rw [if_pos hmem]
    exact ⟨_, rfl⟩
  · rw [if_neg hmem]
    obtain ⟨answer, hanswer⟩ := htotal state.reads locator
    simp only [hanswer]
    -- the answer resolves the proposal, or it is a miss
    cases candidateOf scenarioVersionId (locator, answer) with
    | none => exact ⟨_, rfl⟩
    | some candidate => exact ⟨_, rfl⟩

/-- So does the loop. -/
theorem Reader.Total.run (htotal : Reader.Total reader) (state : LoopState)
    (rest : List Locator) :
    ∃ final, rest.foldlM (Clarification.step reader scenarioVersionId) state = .ok final := by
  induction rest generalizing state with
  | nil => exact ⟨state, rfl⟩
  | cons locator rest ih =>
    obtain ⟨next, hnext⟩ : ∃ next,
        Clarification.step reader scenarioVersionId state locator = .ok next :=
      htotal.step state locator
    obtain ⟨final, hfinal⟩ := ih next
    refine ⟨final, ?_⟩
    rw [List.foldlM_cons, hnext]
    exact hfinal

/-! ## The result

Over all the candidates the bookkeeping is what the clarification is asked to be. -/

theorem locatorOf_candidateOf {read : Read} {candidate : EntityCandidateV1}
    (h : candidateOf scenarioVersionId read = some candidate) :
    locatorOf candidate = read.1 ∧ candidate.scenarioVersionId = some scenarioVersionId := by
  unfold candidateOf at h
  obtain ⟨item, -, rfl⟩ := Option.map_eq_some_iff.mp h
  exact ⟨rfl, rfl⟩

/-- The candidates stand in the order of the reads. -/
theorem candidates_sublist (reads : List Read) :
    ((reads.filterMap (candidateOf scenarioVersionId)).map locatorOf).Sublist
      (reads.map Prod.fst) := by
  induction reads with
  | nil => exact List.Sublist.refl _
  | cons read reads ih =>
    rw [List.filterMap_cons, List.map_cons]
    cases hcandidate : candidateOf scenarioVersionId read with
    | none => exact ih.cons _
    | some candidate =>
      rw [List.map_cons, (locatorOf_candidateOf hcandidate).1]
      exact ih.cons_cons _

/-- **What a resolved clarification is**: every distinct proposal among the first `MAX_CANDIDATES`
is read once, in order, and is a candidate exactly when its answer resolves it at the pinned
version; what is no candidate is counted. -/
structure Resolved (reader : Reader) (scenarioVersionId : Uuid) (clarification : ClarificationV1)
    (result : ResolvedClarificationV1) (reads : List Read) : Prop where
  question : result.question = clarification.question
  version : result.scenarioVersionId = some scenarioVersionId
  /-- each answer is the reader's, after the reads before -/
  asked : ∀ before read after, reads = before ++ read :: after →
    reader before read.1 = .ok read.2
  bounded : reads.length ≤ maxCandidates
  covered : ∀ locator ∈ clarification.candidates.take maxCandidates,
    ∃ read ∈ reads, read.1 = locator
  /-- a candidate resolved at the pinned version -/
  pinned : ∀ candidate ∈ result.candidates, ∃ read ∈ reads,
    candidateOf scenarioVersionId read = some candidate ∧ locatorOf candidate = read.1 ∧
      candidate.scenarioVersionId = some scenarioVersionId
  distinct : (result.candidates.map locatorOf).Nodup
  order : (result.candidates.map locatorOf).Sublist clarification.candidates
  count : result.candidates.length + result.droppedCandidateCount =
    clarification.candidates.length
  /-- what resolves is not dropped -/
  kept : ∀ read ∈ reads, ∀ item, resolvedItem scenarioVersionId read.1.2 read.2 = some item →
    ∃ candidate ∈ result.candidates, locatorOf candidate = read.1

theorem Tally.resolved {state : LoopState} {clarification : ClarificationV1}
    (h : Tally reader scenarioVersionId state (clarification.candidates.take maxCandidates)) :
    Resolved reader scenarioVersionId clarification
      { question := clarification.question
        candidates := state.candidates
        scenarioVersionId := some scenarioVersionId
        droppedCandidateCount :=
          state.dropped + (clarification.candidates.length - maxCandidates) } state.reads where
  question := rfl
  version := rfl
  asked := h.asked
  bounded := by
    -- the locators seen are among those asked for, which are the first `MAX_CANDIDATES`
    have hlength := h.order.length_le
    rw [← h.seen, List.length_map, List.length_take] at hlength
    omega
  covered locator hmem := by
    have hseen := h.covered locator hmem
    rw [← h.seen] at hseen
    obtain ⟨read, hread, heq⟩ := List.mem_map.mp hseen
    exact ⟨read, hread, heq⟩
  pinned candidate hmem := by
    -- every candidate is the image of one read
    have hcandidates : candidate ∈ state.candidates := hmem
    rw [h.candidates] at hcandidates
    obtain ⟨read, hread, hcandidate⟩ := List.mem_filterMap.mp hcandidates
    obtain ⟨hlocator, hversion⟩ := locatorOf_candidateOf hcandidate
    exact ⟨read, hread, hcandidate, hlocator, hversion⟩
  distinct := by
    show (state.candidates.map locatorOf).Nodup
    rw [h.candidates]
    have honce := h.once
    rw [← h.seen] at honce
    -- reads that miss are left out, so the candidates keep the order of the reads
    exact (candidates_sublist _).nodup honce
  order := by
    show (state.candidates.map locatorOf).Sublist _
    rw [h.candidates]
    have horder := h.order
    rw [← h.seen] at horder
    exact (candidates_sublist _).trans (horder.trans (List.take_sublist _ _))
  count := by
    have hcount := h.count
    rw [List.length_take] at hcount
    show state.candidates.length +
      (state.dropped + (clarification.candidates.length - maxCandidates)) = _
    omega
  kept read hread item hitem := by
    -- a read that hits gives its candidate, whatever the label
    have hcandidate : candidateOf scenarioVersionId read =
        some ⟨read.1.1, read.1.2, Drafting.plannerLabel item, some scenarioVersionId⟩ := by
      rw [candidateOf, hitem]
      rfl
    refine ⟨⟨read.1.1, read.1.2, Drafting.plannerLabel item, some scenarioVersionId⟩, ?_, rfl⟩
    show _ ∈ state.candidates
    rw [h.candidates]
    exact List.mem_filterMap.mpr ⟨read, hread, hcandidate⟩

end Resolve

/-! ## Two Anas -/

namespace TwoAnas

def ana (contactId : String) : WorkerV1 where
  recordId := contactId
  contactId := contactId
  name := "Ana"
  employmentType := "Casual"
  grade := "1"
  eba := "A"
  contractedHours := 38
  qualifications := []
  availabilityWindows := []

/-- Two workers at version 7, and one that has moved on to version 8. -/
def reader : Reader := fun _ locator =>
  if locator = (.workers, "w1") ∨ locator = (.workers, "w2") then
    .ok (some ⟨.resolved, 7, some (.worker (ana locator.2))⟩)
  else if locator = (.workers, "w3") then .ok (some ⟨.versionMismatch, 8, none⟩)
  else .ok none

def clarification : ClarificationV1 where
  question := "Which Ana?"
  candidates := [(.workers, "w2"), (.workers, "w1"), (.workers, "w2"), (.workers, "w3"),
    (.demand, "w1")]

end TwoAnas

end ShiftMind.Clarification
