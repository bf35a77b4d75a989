import ShiftMind.Grounding.Integrity
import ShiftMind.Library.Naming

/-!
# ShiftMind — the evidence registry

`application/grounding/evidence_registry.py`: the issuer and resolver of a turn's citation handles.
A call holds the registry's lock while it reads and writes the maps, so the calls of a turn's
handlers take effect one after the other; in which order is the scheduler's, and here any.

* **`EvidenceRegistry`** — the two maps of the results, the two of the records and the counts.
* **`EvidenceRegistry.Sound`** — the maps are inverse and every handle is numbered below its count.
* **`issued_handles`** — handles tell items apart, keep resolving, and cite their own result.
-/

namespace ShiftMind.Grounding

/-- `RECORD_HANDLE_PREFIX`. -/
def recordHandlePrefix : List (String × String) :=
  [("workers", "w"), ("work-areas-and-tasks", "t"), ("demand", "d"), ("baseline-assignments", "a"),
    ("locks", "l"), ("constraints-and-objectives", "c")]

/-- `EvidenceRegistry`. -/
structure EvidenceRegistry where
  handles : List (String × String) := []
  resultIds : List (String × String) := []
  recordHandles : List ((String × String) × String) := []
  records : List (String × (String × String)) := []
  recordCounts : List (String × Nat) := []
  deriving DecidableEq, Repr

namespace EvidenceRegistry

/-- `handle_for`: the handle, and the registry with it. -/
def handleFor (registry : EvidenceRegistry) (resultId : String) : String × EvidenceRegistry :=
  match Dict.get? registry.handles resultId with
  | some handle => (handle, registry)
  | none =>
    let handle := "r" ++ toString (registry.handles.length + 1)
    (handle,
      { registry with
        handles := Dict.upsert (fun _ => handle) resultId registry.handles
        resultIds := Dict.upsert (fun _ => resultId) handle registry.resultIds })

/-- `handle_for_record`. -/
def handleForRecord (registry : EvidenceRegistry) (group recordId : String) :
    Except PyError (String × EvidenceRegistry) :=
  match Dict.get? recordHandlePrefix group with
  | none => .error (.keyError group)
  | some letter =>
    match Dict.get? registry.recordHandles (group, recordId) with
    | some handle => .ok (handle, registry)
    | none =>
      let count := (Dict.get? registry.recordCounts letter).getD 0 + 1
      let handle := letter ++ toString count
      .ok (handle,
        { registry with
          recordCounts := Dict.upsert (fun _ => count) letter registry.recordCounts
          recordHandles := Dict.upsert (fun _ => handle) (group, recordId) registry.recordHandles
          records := Dict.upsert (fun _ => (group, recordId)) handle registry.records })

/-- `record_for`. -/
def recordFor (registry : EvidenceRegistry) (handle : String) : Option (String × String) :=
  Dict.get? registry.records handle

/-- `result_id_for`. -/
def resultIdFor (registry : EvidenceRegistry) (handle : String) : Option String :=
  Dict.get? registry.resultIds handle

/-- `handle_of`. -/
def handleOf (registry : EvidenceRegistry) (resultId : String) : Option String :=
  Dict.get? registry.handles resultId

end EvidenceRegistry

/-! ## A turn's calls -/

/-- What a call asks a handle for: a result or a record. -/
inductive RegistryCall
  | handleFor (resultId : String)
  | handleForRecord (group recordId : String)
  deriving DecidableEq, Repr

/-- A call that is answered: a record's group has to be one of the evidence groups. -/
def RegistryCall.IsKnown : RegistryCall → Prop
  | .handleFor _ => True
  | .handleForRecord group _ => group ∈ Dict.keys recordHandlePrefix

namespace EvidenceRegistry

/-- One call. -/
def call (registry : EvidenceRegistry) :
    RegistryCall → Except PyError (String × EvidenceRegistry)
  | .handleFor resultId => .ok (registry.handleFor resultId)
  | .handleForRecord group recordId => registry.handleForRecord group recordId

/-- The calls of a turn: the handles issued, each with its call, and the registry at the end. A call
that raises leaves the registry as it was. -/
def run (registry : EvidenceRegistry) :
    List RegistryCall → List (RegistryCall × String) × EvidenceRegistry
  | [] => ([], registry)
  | call :: calls =>
    match registry.call call with
    | .error _ => registry.run calls
    | .ok (handle, registry') =>
      let rest := registry'.run calls
      ((call, handle) :: rest.1, rest.2)

/-- What resolving a handle says: the item it was issued for, and no item of the other kind. -/
def ResolvesTo (registry : EvidenceRegistry) (handle : String) : RegistryCall → Prop
  | .handleFor resultId =>
    registry.handleOf resultId = some handle ∧ registry.resultIdFor handle = some resultId ∧
      registry.recordFor handle = none
  | .handleForRecord group recordId =>
    registry.recordFor handle = some (group, recordId) ∧ registry.resultIdFor handle = none

end EvidenceRegistry

/-- A digest, as a result id is: 64 hexadecimal digits. -/
def IsDigest (text : String) : Prop :=
  text.length = 64 ∧
    ∀ c ∈ text.toList, c ∈ ['0', '1', '2', '3', '4', '5', '6', '7', '8', '9', 'a', 'b', 'c', 'd',
      'e', 'f']

/-! ## The letters of handles -/

theorem letter_of_group {group letter : String}
    (h : Dict.get? recordHandlePrefix group = some letter) : letter.length = 1 ∧ letter ≠ "r" := by
  have hall : ∀ entry ∈ recordHandlePrefix, entry.2.length = 1 ∧ entry.2 ≠ "r" := by decide
  exact hall (group, letter) (Dict.mem_of_get? h)

/-- The handle of a record is not the handle of a result. -/
theorem recordHandle_ne {group letter : String} {m n : Nat}
    (h : Dict.get? recordHandlePrefix group = some letter) :
    letter ++ toString m ≠ "r" ++ toString n := by
  intro heq
  have hletter := letter_of_group h
  exact hletter.2 (Naming.numbered_inj hletter.1 heq).1

/-- A digest has no letter r in it. -/
theorem IsDigest.ne_handle {text : String} (h : IsDigest text) (n : Nat) :
    text ≠ "r" ++ toString n := by
  intro heq
  have hmem : 'r' ∈ text.toList := by
    rw [heq, String.toList_append]
    exact List.mem_append_left _ (by decide)
  exact absurd (h.2 'r' hmem) (by decide)

/-! ## The invariant

Handles are given in order, one to each result and record, and never taken back. -/

namespace EvidenceRegistry

/-- **The registry's invariant.** Both pairs of maps are inverse; a result's handle is numbered by
the results there are, a record's by the count of its group's letter. -/
structure Sound (registry : EvidenceRegistry) : Prop where
  results : Naming.Inverse registry.handles registry.resultIds
  records : Naming.Inverse registry.recordHandles registry.records
  numberedResults : ∀ resultId handle, Dict.get? registry.handles resultId = some handle →
    ∃ n ≤ registry.handles.length, handle = "r" ++ toString n
  numberedRecords : ∀ group recordId handle,
    Dict.get? registry.recordHandles (group, recordId) = some handle →
    ∃ letter, Dict.get? recordHandlePrefix group = some letter ∧
      ∃ n ≤ (Dict.get? registry.recordCounts letter).getD 0, handle = letter ++ toString n

theorem Sound.empty : Sound {} where
  results := .nil
  records := .nil
  numberedResults := nofun
  numberedRecords := nofun

/-- An item has a handle. -/
def Named (registry : EvidenceRegistry) : RegistryCall → String → Prop
  | .handleFor resultId, handle => Dict.get? registry.handles resultId = some handle
  | .handleForRecord group recordId, handle =>
    Dict.get? registry.recordHandles (group, recordId) = some handle

variable {registry registry' : EvidenceRegistry}

/-- The handles of results and of records differ. -/
theorem Sound.handles_ne (hsound : registry.Sound) {resultId group recordId handle : String}
    (hresult : Dict.get? registry.handles resultId = some handle)
    (hrecord : Dict.get? registry.recordHandles (group, recordId) = some handle) : False := by
  obtain ⟨n, -, hn⟩ := hsound.numberedResults resultId handle hresult
  obtain ⟨letter, hletter, m, -, hm⟩ := hsound.numberedRecords group recordId handle hrecord
  exact recordHandle_ne hletter (hm.symm.trans hn)

/-- The number after the results there are is not in use. -/
theorem Sound.result_free (hsound : registry.Sound) :
    Dict.get? registry.resultIds ("r" ++ toString (registry.handles.length + 1)) = none := by
  cases hget : Dict.get? registry.resultIds ("r" ++ toString (registry.handles.length + 1)) with
  | none => rfl
  | some resultId =>
    obtain ⟨n, hn, heq⟩ := hsound.numberedResults _ _ ((hsound.results _ _).mpr hget)
    have hnumber := (Naming.numbered_inj rfl heq).2
    omega

/-- The number after a letter's count is not in use with the letter. -/
theorem Sound.record_free (hsound : registry.Sound) {group letter : String}
    (hletter : Dict.get? recordHandlePrefix group = some letter) :
    Dict.get? registry.records
      (letter ++ toString ((Dict.get? registry.recordCounts letter).getD 0 + 1)) = none := by
  cases hget : Dict.get? registry.records
      (letter ++ toString ((Dict.get? registry.recordCounts letter).getD 0 + 1)) with
  | none => rfl
  | some item =>
    obtain ⟨letter', hletter', n, hn, heq⟩ :=
      hsound.numberedRecords item.1 item.2 _ ((hsound.records _ _).mpr hget)
    have hlength : letter.length = letter'.length :=
      (letter_of_group hletter).1.trans (letter_of_group hletter').1.symm
    have hparts := Naming.numbered_inj hlength heq
    rw [← hparts.1] at hn
    omega

/-! ## One call -/

/-- **What a call does.** An item that has a handle is answered with it and nothing changes; a new
result or record is given the next number. -/
inductive Answers (registry : EvidenceRegistry) : RegistryCall → String → EvidenceRegistry → Prop
  | again {item : RegistryCall} {handle : String} (hget : registry.Named item handle) :
    Answers registry item handle registry
  | result {resultId handle : String} (hnew : Dict.get? registry.handles resultId = none)
      (hhandle : handle = "r" ++ toString (registry.handles.length + 1)) :
    Answers registry (.handleFor resultId) handle
      { registry with
        handles := Dict.upsert (fun _ => handle) resultId registry.handles
        resultIds := Dict.upsert (fun _ => resultId) handle registry.resultIds }
  | record {group recordId letter handle : String} {count : Nat}
      (hletter : Dict.get? recordHandlePrefix group = some letter)
      (hnew : Dict.get? registry.recordHandles (group, recordId) = none)
      (hcount : count = (Dict.get? registry.recordCounts letter).getD 0 + 1)
      (hhandle : handle = letter ++ toString count) :
    Answers registry (.handleForRecord group recordId) handle
      { registry with
        recordCounts := Dict.upsert (fun _ => count) letter registry.recordCounts
        recordHandles := Dict.upsert (fun _ => handle) (group, recordId) registry.recordHandles
        records := Dict.upsert (fun _ => (group, recordId)) handle registry.records }

theorem answers_of_call {item : RegistryCall} {handle : String}
    (h : registry.call item = .ok (handle, registry')) :
    registry.Answers item handle registry' := by
  cases item with
  | handleFor resultId =>
    simp only [EvidenceRegistry.call, EvidenceRegistry.handleFor] at h
    -- a result met before keeps its handle
    cases hget : Dict.get? registry.handles resultId with
    | some handle =>
      simp only [hget] at h
      cases h
      exact .again hget
    | none =>
      simp only [hget] at h
      cases h
      exact .result hget rfl
  | handleForRecord group recordId =>
    simp only [EvidenceRegistry.call, EvidenceRegistry.handleForRecord] at h
    -- an unknown group raises
    cases hletter : Dict.get? recordHandlePrefix group with
    | none =>
      simp only [hletter] at h
      cases h
    | some letter =>
      simp only [hletter] at h
      cases hget : Dict.get? registry.recordHandles (group, recordId) with
      | some handle =>
        simp only [hget] at h
        cases h
        exact .again hget
      | none =>
        simp only [hget] at h
        cases h
        exact .record hletter hget rfl rfl

/-- The item of a call has the handle it is answered with. -/
theorem Answers.named {item : RegistryCall} {handle : String}
    (h : registry.Answers item handle registry') : registry'.Named item handle := by
  cases h with
  | again hget => exact hget
  | result _ _ =>
    show Dict.get? (Dict.upsert _ _ registry.handles) _ = _
    rw [Dict.get?_upsert, if_pos rfl]
  | record _ _ _ _ =>
    show Dict.get? (Dict.upsert _ _ registry.recordHandles) _ = _
    rw [Dict.get?_upsert, if_pos rfl]

/-- The items that had handles keep them. -/
theorem Answers.kept {item item' : RegistryCall} {handle handle' : String}
    (h : registry.Answers item handle registry') (hnamed : registry.Named item' handle') :
    registry'.Named item' handle' := by
  cases h with
  | again _ => exact hnamed
  | result hnew _ =>
    cases item' with
    | handleFor _ => exact Naming.get?_give_of_get? hnew hnamed
    | handleForRecord _ _ => exact hnamed
  | record _ hnew _ _ =>
    cases item' with
    | handleFor _ => exact hnamed
    | handleForRecord _ _ => exact Naming.get?_give_of_get? hnew hnamed

/-- A call keeps the invariant. -/
theorem Sound.answers (hsound : registry.Sound) {item : RegistryCall} {handle : String}
    (h : registry.Answers item handle registry') : registry'.Sound := by
  cases h with
  | again _ => exact hsound
  | @result resultId handle hnew hhandle =>
    subst hhandle
    exact {
      results := hsound.results.give hnew hsound.result_free
      records := hsound.records
      numberedResults := by
        intro resultId' handle' hget'
        show ∃ n ≤ (Dict.upsert _ resultId registry.handles).length, _
        rw [Naming.length_give hnew]
        rw [Dict.get?_upsert] at hget'
        split at hget'
        · exact ⟨_, le_refl _, (Option.some.inj hget').symm⟩
        · obtain ⟨n, hn, heq⟩ := hsound.numberedResults resultId' handle' hget'
          exact ⟨n, by omega, heq⟩
      numberedRecords := hsound.numberedRecords }
  | @record group recordId letter handle count hletter hnew hcount hhandle =>
    subst hcount hhandle
    exact {
      results := hsound.results
      records := hsound.records.give hnew (hsound.record_free hletter)
      numberedResults := hsound.numberedResults
      numberedRecords := by
        intro group' recordId' handle' hget'
        rw [Dict.get?_upsert] at hget'
        split at hget'
        · -- the record just named, under the count just raised
          rename_i hsame
          cases hsame
          refine ⟨letter, hletter, _, ?_, (Option.some.inj hget').symm⟩
          show _ ≤ (Dict.get? (Dict.upsert _ letter registry.recordCounts) letter).getD 0
          rw [Dict.get?_upsert, if_pos rfl, Option.getD_some]
        · -- an earlier one: the count of its letter has not fallen
          obtain ⟨letter', hletter', n, hn, heq⟩ :=
            hsound.numberedRecords group' recordId' handle' hget'
          refine ⟨letter', hletter', n, ?_, heq⟩
          show n ≤ (Dict.get? (Dict.upsert _ letter registry.recordCounts) letter').getD 0
          rw [Dict.get?_upsert]
          split
          · rename_i hsame
            rw [Option.getD_some, hsame]
            omega
          · exact hn }

/-! ## What the invariant says of a handle -/

/-- Two handles that are one are of one item. -/
theorem Sound.named_inj (hsound : registry.Sound) {item item' : RegistryCall} {handle : String}
    (h : registry.Named item handle) (h' : registry.Named item' handle) : item = item' := by
  cases item with
  | handleFor resultId =>
    cases item' with
    | handleFor resultId' => rw [hsound.results.injective h h']
    | handleForRecord group' recordId' => exact (hsound.handles_ne h h').elim
  | handleForRecord group recordId =>
    cases item' with
    | handleFor resultId' => exact (hsound.handles_ne h' h).elim
    | handleForRecord group' recordId' =>
      have hsame := hsound.records.injective h h'
      cases hsame
      rfl

/-- An item has one handle. -/
theorem named_unique {item : RegistryCall} {handle handle' : String}
    (h : registry.Named item handle) (h' : registry.Named item handle') : handle = handle' := by
  cases item with
  | handleFor resultId => exact Option.some.inj (h.symm.trans h')
  | handleForRecord group recordId => exact Option.some.inj (h.symm.trans h')

/-- The handle of an item resolves to it. -/
theorem Sound.resolvesTo (hsound : registry.Sound) {item : RegistryCall} {handle : String}
    (h : registry.Named item handle) : registry.ResolvesTo handle item := by
  cases item with
  | handleFor resultId =>
    refine ⟨h, (hsound.results _ _).mp h, ?_⟩
    cases hget : registry.recordFor handle with
    | none => rfl
    | some item => exact (hsound.handles_ne h ((hsound.records item handle).mpr hget)).elim
  | handleForRecord group recordId =>
    refine ⟨(hsound.records _ _).mp h, ?_⟩
    cases hget : registry.resultIdFor handle with
    | none => rfl
    | some resultId => exact (hsound.handles_ne ((hsound.results _ _).mpr hget) h).elim

/-! ## A turn -/

/-- The items named before a run keep their handles through it. -/
theorem named_run {item : RegistryCall} {handle : String} (calls : List RegistryCall)
    (h : registry.Named item handle) : (registry.run calls).2.Named item handle := by
  induction calls generalizing registry with
  | nil => exact h
  | cons call calls ih =>
    rw [run]
    split
    · exact ih h
    · rename_i handle' registry' hcall
      exact ih ((answers_of_call hcall).kept h)

/-- **A run** keeps the invariant, and at its end every handle that it issued is still the handle of
the item that it was issued for. -/
theorem Sound.run (hsound : registry.Sound) (calls : List RegistryCall) :
    (registry.run calls).2.Sound ∧
      ∀ item handle, (item, handle) ∈ (registry.run calls).1 →
        (registry.run calls).2.Named item handle := by
  induction calls generalizing registry with
  | nil => exact ⟨hsound, nofun⟩
  | cons call calls ih =>
    rw [EvidenceRegistry.run]
    split
    · exact ih hsound
    · rename_i handle' registry' hcall
      have hanswers := answers_of_call hcall
      have hrest := ih (hsound.answers hanswers)
      refine ⟨hrest.1, ?_⟩
      intro item handle hmem
      cases List.mem_cons.mp hmem with
      | inl hhead =>
        cases hhead
        exact named_run calls hanswers.named
      | inr htail => exact hrest.2 item handle htail

/-- A call for a result or for a record of an evidence group is answered. -/
theorem call_isKnown (registry : EvidenceRegistry) {item : RegistryCall} (h : item.IsKnown) :
    ∃ handle registry', registry.call item = .ok (handle, registry') := by
  cases item with
  | handleFor resultId => exact ⟨_, _, rfl⟩
  | handleForRecord group recordId =>
    simp only [call, handleForRecord]
    cases hletter : Dict.get? recordHandlePrefix group with
    | none => exact absurd h (Dict.not_mem_keys_of_get? hletter)
    | some letter =>
      simp only []
      cases Dict.get? registry.recordHandles (group, recordId) with
      | some handle => exact ⟨_, _, rfl⟩
      | none => exact ⟨_, _, rfl⟩

theorem issued_isKnown {item : RegistryCall} {calls : List RegistryCall} (hmem : item ∈ calls)
    (h : item.IsKnown) : ∃ handle, (item, handle) ∈ (registry.run calls).1 := by
  induction calls generalizing registry with
  | nil => cases hmem
  | cons call calls ih =>
    rw [run]
    split
    · rename_i error hcall
      cases List.mem_cons.mp hmem with
      | inl hhead =>
        obtain ⟨handle, registry', hanswered⟩ := call_isKnown registry h
        rw [hhead, hcall] at hanswered
        cases hanswered
      | inr htail => exact ih htail
    · rename_i handle' registry' hcall
      cases List.mem_cons.mp hmem with
      | inl hhead => exact ⟨handle', by rw [hhead]; exact List.mem_cons_self⟩
      | inr htail =>
        have hlater : ∃ handle, (item, handle) ∈ (registry'.run calls).1 := ih htail
        obtain ⟨handle, hissued⟩ := hlater
        exact ⟨handle, List.mem_cons_of_mem _ hissued⟩

end EvidenceRegistry

/-! ## Citations -/

/-- A result's handle cites results with its id only, and one whenever there is one. -/
theorem EvidenceRegistry.Sound.citations {registry : EvidenceRegistry} (hsound : registry.Sound)
    {results : List TrustedCalculationResultV1}
    (hdigests : ∀ value ∈ results, IsDigest value.resultId) {resultId handle : String}
    (hnamed : registry.handleOf resultId = some handle) :
    (∀ value, Dict.get? (trustedResultsByCitation results registry.handleOf) handle = some value →
      value.resultId = resultId) ∧
    ((∃ value ∈ results, value.resultId = resultId) →
      ∃ value, Dict.get? (trustedResultsByCitation results registry.handleOf) handle =
        some value) := by
  constructor
  · intro value hget
    obtain ⟨hmem, hid | hminted⟩ := mem_of_trustedResultsByCitation hget
    · -- a digest is not the handle of a result
      obtain ⟨n, -, hn⟩ := hsound.numberedResults resultId handle hnamed
      exact absurd (hid.symm.trans hn) ((hdigests value hmem).ne_handle n)
    · exact hsound.results.injective hminted hnamed
  · intro hresult
    obtain ⟨value, hmem, hid⟩ := hresult
    apply Dict.exists_get?_ofPairs (v := value)
    apply List.mem_flatMap.mpr
    refine ⟨value, hmem, List.mem_cons_of_mem _ ?_⟩
    rw [hid, hnamed]
    exact List.mem_singleton_self _

/-- A record's handle, shorter than a digest, cites no result. -/
theorem EvidenceRegistry.Sound.record_citations {registry : EvidenceRegistry}
    (hsound : registry.Sound) {results : List TrustedCalculationResultV1}
    (hdigests : ∀ value ∈ results, IsDigest value.resultId) {group recordId handle : String}
    (hnamed : Dict.get? registry.recordHandles (group, recordId) = some handle)
    (hshort : handle.length < 64) :
    Dict.get? (trustedResultsByCitation results registry.handleOf) handle = none := by
  cases hget : Dict.get? (trustedResultsByCitation results registry.handleOf) handle with
  | none => rfl
  | some value =>
    obtain ⟨hmem, hid | hminted⟩ := mem_of_trustedResultsByCitation hget
    · have hlength := (hdigests value hmem).1
      rw [← hid] at hlength
      omega
    · exact (hsound.handles_ne hminted hnamed).elim

/-- **Evidence handles are injective and stable.** Whatever the calls of a turn and their order:
every call for a result or for a record of an evidence group is answered; two handles are equal
exactly when they are of one item; a handle resolves to its item, and to nothing of the other kind,
after any further calls; and of the results cited a result's handle finds only its own, a record's
handle none. -/
theorem issued_handles (calls : List RegistryCall) (results : List TrustedCalculationResultV1)
    (hdigests : ∀ value ∈ results, IsDigest value.resultId) :
    let issued := (EvidenceRegistry.run {} calls).1
    let registry := (EvidenceRegistry.run {} calls).2
    let citations := trustedResultsByCitation results registry.handleOf
    (∀ item ∈ calls, item.IsKnown → ∃ handle, (item, handle) ∈ issued) ∧
    (∀ item handle item' handle', (item, handle) ∈ issued → (item', handle') ∈ issued →
      (handle = handle' ↔ item = item')) ∧
    (∀ item handle, (item, handle) ∈ issued →
      ∀ later, (registry.run later).2.ResolvesTo handle item) ∧
    (∀ resultId handle, (.handleFor resultId, handle) ∈ issued →
      (∀ value, Dict.get? citations handle = some value → value.resultId = resultId) ∧
      ((∃ value ∈ results, value.resultId = resultId) →
        ∃ value, Dict.get? citations handle = some value)) ∧
    ∀ group recordId handle, (.handleForRecord group recordId, handle) ∈ issued →
      handle.length < 64 → Dict.get? citations handle = none := by
  intro issued registry citations
  obtain ⟨hsound, hissued⟩ := EvidenceRegistry.Sound.empty.run calls
  refine ⟨?_, ?_, ?_, ?_, ?_⟩
  · intro item hmem hknown
    exact EvidenceRegistry.issued_isKnown hmem hknown
  · intro item handle item' handle' h h'
    constructor
    · intro heq
      subst heq
      exact hsound.named_inj (hissued item handle h) (hissued item' handle h')
    · intro heq
      subst heq
      exact EvidenceRegistry.named_unique (hissued item handle h) (hissued item handle' h')
  · intro item handle h later
    have hnamed := EvidenceRegistry.named_run later (hissued item handle h)
    exact (hsound.run later).1.resolvesTo hnamed
  · intro resultId handle h
    exact hsound.citations hdigests (hissued _ _ h)
  · intro group recordId handle h hshort
    exact hsound.record_citations hdigests (hissued _ _ h) hshort

/-! ## A turn with two results and two records -/

namespace TwoResults

def first : String := String.ofList (List.replicate 64 'a')

def second : String := String.ofList (List.replicate 64 'b')

/-- Two results and two records, the first result asked for again, and a group that there is not. -/
def calls : List RegistryCall :=
  [.handleFor first, .handleForRecord "workers" "ana", .handleFor second, .handleFor first,
    .handleForRecord "shifts" "night", .handleForRecord "demand" "ana"]

/-- The second result. -/
def results : List TrustedCalculationResultV1 := [{ Headcount.counted with resultId := second }]

theorem run_calls : (EvidenceRegistry.run {} calls).1 =
    [(.handleFor first, "r1"), (.handleForRecord "workers" "ana", "w1"), (.handleFor second, "r2"),
      (.handleFor first, "r1"), (.handleForRecord "demand" "ana", "d1")] := by
  decide +kernel

theorem isDigest_results : ∀ value ∈ results, IsDigest value.resultId := by
  intro value hmem
  rw [List.mem_singleton.mp hmem]
  show IsDigest second
  unfold IsDigest second
  rw [String.length_ofList, String.toList_ofList]
  refine ⟨List.length_replicate, ?_⟩
  intro c hc
  rw [(List.mem_replicate.mp hc).2]
  decide

end TwoResults

theorem issued_handles_two :
    (EvidenceRegistry.run {} TwoResults.calls).2.ResolvesTo "w1"
      (.handleForRecord "workers" "ana") ∧
    (∃ value, Dict.get? (trustedResultsByCitation TwoResults.results
      (EvidenceRegistry.run {} TwoResults.calls).2.handleOf) "r2" = some value) ∧
    Dict.get? (trustedResultsByCitation TwoResults.results
      (EvidenceRegistry.run {} TwoResults.calls).2.handleOf) "d1" = none := by
  obtain ⟨-, -, hresolves, hcited, huncited⟩ :=
    issued_handles TwoResults.calls TwoResults.results TwoResults.isDigest_results
  rw [TwoResults.run_calls] at hresolves hcited huncited
  refine ⟨hresolves _ _ (by simp) [], (hcited TwoResults.second "r2" (by simp)).2 ?_,
    huncited "demand" "ana" "d1" (by simp) (by decide)⟩
  exact ⟨_, List.mem_singleton_self _, rfl⟩

end ShiftMind.Grounding
