import ShiftMind.Contracts.Activity
import ShiftMind.Library.Codec

/-!
# ShiftMind — stored activities

The two case analyses of `adapters/postgres/conversation.py` that write an activity into the JSON
column of an event and read it back when a timeline is loaded. The nested contracts pass through
the type adapters of a library, which are parameters.

* **`payloadToJson`**, **`activityFromPayload`** — the writer and the reader.
* **`activityFromPayload_of_holds`** — the reader undoes the writer on whatever holds its payload.
* **`activity_survives_storage`** — so an activity comes back as it was, from the payload itself and
  from any JSON object that is the same.
-/

namespace ShiftMind.Activity

/-! ## Nested contracts -/

/-- A type adapter: `dump_python(value, mode="json")` and `validate_python`. -/
structure TypeAdapter (A : Type) where
  dump : A → Json Binary64
  validate : Json Binary64 → Option A

/-- The adapter reads back a value it dumped, and whatever is the same as JSON. -/
structure TypeAdapter.FaithfulOn {A : Type} (adapter : TypeAdapter A) (a : A) : Prop where
  reads : adapter.validate (adapter.dump a) = some a
  readsSame : ∀ j, (adapter.dump a).same j = true → adapter.validate j = some a

/-- The adapters of the nested contracts. -/
structure ActivityAdapters where
  response : TypeAdapter GroundedResponseV1
  clarification : TypeAdapter ResolvedClarificationV1
  outcome : TypeAdapter TerminalOutcomeV1

/-- The adapter of an activity's nested contract is faithful on it. -/
def ActivityItemV1.Faithful (adapters : ActivityAdapters) : ActivityItemV1 → Prop
  | agentResponse a => adapters.response.FaithfulOn a.response
  | clarification a => adapters.clarification.FaithfulOn a.clarification
  | terminalOutcome a => adapters.outcome.FaithfulOn a.outcome
  | plannerMessage _ | draft _ | runProgress _ | approvalRequest _ => True

/-! ## Writing -/

inductive PayloadError where
  | attributeError (name : String)
  | keyError (key : String)
  | typeError (key : String)
  | valueError (message : String)
  | overflowError
  | validationError (key : String)
  | unsupportedActivityPayload (activityType : Option String)
  deriving DecidableEq, Repr

/-- The members of a JSON object. -/
abbrev Payload := List (String × Json Binary64)

/-- `x.isoformat()`. -/
def timeJson (t : DateTime) : Json Binary64 := .string (String.ofList t.isoformat)

/-- A value that may be `None`. -/
def optionalJson {A : Type} (dump : A → Json Binary64) : Option A → Json Binary64
  | none => .null
  | some a => dump a

/-- `common`. -/
def commonPayload (activityType : ActivityTypeV1) (a : ConversationActivity) : Payload :=
  [("schema_version", .string a.schemaVersion),
    ("activity_id", .string a.activityId.str),
    ("activity_type", .string activityType.value),
    ("conversation_id", .string a.conversationId.str),
    ("conversation_resource_version", .int a.conversationResourceVersion),
    ("scenario_id", .string a.scenarioId.str),
    ("scenario_version_id", .string a.scenarioVersionId.str),
    ("occurred_at", timeJson a.occurredAt)]

/-- `_payload_to_json`. The progress of a schedule run has no `conversation_id`. -/
def payloadToJson (adapters : ActivityAdapters) : ActivityItemV1 → Except PayloadError Payload
  | .plannerMessage a => .ok (commonPayload .plannerMessage a.toConversationActivity ++
      [("message_id", .string a.messageId.str), ("text", .string a.text)])
  | .draft a => .ok (commonPayload .draft a.toConversationActivity ++
      [("proposal_id", .string a.proposalId.str),
        ("proposal_version_id", .string a.proposalVersionId.str),
        ("consequence_summary", .string a.consequenceSummary)])
  | .approvalRequest a => .ok (commonPayload .approvalRequest a.toConversationActivity ++
      [("approval_id", .string a.approvalId.str),
        ("approval_state", .string a.approvalState.value),
        ("agent_run_id", optionalJson (fun u => .string u.str) a.agentRunId),
        ("schedule_run_id", .string a.scheduleRunId.str),
        ("candidate_schedule_version_id", .string a.candidateScheduleVersionId.str),
        ("baseline_schedule_version", optionalJson .string a.baselineScheduleVersion),
        ("consequence_summary", .string a.consequenceSummary),
        ("parameter_hash", .string a.parameterHash),
        ("consequence_hash", .string a.consequenceHash),
        ("policy_version", .string a.policyVersion),
        ("expires_at", timeJson a.expiresAt)])
  | .agentResponse a => .ok (commonPayload .agentResponse a.toConversationActivity ++
      [("response", adapters.response.dump a.response)])
  | .clarification a => .ok (commonPayload .clarification a.toConversationActivity ++
      [("clarification", adapters.clarification.dump a.clarification)])
  | .terminalOutcome a => .ok (commonPayload .terminalOutcome a.toConversationActivity ++
      [("outcome", adapters.outcome.dump a.outcome)])
  | .runProgress _ => .error (.attributeError "conversation_id")

/-! ## Reading

A member of a JSON type that its field does not have is an error here; the reader passes a text or a
number on as it finds it.
-/

section Readers

variable (value : Payload) (key : String)

/-- `value[key]`. -/
def fieldAt : Except PayloadError (Json Binary64) :=
  match Dict.get? value key with
  | some j => .ok j
  | none => .error (.keyError key)

def textAt : Except PayloadError String := do
  match ← fieldAt value key with
  | .string text => pure text
  | _ => throw (.typeError key)

def intAt : Except PayloadError Int := do
  match ← fieldAt value key with
  | .int n => pure n
  | _ => throw (.typeError key)

/-- `UUID(text)`. -/
def uuidOfText (text : String) : Except PayloadError Uuid128 :=
  match Uuid128.ofStr text with
  | some u => .ok u
  | none => .error (.valueError "badly formed hexadecimal UUID string")

/-- `UUID(value[key])`. -/
def uuidAt : Except PayloadError Uuid128 := do
  match ← fieldAt value key with
  | .string text => uuidOfText text
  | _ => throw (.typeError key)

/-- `datetime.fromisoformat(value[key]).astimezone(timezone.utc)`. -/
def timeAt : Except PayloadError DateTime := do
  let text ← textAt value key
  match DateTime.fromisoformat text.toList with
  | none => throw (.valueError "Invalid isoformat string")
  | some t =>
    match t.toUtc with
    | none => throw .overflowError
    | some t => pure t

/-- `bool(x)`. -/
def truthy : Json Binary64 → Bool
  | .null => false
  | .bool b => b
  | .int n => n ≠ 0
  | .float x => x ≠ .finite 0
  | .string text => text ≠ ""
  | .list items => !items.isEmpty
  | .object members => !members.isEmpty

/-- `UUID(value[key]) if value[key] else None`. -/
def optionalUuidAt : Except PayloadError (Option Uuid128) := do
  let j ← fieldAt value key
  if truthy j then
    match j with
    | .string text => some <$> uuidOfText text
    | _ => throw (.typeError key)
  else pure none

def optionalTextAt : Except PayloadError (Option String) := do
  match ← fieldAt value key with
  | .null => pure none
  | .string text => pure (some text)
  | _ => throw (.typeError key)

def approvalStates : List ApprovalState := [.pending, .consumed, .rejected, .expired, .stale]

def approvalStateAt : Except PayloadError ApprovalState := do
  let text ← textAt value key
  match approvalStates.find? fun state => state.value = text with
  | some state => pure state
  | none => throw (.typeError key)

/-- `TypeAdapter(A).validate_python(value[key])`. -/
def nestedAt {A : Type} (adapter : TypeAdapter A) : Except PayloadError A := do
  match adapter.validate (← fieldAt value key) with
  | some a => pure a
  | none => throw (.validationError key)

end Readers

/-- The types with a payload shape in the reader. -/
def readableTypes : List ActivityTypeV1 :=
  [.plannerMessage, .agentResponse, .clarification, .draft, .approvalRequest, .terminalOutcome]

/-- The activity type of a payload, which has to be a readable one. -/
def readType (value : Payload) : Except PayloadError ActivityTypeV1 :=
  match Dict.get? value "activity_type" with
  | some (.string text) =>
    match readableTypes.find? fun activityType => activityType.value = text with
    | some activityType => .ok activityType
    | none => .error (.unsupportedActivityPayload (some text))
  | _ => .error (.unsupportedActivityPayload none)

/-- `common`. -/
def readCommon (value : Payload) : Except PayloadError ConversationActivity := do
  let activityId ← uuidAt value "activity_id"
  let conversationId ← uuidAt value "conversation_id"
  let conversationResourceVersion ← intAt value "conversation_resource_version"
  let scenarioId ← uuidAt value "scenario_id"
  let scenarioVersionId ← uuidAt value "scenario_version_id"
  let occurredAt ← timeAt value "occurred_at"
  let schemaVersion ← textAt value "schema_version"
  pure ⟨activityId, conversationId, conversationResourceVersion, scenarioId, scenarioVersionId,
    occurredAt, schemaVersion⟩

/-- `_activity_from_payload`. -/
def activityFromPayload (adapters : ActivityAdapters) (value : Payload) :
    Except PayloadError ActivityItemV1 := do
  let activityType ← readType value
  let common ← readCommon value
  match activityType with
  | .plannerMessage => do
    let messageId ← uuidAt value "message_id"
    let text ← textAt value "text"
    pure (.plannerMessage ⟨common, messageId, text⟩)
  | .agentResponse => do
    let response ← nestedAt value "response" adapters.response
    pure (.agentResponse ⟨common, response⟩)
  | .clarification => do
    let clarification ← nestedAt value "clarification" adapters.clarification
    pure (.clarification ⟨common, clarification⟩)
  | .draft => do
    let proposalId ← uuidAt value "proposal_id"
    let proposalVersionId ← uuidAt value "proposal_version_id"
    let consequenceSummary ← textAt value "consequence_summary"
    pure (.draft ⟨common, proposalId, proposalVersionId, consequenceSummary⟩)
  | .approvalRequest => do
    let approvalId ← uuidAt value "approval_id"
    let approvalState ← approvalStateAt value "approval_state"
    let agentRunId ← optionalUuidAt value "agent_run_id"
    let scheduleRunId ← uuidAt value "schedule_run_id"
    let candidateScheduleVersionId ← uuidAt value "candidate_schedule_version_id"
    let baselineScheduleVersion ← optionalTextAt value "baseline_schedule_version"
    let consequenceSummary ← textAt value "consequence_summary"
    let parameterHash ← textAt value "parameter_hash"
    let consequenceHash ← textAt value "consequence_hash"
    let policyVersion ← textAt value "policy_version"
    let expiresAt ← timeAt value "expires_at"
    pure (.approvalRequest ⟨common, approvalId, approvalState, agentRunId, scheduleRunId,
      candidateScheduleVersionId, baselineScheduleVersion, consequenceSummary, parameterHash,
      consequenceHash, policyVersion, expiresAt⟩)
  | _ => do
    let outcome ← nestedAt value "outcome" adapters.outcome
    pure (.terminalOutcome ⟨common, outcome⟩)

/-! ## What a stored payload holds -/

/-- A payload holds a value under a key: that value, or one that is the same as JSON. -/
def Holds (stored : Payload) (key : String) (j : Json Binary64) : Prop :=
  ∃ j', Dict.get? stored key = some j' ∧ (j' = j ∨ j.same j' = true)

/-- A payload holds every member of another. -/
def HoldsAll (stored payload : Payload) : Prop := ∀ m ∈ payload, Holds stored m.1 m.2

section Holds

variable {stored : Payload} {key : String}

theorem Holds.text {text : String} (h : Holds stored key (.string text)) :
    Dict.get? stored key = some (.string text) := by
  obtain ⟨j, hget, hsame⟩ := h
  rw [hget]
  cases hsame with
  | inl heq => rw [heq]
  | inr hsame =>
    cases j with
    | string text' =>
      have htext : text = text' := by simpa [Json.same] using hsame
      rw [htext]
    | _ => simp [Json.same] at hsame

theorem Holds.int {n : Int} (h : Holds stored key (.int n)) :
    Dict.get? stored key = some (.int n) := by
  obtain ⟨j, hget, hsame⟩ := h
  rw [hget]
  cases hsame with
  | inl heq => rw [heq]
  | inr hsame =>
    cases j with
    | int m =>
      have hm : n = m := by simpa [Json.same] using hsame
      rw [hm]
    | _ => simp [Json.same] at hsame

theorem Holds.null (h : Holds stored key .null) : Dict.get? stored key = some .null := by
  obtain ⟨j, hget, hsame⟩ := h
  rw [hget]
  cases hsame with
  | inl heq => rw [heq]
  | inr hsame =>
    cases j with
    | null => rfl
    | _ => simp [Json.same] at hsame

/-! ## Reading one field -/

theorem ok_bind {A B : Type} (a : A) (f : A → Except PayloadError B) :
    Except.ok a >>= f = f a := rfl

theorem fieldAt_of {j : Json Binary64} (h : Dict.get? stored key = some j) :
    fieldAt stored key = .ok j := by
  unfold fieldAt
  rw [h]

theorem textAt_of {text : String} (h : Holds stored key (.string text)) :
    textAt stored key = .ok text := by
  unfold textAt
  rw [fieldAt_of h.text]
  rfl

theorem intAt_of {n : Int} (h : Holds stored key (.int n)) : intAt stored key = .ok n := by
  unfold intAt
  rw [fieldAt_of h.int]
  rfl

theorem uuidOfText_str (u : Uuid128) : uuidOfText u.str = .ok u := by
  unfold uuidOfText
  rw [Uuid128.ofStr_str]

theorem uuidAt_of {u : Uuid128} (h : Holds stored key (.string u.str)) :
    uuidAt stored key = .ok u := by
  unfold uuidAt
  rw [fieldAt_of h.text, ok_bind]
  exact uuidOfText_str u

theorem timeAt_of {t : DateTime} (h : Holds stored key (timeJson t)) (hutc : t.offset = 0) :
    timeAt stored key = .ok t := by
  unfold timeAt
  rw [textAt_of h, ok_bind, String.toList_ofList, DateTime.fromisoformat_isoformat]
  simp only
  rw [DateTime.toUtc_of_utc hutc]
  rfl

theorem str_ne_empty (u : Uuid128) : u.str ≠ "" := by
  intro h
  have hread := Uuid128.ofStr_str u
  rw [h] at hread
  cases hread

theorem optionalUuidAt_of {u : Option Uuid128}
    (h : Holds stored key (optionalJson (fun u => .string u.str) u)) :
    optionalUuidAt stored key = .ok u := by
  unfold optionalUuidAt
  cases u with
  | none =>
    rw [fieldAt_of (Holds.null h)]
    rfl
  | some u =>
    have htrue : truthy (.string u.str) = true := by
      unfold truthy
      exact decide_eq_true (str_ne_empty u)
    rw [fieldAt_of (Holds.text h), ok_bind, if_pos htrue]
    simp only
    rw [uuidOfText_str]
    rfl

theorem optionalTextAt_of {text : Option String}
    (h : Holds stored key (optionalJson .string text)) : optionalTextAt stored key = .ok text := by
  unfold optionalTextAt
  cases text with
  | none =>
    rw [fieldAt_of (Holds.null h)]
    rfl
  | some text =>
    rw [fieldAt_of (Holds.text h)]
    rfl

theorem approvalStateAt_of {state : ApprovalState} (h : Holds stored key (.string state.value)) :
    approvalStateAt stored key = .ok state := by
  unfold approvalStateAt
  rw [textAt_of h]
  cases state <;> rfl

theorem nestedAt_of {A : Type} {adapter : TypeAdapter A} {a : A} (hfaithful : adapter.FaithfulOn a)
    (h : Holds stored key (adapter.dump a)) : nestedAt stored key adapter = .ok a := by
  obtain ⟨j, hget, hsame⟩ := h
  have hread : adapter.validate j = some a := by
    cases hsame with
    | inl heq =>
      rw [heq]
      exact hfaithful.reads
    | inr hsame => exact hfaithful.readsSame j hsame
  unfold nestedAt
  rw [fieldAt_of hget, ok_bind, hread]
  rfl

end Holds

/-! ## Reading an activity back -/

section Common

variable {stored : Payload} {activityType : ActivityTypeV1} {common : ConversationActivity}

theorem readType_of (h : HoldsAll stored (commonPayload activityType common))
    (hreadable : activityType ∈ readableTypes) : readType stored = .ok activityType := by
  have htype : Holds stored "activity_type" (.string activityType.value) :=
    h ("activity_type", .string activityType.value) (by simp [commonPayload])
  unfold readType
  rw [htype.text]
  cases activityType with
  | runProgress => simp [readableTypes] at hreadable
  | comparison => simp [readableTypes] at hreadable
  | _ => rfl

theorem readCommon_of (h : HoldsAll stored (commonPayload activityType common))
    (hutc : common.occurredAt.offset = 0) : readCommon stored = .ok common := by
  have hactivity := uuidAt_of (h ("activity_id", .string common.activityId.str)
    (by simp [commonPayload]))
  have hconversation := uuidAt_of (h ("conversation_id", .string common.conversationId.str)
    (by simp [commonPayload]))
  have hversion := intAt_of (h ("conversation_resource_version",
    .int common.conversationResourceVersion) (by simp [commonPayload]))
  have hscenario := uuidAt_of (h ("scenario_id", .string common.scenarioId.str)
    (by simp [commonPayload]))
  have hpinned := uuidAt_of (h ("scenario_version_id", .string common.scenarioVersionId.str)
    (by simp [commonPayload]))
  have htime := timeAt_of (h ("occurred_at", timeJson common.occurredAt)
    (by simp [commonPayload])) hutc
  have hschema := textAt_of (h ("schema_version", .string common.schemaVersion)
    (by simp [commonPayload]))
  unfold readCommon
  rw [hactivity, hconversation, hversion, hscenario, hpinned, htime, hschema]
  rfl

end Common

theorem HoldsAll.append {stored front back : Payload} (h : HoldsAll stored (front ++ back)) :
    HoldsAll stored front ∧ HoldsAll stored back :=
  ⟨fun m hm => h m (List.mem_append_left _ hm), fun m hm => h m (List.mem_append_right _ hm)⟩

/-- **The reader undoes the writer** on any payload that holds what was written. -/
theorem activityFromPayload_of_holds {adapters : ActivityAdapters} {a : ActivityItemV1}
    {payload stored : Payload} (hutc : a.Utc) (hfaithful : a.Faithful adapters)
    (hwrite : payloadToJson adapters a = .ok payload) (hstored : HoldsAll stored payload) :
    activityFromPayload adapters stored = .ok a := by
  -- a stored object holds the common members first, then those of the activity's own kind
  cases a with
  | runProgress a => cases hwrite
  | plannerMessage a =>
    cases hwrite
    obtain ⟨hcommon, hfields⟩ := hstored.append
    have hmessage := uuidAt_of (hfields ("message_id", .string a.messageId.str) (by simp))
    have htext := textAt_of (hfields ("text", .string a.text) (by simp))
    unfold activityFromPayload
    rw [readType_of hcommon (by decide), ok_bind, readCommon_of hcommon hutc, ok_bind]
    simp only [hmessage, htext, ok_bind]
    rfl
  | agentResponse a =>
    cases hwrite
    obtain ⟨hcommon, hfields⟩ := hstored.append
    have hnested := nestedAt_of hfaithful (hfields ("response", _) (by simp))
    unfold activityFromPayload
    rw [readType_of hcommon (by decide), ok_bind, readCommon_of hcommon hutc, ok_bind]
    simp only [hnested, ok_bind]
    rfl
  | clarification a =>
    cases hwrite
    obtain ⟨hcommon, hfields⟩ := hstored.append
    have hnested := nestedAt_of hfaithful (hfields ("clarification", _) (by simp))
    unfold activityFromPayload
    rw [readType_of hcommon (by decide), ok_bind, readCommon_of hcommon hutc, ok_bind]
    simp only [hnested, ok_bind]
    rfl
  | draft a =>
    cases hwrite
    obtain ⟨hcommon, hfields⟩ := hstored.append
    -- the link to the draft, by both its ids
    have hproposal := uuidAt_of (hfields ("proposal_id", .string a.proposalId.str) (by simp))
    have hversion := uuidAt_of (hfields ("proposal_version_id", .string a.proposalVersionId.str)
      (by simp))
    have hsummary := textAt_of (hfields ("consequence_summary", .string a.consequenceSummary)
      (by simp))
    unfold activityFromPayload
    rw [readType_of hcommon (by decide), ok_bind, readCommon_of hcommon hutc, ok_bind]
    simp only [hproposal, hversion, hsummary, ok_bind]
    rfl
  | approvalRequest a =>
    cases hwrite
    obtain ⟨hcommon, hfields⟩ := hstored.append
    -- everything the binding repeats, the two optional members among them
    have happroval := uuidAt_of (hfields ("approval_id", .string a.approvalId.str) (by simp))
    have hstate := approvalStateAt_of (hfields ("approval_state", .string a.approvalState.value)
      (by simp))
    have hagent := optionalUuidAt_of (hfields ("agent_run_id",
      optionalJson (fun u => .string u.str) a.agentRunId) (by simp))
    have hrun := uuidAt_of (hfields ("schedule_run_id", .string a.scheduleRunId.str) (by simp))
    have hcandidate := uuidAt_of (hfields ("candidate_schedule_version_id",
      .string a.candidateScheduleVersionId.str) (by simp))
    have hbaseline := optionalTextAt_of (hfields ("baseline_schedule_version",
      optionalJson .string a.baselineScheduleVersion) (by simp))
    have hsummary := textAt_of (hfields ("consequence_summary", .string a.consequenceSummary)
      (by simp))
    have hparameters := textAt_of (hfields ("parameter_hash", .string a.parameterHash) (by simp))
    have hconsequence := textAt_of (hfields ("consequence_hash", .string a.consequenceHash)
      (by simp))
    have hpolicy := textAt_of (hfields ("policy_version", .string a.policyVersion) (by simp))
    have hexpires := timeAt_of (hfields ("expires_at", timeJson a.expiresAt) (by simp)) hutc.2
    unfold activityFromPayload
    rw [readType_of hcommon (by decide), ok_bind, readCommon_of hcommon hutc.1, ok_bind]
    simp only [happroval, hstate, hagent, hrun, hcandidate, hbaseline, hsummary, hparameters,
      hconsequence, hpolicy, hexpires, ok_bind]
    rfl
  | terminalOutcome a =>
    cases hwrite
    obtain ⟨hcommon, hfields⟩ := hstored.append
    have hnested := nestedAt_of hfaithful (hfields ("outcome", _) (by simp))
    unfold activityFromPayload
    rw [readType_of hcommon (by decide), ok_bind, readCommon_of hcommon hutc, ok_bind]
    simp only [hnested, ok_bind]
    rfl

/-! ## The round trip

Whatever member order the column keeps, the reader gets back what was written. -/

/-- A written payload names no member twice. -/
theorem nodup_payload {adapters : ActivityAdapters} {a : ActivityItemV1} {payload : Payload}
    (hwrite : payloadToJson adapters a = .ok payload) : (Dict.keys payload).Nodup := by
  cases a <;> cases hwrite <;> simp [Dict.keys, commonPayload]

/-- **An activity survives its storage.** Every activity of a conversation is read back from its
payload as it was, and from any JSON object that is the same as the payload; the progress of a
schedule run alone, which belongs to no conversation, has no payload. -/
theorem activity_survives_storage (adapters : ActivityAdapters) {a : ActivityItemV1}
    (hutc : a.Utc) (hfaithful : a.Faithful adapters) :
    match payloadToJson adapters a with
    | .ok payload => activityFromPayload adapters payload = .ok a ∧
        ∀ stored, (Json.object payload).same (.object stored) = true →
          activityFromPayload adapters stored = .ok a
    | .error _ => ∃ progress, a = .runProgress progress := by
  cases hwrite : payloadToJson adapters a with
  | error error =>
    cases a with
    | runProgress progress => exact ⟨progress, rfl⟩
    | _ => cases hwrite
  | ok payload =>
    refine ⟨?_, ?_⟩
    · apply activityFromPayload_of_holds hutc hfaithful hwrite
      intro m hm
      exact ⟨m.2, Dict.get?_of_mem (nodup_payload hwrite) hm, .inl rfl⟩
    · intro stored hsame
      apply activityFromPayload_of_holds hutc hfaithful hwrite
      rw [Json.same, Bool.and_eq_true, Json.sameMembers_iff] at hsame
      intro m hm
      obtain ⟨j, hget, hj⟩ := hsame.2 m hm
      exact ⟨j, hget, .inr hj⟩

/-! ## A refusal, stored and read back -/

namespace Refusal

def status : Codec Binary64 AgentRunStatusV1 :=
  .enumeration [.completed, .suspended, .timedOut, .failed]
    (fun
      | .completed => "completed"
      | .suspended => "suspended"
      | .timedOut => "timed_out"
      | .failed => "failed")
    (by intro a; cases a <;> rfl)

def reason : Codec Binary64 TerminalReason :=
  .enumeration [.providerError, .invalidOutput, .budgetExhausted, .deadlineExceeded,
      .capabilityError, .refused, .approvalUnsupported, .approvalNotGrantable]
    (fun
      | .providerError => "provider_error"
      | .invalidOutput => "invalid_output"
      | .budgetExhausted => "budget_exhausted"
      | .deadlineExceeded => "deadline_exceeded"
      | .capabilityError => "capability_error"
      | .refused => "refused"
      | .approvalUnsupported => "approval_unsupported"
      | .approvalNotGrantable => "approval_not_grantable")
    (by intro a; cases a <;> rfl)

def refusalReason : Codec Binary64 RefusalReason :=
  .enumeration [.unsupportedRequest, .capabilityUnavailable, .outOfScope]
    (fun
      | .unsupportedRequest => "unsupported_request"
      | .capabilityUnavailable => "capability_unavailable"
      | .outOfScope => "out_of_scope")
    (by intro a; cases a <;> rfl)

/-- A terminal outcome as its fields, in the order of the contract. -/
def outcome : Codec Binary64 TerminalOutcomeV1 :=
  .record
    (.both (.one "status" status (some .failed))
      (.both (.one "reason" reason (some .invalidOutput))
        (.both (.one "refusal_reason" (.optional refusalReason (by intro a; cases a <;> nofun))
            (some none))
          (.both (.one "detail" .string (some ""))
            (.both (.one "next_step" (.optional .string Codec.string_solid) (some none))
              (.one "schema_version" .string (some "1")))))))
    (fun o => (o.status, o.reason, o.refusalReason, o.detail, o.nextStep, "1"))
    (fun (status, reason, refusalReason, detail, nextStep, _) =>
      some ⟨status, reason, refusalReason, detail, nextStep⟩)
    (fun _ => rfl)

/-- The adapters; no other contract is nested in an outcome's activity. -/
def adapters : ActivityAdapters where
  response := ⟨fun _ => .null, fun _ => none⟩
  clarification := ⟨fun _ => .null, fun _ => none⟩
  outcome := ⟨outcome.dump, outcome.validate⟩

def refused : ActivityItemV1 := .terminalOutcome
  { activityId := 1
    conversationId := 2
    conversationResourceVersion := 3
    scenarioId := 4
    scenarioVersionId := 5
    occurredAt := ⟨⟨2024, 2, 29, 23, 5, 6, 700, 0⟩, by decide⟩
    outcome := ⟨.completed, .refused, some .outOfScope, "No such site.", none⟩ }

end Refusal

theorem refusal_survives_storage : ∃ payload,
    payloadToJson Refusal.adapters Refusal.refused = .ok payload ∧
      activityFromPayload Refusal.adapters payload = .ok Refusal.refused := by
  have hutc : Refusal.refused.Utc := rfl
  have hfaithful : Refusal.refused.Faithful Refusal.adapters :=
    ⟨by rfl, fun j hsame => Refusal.outcome.reads hsame⟩
  exact ⟨_, rfl, (activity_survives_storage Refusal.adapters hutc hfaithful).1⟩

end ShiftMind.Activity
