import ShiftMind.Contracts.Canonical
import ShiftMind.Store.Schema

/-!
# ShiftMind — what the columns refuse

A value can pass every constraint of a table and still be refused for the type of its column, or by
the digest that is taken of it on the way. Such a refusal depends on nothing but the value, so a
transaction that is tried again is refused again.

* **`EventPayload.storable`** — a JSON column holds no text with U+0000 and no number that is not
  finite.
* **`checkDigest`** — `contract_digest` of a candidate, which raises on a number without a canonical
  text.
* **`checkAssignment`** — the column types of `schedule_assignment`, and its interval check.
-/

namespace ShiftMind

/-! ## Texts -/

/-- A text that PostgreSQL stores: it has no character U+0000. A lone surrogate, which it refuses
as well, is no character here. -/
def storableText (text : String) : Bool := decide ('\x00' ∉ text.toList)

/-- The texts of a reference. -/
def EvidenceRefV1.texts (reference : EvidenceRefV1) : List String :=
  [reference.checksumAlgorithm, reference.checksumSchemaVersion, reference.checksumDigest,
    reference.recordId] ++ reference.producingRunVersion.toList ++
    reference.baselineScheduleVersion.toList ++ reference.field.toList

def GroundedSegment.texts : GroundedSegment → List String
  | .prose text => [text]
  | .claim checked => checked.resultId :: (checked.arguments.taskId.toList ++
      checked.evidenceRefs.flatMap EvidenceRefV1.texts)
  | .fact tagged => [tagged.text, tagged.field, tagged.value] ++
      tagged.evidenceRefs.flatMap EvidenceRefV1.texts

/-- The numbers of a segment that are floats, all of them claimed values. -/
def GroundedSegment.floats : GroundedSegment → List Binary64
  | .claim checked =>
    match checked.value with
    | some (.float value) => [value]
    | _ => []
  | .prose _ | .fact _ => []

def TurnAnswer.texts : TurnAnswer → List String
  | .response grounded => grounded.segments.flatMap GroundedSegment.texts
  | .clarification resolved => resolved.question ::
      resolved.candidates.flatMap fun candidate => [candidate.recordId, candidate.label]
  | .terminal outcome => outcome.detail :: outcome.nextStep.toList

def TurnAnswer.floats : TurnAnswer → List Binary64
  | .response grounded => grounded.segments.flatMap GroundedSegment.floats
  | .clarification _ => []
  | .terminal _ => []

/-- The answer can be shown: its activity goes into a JSON column. -/
def TurnAnswer.storable (answer : TurnAnswer) : Bool :=
  answer.texts.all storableText && answer.floats.all Binary64.isFinite

def ActivityPayload.storable : ActivityPayload → Bool
  | .answer shown => shown.storable
  | .draft reference => storableText reference.consequenceSummary

/-- The texts of an approval that its row and its activity share. -/
def ApprovalRequestActivityV1.texts (activity : ApprovalRequestActivityV1) : List String :=
  [activity.consequenceSummary, activity.parameterHash, activity.consequenceHash,
    activity.policyVersion] ++ activity.baselineScheduleVersion.toList

/-- The JSON column of an event holds the payload. -/
def EventPayload.storable : EventPayload → Bool
  | .runProgress activity => activity.reason.toList.all storableText
  | .approvalRequest activity => activity.texts.all storableText
  | .plannerMessage activity => storableText activity.text
  | .turn activity => activity.payload.storable

/-- What the database raises of a value its column refuses. -/
def requireStorable (storable : Bool) : Except PyError Unit :=
  if storable then .ok () else .error (.dataError "unsupported Unicode escape sequence")

theorem requireStorable_ok {storable : Bool} {u : Unit} :
    requireStorable storable = .ok u ↔ storable = true := by
  unfold requireStorable
  cases storable <;> simp

theorem requireStorable_error {storable : Bool} {e : PyError}
    (h : requireStorable storable = .error e) :
    storable = false ∧ e = .dataError "unsupported Unicode escape sequence" := by
  unfold requireStorable at h
  cases storable with
  | true => cases h
  | false => cases h; exact ⟨rfl, rfl⟩

/-! ## Approvals -/

def ApprovalBindingV1.texts (binding : ApprovalBindingV1) : List String :=
  [binding.parameterHash, binding.consequenceSummary, binding.consequenceHash,
    binding.policyVersion, binding.requestEffectKey] ++ binding.baselineScheduleVersion.toList

def PendingPayload.texts : PendingPayload → List String
  | .readable pendingCalls =>
    pendingCalls.flatMap fun call => [call.toolCallId, call.toolName, call.toolArgsJson]
  | .unreadable => []

/-- The row of a binding holds its texts and its pending payload. -/
def ApprovalBindingV1.storable (binding : ApprovalBindingV1)
    (pendingPayload : Option PendingPayload) : Bool :=
  (binding.texts ++ pendingPayload.toList.flatMap PendingPayload.texts).all storableText

/-! ## Proposals -/

def ResolvedEntityV1.texts (entity : ResolvedEntityV1) : List String :=
  [entity.recordId, entity.label]

def ProposalV1.texts (proposal : ProposalV1) : List String :=
  [proposal.consequenceSummary, proposal.canonicalHash] ++
    proposal.expectedBaselineScheduleVersion.toList ++
    proposal.resolvedEntities.flatMap ResolvedEntityV1.texts ++
    (proposal.constraints.flatMap fun constraint =>
      constraint.description :: constraint.resolvedEntities.flatMap ResolvedEntityV1.texts) ++
    proposal.preservedLocks.flatMap fun lock =>
      [lock.recordId, lock.targetType, lock.targetRef, lock.scope, lock.source]

/-- The JSON column of a version holds the proposal. -/
def ProposalV1.storable (proposal : ProposalV1) : Bool := proposal.texts.all storableText

/-- `_serialize_number`; what the digest makes of the text does not matter here. -/
def canonicalNumber : PyNumber → Except String (List Char)
  | .int n => serializeInt (fun _ => []) n
  | .float x => serializeFloat (fun _ => []) x

/-- The number has a canonical text. -/
def PyNumber.canonical (x : PyNumber) : Bool := (canonicalNumber x).isOk

/-- A rational as the double the source computes in its place, rounded once. -/
def PyNumber.ofRat (q : ℚ) : PyNumber := .float (.ofRat q)

def AssignmentV1.numbers (a : AssignmentV1) : List PyNumber :=
  .int a.endMinute :: .int a.startMinute ::
    a.qualificationRefs.map fun qualification => .ofRat qualification.rate

def EvidenceRefV1.numbers (reference : EvidenceRefV1) : List PyNumber :=
  (reference.endMinute.toList ++ reference.startMinute.toList).map .int

/-- The numbers of the metrics but for the two counts. -/
def MetricSetV1.numbers (metrics : MetricSetV1) : List PyNumber :=
  ((metrics.functionCoverageRequiredMinutes ++ metrics.functionCoverageServedMinutes ++
      metrics.intervalCoverageRequiredMinutes ++ metrics.intervalCoverageServedMinutes ++
      metrics.objectiveComponents).map Prod.snd ++ [metrics.overtimeMinutes, metrics.totalCost]).map
    .ofRat

def ConstraintResultV1.numbers (result : ConstraintResultV1) : List PyNumber :=
  [.ofRat result.limit, .ofRat result.measuredValue]

/-- The numbers of a candidate, in the order of its canonical text. -/
def ScheduleVersionV1.numbers (candidate : ScheduleVersionV1) : List PyNumber :=
  candidate.assignments.flatMap AssignmentV1.numbers ++
    candidate.constraintResults.flatMap ConstraintResultV1.numbers ++
    candidate.evidenceRefs.flatMap EvidenceRefV1.numbers ++ candidate.metrics.numbers

/-- What `contract_digest` raises on a candidate, whose texts and members are always canonical. -/
def checkDigest (candidate : ScheduleVersionV1) : Except PyError Unit :=
  candidate.numbers.forM fun x =>
    match canonicalNumber x with
    | .ok _ => .ok ()
    | .error message => .error (.valueError message)

theorem canonical_iff {x : PyNumber} :
    x.canonical = true ↔ ∃ text, canonicalNumber x = .ok text := by
  unfold PyNumber.canonical
  cases canonicalNumber x with
  | ok text => simp [Except.isOk, Except.toBool]
  | error message => simp [Except.isOk, Except.toBool]

theorem checkDigest_ok {candidate : ScheduleVersionV1} :
    checkDigest candidate = .ok () ↔ ∀ x ∈ candidate.numbers, x.canonical = true := by
  unfold checkDigest
  rw [Fallible.forM_ok_iff]
  refine forall₂_congr fun x _ => ?_
  rw [canonical_iff]
  cases canonicalNumber x with
  | ok text => simp
  | error message => simp

/-- The digest raises a `ValueError`. -/
theorem checkDigest_error {candidate : ScheduleVersionV1} {e : PyError}
    (h : checkDigest candidate = .error e) : ∃ message, e = .valueError message := by
  obtain ⟨x, -, hraised⟩ := Fallible.exists_of_forM_error h
  cases hnumber : canonicalNumber x with
  | ok text => rw [hnumber] at hraised; cases hraised
  | error message => rw [hnumber] at hraised; cases hraised; exact ⟨message, rfl⟩

/-- The texts of `schedule_assignment` that are `String(200)`; they come from JSON columns, so they
have no U+0000. -/
def AssignmentV1.columns (a : AssignmentV1) : List String :=
  [a.recordId, a.workerId, a.taskId] ++ a.shiftId.toList ++ a.lockRef.toList

/-- The largest `BIGINT`. -/
def maxBigInt : Int := 2 ^ 63 - 1

/-- What refuses an assignment whatever the table holds. -/
def checkAssignment (a : AssignmentV1) : Except PyError Unit :=
  if ∃ text ∈ a.columns, 200 < text.length then
    .error (.dataError "value too long for type character varying(200)")
  else if maxBigInt < a.startMinute ∨ maxBigInt < a.endMinute ∨
      a.startMinute < -maxBigInt - 1 ∨ a.endMinute < -maxBigInt - 1 then
    .error (.dataError "bigint out of range")
  else if 0 ≤ a.startMinute ∧ a.startMinute < a.endMinute then .ok ()
  else .error (.integrityError "ck_schedule_assignment_interval")

/-- The texts of the assignment fit their columns, its minutes theirs, and it is not empty. -/
structure AssignmentV1.FitsColumns (a : AssignmentV1) : Prop where
  texts : ∀ text ∈ a.columns, text.length ≤ 200
  start : 0 ≤ a.startMinute
  interval : a.startMinute < a.endMinute
  stop : a.endMinute ≤ maxBigInt

theorem checkAssignment_ok {a : AssignmentV1} : checkAssignment a = .ok () ↔ a.FitsColumns := by
  unfold checkAssignment
  constructor
  · intro h
    split_ifs at h with hwidth hrange hinterval
    exact ⟨fun text htext => not_lt.mp fun hlong => hwidth ⟨text, htext, hlong⟩, hinterval.1,
      hinterval.2, not_lt.mp fun hlarge => hrange (.inr (.inl hlarge))⟩
  · intro h
    have hbound : (0 : Int) ≤ maxBigInt := by decide
    have hwidth : ¬ ∃ text ∈ a.columns, 200 < text.length := by
      rintro ⟨text, htext, hlong⟩
      exact absurd (h.texts text htext) (not_le.mpr hlong)
    have hrange : ¬ (maxBigInt < a.startMinute ∨ maxBigInt < a.endMinute ∨
        a.startMinute < -maxBigInt - 1 ∨ a.endMinute < -maxBigInt - 1) := by
      have hstart := h.start
      have hinterval := h.interval
      have hstop := h.stop
      omega
    rw [if_neg hwidth, if_neg hrange, if_pos ⟨h.start, h.interval⟩]

/-- An assignment is refused by the type of a column, or by the interval check. -/
theorem checkAssignment_error {a : AssignmentV1} {e : PyError} (h : checkAssignment a = .error e) :
    (∃ message, e = .dataError message) ∨
    e = .integrityError "ck_schedule_assignment_interval" := by
  unfold checkAssignment at h
  split_ifs at h
  · cases h; exact .inl ⟨_, rfl⟩
  · cases h; exact .inl ⟨_, rfl⟩
  · cases h; exact .inr rfl

end ShiftMind
