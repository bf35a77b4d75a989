import ShiftMind.Contracts.Activity
import ShiftMind.Contracts.Canonical
import ShiftMind.Contracts.Grounding

/-!
# ShiftMind — the id of a computed result

`derive_result_id` of `application/capabilities/scheduling_compute.py` writes its payload with an
encoder of its own: `json.dumps`, the members of every object in the order of the code points of
their names. `contract_digest` writes the same payload as canonical JSON, in the order of the UTF-16
code units. On the names of a payload the two orders are one, and the numbers of a payload are
integers that both write alike.

* **`deriveResultId`**, **`contractDigest`** — the two digests; SHA-256 is a parameter.
* **`resultId_agrees`** — they agree, and what they digest determines the calculation.
-/

namespace ShiftMind.ResultId

open Activity

/-! ## The payload -/

/-- `MetricV1`, as its text. -/
def metricText : Metric → String
  | .requiredHeadcountMinutes => "required_headcount_minutes"
  | .requiredDemandVolume => "required_demand_volume"
  | .staffedMinutes => "staffed_minutes"
  | .qualifiedWorkerCount => "qualified_worker_count"
  | .workerCount => "worker_count"

/-- `DemandFamilyV1`, as its text. -/
def familyText : DemandFamily → String
  | .outbound => "outbound"
  | .inbound => "inbound"
  | .indirect => "indirect"

/-- `ClaimArgumentsV1`, with its schema version. -/
structure ArgumentRecord extends ClaimArgumentsV1 where
  schemaVersion : String := "1"
  deriving DecidableEq, Repr

/-- A value, or `None`. -/
def optional {α : Type} (encode : α → Json Binary64) : Option α → Json Binary64
  | some x => encode x
  | none => .null

/-- `asdict(arguments)`. -/
def asdict (arguments : ArgumentRecord) : List (String × Json Binary64) :=
  [("schema_version", .string arguments.schemaVersion),
    ("task_id", optional .string arguments.taskId),
    ("family", optional (fun family => .string (familyText family)) arguments.family),
    ("start_minute", optional .int arguments.startMinute),
    ("end_minute", optional .int arguments.endMinute)]

/-- The payload that is digested. -/
def payload (metric : Metric) (arguments : ArgumentRecord) (scenarioVersionId : Uuid128) :
    Json Binary64 :=
  .object [("arguments", .object (asdict arguments)), ("metric", .string (metricText metric)),
    ("scenario_version_id", .string scenarioVersionId.str)]

/-! ## The two digests -/

mutual

/-- `_contains_float`. -/
def containsFloat : Json Binary64 → Bool
  | .float _ => true
  | .object members => membersContainFloat members
  | .list items => itemsContainFloat items
  | _ => false
termination_by structural value => value

def itemsContainFloat : List (Json Binary64) → Bool
  | [] => false
  | item :: items => containsFloat item || itemsContainFloat items
termination_by structural items => items

def membersContainFloat : List (String × Json Binary64) → Bool
  | [] => false
  | (_, value) :: members => containsFloat value || membersContainFloat members
termination_by structural members => members

end

/-- The order in which `sort_keys` puts names. -/
def codePoints (name : String) : List Nat := name.toList.map Char.toNat

section Digests

variable (sha256 : ByteArray → String) (floatRepr : Binary64 → List Char)
  (floatText : ℚ → List Char)

/-- `json.dumps(value, ensure_ascii=False, sort_keys=True, separators=(",", ":"))`. -/
def jsonDumps (value : Json Binary64) : List Char :=
  (value.sorted codePoints).render quoteString floatRepr

/-- `derive_result_id`. -/
def deriveResultId (metric : Metric) (arguments : ArgumentRecord) (scenarioVersionId : Uuid128) :
    Except String String :=
  if containsFloat (payload metric arguments scenarioVersionId) then
    .error "result_id payload must contain no float; JCS number form is not implemented"
  else
    .ok (sha256 (String.ofList
      (jsonDumps floatRepr (payload metric arguments scenarioVersionId))).toUTF8)

/-- `contract_digest`. -/
def contractDigest (value : Json Binary64) : Except String (String × String × String) :=
  (canonicalizeJson floatText value).map fun bytes => ("sha256", "rfc8785-v1", sha256 bytes)

end Digests

/-! ## The two orders -/

/-- Members under different names are in one order wherever their names are. -/
theorem sort_members_congr {k k' : String → List Nat} {members : List (String × Json Binary64)}
    (hnames : (members.map Prod.fst).Nodup)
    (hsort : Log.sort k (members.map Prod.fst) = Log.sort k' (members.map Prod.fst)) :
    Log.sort (fun m => k m.1) members = Log.sort (fun m => k' m.1) members := by
  -- a member is told by its name
  have hmember : ∀ sorted : List (String × Json Binary64), (∀ m ∈ sorted, m ∈ members) →
      sorted = (sorted.map Prod.fst).map fun name =>
        (name, (Dict.get? members name).getD .null) := by
    intro sorted hsub
    rw [List.map_map]
    have hself : ∀ m ∈ sorted, m =
        ((fun name => (name, (Dict.get? members name).getD .null)) ∘ Prod.fst) m := by
      intro m hm
      rw [Function.comp_apply, Dict.get?_of_mem (v := m.2) hnames (hsub m hm)]
      rfl
    conv_lhs => rw [← List.map_id sorted]
    exact List.map_congr_left hself
  have hleft : Log.sort k (members.map Prod.fst) =
      (Log.sort (fun m => k m.1) members).map Prod.fst := Log.sort_map (fun _ => rfl) members
  have hright : Log.sort k' (members.map Prod.fst) =
      (Log.sort (fun m => k' m.1) members).map Prod.fst := Log.sort_map (fun _ => rfl) members
  rw [hmember (Log.sort (fun m => k m.1) members) fun m hm => Log.mem_sort.mp hm,
    hmember (Log.sort (fun m => k' m.1) members) fun m hm => Log.mem_sort.mp hm,
    ← hleft, ← hright, hsort]

theorem sorted_object_congr {k k' : String → List Nat} {members : List (String × Json Binary64)}
    (hnames : (members.map Prod.fst).Nodup)
    (hsort : Log.sort k (members.map Prod.fst) = Log.sort k' (members.map Prod.fst))
    (hvalues : ∀ m ∈ members, m.2.sorted k = m.2.sorted k') :
    (Json.object members).sorted k = (Json.object members).sorted k' := by
  have hmembers : Json.sortedMembers k members = Json.sortedMembers k' members := by
    rw [Json.sortedMembers_eq_map, Json.sortedMembers_eq_map]
    exact List.map_congr_left fun m hm => by rw [hvalues m hm]
  rw [Json.sorted, Json.sorted, hmembers]
  congr 1
  apply sort_members_congr
  · rw [Json.names_sortedMembers]
    exact hnames
  · rw [Json.names_sortedMembers]
    exact hsort

theorem optional_sorted {α : Type} (k : String → List Nat) {encode : α → Json Binary64}
    (hencode : ∀ x, (encode x).sorted k = encode x) (value : Option α) :
    (optional encode value).sorted k = optional encode value := by
  cases value with
  | none => rfl
  | some x => exact hencode x

theorem names_asdict (arguments : ArgumentRecord) :
    (asdict arguments).map Prod.fst =
      ["schema_version", "task_id", "family", "start_minute", "end_minute"] := rfl

/-- The values of the arguments are no objects. -/
theorem asdict_sorted (k : String → List Nat) {arguments : ArgumentRecord}
    {m : String × Json Binary64} (hm : m ∈ asdict arguments) : m.2.sorted k = m.2 := by
  simp only [asdict, List.mem_cons, List.not_mem_nil, or_false] at hm
  rcases hm with rfl | rfl | rfl | rfl | rfl
  · rfl
  · exact optional_sorted k (fun _ => rfl) _
  · exact optional_sorted k (fun _ => rfl) _
  · exact optional_sorted k (fun _ => rfl) _
  · exact optional_sorted k (fun _ => rfl) _

/-- **The two orders are one** on a payload. -/
theorem payload_sorted (metric : Metric) (arguments : ArgumentRecord)
    (scenarioVersionId : Uuid128) :
    (payload metric arguments scenarioVersionId).sorted codePoints =
      (payload metric arguments scenarioVersionId).sorted utf16SortKey := by
  have harguments : (Json.object (asdict arguments)).sorted codePoints =
      (Json.object (asdict arguments)).sorted utf16SortKey := by
    apply sorted_object_congr
    · rw [names_asdict]
      decide
    · rw [names_asdict]
      decide
    · intro m hm
      rw [asdict_sorted codePoints hm, asdict_sorted utf16SortKey hm]
  unfold payload
  apply sorted_object_congr
  · show ["arguments", "metric", "scenario_version_id"].Nodup
    decide
  · show Log.sort codePoints ["arguments", "metric", "scenario_version_id"] =
      Log.sort utf16SortKey ["arguments", "metric", "scenario_version_id"]
    decide
  · intro m hm
    simp only [List.mem_cons, List.not_mem_nil, or_false] at hm
    rcases hm with rfl | rfl | rfl
    · exact harguments
    · rfl
    · rfl

/-! ## The values of a payload -/

/-- Integer minutes that a double can hold. -/
structure InRange (arguments : ArgumentRecord) : Prop where
  start : ∀ n, arguments.startMinute = some n → -(2 ^ 53) ≤ n ∧ n ≤ 2 ^ 53
  stop : ∀ n, arguments.endMinute = some n → -(2 ^ 53) ≤ n ∧ n ≤ 2 ^ 53

theorem plain_optional {ok : Int → Prop} {α : Type} {encode : α → Json Binary64} {value : Option α}
    (h : ∀ x, value = some x → (encode x).Plain ok) : (optional encode value).Plain ok := by
  cases value with
  | none => exact .null
  | some x => exact h x rfl

/-- A payload has no floating-point number. -/
theorem plain_payload {ok : Int → Prop} (metric : Metric) {arguments : ArgumentRecord}
    (scenarioVersionId : Uuid128) (hstart : ∀ n, arguments.startMinute = some n → ok n)
    (hstop : ∀ n, arguments.endMinute = some n → ok n) :
    (payload metric arguments scenarioVersionId).Plain ok := by
  have harguments : (Json.object (asdict arguments)).Plain ok := by
    refine .object (by rw [names_asdict]; decide) fun m hm => ?_
    simp only [asdict, List.mem_cons, List.not_mem_nil, or_false] at hm
    rcases hm with rfl | rfl | rfl | rfl | rfl
    · exact .string _
    · exact plain_optional fun _ _ => .string _
    · exact plain_optional fun _ _ => .string _
    · exact plain_optional fun n hn => .int (hstart n hn)
    · exact plain_optional fun n hn => .int (hstop n hn)
  refine .object ?_ fun m hm => ?_
  · show ["arguments", "metric", "scenario_version_id"].Nodup
    decide
  · simp only [List.mem_cons, List.not_mem_nil, or_false] at hm
    rcases hm with rfl | rfl | rfl
    · exact harguments
    · exact .string _
    · exact .string _

theorem iJson_payload (metric : Metric) {arguments : ArgumentRecord}
    (scenarioVersionId : Uuid128) (h : InRange arguments) :
    IJson (payload metric arguments scenarioVersionId) :=
  plain_payload metric scenarioVersionId h.start h.stop

theorem containsFloat_payload (metric : Metric) (arguments : ArgumentRecord)
    (scenarioVersionId : Uuid128) :
    containsFloat (payload metric arguments scenarioVersionId) = false := by
  have hoptional : ∀ {α : Type} (encode : α → Json Binary64) (value : Option α),
      (∀ x, containsFloat (encode x) = false) → containsFloat (optional encode value) = false := by
    intro α encode value hencode
    cases value with
    | none => rfl
    | some x => exact hencode x
  have htask := hoptional Json.string arguments.taskId fun _ => rfl
  have hfamily := hoptional (fun family => .string (familyText family)) arguments.family
    fun _ => rfl
  have hstart := hoptional Json.int arguments.startMinute fun _ => rfl
  have hstop := hoptional Json.int arguments.endMinute fun _ => rfl
  simp only [payload, asdict, containsFloat, membersContainFloat, htask, hfamily, hstart, hstop,
    Bool.or_false]

/-- Without a floating-point number their text has no say. -/
theorem render_congr {ok : Int → Prop} {value : Json Binary64} (h : value.Plain ok)
    (floatRepr floatRepr' : Binary64 → List Char) :
    value.render quoteString floatRepr = value.render quoteString floatRepr' := by
  induction h with
  | null => rfl
  | bool b => cases b <;> rfl
  | int h => rfl
  | string text => rfl
  | list h ih =>
    rw [Json.render, Json.render, Json.renderItems_eq_map, Json.renderItems_eq_map,
      List.map_congr_left ih]
  | object hnames h ih =>
    rename_i members
    have hmembers : ∀ m ∈ members, Json.renderMember quoteString floatRepr m =
        Json.renderMember quoteString floatRepr' m := by
      intro m hm
      rw [Json.renderMember, Json.renderMember, ih m hm]
    rw [Json.render, Json.render, Json.renderMembers_eq_map, Json.renderMembers_eq_map,
      List.map_congr_left hmembers]

/-- **The two encoders write the same text.** -/
theorem serialize_payload (floatRepr : Binary64 → List Char) (floatText : ℚ → List Char)
    (metric : Metric) {arguments : ArgumentRecord} (scenarioVersionId : Uuid128)
    (h : InRange arguments) :
    serialize floatText (payload metric arguments scenarioVersionId) =
      .ok (jsonDumps floatRepr (payload metric arguments scenarioVersionId)) := by
  have hplain := iJson_payload metric scenarioVersionId h
  rw [serialize_of_iJson hplain, jsonDumps, payload_sorted,
    render_congr hplain.sorted floatRepr fun _ => []]

/-! ## A payload determines its calculation

Equal texts are equal payloads, and what a payload holds is the calculation. -/

theorem metricText_injective : Function.Injective metricText := by
  intro m m' h
  cases m <;> cases m' <;> first | rfl | exact absurd h (by decide)

theorem familyText_injective : Function.Injective familyText := by
  intro f f' h
  cases f <;> cases f' <;> first | rfl | exact absurd h (by decide)

theorem str_injective : Function.Injective Uuid128.str := by
  intro u v h
  have hread := congrArg Uuid128.ofStr h
  rw [Uuid128.ofStr_str, Uuid128.ofStr_str] at hread
  exact Option.some.inj hread

/-- Encoded values that are equal as JSON are equal, if those of the values themselves are. -/
theorem optional_same {α : Type} {encode : α → Json Binary64}
    (hencode : ∀ x y, (encode x).same (encode y) = true → x = y)
    (hnull : ∀ x, (encode x).same .null = false ∧ Json.null.same (encode x) = false)
    {value value' : Option α} (h : (optional encode value).same (optional encode value') = true) :
    value = value' := by
  cases value with
  | none =>
    cases value' with
    | none => rfl
    | some y => rw [optional, optional, (hnull y).2] at h; cases h
  | some x =>
    cases value' with
    | none => rw [optional, optional, (hnull x).1] at h; cases h
    | some y => rw [hencode x y h]

theorem payload_same {metric metric' : Metric} {arguments arguments' : ArgumentRecord}
    {version version' : Uuid128}
    (h : (payload metric arguments version).same (payload metric' arguments' version') = true) :
    metric = metric' ∧ arguments = arguments' ∧ version = version' := by
  simp [payload, asdict, Json.same, Json.sameMembers, Dict.get?] at h
  obtain ⟨⟨hschema, htask, hfamily, hstart, hstop⟩, hmetric, hversion⟩ := h
  have htask' := optional_same (fun x y hxy => by simpa [Json.same] using hxy)
    (fun x => ⟨rfl, rfl⟩) htask
  have hfamily' := optional_same
    (fun x y hxy => familyText_injective (by simpa [Json.same] using hxy)) (fun x => ⟨rfl, rfl⟩)
    hfamily
  have hstart' := optional_same (fun x y hxy => by simpa [Json.same] using hxy)
    (fun x => ⟨rfl, rfl⟩) hstart
  have hstop' := optional_same (fun x y hxy => by simpa [Json.same] using hxy)
    (fun x => ⟨rfl, rfl⟩) hstop
  refine ⟨metricText_injective hmetric, ?_, str_injective hversion⟩
  obtain ⟨⟨task, family, start, stop⟩, schema⟩ := arguments
  obtain ⟨⟨task', family', start', stop'⟩, schema'⟩ := arguments'
  simp only at hschema htask' hfamily' hstart' hstop'
  rw [hschema, htask', hfamily', hstart', hstop']

/-- The bytes that are digested. -/
def digestInput (floatRepr : Binary64 → List Char) (metric : Metric) (arguments : ArgumentRecord)
    (scenarioVersionId : Uuid128) : ByteArray :=
  (String.ofList (jsonDumps floatRepr (payload metric arguments scenarioVersionId))).toUTF8

/-- The bytes behind an id are those of one calculation. -/
theorem digestInput_injective {floatRepr : Binary64 → List Char} {metric metric' : Metric}
    {arguments arguments' : ArgumentRecord} {version version' : Uuid128}
    (h : digestInput floatRepr metric arguments version =
      digestInput floatRepr metric' arguments' version') :
    metric = metric' ∧ arguments = arguments' ∧ version = version' := by
  have hplain : (payload metric arguments version).Plain fun _ => True :=
    plain_payload metric version (fun _ _ => trivial) fun _ _ => trivial
  have hplain' : (payload metric' arguments' version').Plain fun _ => True :=
    plain_payload metric' version' (fun _ _ => trivial) fun _ _ => trivial
  have htext : jsonDumps floatRepr (payload metric arguments version) =
      jsonDumps floatRepr (payload metric' arguments' version') :=
    String.ofList_injective (String.toByteArray_inj.mp h)
  unfold jsonDumps at htext
  rw [payload_sorted, payload_sorted] at htext
  have hsorted := Json.render_injective quotes_quoteString hplain.sorted hplain'.sorted htext
  exact payload_same ((Json.sorted_eq_iff utf16SortKey_injective hplain hplain').mp hsorted)

theorem canonicalizeJson_payload (floatRepr : Binary64 → List Char) (floatText : ℚ → List Char)
    (metric : Metric) {arguments : ArgumentRecord} (scenarioVersionId : Uuid128)
    (h : InRange arguments) :
    canonicalizeJson floatText (payload metric arguments scenarioVersionId) =
      .ok (digestInput floatRepr metric arguments scenarioVersionId) := by
  rw [canonicalizeJson, serialize_payload floatRepr floatText metric scenarioVersionId h]
  rfl

/-- **Result ids agree between the two digests**, and the bytes behind an id are those of one
calculation only. -/
theorem resultId_agrees (sha256 : ByteArray → String) (floatRepr : Binary64 → List Char)
    (floatText : ℚ → List Char) :
    (∀ metric arguments version, InRange arguments →
      ∃ id, deriveResultId sha256 floatRepr metric arguments version = .ok id ∧
        contractDigest sha256 floatText (payload metric arguments version) =
          .ok ("sha256", "rfc8785-v1", id)) ∧
    (∀ metric metric' arguments arguments' version version', InRange arguments →
      InRange arguments' →
      (digestInput floatRepr metric arguments version =
          digestInput floatRepr metric' arguments' version' ↔
        metric = metric' ∧ arguments = arguments' ∧ version = version')) := by
  constructor
  · intro metric arguments version h
    refine ⟨sha256 (digestInput floatRepr metric arguments version), ?_, ?_⟩
    · rw [deriveResultId, containsFloat_payload]
      rfl
    · rw [contractDigest, canonicalizeJson_payload floatRepr floatText metric version h]
      rfl
  · intro metric metric' arguments arguments' version version' _ _
    constructor
    · exact digestInput_injective
    · rintro ⟨rfl, rfl, rfl⟩
      rfl

/-- A morning of picking, in a task with a name beyond ASCII. -/
def morning : ArgumentRecord := { taskId := some "Kühl\n\"A\"", startMinute := some 360 }

theorem resultId_agrees_morning :
    (∃ id, deriveResultId (fun bytes => toString bytes.size) (fun _ => []) .staffedMinutes morning
        ⟨7, by decide⟩ = .ok id ∧
      contractDigest (fun bytes => toString bytes.size) (fun _ => [])
        (payload .staffedMinutes morning ⟨7, by decide⟩) = .ok ("sha256", "rfc8785-v1", id)) ∧
      digestInput (fun _ => []) .staffedMinutes morning ⟨7, by decide⟩ ≠
        digestInput (fun _ => []) .staffedMinutes morning ⟨8, by decide⟩ := by
  have hrange : InRange morning := ⟨fun n hn => by cases hn; decide, fun n hn => by cases hn⟩
  obtain ⟨hagrees, hinput⟩ :=
    resultId_agrees (fun bytes => toString bytes.size) (fun _ => []) (fun _ => [])
  exact ⟨hagrees _ _ _ hrange, fun heq =>
    absurd ((hinput _ _ _ _ _ _ hrange hrange).mp heq).2.2 (by decide)⟩

end ShiftMind.ResultId
