import ShiftMind.Library.Binary64
import ShiftMind.Library.Json
import ShiftMind.Library.Url
import ShiftMind.Streaming.StreamCursor

/-!
# ShiftMind — what a span may carry out of the process

`adapters/telemetry/span_policy.py`: the allow-list of every category of spans, the checks and the
projections of attribute values, and the default-deny projection of a span's attributes. What the
Unicode tables and the JSON module of the language contribute are parameters.

* **`policyOf`** — `POLICIES`.
* **`sanitizeAttributes`**, **`sanitizeEvent`**, **`sanitizeResource`** — the three projections.
-/

namespace ShiftMind.Telemetry

/-! ## Values -/

inductive AttrScalar where
  | str (s : String)
  | bool (b : Bool)
  | int (n : Int)
  | float (x : Binary64)
  deriving DecidableEq, Repr

/-- The value of an attribute. -/
inductive AttrValue where
  | scalar (x : AttrScalar)
  | seq (items : List AttrScalar)
  deriving DecidableEq, Repr

abbrev Attributes := List (String × AttrValue)

/-- How `json.loads` ends; an error that is no `ValueError`, as of a document nested too deeply, is
raised. -/
inductive Loaded where
  | value (j : Json Binary64)
  | valueError
  | raised (error : String)

/-- What the language provides. -/
structure Lang where
  url : Url.Tables
  /-- `c.isdigit()` -/
  isDigit : Char → Bool
  /-- `\d` -/
  isDecimal : Char → Bool
  loads : String → Loaded
  /-- `json.dumps(value, separators=(",", ":"))` -/
  dumps : Json Binary64 → String

/-! ## Validators -/

abbrev Validator := AttrValue → Option AttrValue

/-- `_uuid`. -/
def uuidValue : Validator
  | .scalar (.str s) => (StreamCursor.uuidOf s.toList).map fun u =>
      .scalar (.str (String.ofList (StreamCursor.uuidText u)))
  | _ => none

/-- `_number`. -/
def numberValue : Validator
  | .scalar (.int n) => some (.scalar (.int n))
  | .scalar (.float x) => some (.scalar (.float x))
  | _ => none

/-- `_closed`. -/
def closedVocabulary (vocabulary : List String) : Validator
  | .scalar (.str s) => if s ∈ vocabulary then some (.scalar (.str s)) else none
  | _ => none

/-- `_positive_int`. -/
def positiveInt : Validator
  | .scalar (.int n) => if n < 1 then none else some (.scalar (.int n))
  | _ => none

/-- `_flag`. -/
def flagValue : Validator
  | .scalar (.bool b) => some (.scalar (.bool b))
  | _ => none

/-- `_matching`. -/
def matching (fullmatch : List Char → Bool) : Validator
  | .scalar (.str s) => if fullmatch s.toList then some (.scalar (.str s)) else none
  | _ => none

/-- A character of a class, then up to `limit` of another. -/
def headThen (first rest : Char → Bool) (limit : Nat) : List Char → Bool
  | [] => false
  | c :: text => first c && text.all rest && decide (text.length ≤ limit)

def isLowerOrDigit (c : Char) : Bool := c.isLower || c.isDigit

/-- `FAILURE_CODE_PATTERN`. -/
def failureCodePattern : List Char → Bool :=
  headThen Char.isLower (fun c => isLowerOrDigit c || c == '_') 63

/-- `SCENARIO_ID_PATTERN`. -/
def scenarioIdPattern : List Char → Bool :=
  headThen Char.isAlphanum (fun c => c.isAlphanum || c == '_' || c == '-') 31

/-- `MODEL_ID_PATTERN`: the provider has no colon, so the first one ends it. -/
def modelIdPattern (text : List Char) : Bool :=
  let provider := text.takeWhile (· ≠ ':')
  match text.drop provider.length with
  | ':' :: model =>
    headThen isLowerOrDigit (fun c => isLowerOrDigit c || c == '_' || c == '-') provider.length
        provider &&
      model.all (fun c => c.isAlphanum || ['.', '_', '/', ':', '-'].contains c) &&
      decide (1 ≤ model.length ∧ model.length ≤ 128)
  | _ => false

/-- `SHA256_PATTERN`. -/
def sha256Pattern (text : List Char) : Bool :=
  decide (text.length = 64) && text.all fun c => c.isDigit || ('a' ≤ c && c ≤ 'f')

/-- A text of the shape of another, in which `0` stands for any decimal digit. -/
def ofShape (isDecimal : Char → Bool) : List Char → List Char → Bool
  | [], [] => true
  | s :: shape, c :: text =>
    (if s = '0' then isDecimal c else decide (c = s)) && ofShape isDecimal shape text
  | _, _ => false

/-- `UTC_TIMESTAMP_PATTERN`. -/
def utcTimestampPattern (isDecimal : Char → Bool) : List Char → Bool :=
  ofShape isDecimal "0000-00-00T00:00:00.000000Z".toList

/-- `TURN_ROUTE_ERROR_PATTERN`. -/
def turnRouteErrorPattern (text : List Char) : Bool :=
  ["timeout", "transport_error", "bad_response", "router_exception"].contains
    (String.ofList text) ||
    ofShape Char.isDigit "http_000".toList text

/-- `_failure_codes`. -/
def failureCodes : Validator
  | .seq items =>
    if items = [] then none
    else if items.all fun
      | .str s => failureCodePattern s.toList
      | _ => false
    then some (.seq items)
    else none
  | .scalar _ => none

/-! ## Transforms -/

/-- The transforms of the tables. -/
inductive Transform where
  | stripTargetQuery
  | stripUrlToOriginAndPath
  | projectMessageStructure
  | removeInstructionParts
  deriving DecidableEq, Repr

/-- The value under `http.route`. -/
def routeOf (attributes : Attributes) : Option String :=
  match Dict.get? attributes "http.route" with
  | some (.scalar (.str route)) => some route
  | _ => none

section Transforms

variable (lang : Lang)

/-- `_is_identifier`. -/
def isIdentifier (segment : List Char) : Bool :=
  (!segment.isEmpty && segment.all lang.isDigit) || (StreamCursor.uuidOf segment).isSome

/-- `template.startswith("{") and template.endswith("}")`. -/
def isParameter (template : List Char) : Bool :=
  template.head? == some '{' && template.getLast? == some '}'

/-- `text.split("/")`. -/
def splitSlash : List Char → List (List Char)
  | [] => [[]]
  | c :: text =>
    if c = '/' then [] :: splitSlash text
    else
      match splitSlash text with
      | segment :: segments => (c :: segment) :: segments
      | [] => [[c]]

/-- `strip_target_query`. -/
def stripTargetQuery (value : AttrValue) (attributes : Attributes) : Option AttrValue :=
  match value, routeOf attributes with
  | .scalar (.str target), some route =>
    if route = "" then none
    else
      let path := target.toList.takeWhile fun c => c ≠ '?' ∧ c ≠ '#'
      let templates := splitSlash route.toList
      let segments := splitSlash path
      if templates.length ≠ segments.length then none
      else if (templates.zip segments).all fun (template, segment) =>
        if isParameter template then isIdentifier lang segment else decide (template = segment)
      then some (.scalar (.str (String.ofList path)))
      else none
  | _, _ => none

/-- `strip_url_to_origin_and_path`. -/
def stripUrlToOriginAndPath : AttrValue → Option AttrValue
  | .scalar (.str url) => do
    let parts ← Url.urlsplit lang.url url.toList
    let port ← parts.port
    let host ← parts.hostname lang.url
    if parts.scheme = [] then none
    else
      let netloc := if host.contains ':' then '[' :: (host ++ [']']) else host
      let netloc := match port with
        | some port => netloc ++ ':' :: (toString port).toList
        | none => netloc
      some (.scalar (.str (String.ofList (Url.urlunsplit parts.scheme netloc parts.path))))
  | _ => none

/-- `_json`. -/
def json : AttrValue → Loaded
  | .scalar (.str s) => lang.loads s
  | _ => .valueError

/-- `_MESSAGE_PART_KEYS`. -/
def messagePartKeys : List String := ["type", "id", "name"]

/-- The string under a key of a JSON object. -/
def stringMember (members : List (String × Json Binary64)) (key : String) : Option String :=
  match Dict.get? members key with
  | some (.string text) => some text
  | _ => none

/-- One part of a message. -/
def projectPart : Json Binary64 → Json Binary64
  | .object members => .object (messagePartKeys.filterMap fun key =>
      (stringMember members key).map fun text => (key, .string text))
  | _ => .object []

/-- One message; a message that is no object fails them all. -/
def projectMessage : Json Binary64 → Option (Json Binary64)
  | .object members =>
    let role := match stringMember members "role" with
      | some role => [("role", .string role)]
      | none => []
    let parts := match Dict.get? members "parts" with
      | some (.list parts) => [("parts", .list (parts.map projectPart))]
      | _ => []
    some (.object (role ++ parts))
  | _ => none

/-- `project_message_structure`. -/
def projectMessageStructure (value : AttrValue) : Except String (Option AttrValue) :=
  match json lang value with
  | .raised error => .error error
  | .valueError => .ok none
  | .value (.list messages) =>
    .ok ((messages.mapM projectMessage).map fun projected =>
      .scalar (.str (lang.dumps (.list projected))))
  | .value _ => .ok none

/-- `remove_instruction_parts`. -/
def removeInstructionParts (value : AttrValue) : Except String (Option AttrValue) :=
  match json lang value with
  | .raised error => .error error
  | .valueError => .ok none
  | .value (.object parameters) =>
    .ok (some (.scalar (.str (lang.dumps
      (.object (parameters.filter fun member => member.1 ≠ "instruction_parts"))))))
  | .value _ => .ok none

def Transform.apply (transform : Transform) (value : AttrValue) (attributes : Attributes) :
    Except String (Option AttrValue) :=
  match transform with
  | .stripTargetQuery => .ok (Telemetry.stripTargetQuery lang value attributes)
  | .stripUrlToOriginAndPath => .ok (Telemetry.stripUrlToOriginAndPath lang value)
  | .projectMessageStructure => Telemetry.projectMessageStructure lang value
  | .removeInstructionParts => Telemetry.removeInstructionParts lang value

end Transforms

/-! ## The tables -/

inductive Category where
  | httpServer
  | httpClient
  | database
  | agent
  | worker
  | liveEval
  | evals
  | other
  deriving DecidableEq, Repr

/-- `SCOPE_CATEGORIES`. -/
def scopeCategories : List (String × Category) :=
  [("opentelemetry.instrumentation.fastapi", .httpServer),
    ("opentelemetry.instrumentation.asgi", .httpServer),
    ("opentelemetry.instrumentation.httpx", .httpClient),
    ("opentelemetry.instrumentation.sqlalchemy", .database),
    ("pydantic-ai", .agent),
    ("shiftmind.worker", .worker),
    ("shiftmind.live_eval", .liveEval),
    ("pydantic-evals", .evals)]

/-- `categorize`. -/
def categorize (scopeName : Option String) : Category :=
  (Dict.get? scopeCategories (scopeName.getD "")).getD .other

/-- `CategoryPolicy`, without the keys that are only recorded as dropped. -/
structure CategoryPolicy where
  allow : List String := []
  validated : List (String × Validator) := []
  validatedPrefixes : List (String × Validator) := []
  transform : List (String × Transform) := []
  contentMode : List String := []

def scheduleRunStatuses : List String :=
  ["solver_queued", "solver_running", "cancellation_requested", "solver_completed",
    "solver_infeasible", "solver_timed_out", "solver_cancelled", "solver_failed"]

def solverStatuses : List String :=
  ["OPTIMAL", "FEASIBLE", "INFEASIBLE", "MODEL_INVALID", "UNKNOWN"]

def jobTypes : List String := ["schedule_run_execute"]

def turnVerdicts : List String := ["pass", "fail", "incomplete", "needs_review"]

def turnRoutes : List String := ["scheduling", "direct", "out_of_scope"]

def agentRunStatuses : List String :=
  ["agent_queued", "agent_running", "approval_required", "agent_completed", "agent_timed_out",
    "agent_cancelled", "agent_failed"]

def usageNames : List String :=
  ["input_tokens", "output_tokens", "cache_read.input_tokens", "cache_creation.input_tokens"]

/-- `POLICIES`. -/
def policyOf (lang : Lang) : Category → CategoryPolicy
  | .httpServer =>
    { allow := ["http.method", "http.route", "http.status_code", "http.scheme", "http.flavor",
        "net.host.port"]
      validated := [("shiftmind.schedule_run.id", uuidValue),
        ("shiftmind.turn.route", closedVocabulary turnRoutes),
        ("shiftmind.turn.route_probability", numberValue),
        ("shiftmind.turn.route_error", matching turnRouteErrorPattern)]
      transform := [("http.target", .stripTargetQuery)] }
  | .httpClient =>
    { allow := ["http.method", "http.status_code"]
      transform := [("http.url", .stripUrlToOriginAndPath)] }
  | .database => { allow := ["db.system", "db.name", "db.operation", "db.statement"] }
  | .agent =>
    { allow := ["gen_ai.operation.name", "gen_ai.agent.name", "agent_name", "model_name",
        "gen_ai.agent.call.id", "gen_ai.conversation.id", "gen_ai.provider.name", "gen_ai.system",
        "gen_ai.request.model", "gen_ai.response.model", "gen_ai.response.id",
        "gen_ai.response.finish_reasons", "server.address", "server.port",
        "pydantic_ai.new_message_index", "pydantic_ai.variable_instructions",
        "pydantic_ai.tool.deferral.name", "gen_ai.tool.name", "gen_ai.tool.call.id", "logfire.msg",
        "logfire.json_schema", "gen_ai.tool.definitions"]
      validated := ["max_tokens", "top_p", "seed", "temperature", "presence_penalty",
          "frequency_penalty"].map (fun name => ("gen_ai.request." ++ name, numberValue)) ++
        (["gen_ai.usage", "gen_ai.aggregated_usage"].flatMap fun family =>
          usageNames.map fun name => (family ++ "." ++ name, numberValue)) ++
        [("shiftmind.agent_run.id", uuidValue), ("shiftmind.site.id", uuidValue),
          ("shiftmind.conversation.id", uuidValue)]
      validatedPrefixes := [("gen_ai.usage.details.", numberValue),
        ("gen_ai.aggregated_usage.details.", numberValue)]
      transform := [("model_request_parameters", .removeInstructionParts),
        ("gen_ai.input.messages", .projectMessageStructure),
        ("gen_ai.output.messages", .projectMessageStructure),
        ("pydantic_ai.all_messages", .projectMessageStructure)]
      contentMode := ["gen_ai.system_instructions", "gen_ai.tool.call.arguments",
        "gen_ai.tool.call.result", "final_result", "pydantic_ai.tool.deferral.metadata"] }
  | .worker =>
    { validated := [("shiftmind.schedule_run.id", uuidValue), ("shiftmind.job.id", uuidValue),
        ("shiftmind.site.id", uuidValue), ("shiftmind.job.type", closedVocabulary jobTypes),
        ("shiftmind.schedule_run.status", closedVocabulary scheduleRunStatuses),
        ("shiftmind.job.queue_age_s", numberValue),
        ("shiftmind.solver.status", closedVocabulary solverStatuses),
        ("shiftmind.solver.wall_time_s", numberValue)] }
  | .liveEval =>
    { allow := ["logfire.msg", "logfire.span_type"]
      validated := [("shiftmind.live_eval.turn_index", positiveInt),
        ("shiftmind.live_eval.repetition", positiveInt),
        ("shiftmind.live_eval.attempt", positiveInt),
        ("shiftmind.live_eval.final_attempt", flagValue),
        ("shiftmind.live_eval.verdict", closedVocabulary turnVerdicts),
        ("shiftmind.live_eval.agent_run_status", closedVocabulary agentRunStatuses),
        ("shiftmind.live_eval.factual_failures", failureCodes),
        ("shiftmind.live_eval.scenario", matching scenarioIdPattern),
        ("shiftmind.live_eval.agent_model", matching modelIdPattern),
        ("shiftmind.live_eval.configuration_digest", matching sha256Pattern),
        ("shiftmind.live_eval.report.sha256", matching sha256Pattern),
        ("shiftmind.live_eval.occurred_at", matching (utcTimestampPattern lang.isDecimal)),
        ("shiftmind.live_eval.report.run_id", uuidValue),
        ("shiftmind.conversation.id", uuidValue), ("shiftmind.agent_run.id", uuidValue)] }
  | .evals =>
    { allow := ["name", "task_name", "dataset_name", "n_cases", "gen_ai.operation.name", "metadata",
        "assertion_pass_rate", "logfire.experiment.metadata", "case_name", "inputs",
        "expected_output", "output", "task_duration", "metrics", "attributes", "assertions",
        "scores", "labels", "evaluator_name", "task", "logfire.msg", "logfire.msg_template",
        "logfire.json_schema", "logfire.span_type"] }
  | .other => {}

/-! ## Sanitising -/

/-- How a key is decided: the first of the tables that has it. -/
inductive Decision where
  | allowed
  | validated (validate : Validator)
  | transformed (transform : Transform)
  | content
  | dropped

/-- The order in which `sanitize_attributes` asks the tables. -/
def CategoryPolicy.decide (policy : CategoryPolicy) (key : String) : Decision :=
  if key ∈ policy.allow then .allowed
  else
    match Dict.get? policy.validated key with
    | some validate => .validated validate
    | none =>
      match policy.validatedPrefixes.find? fun entry => entry.1.toList.isPrefixOf key.toList with
      | some entry => .validated entry.2
      | none =>
        match Dict.get? policy.transform key with
        | some transform => .transformed transform
        | none => if key ∈ policy.contentMode then .content else .dropped

/-- The result for one attribute. -/
def sanitizeValue (lang : Lang) (category : Category) (content : Bool) (attributes : Attributes)
    (key : String) (value : AttrValue) : Except String (Option AttrValue) :=
  match (policyOf lang category).decide key with
  | .allowed => .ok (some value)
  | .validated validate => .ok (validate value)
  | .transformed transform =>
    if content && decide (category = .agent) then .ok (some value)
    else transform.apply lang value attributes
  | .content => .ok (if content then some value else none)
  | .dropped => .ok none

/-- The loop of `sanitize_attributes` over the items of a dictionary. -/
def sanitizeItems (result : String → AttrValue → Except String (Option AttrValue)) :
    Attributes → Except String Attributes
  | [] => .ok []
  | (key, value) :: items => do
    let kept ← result key value
    let rest ← sanitizeItems result items
    pure (match kept with
      | some value => (key, value) :: rest
      | none => rest)

/-- `sanitize_attributes`. -/
def sanitizeAttributes (lang : Lang) (category : Category) (attributes : Attributes)
    (contentMode contentModeOn : String) : Except String Attributes :=
  sanitizeItems
    (sanitizeValue lang category (decide (contentMode = contentModeOn)) attributes) attributes

/-- `EXCEPTION_EVENT`. -/
def exceptionEvent : String := "exception"

/-- `EXCEPTION_TYPE_KEY`. -/
def exceptionTypeKey : String := "exception.type"

/-- `sanitize_event`. -/
def sanitizeEvent (name : String) (attributes : Attributes) : Option (String × Attributes) :=
  if name ≠ exceptionEvent then none
  else
    match Dict.get? attributes exceptionTypeKey with
    | some (.scalar (.str type)) =>
      some (exceptionEvent, [(exceptionTypeKey, .scalar (.str type))])
    | _ => some (exceptionEvent, [])

/-- `RESOURCE_ALLOW`. -/
def resourceAllow : List String :=
  ["service.name", "service.version", "service.instance.id", "telemetry.sdk.language",
    "telemetry.sdk.name", "telemetry.sdk.version"]

/-- `DEPLOYMENT_ENVIRONMENT_KEY`. -/
def deploymentEnvironmentKey : String := "deployment.environment"

/-- `LIVE_EVAL_ENVIRONMENT`. -/
def liveEvalEnvironment : AttrValue := .scalar (.str "live-eval")

/-- `sanitize_resource`. -/
def sanitizeResource (attributes : Attributes) (contentMode contentModeOn : String)
    (liveEvalChannel : Bool) : Attributes :=
  let kept := attributes.filter fun item => item.1 ∈ resourceAllow
  if liveEvalChannel = true ∨ (contentMode = contentModeOn ∧
      Dict.get? attributes deploymentEnvironmentKey = some liveEvalEnvironment) then
    Dict.upsert (fun _ => liveEvalEnvironment) deploymentEnvironmentKey kept
  else kept

end ShiftMind.Telemetry
