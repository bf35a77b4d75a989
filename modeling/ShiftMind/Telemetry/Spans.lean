import ShiftMind.Telemetry.SpanPolicy

/-!
# ShiftMind — the exporter that hands on sanitised copies

`SanitizingSpanExporter` of `adapters/telemetry/spans.py` over the records of the SDK. A mapping
that is absent is an empty one here, since the exporter reads `attributes or {}`.

* **`sanitize`** — the copy of one span.
* **`exportBatch`** — a batch: what the inner exporter is handed, and the result.
-/

namespace ShiftMind.Telemetry

/-! ## Spans -/

structure SpanContext where
  traceId : Nat
  spanId : Nat
  isRemote : Bool
  traceFlags : Nat
  traceState : List (String × String)
  deriving DecidableEq, Repr

structure InstrumentationScope where
  name : String
  version : Option String
  schemaUrl : Option String
  attributes : Attributes
  deriving DecidableEq, Repr

structure Event where
  name : String
  attributes : Attributes
  timestamp : Nat
  deriving DecidableEq, Repr

structure Link where
  context : SpanContext
  attributes : Attributes
  deriving DecidableEq, Repr

inductive SpanKind where
  | internal
  | server
  | client
  | producer
  | consumer
  deriving DecidableEq, Repr

inductive StatusCode where
  | unset
  | ok
  | error
  deriving DecidableEq, Repr

structure Status where
  statusCode : StatusCode
  description : Option String
  deriving DecidableEq, Repr

structure ReadableSpan where
  name : String
  context : Option SpanContext
  parent : Option SpanContext
  resource : Attributes
  attributes : Attributes
  events : List Event
  links : List Link
  kind : SpanKind
  status : Status
  startTime : Option Nat
  endTime : Option Nat
  instrumentationScope : Option InstrumentationScope
  deriving DecidableEq, Repr

/-- The category of a span. -/
def ReadableSpan.category (span : ReadableSpan) : Category :=
  categorize (span.instrumentationScope.map InstrumentationScope.name)

/-! ## The exporter -/

/-- What `__init__` is given, and the literal of the settings that turns the content mode on. -/
structure SanitizingSpanExporter where
  lang : Lang
  contentMode : String
  traceContentSyntheticEval : String
  liveEvalChannel : Bool

inductive SpanExportResult where
  | success
  | failure
  deriving DecidableEq, Repr

namespace SanitizingSpanExporter

variable (self : SanitizingSpanExporter)

/-- The loop over the events of a span. -/
def sanitizeEvents (events : List Event) : List Event :=
  events.filterMap fun event =>
    (sanitizeEvent event.name (Dict.ofPairs event.attributes)).map fun kept =>
      { name := kept.1, attributes := kept.2, timestamp := event.timestamp }

/-- `sanitize`. -/
def sanitize (span : ReadableSpan) : Except String ReadableSpan := do
  let attributes ← sanitizeAttributes self.lang span.category (Dict.ofPairs span.attributes)
    self.contentMode self.traceContentSyntheticEval
  pure
    { name := span.name
      context := span.context
      parent := span.parent
      resource := sanitizeResource (Dict.ofPairs span.resource) self.contentMode
        self.traceContentSyntheticEval self.liveEvalChannel
      attributes := attributes
      events := sanitizeEvents span.events
      links := []
      kind := span.kind
      status := ⟨span.status.statusCode, none⟩
      startTime := span.startTime
      endTime := span.endTime
      instrumentationScope := span.instrumentationScope.map fun scope =>
        ⟨scope.name, scope.version, scope.schemaUrl, []⟩ }

/-- `export`: what the inner exporter is handed, if it is called at all, and the result. -/
def exportBatch (inner : List ReadableSpan → Except String SpanExportResult)
    (spans : List ReadableSpan) : Option (List ReadableSpan) × SpanExportResult :=
  match spans.mapM self.sanitize with
  | .error _ => (none, .failure)
  | .ok sanitized =>
    match inner sanitized with
    | .ok result => (some sanitized, result)
    | .error _ => (some sanitized, .failure)

/-- **A batch is handed on whole or not at all**: one span that cannot be sanitised is enough. -/
theorem exportBatch_of_error {inner : List ReadableSpan → Except String SpanExportResult}
    {spans : List ReadableSpan} {span : ReadableSpan} {error : String} (hmem : span ∈ spans)
    (herror : self.sanitize span = .error error) :
    self.exportBatch inner spans = (none, .failure) := by
  have hfail : ∃ e, spans.mapM self.sanitize = .error e := by
    induction spans with
    | nil => cases hmem
    | cons first rest ih =>
      cases hfirst : self.sanitize first with
      | error e => exact ⟨e, by simp [List.mapM_cons, hfirst]; rfl⟩
      | ok copy =>
        have hrest : span ∈ rest := by
          rcases List.mem_cons.mp hmem with heq | hrest
          · rw [heq, hfirst] at herror
            cases herror
          · exact hrest
        obtain ⟨e, he⟩ := ih hrest
        exact ⟨e, by simp [List.mapM_cons, hfirst, he]; rfl⟩
  obtain ⟨e, he⟩ := hfail
  rw [exportBatch, he]

end SanitizingSpanExporter

end ShiftMind.Telemetry
