import ShiftMind.Telemetry.Spans

/-!
# ShiftMind — what an exported span reveals

With the content mode off, an exported copy is a function of the **low view** of its span. The low
view is stated here without the tables' transforms: an allowed or validated key shows its value, the
four JSON keys of the agent show a structure, `http.url` shows its scheme, host, port and path, and
`http.target` shows a path made of the template of its route and identifiers.

* **`LowEqual`** — two spans with one low view.
* **`get?_sanitizeAttributes`** — what is kept under a key is rendered from the low view of the key.
* **`SanitizingSpanExporter.sanitize_noninterference`** — spans with one low view have one copy.
-/

namespace ShiftMind.Telemetry

/-! ## The low view

What an observer without clearance may know of an attribute; the export is shown to be a function of
it. -/

/-- What is shown of a part of a message. -/
structure PartView where
  type : Option String
  id : Option String
  name : Option String
  deriving DecidableEq, Repr

/-- What is shown of a message. -/
structure MessageView where
  role : Option String
  parts : Option (List PartView)
  deriving DecidableEq, Repr

inductive LowValue where
  | raw (value : AttrValue)
  | messages (views : List MessageView)
  | parameters (members : List (String × Json Binary64))
  | url (scheme host : List Char) (port : Option Nat) (path : List Char)
  | target (path : List Char)

def partView : Json Binary64 → PartView
  | .object members =>
    ⟨stringMember members "type", stringMember members "id", stringMember members "name"⟩
  | _ => ⟨none, none, none⟩

/-- The role of a message and, where its parts are a list, the view of each. -/
def messageView : Json Binary64 → Option MessageView
  | .object members =>
    some
      { role := stringMember members "role"
        parts :=
          match Dict.get? members "parts" with
          | some (.list parts) => some (parts.map partView)
          | _ => none }
  | _ => none

section Views

variable (lang : Lang)

def messagesView (text : String) : Option LowValue :=
  match lang.loads text with
  | .value (.list messages) => (messages.mapM messageView).map .messages
  | _ => none

/-- The members of the parameters but for `instruction_parts`. -/
def parametersView (text : String) : Option LowValue :=
  match lang.loads text with
  | .value (.object members) =>
    some (.parameters (members.filter fun member => member.1 ≠ "instruction_parts"))
  | _ => none

def urlView (text : String) : Option LowValue := do
  let parts ← Url.urlsplit lang.url text.toList
  let port ← parts.port
  let host ← parts.hostname lang.url
  if parts.scheme = [] then none else some (.url parts.scheme host port parts.path)

/-- A path made of the segments of a template, each parameter filled by an identifier. -/
def fills : List (List Char) → List (List Char) → Bool
  | [], [] => true
  | template :: templates, segment :: segments =>
    (if isParameter template then isIdentifier lang segment else decide (template = segment)) &&
      fills templates segments
  | _, _ => false

/-- The path of a target, for a route that it fills. -/
def targetView (route : Option String) (text : String) : Option LowValue :=
  let path := text.toList.takeWhile fun c => c ≠ '?' ∧ c ≠ '#'
  match route with
  | some route =>
    if route ≠ "" ∧ fills lang (splitSlash route.toList) (splitSlash path) then some (.target path)
    else none
  | none => none

/-- The keys a category declares: allowed, validated, or under a validated prefix. -/
def Declared (category : Category) (key : String) : Prop :=
  key ∈ (policyOf lang category).allow ∨ key ∈ Dict.keys (policyOf lang category).validated ∨
    ∃ entry ∈ (policyOf lang category).validatedPrefixes, entry.1.toList.isPrefixOf key.toList

instance (category : Category) (key : String) : Decidable (Declared lang category key) :=
  inferInstanceAs (Decidable (_ ∨ _ ∨ _))

/-- The keys under which an agent's span carries messages. -/
def messageKeys : List String :=
  ["gen_ai.input.messages", "gen_ai.output.messages", "pydantic_ai.all_messages"]

def parametersKey : String := "model_request_parameters"

/-- The low view of an attribute; a key that shows nothing has none. -/
def lowAttribute (category : Category) (attributes : Attributes) (key : String) :
    Option LowValue :=
  (Dict.get? attributes key).bind fun value =>
    if Declared lang category key then some (.raw value)
    else
      match value with
      | .scalar (.str text) =>
        if category = .agent ∧ key ∈ messageKeys then messagesView lang text
        else if category = .agent ∧ key = parametersKey then parametersView lang text
        else if category = .httpClient ∧ key = "http.url" then urlView lang text
        else if category = .httpServer ∧ key = "http.target" then
          targetView lang (routeOf attributes) text
        else none
      | _ => none

/-- The type of an exception event, where it is a string. -/
def exceptionType (event : Event) : Option String :=
  match Dict.get? (Dict.ofPairs event.attributes) exceptionTypeKey with
  | some (.scalar (.str type)) => some type
  | _ => none

/-- The exception events of a span: their types and times. -/
def exceptionsOf (events : List Event) : List (Option String × Nat) :=
  (events.filter fun event => event.name = exceptionEvent).map fun event =>
    (exceptionType event, event.timestamp)

/-- **Two spans with one low view.** Nothing is asked of other attributes, of messages beyond their
structure, of queries, user information, exception messages, the status description, other events,
links, or the attributes of the scope. -/
structure LowEqual (a b : ReadableSpan) : Prop where
  name : a.name = b.name
  context : a.context = b.context
  parent : a.parent = b.parent
  kind : a.kind = b.kind
  startTime : a.startTime = b.startTime
  endTime : a.endTime = b.endTime
  statusCode : a.status.statusCode = b.status.statusCode
  scope : (a.instrumentationScope.map fun s => (s.name, s.version, s.schemaUrl)) =
    b.instrumentationScope.map fun s => (s.name, s.version, s.schemaUrl)
  resource : ∀ key ∈ resourceAllow,
    Dict.get? (Dict.ofPairs a.resource) key = Dict.get? (Dict.ofPairs b.resource) key
  exceptions : exceptionsOf a.events = exceptionsOf b.events
  attributes : ∀ key, lowAttribute lang a.category (Dict.ofPairs a.attributes) key =
    lowAttribute lang b.category (Dict.ofPairs b.attributes) key

end Views

/-- The same copy: every field alike, attributes and resource as dictionaries. -/
structure SameSpan (x y : ReadableSpan) : Prop where
  fields : { x with attributes := [], resource := [] } = { y with attributes := [], resource := [] }
  attributes : ∀ key, Dict.get? x.attributes key = Dict.get? y.attributes key
  resource : ∀ key, Dict.get? x.resource key = Dict.get? y.resource key

/-! ## What the views leave out -/

/-- A query or a fragment shows nothing of itself. -/
theorem urlView_append (lang : Lang) {mark : Char} (hmark : Url.IsMark mark)
    (url rest : List Char) :
    urlView lang (String.ofList (url ++ mark :: rest)) = urlView lang (String.ofList url) := by
  unfold urlView
  rw [String.toList_ofList, String.toList_ofList, Url.urlsplit_append hmark]

theorem targetView_append (lang : Lang) {mark : Char} (hmark : Url.IsMark mark)
    (route : Option String) (path rest : List Char) :
    targetView lang route (String.ofList (path ++ mark :: rest)) =
      targetView lang route (String.ofList path) := by
  have hstop : decide (mark ≠ '?' ∧ mark ≠ '#') = false := by
    rcases hmark with rfl | rfl <;> decide
  have hpath := Url.takeWhile_append_of_false
    (p := fun c => decide (c ≠ '?' ∧ c ≠ '#')) hstop path rest
  unfold targetView
  simp only [String.toList_ofList, hpath]

/-- User information shows nothing of itself, where both locations are read. -/
theorem hostname_port_userinfo (tables : Url.Tables) (scheme user netloc path : List Char) :
    Url.SplitResult.hostname tables ⟨scheme, user ++ '@' :: netloc, path⟩ =
        Url.SplitResult.hostname tables ⟨scheme, netloc, path⟩ ∧
      Url.SplitResult.port ⟨scheme, user ++ '@' :: netloc, path⟩ =
        Url.SplitResult.port ⟨scheme, netloc, path⟩ := by
  unfold Url.SplitResult.hostname Url.SplitResult.port
  simp only [Url.hostAndPort_userinfo, and_self]

/-- What is shown of a part does not depend on its other members. -/
theorem partView_congr {members others : List (String × Json Binary64)}
    (h : ∀ key ∈ messagePartKeys, Dict.get? members key = Dict.get? others key) :
    partView (.object members) = partView (.object others) := by
  have hmember : ∀ key ∈ messagePartKeys, stringMember members key = stringMember others key := by
    intro key hkey
    rw [stringMember, h key hkey]
    rfl
  simp only [partView, hmember "type" (by decide), hmember "id" (by decide),
    hmember "name" (by decide)]

/-! ## The tables again -/

section Rendering

variable (lang : Lang)

/-- The transforms, read off the tables. -/
theorem get?_transform (category : Category) (key : String) :
    Dict.get? (policyOf lang category).transform key =
      if category = .agent ∧ key ∈ messageKeys then some .projectMessageStructure
      else if category = .agent ∧ key = parametersKey then some .removeInstructionParts
      else if category = .httpClient ∧ key = "http.url" then some .stripUrlToOriginAndPath
      else if category = .httpServer ∧ key = "http.target" then some .stripTargetQuery
      else none := by
  cases category with
  | agent =>
    show Dict.get? [(parametersKey, Transform.removeInstructionParts),
      ("gen_ai.input.messages", .projectMessageStructure),
      ("gen_ai.output.messages", .projectMessageStructure),
      ("pydantic_ai.all_messages", .projectMessageStructure)] key = _
    -- the agent's table has four keys
    by_cases hparameters : key = parametersKey
    · subst hparameters
      decide
    · by_cases hmessages : key ∈ messageKeys
      · have hcases := hmessages
        simp only [messageKeys, List.mem_cons, List.not_mem_nil, or_false] at hcases
        rcases hcases with rfl | rfl | rfl <;> decide
      · have hkeys := hmessages
        simp only [messageKeys, List.mem_cons, List.not_mem_nil, or_false, not_or] at hkeys
        simp [Dict.get?, Ne.symm hparameters, Ne.symm hkeys.1, Ne.symm hkeys.2.1,
          Ne.symm hkeys.2.2, hparameters, hmessages]
  | httpServer =>
    show Dict.get? [("http.target", Transform.stripTargetQuery)] key = _
    simp [Dict.get?, eq_comm (b := key)]
  | httpClient =>
    show Dict.get? [("http.url", Transform.stripUrlToOriginAndPath)] key = _
    simp [Dict.get?, eq_comm (b := key)]
  | database => simp [policyOf, Dict.get?]
  | worker => simp [policyOf, Dict.get?]
  | liveEval => simp [policyOf, Dict.get?]
  | evals => simp [policyOf, Dict.get?]
  | other => simp [policyOf, Dict.get?]

theorem decide_of_declared {category : Category} {key : String}
    (h : Declared lang category key) :
    (policyOf lang category).decide key = .allowed ∨
      ∃ validate, (policyOf lang category).decide key = .validated validate := by
  unfold CategoryPolicy.decide
  by_cases hallow : key ∈ (policyOf lang category).allow
  · exact Or.inl (if_pos hallow)
  · rw [if_neg hallow]
    cases hvalidated : Dict.get? (policyOf lang category).validated key with
    | some validate => exact Or.inr ⟨validate, rfl⟩
    | none =>
      cases hunder : (policyOf lang category).validatedPrefixes.find? fun entry =>
          entry.1.toList.isPrefixOf key.toList with
      | some entry => exact Or.inr ⟨entry.2, rfl⟩
      | none =>
        exfalso
        rcases h with h | h | ⟨entry, hmem, hentry⟩
        · exact hallow h
        · obtain ⟨pair, hpair, rfl⟩ := List.mem_map.mp h
          exact Dict.not_mem_keys_of_get? hvalidated h
        · exact List.find?_eq_none.mp hunder entry hmem hentry

theorem decide_of_not_declared {category : Category} {key : String}
    (h : ¬ Declared lang category key) :
    (policyOf lang category).decide key =
      match Dict.get? (policyOf lang category).transform key with
      | some transform => .transformed transform
      | none => if key ∈ (policyOf lang category).contentMode then .content else .dropped := by
  rw [Declared, not_or, not_or] at h
  have hvalidated := Dict.get?_eq_none_of_not_mem h.2.1
  have hunder : ((policyOf lang category).validatedPrefixes.find? fun entry =>
      entry.1.toList.isPrefixOf key.toList) = none :=
    List.find?_eq_none.mpr fun entry hmem hentry => h.2.2 ⟨entry, hmem, hentry⟩
  unfold CategoryPolicy.decide
  rw [if_neg h.1, hvalidated]
  cases Dict.get? (policyOf lang category).transform key <;> simp only [hunder]

/-! ## Rendering -/

def MessageView.toJson (view : MessageView) : Json Binary64 :=
  let role := match view.role with
    | some role => [("role", .string role)]
    | none => []
  let parts := match view.parts with
    | some parts => [("parts", .list (parts.map fun part => .object
        ([("type", part.type), ("id", part.id), ("name", part.name)].filterMap fun member =>
          member.2.map fun text => (member.1, .string text))))]
    | none => []
  .object (role ++ parts)

/-- What is exported for a low value under a key. -/
def render (category : Category) (key : String) : LowValue → Option AttrValue
  | .raw value =>
    match (policyOf lang category).decide key with
    | .allowed => some value
    | .validated validate => validate value
    | _ => none
  | .messages views => some (.scalar (.str (lang.dumps (.list (views.map MessageView.toJson)))))
  | .parameters members => some (.scalar (.str (lang.dumps (.object members))))
  | .url scheme host port path =>
    let netloc := if host.contains ':' then '[' :: (host ++ [']']) else host
    let netloc := match port with
      | some port => netloc ++ ':' :: (toString port).toList
      | none => netloc
    some (.scalar (.str (String.ofList (Url.urlunsplit scheme netloc path))))
  | .target path => some (.scalar (.str (String.ofList path)))

theorem projectPart_eq (part : Json Binary64) :
    projectPart part = .object ([("type", (partView part).type), ("id", (partView part).id),
      ("name", (partView part).name)].filterMap fun member =>
        member.2.map fun text => (member.1, .string text)) := by
  cases part with
  | object members => simp [projectPart, partView, messagePartKeys, List.filterMap_cons]
  | _ => rfl

theorem projectMessage_eq (message : Json Binary64) :
    projectMessage message = (messageView message).map MessageView.toJson := by
  cases message with
  | object members =>
    simp only [projectMessage, messageView, MessageView.toJson, Option.map_some]
    cases Dict.get? members "parts" with
    | none => rfl
    | some parts =>
      cases parts with
      | list parts =>
        simp only [List.map_map]
        congr 6
        exact List.map_congr_left fun part _ => projectPart_eq part
      | _ => rfl
  | _ => rfl

theorem projectMessages_eq (messages : List (Json Binary64)) :
    messages.mapM projectMessage =
      (messages.mapM messageView).map (List.map MessageView.toJson) := by
  induction messages with
  | nil => rfl
  | cons message rest ih =>
    rw [List.mapM_cons, List.mapM_cons, ih, projectMessage_eq]
    cases messageView message with
    | none => rfl
    | some view =>
      cases List.mapM messageView rest <;> rfl

theorem all_zip_eq_fills (templates segments : List (List Char))
    (hlength : templates.length = segments.length) :
    ((templates.zip segments).all fun (template, segment) =>
      if isParameter template then isIdentifier lang segment else decide (template = segment)) =
      fills lang templates segments := by
  induction templates generalizing segments with
  | nil =>
    cases segments with
    | nil => rfl
    | cons => cases hlength
  | cons template templates ih =>
    cases segments with
    | nil => cases hlength
    | cons segment segments =>
      rw [List.zip_cons_cons, List.all_cons, ih segments (Nat.succ.inj hlength), fills]

theorem length_of_fills {templates segments : List (List Char)}
    (h : fills lang templates segments = true) : templates.length = segments.length := by
  induction templates generalizing segments with
  | nil =>
    cases segments with
    | nil => rfl
    | cons => cases h
  | cons template templates ih =>
    cases segments with
    | nil => cases h
    | cons segment segments =>
      rw [fills, Bool.and_eq_true] at h
      rw [List.length_cons, List.length_cons, ih h.2]

/-! ## Each transform shows the low view only -/

theorem projectMessageStructure_eq {category : Category} {key : String} {value : AttrValue}
    {result : Option AttrValue} (h : projectMessageStructure lang value = .ok result) :
    result = (match value with
      | .scalar (.str text) => messagesView lang text
      | _ => none).bind (render lang category key) := by
  unfold projectMessageStructure json at h
  unfold messagesView
  cases value with
  | seq items => cases h; rfl
  | scalar x =>
    cases x with
    | str text =>
      simp only at h ⊢
      cases hloads : lang.loads text with
      | raised error => rw [hloads] at h; cases h
      | valueError => rw [hloads] at h; cases h; rfl
      | value j =>
        rw [hloads] at h
        cases j with
        | list messages =>
          simp only [Except.ok.injEq] at h
          rw [← h, projectMessages_eq]
          simp only
          cases List.mapM messageView messages <;> rfl
        | _ => cases h; rfl
    | _ => cases h; rfl

theorem removeInstructionParts_eq {category : Category} {key : String} {value : AttrValue}
    {result : Option AttrValue} (h : removeInstructionParts lang value = .ok result) :
    result = (match value with
      | .scalar (.str text) => parametersView lang text
      | _ => none).bind (render lang category key) := by
  unfold removeInstructionParts json at h
  unfold parametersView
  cases value with
  | seq items => cases h; rfl
  | scalar x =>
    cases x with
    | str text =>
      simp only at h ⊢
      cases hloads : lang.loads text with
      | raised error => rw [hloads] at h; cases h
      | valueError => rw [hloads] at h; cases h; rfl
      | value j =>
        rw [hloads] at h
        cases j <;> cases h <;> rfl
    | _ => cases h; rfl

theorem stripUrl_eq {category : Category} {key : String} (value : AttrValue) :
    stripUrlToOriginAndPath lang value = (match value with
      | .scalar (.str text) => urlView lang text
      | _ => none).bind (render lang category key) := by
  cases value with
  | seq items => rfl
  | scalar x =>
    cases x with
    | str text =>
      simp only [stripUrlToOriginAndPath, urlView]
      cases Url.urlsplit lang.url text.toList with
      | none => rfl
      | some parts =>
        simp only [Option.bind_eq_bind, Option.bind_some]
        cases parts.port with
        | none => rfl
        | some port =>
          cases parts.hostname lang.url with
          | none => rfl
          | some host =>
            simp only [Option.bind_some]
            by_cases hscheme : parts.scheme = []
            · rw [if_pos hscheme, if_pos hscheme]; rfl
            · rw [if_neg hscheme, if_neg hscheme]; rfl
    | _ => rfl

theorem stripTargetQuery_eq {category : Category} {key : String} (value : AttrValue)
    (attributes : Attributes) :
    stripTargetQuery lang value attributes = (match value with
      | .scalar (.str text) => targetView lang (routeOf attributes) text
      | _ => none).bind (render lang category key) := by
  cases value with
  | seq items => rfl
  | scalar x =>
    cases x with
    | str text =>
      simp only [stripTargetQuery, targetView]
      cases routeOf attributes with
      | none => rfl
      | some route =>
        simp only
        by_cases hroute : route = ""
        · simp [hroute]
        · rw [if_neg hroute]
          by_cases hlength : (splitSlash route.toList).length =
              (splitSlash (text.toList.takeWhile fun c => c ≠ '?' ∧ c ≠ '#')).length
          · rw [if_neg (not_not.mpr hlength), all_zip_eq_fills lang _ _ hlength]
            by_cases hfills : fills lang (splitSlash route.toList)
                (splitSlash (text.toList.takeWhile fun c => c ≠ '?' ∧ c ≠ '#')) = true
            · rw [if_pos hfills, if_pos ⟨hroute, hfills⟩]; rfl
            · rw [if_neg hfills, if_neg fun h => hfills h.2]; rfl
          · rw [if_pos hlength, if_neg fun h => hlength (length_of_fills lang h.2)]; rfl
    | _ => rfl

/-- **One attribute**: what is kept of it, if nothing is raised, is rendered from its low view. -/
theorem sanitizeValue_eq {category : Category} {attributes : Attributes} {key : String}
    {value : AttrValue} {result : Option AttrValue}
    (hget : Dict.get? attributes key = some value)
    (h : sanitizeValue lang category false attributes key value = .ok result) :
    result = (lowAttribute lang category attributes key).bind (render lang category key) := by
  unfold sanitizeValue at h
  unfold lowAttribute
  rw [hget, Option.bind_some]
  by_cases hdeclared : Declared lang category key
  · -- a declared attribute is kept as it is, or by its own check
    rw [if_pos hdeclared, Option.bind_some, render]
    rcases decide_of_declared lang hdeclared with hdecide | ⟨validate, hdecide⟩
    · rw [hdecide] at h ⊢
      cases h; rfl
    · rw [hdecide] at h ⊢
      cases h; rfl
  · rw [if_neg hdeclared]
    rw [decide_of_not_declared lang hdeclared, get?_transform] at h
    -- the branches of the low view are those of the tables
    by_cases hmessages : category = .agent ∧ key ∈ messageKeys
    · simp only [if_pos hmessages, Bool.false_and, Bool.false_eq_true, if_false] at h ⊢
      exact projectMessageStructure_eq lang h
    · by_cases hparameters : category = .agent ∧ key = parametersKey
      · simp only [if_neg hmessages, if_pos hparameters, Bool.false_and, Bool.false_eq_true,
          if_false] at h ⊢
        exact removeInstructionParts_eq lang h
      · by_cases hurl : category = .httpClient ∧ key = "http.url"
        · simp only [if_neg hmessages, if_neg hparameters, if_pos hurl, Bool.false_and,
            Bool.false_eq_true, if_false, Transform.apply, Except.ok.injEq] at h ⊢
          rw [← h]
          exact stripUrl_eq lang value
        · by_cases htarget : category = .httpServer ∧ key = "http.target"
          · simp only [if_neg hmessages, if_neg hparameters, if_neg hurl, if_pos htarget,
              Bool.false_and, Bool.false_eq_true, if_false, Transform.apply,
              Except.ok.injEq] at h ⊢
            rw [← h]
            exact stripTargetQuery_eq lang value attributes
          · -- nothing else is kept, whatever the mode of the category
            have hnone : result = none := by
              simp only [if_neg hmessages, if_neg hparameters, if_neg hurl, if_neg htarget] at h
              by_cases hcontent : key ∈ (policyOf lang category).contentMode
              · rw [if_pos hcontent] at h
                cases h; rfl
              · rw [if_neg hcontent] at h
                cases h; rfl
            rw [hnone]
            cases value with
            | seq items => rfl
            | scalar x =>
              cases x with
              | str text =>
                simp only [if_neg hmessages, if_neg hparameters, if_neg hurl, if_neg htarget]
                rfl
              | _ => rfl

/-! ## The loop over the attributes -/

theorem sanitizeItems_cons {result : String → AttrValue → Except String (Option AttrValue)}
    {key : String} {value : AttrValue} {items kept : Attributes}
    (h : sanitizeItems result ((key, value) :: items) = .ok kept) :
    ∃ head rest, result key value = .ok head ∧ sanitizeItems result items = .ok rest ∧
      kept = match head with
        | some value => (key, value) :: rest
        | none => rest := by
  rw [sanitizeItems] at h
  cases hhead : result key value with
  | error e => rw [hhead] at h; cases h
  | ok head =>
    cases hrest : sanitizeItems result items with
    | error e => rw [hhead, hrest] at h; cases h
    | ok rest =>
      rw [hhead, hrest] at h
      cases h
      exact ⟨head, rest, rfl, rfl, rfl⟩

/-- The loop keeps only keys that were there. -/
theorem mem_keys_of_sanitizeItems {result : String → AttrValue → Except String (Option AttrValue)}
    {items kept : Attributes} (h : sanitizeItems result items = .ok kept) {key : String}
    (hmem : key ∈ Dict.keys kept) : key ∈ Dict.keys items := by
  induction items generalizing kept with
  | nil => cases h; cases hmem
  | cons item items ih =>
    obtain ⟨k, v⟩ := item
    obtain ⟨head, rest, -, hrest, rfl⟩ := sanitizeItems_cons h
    cases head with
    | none => exact List.mem_cons_of_mem _ (ih hrest hmem)
    | some value =>
      rcases List.mem_cons.mp hmem with heq | hin
      · rw [heq]; exact List.mem_cons_self
      · exact List.mem_cons_of_mem _ (ih hrest hin)

/-- What the loop leaves under a key is the result for that key. -/
theorem get?_sanitizeItems {result : String → AttrValue → Except String (Option AttrValue)}
    {items kept : Attributes} (hkeys : (Dict.keys items).Nodup)
    (h : sanitizeItems result items = .ok kept) {key : String} {value : AttrValue}
    (hget : Dict.get? items key = some value) :
    result key value = .ok (Dict.get? kept key) := by
  induction items generalizing kept with
  | nil => cases hget
  | cons item items ih =>
    obtain ⟨k, v⟩ := item
    rw [Dict.keys, List.map_cons, List.nodup_cons] at hkeys
    obtain ⟨head, rest, hhead, hrest, rfl⟩ := sanitizeItems_cons h
    by_cases hk : k = key
    · subst hk
      rw [Dict.get?, if_pos rfl] at hget
      cases hget
      rw [hhead]
      cases head with
      | some value => simp [Dict.get?]
      | none =>
        -- a key whose value is dropped does not come again
        have hnot : k ∉ Dict.keys rest := fun hmem => hkeys.1 (mem_keys_of_sanitizeItems hrest hmem)
        rw [Dict.get?_eq_none_of_not_mem hnot]
    · rw [Dict.get?, if_neg hk] at hget
      rw [ih hkeys.2 hrest hget]
      cases head with
      | some value => simp [Dict.get?, hk]
      | none => rfl

/-- The loop raises when, and only when, one of its results does. -/
theorem sanitizeItems_error_iff
    {result : String → AttrValue → Except String (Option AttrValue)} {items : Attributes} :
    (∃ e, sanitizeItems result items = .error e) ↔
      ∃ item ∈ items, ∃ e, result item.1 item.2 = .error e := by
  induction items with
  | nil => simp [sanitizeItems]
  | cons item items ih =>
    obtain ⟨k, v⟩ := item
    rw [List.exists_mem_cons_iff, ← ih, sanitizeItems]
    cases hhead : result k v with
    | error e => exact ⟨fun _ => Or.inl ⟨e, rfl⟩, fun _ => ⟨e, rfl⟩⟩
    | ok head =>
      simp only [reduceCtorEq, exists_false, false_or]
      cases hrest : sanitizeItems result items with
      | error e => exact ⟨fun _ => ⟨e, rfl⟩, fun _ => ⟨e, rfl⟩⟩
      | ok rest =>
        constructor
        · rintro ⟨e, he⟩; cases he
        · rintro ⟨e, he⟩; cases he

/-- **What is kept under a key is rendered from the low view of the key.** -/
theorem get?_sanitizeAttributes {category : Category} {attributes kept : Attributes}
    {contentMode contentModeOn : String} (hoff : contentMode ≠ contentModeOn)
    (hkeys : (Dict.keys attributes).Nodup)
    (h : sanitizeAttributes lang category attributes contentMode contentModeOn = .ok kept)
    (key : String) :
    Dict.get? kept key =
      (lowAttribute lang category attributes key).bind (render lang category key) := by
  rw [sanitizeAttributes, decide_eq_false hoff] at h
  cases hget : Dict.get? attributes key with
  | some value => exact sanitizeValue_eq lang hget (get?_sanitizeItems hkeys h hget)
  | none =>
    have hnot : key ∉ Dict.keys kept := fun hmem =>
      Dict.not_mem_keys_of_get? hget (mem_keys_of_sanitizeItems h hmem)
    rw [Dict.get?_eq_none_of_not_mem hnot, lowAttribute, hget]
    rfl

/-! ## What raises -/

/-- A span with a JSON attribute that `json.loads` raises on. -/
def Unreadable (span : ReadableSpan) : Prop :=
  span.category = .agent ∧ ∃ key ∈ messageKeys ++ [parametersKey], ∃ text error,
    Dict.get? (Dict.ofPairs span.attributes) key = some (.scalar (.str text)) ∧
      lang.loads text = .raised error

theorem json_raised_iff {value : AttrValue} {error : String} :
    json lang value = .raised error ↔
      ∃ text, value = .scalar (.str text) ∧ lang.loads text = .raised error := by
  cases value with
  | seq items => simp [json]
  | scalar x => cases x <;> simp [json]

theorem projectMessageStructure_error {value : AttrValue} :
    (∃ e, projectMessageStructure lang value = .error e) ↔
      ∃ e, json lang value = .raised e := by
  unfold projectMessageStructure
  cases json lang value with
  | raised e => simp
  | valueError => simp
  | value j => cases j <;> simp

theorem removeInstructionParts_error {value : AttrValue} :
    (∃ e, removeInstructionParts lang value = .error e) ↔
      ∃ e, json lang value = .raised e := by
  unfold removeInstructionParts
  cases json lang value with
  | raised e => simp
  | valueError => simp
  | value j => cases j <;> simp

/-- None of the JSON keys is declared. -/
theorem not_declared_of_json {key : String} (h : key ∈ messageKeys ++ [parametersKey]) :
    ¬ Declared lang .agent key := by
  simp only [messageKeys, parametersKey, List.cons_append, List.nil_append, List.mem_cons,
    List.not_mem_nil, or_false] at h
  rcases h with rfl | rfl | rfl | rfl <;>
    · rw [Declared]
      simp only [policyOf]
      decide

theorem sanitizeValue_error_iff {category : Category} {attributes : Attributes} {key : String}
    {value : AttrValue} :
    (∃ e, sanitizeValue lang category false attributes key value = .error e) ↔
      category = .agent ∧ key ∈ messageKeys ++ [parametersKey] ∧
        ∃ e, json lang value = .raised e := by
  unfold sanitizeValue
  by_cases hdeclared : Declared lang category key
  · have hnot : ¬ (category = .agent ∧ key ∈ messageKeys ++ [parametersKey]) := by
      intro h
      rw [h.1] at hdeclared
      exact not_declared_of_json lang h.2 hdeclared
    have hright : ¬ (category = .agent ∧ key ∈ messageKeys ++ [parametersKey] ∧
        ∃ e, json lang value = .raised e) := fun h => hnot ⟨h.1, h.2.1⟩
    rcases decide_of_declared lang hdeclared with hdecide | ⟨validate, hdecide⟩
    · rw [hdecide, iff_false_right hright]
      rintro ⟨e, he⟩
      cases he
    · rw [hdecide, iff_false_right hright]
      rintro ⟨e, he⟩
      cases he
  · rw [decide_of_not_declared lang hdeclared, get?_transform]
    by_cases hmessages : category = .agent ∧ key ∈ messageKeys
    · simp only [if_pos hmessages, Bool.false_and, Bool.false_eq_true, if_false]
      rw [Transform.apply, projectMessageStructure_error]
      simp [hmessages]
    · by_cases hparameters : category = .agent ∧ key = parametersKey
      · simp only [if_neg hmessages, if_pos hparameters, Bool.false_and, Bool.false_eq_true,
          if_false]
        rw [Transform.apply, removeInstructionParts_error]
        simp [hparameters]
      · have hnot : ¬ (category = .agent ∧ key ∈ messageKeys ++ [parametersKey]) := by
          rw [List.mem_append, List.mem_singleton]
          tauto
        simp only [if_neg hmessages, if_neg hparameters]
        have hright : ¬ (category = .agent ∧ key ∈ messageKeys ++ [parametersKey] ∧
            ∃ e, json lang value = .raised e) := fun h => hnot ⟨h.1, h.2.1⟩
        simp only [hright, iff_false]
        -- no other transform raises
        split_ifs <;> simp [Transform.apply]

end Rendering

/-! ## The copy of a span -/

theorem sanitizeEvents_eq (events : List Event) :
    SanitizingSpanExporter.sanitizeEvents events =
      (exceptionsOf events).map fun shown =>
        { name := exceptionEvent
          attributes := match shown.1 with
            | some type => [(exceptionTypeKey, .scalar (.str type))]
            | none => []
          timestamp := shown.2 } := by
  unfold SanitizingSpanExporter.sanitizeEvents exceptionsOf
  induction events with
  | nil => rfl
  | cons event events ih =>
    rw [List.filterMap_cons, ih]
    by_cases hname : event.name = exceptionEvent
    · rw [List.filter_cons_of_pos (by simpa using hname), List.map_cons, List.map_cons,
        sanitizeEvent, if_neg (not_not.mpr hname)]
      unfold exceptionType
      cases Dict.get? (Dict.ofPairs event.attributes) exceptionTypeKey with
      | none => rfl
      | some value =>
        cases value with
        | seq items => rfl
        | scalar x => cases x <;> rfl
    · rw [List.filter_cons_of_neg (by simpa using hname), sanitizeEvent, if_pos hname]
      rfl

theorem get?_sanitizeResource {attributes : Attributes} {contentMode contentModeOn : String}
    {liveEvalChannel : Bool} (hoff : contentMode ≠ contentModeOn) (key : String) :
    Dict.get? (sanitizeResource attributes contentMode contentModeOn liveEvalChannel) key =
      if liveEvalChannel = true ∧ deploymentEnvironmentKey = key then some liveEvalEnvironment
      else if key ∈ resourceAllow then Dict.get? attributes key else none := by
  have hkept := Dict.get?_filter (fun key => decide (key ∈ resourceAllow)) attributes key
  simp only [decide_eq_true_eq] at hkept
  unfold sanitizeResource
  by_cases hlive : liveEvalChannel = true
  · rw [if_pos (Or.inl hlive), Dict.get?_upsert, hkept]
    simp only [hlive, true_and]
  · have hplain : ¬ (liveEvalChannel = true ∨ (contentMode = contentModeOn ∧
        Dict.get? attributes deploymentEnvironmentKey = some liveEvalEnvironment)) :=
      fun h => h.elim hlive fun h => hoff h.1
    have hnot : ¬ (liveEvalChannel = true ∧ deploymentEnvironmentKey = key) :=
      fun h => hlive h.1
    rw [if_neg hplain, hkept, if_neg hnot]

namespace SanitizingSpanExporter

variable (self : SanitizingSpanExporter)

theorem sanitize_ok {span copy : ReadableSpan} (h : self.sanitize span = .ok copy) :
    ∃ kept, sanitizeAttributes self.lang span.category (Dict.ofPairs span.attributes)
        self.contentMode self.traceContentSyntheticEval = .ok kept ∧
      copy =
        { name := span.name
          context := span.context
          parent := span.parent
          resource := sanitizeResource (Dict.ofPairs span.resource) self.contentMode
            self.traceContentSyntheticEval self.liveEvalChannel
          attributes := kept
          events := sanitizeEvents span.events
          links := []
          kind := span.kind
          status := ⟨span.status.statusCode, none⟩
          startTime := span.startTime
          endTime := span.endTime
          instrumentationScope := span.instrumentationScope.map fun scope =>
            ⟨scope.name, scope.version, scope.schemaUrl, []⟩ } := by
  unfold sanitize at h
  cases hkept : sanitizeAttributes self.lang span.category (Dict.ofPairs span.attributes)
      self.contentMode self.traceContentSyntheticEval with
  | error e => rw [hkept] at h; cases h
  | ok kept =>
    rw [hkept] at h
    cases h
    exact ⟨kept, rfl, rfl⟩

/-- A span is refused exactly when one of its JSON attributes cannot be read. -/
theorem sanitize_error_iff (hoff : self.contentMode ≠ self.traceContentSyntheticEval)
    (span : ReadableSpan) :
    (∃ e, self.sanitize span = .error e) ↔ Unreadable self.lang span := by
  -- only the attributes of the span itself can raise
  have hsame : (∃ e, self.sanitize span = .error e) ↔
      ∃ e, sanitizeAttributes self.lang span.category (Dict.ofPairs span.attributes)
        self.contentMode self.traceContentSyntheticEval = .error e := by
    unfold sanitize
    cases sanitizeAttributes self.lang span.category (Dict.ofPairs span.attributes)
        self.contentMode self.traceContentSyntheticEval with
    | error e => exact ⟨fun _ => ⟨e, rfl⟩, fun _ => ⟨e, rfl⟩⟩
    | ok kept =>
      constructor
      · rintro ⟨e, he⟩; cases he
      · rintro ⟨e, he⟩; cases he
  rw [hsame, sanitizeAttributes, decide_eq_false hoff, sanitizeItems_error_iff]
  constructor
  · rintro ⟨⟨key, value⟩, hmem, hraise⟩
    obtain ⟨hcategory, hkey, error, hjson⟩ := (sanitizeValue_error_iff self.lang).mp hraise
    obtain ⟨text, rfl, hloads⟩ := (json_raised_iff self.lang).mp hjson
    exact ⟨hcategory, key, hkey, text, error,
      Dict.get?_of_mem (Dict.nodup_keys_ofPairs _) hmem, hloads⟩
  · rintro ⟨hcategory, key, hkey, text, error, hget, hloads⟩
    have hraise : ∃ e, sanitizeValue self.lang span.category false
        (Dict.ofPairs span.attributes) key (.scalar (.str text)) = .error e :=
      (sanitizeValue_error_iff self.lang).mpr
        ⟨hcategory, hkey, error, (json_raised_iff self.lang).mpr ⟨text, rfl, hloads⟩⟩
    exact ⟨(key, .scalar (.str text)), Dict.mem_of_get? hget, hraise⟩

/-- Two copies of spans with one low view are the same. -/
theorem sameSpan_of_lowEqual (hoff : self.contentMode ≠ self.traceContentSyntheticEval)
    {a b x y : ReadableSpan} (hlow : LowEqual self.lang a b) (ha : self.sanitize a = .ok x)
    (hb : self.sanitize b = .ok y) : SameSpan x y := by
  obtain ⟨keptA, hkeptA, rfl⟩ := self.sanitize_ok ha
  obtain ⟨keptB, hkeptB, rfl⟩ := self.sanitize_ok hb
  -- the category is read off the scope's name, which is low
  have hcategory : a.category = b.category := by
    have hname := congrArg (Option.map fun s => s.1) hlow.scope
    simp only [Option.map_map] at hname
    exact congrArg categorize hname
  -- so is what the sanitised scope keeps
  have hscope : (a.instrumentationScope.map fun s =>
      (⟨s.name, s.version, s.schemaUrl, []⟩ : InstrumentationScope)) =
      b.instrumentationScope.map fun s => ⟨s.name, s.version, s.schemaUrl, []⟩ := by
    have h := congrArg
      (Option.map fun s => (⟨s.1, s.2.1, s.2.2, []⟩ : InstrumentationScope)) hlow.scope
    rw [Option.map_map, Option.map_map] at h
    exact h
  refine ⟨?_, ?_, ?_⟩
  · simp only [hlow.name, hlow.context, hlow.parent, hlow.kind, hlow.startTime, hlow.endTime,
      hlow.statusCode, hscope, sanitizeEvents_eq, hlow.exceptions]
  · intro key
    show Dict.get? keptA key = Dict.get? keptB key
    rw [get?_sanitizeAttributes self.lang hoff (Dict.nodup_keys_ofPairs _) hkeptA,
      get?_sanitizeAttributes self.lang hoff (Dict.nodup_keys_ofPairs _) hkeptB,
      hlow.attributes key, hcategory]
  · intro key
    show Dict.get? (sanitizeResource _ _ _ _) key = Dict.get? (sanitizeResource _ _ _ _) key
    rw [get?_sanitizeResource hoff, get?_sanitizeResource hoff]
    by_cases hkey : key ∈ resourceAllow
    · rw [hlow.resource key hkey]
    · rw [if_neg hkey, if_neg hkey]

/-- A scope that no table names declares and transforms nothing. -/
theorem sanitize_of_other {span : ReadableSpan} (hother : span.category = .other) :
    ∃ copy, self.sanitize span = .ok copy ∧ copy.attributes = [] := by
  have hitems : ∀ items : Attributes, sanitizeItems (sanitizeValue self.lang .other
      (decide (self.contentMode = self.traceContentSyntheticEval))
      (Dict.ofPairs span.attributes)) items = .ok [] := by
    intro items
    induction items with
    | nil => rfl
    | cons item items ih =>
      rw [sanitizeItems, ih]
      rfl
  unfold sanitize
  rw [hother, sanitizeAttributes, hitems]
  exact ⟨_, rfl, rfl⟩

theorem category_of_unknown {span : ReadableSpan}
    (h : ∀ scope, span.instrumentationScope = some scope →
      scope.name ∉ Dict.keys scopeCategories) : span.category = .other := by
  unfold ReadableSpan.category categorize
  cases hscope : span.instrumentationScope with
  | none => rfl
  | some scope =>
    rw [Option.map_some, Option.getD_some, Dict.get?_eq_none_of_not_mem (h scope hscope)]
    rfl

/-- **Noninterference of the sanitiser**, with the content mode off. Spans with one low view have
one copy; a span has no copy exactly when `json.loads` raises on one of its JSON attributes; a span
of an unknown scope has a copy without attributes; and a batch with a span that has no copy hands
nothing to the inner exporter. -/
theorem sanitize_noninterference (hoff : self.contentMode ≠ self.traceContentSyntheticEval) :
    (∀ a b x y, LowEqual self.lang a b → self.sanitize a = .ok x → self.sanitize b = .ok y →
      SameSpan x y) ∧
    (∀ a, (∃ e, self.sanitize a = .error e) ↔ Unreadable self.lang a) ∧
    (∀ a : ReadableSpan, (∀ scope, a.instrumentationScope = some scope →
        scope.name ∉ Dict.keys scopeCategories) →
      ∃ x, self.sanitize a = .ok x ∧ x.attributes = []) ∧
    (∀ inner spans a e, a ∈ spans → self.sanitize a = .error e →
      self.exportBatch inner spans = (none, .failure)) := by
  refine ⟨?_, ?_, ?_, ?_⟩
  · intro a b x y hlow ha hb
    exact self.sameSpan_of_lowEqual hoff hlow ha hb
  · exact self.sanitize_error_iff hoff
  · intro a hunknown
    exact self.sanitize_of_other (category_of_unknown hunknown)
  · intro inner spans a e hmem herror
    exact self.exportBatch_of_error hmem herror

end SanitizingSpanExporter

/-! Two conversations that differ in what the user wrote, and in the server's error text. -/

namespace Conversations

def message (text : String) : Json Binary64 :=
  .object [("role", .string "user"),
    ("parts", .list [.object [("type", .string "text"), ("content", .string text)]])]

def written (text : String) : String :=
  "[\x7b\"role\":\"user\",\"parts\":[\x7b\"type\":\"text\",\"content\":\"" ++ text ++ "\"\x7d]\x7d]"

/-- The two texts that are read, and the one that is written. -/
def lang : Lang where
  url := ⟨List.map Char.toLower, fun _ => true, fun _ => true⟩
  isDigit := Char.isDigit
  isDecimal := Char.isDigit
  loads text :=
    if text = written "I am ill" then .value (.list [message "I am ill"])
    else if text = written "Anna is ill" then .value (.list [message "Anna is ill"])
    else .valueError
  dumps _ := "[\x7b\"role\":\"user\",\"parts\":[\x7b\"type\":\"text\"\x7d]\x7d]"

def exporter : SanitizingSpanExporter := ⟨lang, "off", "synthetic_eval", false⟩

def messagesKey : String := "gen_ai.input.messages"

/-- The span of a conversation with one message and one exception. -/
def span (text : String) : ReadableSpan :=
  { name := "agent run", context := none, parent := none
    resource := [("service.name", .scalar (.str "api"))]
    attributes := [(messagesKey, .scalar (.str (written text)))]
    events := [⟨"exception", [("exception.type", .scalar (.str "ModelError")),
      ("exception.message", .scalar (.str text))], 7⟩]
    links := [], kind := .internal, status := ⟨.error, some text⟩
    startTime := some 5, endTime := some 9
    instrumentationScope := some ⟨"pydantic-ai", none, none, []⟩ }

theorem lowAttribute_span {text : String}
    (hloads : lang.loads (written text) = .value (.list [message text])) (key : String) :
    lowAttribute lang (span text).category (Dict.ofPairs (span text).attributes) key =
      if key = messagesKey then some (.messages [⟨some "user", some [⟨some "text", none, none⟩]⟩])
      else none := by
  have hcategory : (span text).category = .agent := rfl
  have hget : Dict.get? (Dict.ofPairs (span text).attributes) key =
      if messagesKey = key then some (.scalar (.str (written text))) else none := rfl
  rw [hcategory, lowAttribute, hget]
  by_cases hkey : key = messagesKey
  · subst hkey
    have hdeclared : ¬ Declared lang .agent messagesKey := not_declared_of_json lang (by decide)
    have hmember : messagesKey ∈ messageKeys := by decide
    rw [if_pos rfl, if_pos rfl, Option.bind_some, if_neg hdeclared]
    simp only [hmember, and_self, if_true]
    rw [messagesView, hloads]
    rfl
  · rw [if_neg hkey, if_neg (Ne.symm hkey)]
    rfl

theorem lowEqual : LowEqual lang (span "I am ill") (span "Anna is ill") where
  name := rfl
  context := rfl
  parent := rfl
  kind := rfl
  startTime := rfl
  endTime := rfl
  statusCode := rfl
  scope := rfl
  resource _ _ := rfl
  exceptions := by decide
  attributes key := by
    have hill : lang.loads (written "I am ill") = .value (.list [message "I am ill"]) := by rfl
    have hanna : lang.loads (written "Anna is ill") = .value (.list [message "Anna is ill"]) := rfl
    rw [lowAttribute_span hill, lowAttribute_span hanna]

theorem copied (text : String) : ∃ copy, exporter.sanitize (span text) = .ok copy := by
  cases hcopy : exporter.sanitize (span text) with
  | ok copy => exact ⟨copy, rfl⟩
  | error e =>
    -- this reader raises on no text
    obtain ⟨-, key, -, other, error, -, hraised⟩ :=
      (exporter.sanitize_error_iff (by decide) _).mp ⟨e, hcopy⟩
    have hnever : lang.loads other ≠ .raised error := by
      simp only [lang]
      split_ifs <;> exact nofun
    exact absurd hraised hnever

end Conversations

theorem SanitizingSpanExporter.conversations_look_alike :
    (Conversations.span "I am ill" ≠ Conversations.span "Anna is ill") ∧
      ∃ x y, Conversations.exporter.sanitize (Conversations.span "I am ill") = .ok x ∧
        Conversations.exporter.sanitize (Conversations.span "Anna is ill") = .ok y ∧
        SameSpan x y := by
  obtain ⟨x, hx⟩ := Conversations.copied "I am ill"
  obtain ⟨y, hy⟩ := Conversations.copied "Anna is ill"
  have hsame := (sanitize_noninterference Conversations.exporter (by decide)).1 _ _ x y
    Conversations.lowEqual hx hy
  exact ⟨by decide, x, y, hx, hy, hsame⟩

end ShiftMind.Telemetry
