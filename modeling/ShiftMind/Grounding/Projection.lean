import Mathlib.Data.List.Infix
import Mathlib.Data.Prod.Lex
import Mathlib.Data.String.Basic
import ShiftMind.Drafting.Resolve
import ShiftMind.Grounding.ResultId
import ShiftMind.Library.Dict
import ShiftMind.Library.Log
import ShiftMind.Library.Paging

/-!
# ShiftMind — the groups of the scenario projection

`adapters/postgres/scenario_projection.py`: a page of a group is a window of its records, filtered
and, where the query asks for it, sorted. The records are those of one immutable payload, so every
query of a group reads the same list.

* **`applyQuery`** — `_apply_query`.
* **`exists_pages`** — following the cursors gathers what matches, once each, in the order asked
  for.
-/

namespace ShiftMind.Projection

open Paging

/-! ## Queries -/

/-- A filter value: `str | int`. -/
inductive FilterValue where
  | text (s : String)
  | number (n : Int)
  deriving DecidableEq, Repr

structure GroupQueryV1 where
  cursor : Int := 0
  limit : Int := 50
  sort : Option String := none
  order : String := "asc"
  filters : List (String × FilterValue) := []
  deriving DecidableEq, Repr

/-- `SortTable`. -/
abbrev SortTable (T : Type) := List (String × SortKey T)

/-- `FilterTable`; a comparison may raise. -/
abbrev FilterTable (T : Type) := List (String × (T → FilterValue → Except String Bool))

variable {T : Type}

/-- `all(filters[name](item, value) for name, value in query.filters)`. -/
def passesAll (filters : FilterTable T) (item : T) :
    List (String × FilterValue) → Except String Bool
  | [] => .ok true
  | (name, value) :: rest =>
    match Dict.get? filters name with
    | none => .error s!"KeyError: {name}"
    | some passes =>
      match passes item value with
      | .error e => .error e
      | .ok false => .ok false
      | .ok true => passesAll filters item rest

/-- The items that pass, in their order. -/
def filterItems (filters : FilterTable T) (wanted : List (String × FilterValue)) :
    List T → Except String (List T)
  | [] => .ok []
  | item :: items =>
    match passesAll filters item wanted with
    | .error e => .error e
    | .ok passes => (filterItems filters wanted items).map fun rest =>
        if passes then item :: rest else rest

/-- `sorted`, by the record id and then by the key asked for. -/
def orderItems (recordId : T → String) (sorts : SortTable T) (query : GroupQueryV1)
    (filtered : List T) : Except String (List T) :=
  match query.sort with
  | none => .ok filtered
  | some name =>
    match Dict.get? sorts name with
    | none => .error s!"KeyError: {name}"
    | some key =>
      .ok ((if query.order = "desc" then key.reverse else key).sort (Log.sort recordId filtered))

/-- `_apply_query`: the page, the cursor of the next, how many there are and how many match. -/
def applyQuery (recordId : T → String) (items : List T) (query : GroupQueryV1)
    (sorts : SortTable T) (filters : FilterTable T) :
    Except String (List T × Option Int × Int × Int) := do
  let filtered ← filterItems filters query.filters items
  let ordered ← orderItems recordId sorts query filtered
  let (page, nextCursor) := window ordered query.cursor query.limit
  pure (page, nextCursor, items.length, filtered.length)

/-! ## The groups -/

/-- `_nullable_sort`: what is null goes last. -/
def nullableSort : Option String → Nat ×ₗ String
  | none => toLex (1, "")
  | some value => toLex (0, value)

/-- `item.field == value`. -/
def textIs (field : T → String) : T → FilterValue → Except String Bool :=
  fun item value => .ok (decide (value = .text (field item)))

/-- The same, of a field that may be null. -/
def nullableIs (field : T → Option String) : T → FilterValue → Except String Bool :=
  fun item value => .ok (decide (some value = (field item).map .text))

/-- `str(value).casefold() in item.name.casefold()`. -/
def nameContains (casefold : String → String) (name : T → String) :
    T → FilterValue → Except String Bool := fun item value =>
  let text := match value with
    | .text s => s
    | .number n => toString n
  .ok (decide ((casefold text).toList <:+: (casefold (name item)).toList))

/-- A comparison of a minute with a value: a text is in no order with a number. -/
def minuteIs (operator : String) (holds : Int → Int → Bool) (minute : T → Int) :
    T → FilterValue → Except String Bool
  | item, .number n => .ok (holds (minute item) n)
  | _, .text _ =>
    .error s!"TypeError: '{operator}' not supported between instances of 'int' and 'str'"

section Tables

variable (casefold : String → String)

def taskSorts : SortTable TaskV1 :=
  [("task_id", .ofKey (·.taskId)), ("name", .ofKey (·.name)), ("function", .ofKey (·.function)),
    ("area_id", .ofKey fun item => nullableSort (some item.areaId)),
    ("area_name", .ofKey (·.areaName))]

def taskFilters : FilterTable TaskV1 :=
  [("task_id", textIs (·.taskId)), ("name_contains", nameContains casefold (·.name)),
    ("function", textIs (·.function)), ("area_id", textIs (·.areaId))]

def workerSorts : SortTable WorkerV1 :=
  [("contact_id", .ofKey (·.contactId)), ("name", .ofKey (·.name)),
    ("employment_type", .ofKey (·.employmentType)), ("grade", .ofKey (·.grade)),
    ("contracted_hours", .ofKey (·.contractedHours))]

def workerFilters : FilterTable WorkerV1 :=
  [("contact_id", textIs (·.contactId)), ("name_contains", nameContains casefold (·.name)),
    ("employment_type", textIs (·.employmentType)), ("grade", textIs (·.grade)),
    ("qualified_task_id", fun item value =>
      .ok (item.qualifications.any fun qualification =>
        decide (value = .text qualification.taskId)))]

def demandSorts : SortTable DemandIntervalV1 :=
  [("start_minute", .ofKey (·.startMinute)), ("end_minute", .ofKey (·.endMinute)),
    ("task_id", .ofKey (·.taskId)), ("family", .ofKey fun item => ResultId.familyText item.family),
    ("amount", .ofKey (·.amount))]

def demandFilters : FilterTable DemandIntervalV1 :=
  [("family", textIs fun item => ResultId.familyText item.family), ("task_id", textIs (·.taskId)),
    ("area_id", nullableIs (·.areaId)),
    ("start_minute_gte", minuteIs ">=" (fun a b => decide (b ≤ a)) (·.startMinute)),
    ("end_minute_lte", minuteIs "<=" (fun a b => decide (a ≤ b)) (·.endMinute))]

def assignmentSorts : SortTable AssignmentV1 :=
  [("start_minute", .ofKey (·.startMinute)), ("worker_id", .ofKey (·.workerId)),
    ("task_id", .ofKey (·.taskId))]

def assignmentFilters : FilterTable AssignmentV1 :=
  [("worker_id", textIs (·.workerId)), ("task_id", textIs (·.taskId)),
    ("shift_id", nullableIs (·.shiftId))]

def lockSorts : SortTable LockV1 :=
  [("target_type", .ofKey (·.targetType)), ("target_ref", .ofKey (·.targetRef)),
    ("scope", .ofKey (·.scope)), ("source", .ofKey (·.source))]

def lockFilters : FilterTable LockV1 :=
  [("target_type", textIs (·.targetType)), ("target_ref", textIs (·.targetRef)),
    ("scope", textIs (·.scope)), ("source", textIs (·.source))]

def constraintSorts : SortTable Drafting.ConstraintV1 :=
  [("constraint_type", .ofKey (·.constraintType)),
    ("value_type", .ofKey fun item => nullableSort item.valueType)]

def constraintFilters : FilterTable Drafting.ConstraintV1 :=
  [("constraint_type", textIs (·.constraintType)), ("value_type", nullableIs (·.valueType))]

end Tables

/-! ## Pages -/

/-- A page of any group. -/
structure PageV1 (T : Type) where
  scenarioId : Uuid
  scenarioVersionId : Uuid
  siteId : Uuid
  items : List T
  nextCursor : Option Int
  totalCount : Int
  matchingCount : Int
  deriving DecidableEq, Repr

/-- What `_projection_row` selects of a scenario beside the payload. -/
structure ProjectionRow where
  scenarioId : Uuid
  scenarioVersionId : Uuid
  siteId : Uuid
  deriving DecidableEq, Repr

/-- `get_tasks` and its siblings: no page where there is no scenario. -/
def getGroup (row : Option ProjectionRow) (recordId : T → String) (items : List T)
    (sorts : SortTable T) (filters : FilterTable T) (query : GroupQueryV1) :
    Except String (Option (PageV1 T)) :=
  match row with
  | none => .ok none
  | some row => (applyQuery recordId items query sorts filters).map fun answer =>
      some ⟨row.scenarioId, row.scenarioVersionId, row.siteId, answer.1, answer.2.1, answer.2.2.1,
        answer.2.2.2⟩

/-! ## What a query matches

A query that succeeds keeps the items that pass all of its filters, in their order. -/

/-- The items that pass every filter. -/
def matching (filters : FilterTable T) (wanted : List (String × FilterValue)) (items : List T) :
    List T :=
  items.filter fun item => decide (passesAll filters item wanted = .ok true)

theorem filterItems_ok {filters : FilterTable T} {wanted : List (String × FilterValue)}
    {items filtered : List T} (h : filterItems filters wanted items = .ok filtered) :
    filtered = matching filters wanted items := by
  induction items generalizing filtered with
  | nil => cases h; rfl
  | cons item items ih =>
    rw [filterItems] at h
    cases hpasses : passesAll filters item wanted with
    | error e => rw [hpasses] at h; cases h
    | ok passes =>
      rw [hpasses] at h
      cases hrest : filterItems filters wanted items with
      | error e => simp only [hrest] at h; cases h
      | ok rest =>
        simp only [hrest] at h
        cases h
        have hmatching := ih hrest
        unfold matching at hmatching ⊢
        rw [List.filter_cons, hpasses, ← hmatching]
        cases passes <;> rfl

/-- Filters that raise on no item are applied. -/
theorem filterItems_of_ok {filters : FilterTable T} {wanted : List (String × FilterValue)}
    {items : List T} {p : T → Bool}
    (h : ∀ item ∈ items, passesAll filters item wanted = .ok (p item)) :
    filterItems filters wanted items = .ok (items.filter p) := by
  induction items with
  | nil => rfl
  | cons item items ih =>
    rw [filterItems, h item (List.mem_cons_self ..),
      ih fun item hitem => h item (List.mem_cons_of_mem _ hitem), List.filter_cons]
    rfl

/-- The order a query asks for. -/
def InOrder (recordId : T → String) (sorts : SortTable T) (query : GroupQueryV1)
    (filtered ordered : List T) : Prop :=
  match query.sort with
  | none => ordered = filtered
  | some name => ∃ key, Dict.get? sorts name = some key ∧
      ordered.Pairwise
        ((if query.order = "desc" then key.reverse else key).Before recordId)

theorem orderItems_ok {recordId : T → String} {sorts : SortTable T} {query : GroupQueryV1}
    {filtered ordered : List T} (hids : (filtered.map recordId).Nodup)
    (h : orderItems recordId sorts query filtered = .ok ordered) :
    ordered.Perm filtered ∧ InOrder recordId sorts query filtered ordered := by
  unfold orderItems at h
  unfold InOrder
  cases hsort : query.sort with
  | none =>
    simp only [hsort] at h
    cases h
    exact ⟨List.Perm.refl _, rfl⟩
  | some name =>
    simp only [hsort] at h
    cases hkey : Dict.get? sorts name with
    | none => rw [hkey] at h; cases h
    | some key =>
      rw [hkey] at h
      cases h
      have hdistinct : filtered.Pairwise fun a b => recordId a ≠ recordId b :=
        List.pairwise_map.mp hids
      exact ⟨(SortKey.perm_sort _).trans (Log.perm_sort filtered), key, hkey,
        SortKey.pairwise_sort (Log.increasing_sort hdistinct)⟩

/-- A query that raises nothing is answered by a window of what matches, in order. -/
theorem applyQuery_ok {recordId : T → String} {items filtered ordered : List T}
    (query : GroupQueryV1) {sorts : SortTable T} {filters : FilterTable T}
    (hfiltered : filterItems filters query.filters items = .ok filtered)
    (hordered : orderItems recordId sorts query filtered = .ok ordered) :
    applyQuery recordId items query sorts filters =
      .ok ((window ordered query.cursor query.limit).1,
        (window ordered query.cursor query.limit).2, items.length, filtered.length) := by
  unfold applyQuery
  rw [hfiltered]
  show (orderItems recordId sorts query filtered).bind _ = _
  rw [hordered]
  rfl

/-- A query that raises does so at every cursor. -/
theorem applyQuery_error {recordId : T → String} {items : List T} {query : GroupQueryV1}
    {sorts : SortTable T} {filters : FilterTable T} {error : String}
    (h : filterItems filters query.filters items = .error error ∨
      ∃ filtered, filterItems filters query.filters items = .ok filtered ∧
        orderItems recordId sorts query filtered = .error error) :
    applyQuery recordId items query sorts filters = .error error := by
  unfold applyQuery
  rcases h with h | ⟨filtered, hfiltered, hordered⟩
  · rw [h]
    rfl
  · rw [hfiltered]
    show (orderItems recordId sorts query filtered).bind _ = _
    rw [hordered]
    rfl

/-- What a reader gets at a cursor. -/
def pageAt (recordId : T → String) (items : List T) (query : GroupQueryV1) (sorts : SortTable T)
    (filters : FilterTable T) (cursor : Int) : Except String (List T × Option Int) :=
  (applyQuery recordId items { query with cursor := cursor } sorts filters).map fun answer =>
    (answer.1, answer.2.1)

/-- **The pages of a query**: together what matches, nothing lost or repeated, in the order asked
for. -/
structure Paged (recordId : T → String) (items : List T) (query : GroupQueryV1)
    (sorts : SortTable T) (filters : FilterTable T) (pages : List (List T)) : Prop where
  whole : pages.flatten.Perm (matching filters query.filters items)
  once : (pages.flatten.map recordId).Nodup
  order : InOrder recordId sorts query (matching filters query.filters items) pages.flatten

/-- **A query that raises nothing**: its sort key, if any, is in the table, and no filter raises. -/
structure Answerable (items : List T) (query : GroupQueryV1) (sorts : SortTable T)
    (filters : FilterTable T) : Prop where
  sort : ∀ name, query.sort = some name → ∃ key, Dict.get? sorts name = some key
  filters : ∃ filtered, filterItems filters query.filters items = .ok filtered

/-- What matches a query that raises nothing has an order. -/
theorem Answerable.orderItems {items : List T} {query : GroupQueryV1} {sorts : SortTable T}
    {filters : FilterTable T} (h : Answerable items query sorts filters)
    (recordId : T → String) (filtered : List T) :
    ∃ ordered, orderItems recordId sorts query filtered = .ok ordered := by
  unfold Projection.orderItems
  cases hsort : query.sort with
  | none => exact ⟨filtered, rfl⟩
  | some name =>
    obtain ⟨key, hkey⟩ := h.sort name hsort
    simp only [hkey]
    exact ⟨_, rfl⟩

/-- **Paging is lossless**: following the cursors of a query that raises nothing ends, and the pages
are those of the query. -/
theorem exists_pages {recordId : T → String} {items : List T} (hids : (items.map recordId).Nodup)
    {query : GroupQueryV1} (hlimit : 0 < query.limit) {sorts : SortTable T}
    {filters : FilterTable T} (hanswerable : Answerable items query sorts filters) :
    ∃ pages, Follows (pageAt recordId items query sorts filters) 0 pages ∧
      (∀ pages', Follows (pageAt recordId items query sorts filters) 0 pages' → pages' = pages) ∧
      Paged recordId items query sorts filters pages := by
  obtain ⟨filtered, hfiltered⟩ := hanswerable.filters
  obtain ⟨ordered, hordered⟩ := hanswerable.orderItems recordId filtered
  have hmatching := filterItems_ok hfiltered
  have hsublist : filtered.Sublist items := by
    rw [hmatching]
    exact List.filter_sublist
  have hordering := orderItems_ok ((hsublist.map recordId).nodup hids) hordered
  -- every cursor reads a window of the same list
  have hread : ∀ cursor : Int, pageAt recordId items query sorts filters cursor =
      .ok (window ordered cursor query.limit) := by
    intro cursor
    have hanswer := applyQuery_ok { query with cursor := cursor } hfiltered hordered
    unfold pageAt
    rw [hanswer]
    rfl
  obtain ⟨pages, hpages, hflatten⟩ := exists_follows hread hlimit le_rfl
  have hwhole : pages.flatten = ordered := hflatten
  refine ⟨pages, hpages, fun pages' hpages' => hpages'.unique hpages, ?_, ?_, ?_⟩
  · rw [hwhole, ← hmatching]
    exact hordering.1
  · rw [hwhole]
    exact (hordering.1.map recordId).nodup_iff.mpr ((hsublist.map recordId).nodup hids)
  · rw [hwhole, ← hmatching]
    exact hordering.2

/-- Any other query raises, at every cursor. -/
theorem pageAt_error {recordId : T → String} {items : List T} {query : GroupQueryV1}
    {sorts : SortTable T} {filters : FilterTable T}
    (hanswerable : ¬ Answerable items query sorts filters) :
    ∃ error, ∀ cursor, pageAt recordId items query sorts filters cursor = .error error := by
  -- the filters raise, or the sort key is unknown
  have hraise : ∃ error, filterItems filters query.filters items = .error error ∨
      ∃ filtered, filterItems filters query.filters items = .ok filtered ∧
        orderItems recordId sorts query filtered = .error error := by
    cases hfiltered : filterItems filters query.filters items with
    | error e => exact ⟨e, .inl rfl⟩
    | ok filtered =>
      cases hordered : orderItems recordId sorts query filtered with
      | error e => exact ⟨e, .inr ⟨filtered, rfl, hordered⟩⟩
      | ok ordered =>
        refine absurd ⟨?_, filtered, hfiltered⟩ hanswerable
        intro name hsort
        unfold orderItems at hordered
        rw [hsort] at hordered
        cases hkey : Dict.get? sorts name with
        | none => simp only [hkey] at hordered; cases hordered
        | some key => exact ⟨key, rfl⟩
  obtain ⟨error, hraise⟩ := hraise
  -- both come before the cursor is read
  refine ⟨error, fun cursor => ?_⟩
  have herror : applyQuery recordId items { query with cursor := cursor } sorts filters =
      .error error := applyQuery_error hraise
  unfold pageAt
  rw [herror]
  rfl

end ShiftMind.Projection
