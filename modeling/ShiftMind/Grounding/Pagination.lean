import ShiftMind.Grounding.Projection
import ShiftMind.Streaming.StreamCursor

/-!
# ShiftMind — draining a projection group

`application/grounding/pagination.py`: a loop that follows the cursors of a group until there is
none to follow, under a bound on the records and on the calls. The reader is an oracle that answers
each call by itself: its pages may contradict each other, and any call may raise.

* **`drainProjectionGroup`** — the loop.
* **`drain_gathered`** — what it returns is what the pages held, for every reader.
* **`drain_whole`** — on the projection it returns everything that matches.
-/

namespace ShiftMind.Projection

open Paging

/-- `MAX_PAGES`. -/
def maxPages : Nat := 512

/-- `CalculationError` and its kinds, each with its message, and what else a calculation may raise:
a `ZeroDivisionError`, and an exception of the reader. -/
inductive CalculationError where
  | base (message : String)
  | arguments (message : String)
  | scenarioNotFound (message : String)
  | versionMismatch (message : String)
  | siteMismatch (message : String)
  | limit (message : String)
  | dimension (message : String)
  | zeroDivision
  | raised (exception : String)
  deriving DecidableEq, Repr

/-- `str` of a UUID. -/
def uuidStr (u : Uuid) : String := String.ofList (StreamCursor.uuidText u)

/-- The answers of a reader, call by call. -/
abbrev Getter (T : Type) := Nat → GroupQueryV1 → Except String (Option (PageV1 T))

/-- What a drain is asked for. -/
structure DrainRequest where
  scenarioId : Uuid
  scenarioVersionId : Uuid
  siteId : Uuid
  pageSize : Int
  maxRows : Int
  filters : List (String × FilterValue) := []

/-- The variables of the loop, and the calls made. -/
structure DrainState (T : Type) where
  cursor : Int := 0
  items : List T := []
  matchingCount : Option Int := none
  seenCursors : List Int := []
  calls : Nat := 0

/-- What one pass of the loop leads to: the end of the loop after some calls, or another pass. -/
inductive Pass (T : Type) where
  | stop (result : Except CalculationError (List T)) (calls : Nat)
  | next (state : DrainState T)

section Drain

variable {T : Type} (getter : Getter T) (request : DrainRequest)

/-- The count that the pages agree on. -/
def checkedCount (known : Option Int) (page : PageV1 T) : Except CalculationError Int :=
  match known with
  | none =>
    if page.matchingCount > request.maxRows then
      .error (.limit
        s!"calculation requires {page.matchingCount} rows; bound is {request.maxRows}")
    else .ok page.matchingCount
  | some count =>
    if page.matchingCount ≠ count then
      .error (.base "matching_count changed while paging immutable projection")
    else .ok count

/-- What follows a page: everything, or the state of the next pass. -/
def admitPage (state : DrainState T) (page : PageV1 T) :
    Except CalculationError (List T ⊕ DrainState T) :=
  if page.scenarioVersionId ≠ request.scenarioVersionId then
    let found := uuidStr page.scenarioVersionId
    let pinned := uuidStr request.scenarioVersionId
    .error (.versionMismatch s!"page version {found} does not match pinned {pinned}")
  else if page.siteId ≠ request.siteId then
    let found := uuidStr page.siteId
    let trusted := uuidStr request.siteId
    .error (.siteMismatch s!"page site {found} does not match trusted {trusted}")
  else
    -- the count of the first page binds the others
    match checkedCount request state.matchingCount page with
    | .error e => .error e
    | .ok count =>
      let items := state.items ++ page.items
      if (items.length : Int) > request.maxRows then
        .error (.limit s!"calculation exceeded row bound {request.maxRows}")
      else
        match page.nextCursor with
        | none =>
          -- the last page: nothing may be missing
          if (items.length : Int) ≠ count then
            .error (.limit
              s!"projection ended after {items.length} of {count} matching rows")
          else .ok (.inl items)
        | some next =>
          if next ≤ state.cursor then .error (.limit "projection cursor did not advance")
          else .ok (.inr ⟨next, items, some count, state.seenCursors ++ [state.cursor],
            state.calls + 1⟩)

/-- The query of a pass. -/
def passQuery (state : DrainState T) : GroupQueryV1 :=
  { cursor := state.cursor
    limit := min request.pageSize (request.maxRows - state.items.length)
    filters := request.filters }

/-- One pass of the loop. -/
def drainPass (state : DrainState T) : Pass T :=
  if state.cursor ∈ state.seenCursors then
    .stop (.error (.limit "projection cursor did not advance")) state.calls
  else if request.maxRows - state.items.length < 1 then
    .stop (.error (.limit s!"calculation exceeded row bound {request.maxRows}")) state.calls
  else
    match getter state.calls (passQuery request state) with
    | .error e => .stop (.error (.raised e)) (state.calls + 1)
    | .ok none =>
      let scenario := uuidStr request.scenarioId
      .stop (.error (.scenarioNotFound s!"scenario {scenario} has no projection"))
        (state.calls + 1)
    | .ok (some page) =>
      match admitPage request state page with
      | .error e => .stop (.error e) (state.calls + 1)
      | .ok (.inl items) => .stop (.ok items) (state.calls + 1)
      | .ok (.inr next) => .next next

/-- `for _ in range(MAX_PAGES)`, with the number of calls made. -/
def drainLoop : Nat → DrainState T → Except CalculationError (List T) × Nat
  | 0, state =>
    (.error (.limit s!"projection did not terminate within {maxPages} pages"), state.calls)
  | fuel + 1, state =>
    match drainPass getter request state with
    | .stop result calls => (result, calls)
    | .next next => drainLoop fuel next

/-- `drain_projection_group`, with the number of calls made. -/
def drainProjectionGroup : Except CalculationError (List T) × Nat :=
  if request.pageSize < 1 ∨ request.maxRows < 1 then
    (.error (.arguments "page_size and max_rows must be positive"), 0)
  else drainLoop getter request maxPages {}

variable {getter request}

/-! ## Any reader

What the loop guarantees whatever the pages say: a bound on the calls, and pages that belong
together. -/

/-- What an admitted page must be. -/
theorem admitPage_ok {state : DrainState T} {page : PageV1 T} {after : List T ⊕ DrainState T}
    (h : admitPage request state page = .ok after) :
    page.scenarioVersionId = request.scenarioVersionId ∧ page.siteId = request.siteId ∧
      page.matchingCount = state.matchingCount.getD page.matchingCount ∧
      (state.matchingCount = none → page.matchingCount ≤ request.maxRows) ∧
      ((page.nextCursor = none ∧ after = .inl (state.items ++ page.items) ∧
          ((state.items ++ page.items).length : Int) = page.matchingCount) ∨
        ∃ next, page.nextCursor = some next ∧ state.cursor < next ∧
          after = .inr ⟨next, state.items ++ page.items, some page.matchingCount,
            state.seenCursors ++ [state.cursor], state.calls + 1⟩) := by
  unfold admitPage at h
  split at h
  · cases h
  · -- the page is of the version and the site that were asked for
    rename_i hversion
    split at h
    · cases h
    · rename_i hsite
      rw [not_ne_iff] at hversion hsite
      have hcounts : ∀ count, checkedCount request state.matchingCount page = .ok count →
          count = page.matchingCount ∧
            page.matchingCount = state.matchingCount.getD page.matchingCount ∧
            (state.matchingCount = none → page.matchingCount ≤ request.maxRows) := by
        intro count hcount
        unfold checkedCount at hcount
        cases hknown : state.matchingCount with
        | none =>
          -- the first page sets the count, within the bound
          simp only [hknown] at hcount
          split at hcount
          · cases hcount
          · rename_i hbound
            cases hcount
            exact ⟨rfl, rfl, fun _ => not_lt.mp hbound⟩
        | some known =>
          -- a later page repeats it
          simp only [hknown] at hcount
          split at hcount
          · cases hcount
          · rename_i hsame
            cases hcount
            rw [not_ne_iff] at hsame
            exact ⟨hsame.symm, hsame, nofun⟩
      cases hcount : checkedCount request state.matchingCount page with
      | error e => rw [hcount] at h; cases h
      | ok count =>
        obtain ⟨heq, hknown, hbound⟩ := hcounts count hcount
        rw [hcount] at h
        simp only at h
        split at h
        · cases h
        · refine ⟨hversion, hsite, hknown, hbound, ?_⟩
          cases hnext : page.nextCursor with
          | none =>
            -- the last page: everything counted has been read
            simp only [hnext] at h
            split at h
            · cases h
            · rename_i hall
              rw [not_ne_iff, heq] at hall
              cases h
              exact Or.inl ⟨rfl, rfl, hall⟩
          | some next =>
            -- another page, which starts behind this one
            simp only [hnext] at h
            split at h
            · cases h
            · rename_i hadvance
              cases h
              rw [heq]
              exact Or.inr ⟨next, rfl, not_le.mp hadvance, rfl⟩

/-- **After some calls**: the items are those of the pages, each of the pinned version and site, and
the count is that of the first page. -/
structure Gathered (getter : Getter T) (request : DrainRequest) (pages : List (PageV1 T))
    (calls : Nat) (items : List T) : Prop where
  calls_eq : pages.length = calls
  answered : ∀ i page, pages[i]? = some page → ∃ query, getter i query = .ok (some page) ∧
    query.filters = request.filters ∧ query.limit ≤ request.pageSize ∧
    (1 ≤ request.pageSize → 1 ≤ query.limit)
  pinned : ∀ page ∈ pages, page.scenarioVersionId = request.scenarioVersionId ∧
    page.siteId = request.siteId
  items_eq : items = pages.flatMap PageV1.items
  bounded : ∀ page, pages.head? = some page → page.matchingCount ≤ request.maxRows

/-- The state of the loop after some pages. -/
def Gathers (getter : Getter T) (request : DrainRequest) (state : DrainState T)
    (pages : List (PageV1 T)) : Prop :=
  Gathered getter request pages state.calls state.items ∧
    state.matchingCount = pages.head?.map PageV1.matchingCount

/-- One more page. -/
theorem Gathered.snoc {state : DrainState T} {pages : List (PageV1 T)} {page : PageV1 T}
    {after : List T ⊕ DrainState T} (h : Gathers getter request state pages)
    (hroom : ¬ request.maxRows - state.items.length < 1)
    (hpage : getter state.calls (passQuery request state) = .ok (some page))
    (hafter : admitPage request state page = .ok after) :
    Gathered getter request (pages ++ [page]) (state.calls + 1) (state.items ++ page.items) ∧
      some page.matchingCount = (pages ++ [page]).head?.map PageV1.matchingCount := by
  obtain ⟨hversion, hsite, hknown, hbound, -⟩ := admitPage_ok hafter
  obtain ⟨hgathered, hcount⟩ := h
  -- the count of the first page is the count of this one
  have hhead : some page.matchingCount = (pages ++ [page]).head?.map PageV1.matchingCount := by
    cases pages with
    | nil => rfl
    | cons first rest =>
      rw [hcount] at hknown
      rw [hknown]
      rfl
  refine ⟨⟨?_, ?_, ?_, ?_, ?_⟩, hhead⟩
  · rw [List.length_append, List.length_singleton, hgathered.calls_eq]
  · -- every call is answered by its own page
    intro i answer hi
    rw [List.getElem?_append] at hi
    split at hi
    · exact hgathered.answered i answer hi
    · rename_i hlast
      have hi' : i = state.calls ∧ answer = page := by
        rw [List.getElem?_singleton] at hi
        split at hi
        · have hlength := hgathered.calls_eq
          cases hi
          exact ⟨by omega, rfl⟩
        · cases hi
      rw [hi'.1, hi'.2]
      refine ⟨_, hpage, rfl, min_le_left _ _, fun hsize => ?_⟩
      show 1 ≤ min request.pageSize (request.maxRows - state.items.length)
      omega
  · intro answer hmem
    rcases List.mem_append.mp hmem with hmem | hmem
    · exact hgathered.pinned answer hmem
    · rw [List.mem_singleton.mp hmem]
      exact ⟨hversion, hsite⟩
  · rw [List.flatMap_append, ← hgathered.items_eq, List.flatMap_singleton]
  · intro first hfirst
    cases pages with
    | nil =>
      cases hfirst
      exact hbound hcount
    | cons head rest => exact hgathered.bounded first hfirst

/-- What a drain that returns has gathered: as many items as its first page said would match. -/
def Returned (getter : Getter T) (request : DrainRequest) (items : List T) (calls : Nat) : Prop :=
  ∃ pages, Gathered getter request pages calls items ∧
    pages.head?.map PageV1.matchingCount = some (items.length : Int)

theorem Returned.length_le {items : List T} {calls : Nat}
    (h : Returned getter request items calls) : (items.length : Int) ≤ request.maxRows := by
  obtain ⟨pages, hgathered, hcount⟩ := h
  cases hhead : pages.head? with
  | none => rw [hhead] at hcount; cases hcount
  | some first =>
    rw [hhead] at hcount
    have hfirst : first.matchingCount = items.length := Option.some.inj hcount
    rw [← hfirst]
    exact hgathered.bounded first hhead

/-- The loop calls the reader at most once a pass, and gathers. -/
theorem drainLoop_gathered {fuel : Nat} {state : DrainState T} {pages : List (PageV1 T)}
    {result : Except CalculationError (List T)} {calls : Nat}
    (h : Gathers getter request state pages)
    (hrun : drainLoop getter request fuel state = (result, calls)) :
    calls ≤ state.calls + fuel ∧
      ∀ items, result = .ok items → Returned getter request items calls := by
  induction fuel generalizing state pages with
  | zero =>
    cases hrun
    exact ⟨le_rfl, nofun⟩
  | succ fuel ih =>
    rw [drainLoop] at hrun
    unfold drainPass at hrun
    split at hrun
    · -- a pass that ends the loop before it calls, or by a call
      rename_i hpass
      cases hrun
      split at hpass
      · -- the cursor was seen before
        cases hpass
        exact ⟨by omega, nofun⟩
      · split at hpass
        · cases hpass
          exact ⟨by omega, nofun⟩
        · rename_i hroom
          split at hpass
          · cases hpass
            exact ⟨by omega, nofun⟩
          · cases hpass
            exact ⟨by omega, nofun⟩
          · -- the page is admitted as the last one
            rename_i page hpage
            split at hpass
            · cases hpass
              exact ⟨by omega, nofun⟩
            · rename_i items hadmit
              cases hpass
              refine ⟨by omega, fun found hfound => ?_⟩
              cases hfound
              obtain ⟨-, -, -, -, ⟨-, hitems, hall⟩ | ⟨next, -, -, hnext⟩⟩ := admitPage_ok hadmit
              · -- the pages so far and this one are what is returned
                have hmore := Gathered.snoc h hroom hpage hadmit
                cases hitems
                refine ⟨pages ++ [page], hmore.1, ?_⟩
                rw [← hmore.2, hall]
              · cases hnext
            · cases hpass
    · -- a pass that goes on has called once and gathered one page
      rename_i next hpass
      split at hpass
      · cases hpass
      · split at hpass
        · cases hpass
        · rename_i hroom
          split at hpass
          · cases hpass
          · cases hpass
          · rename_i page hpage
            split at hpass
            · cases hpass
            · cases hpass
            · rename_i state' hadmit
              cases hpass
              obtain ⟨-, -, -, -, ⟨-, hitems, -⟩ | ⟨cursor, -, -, hnext⟩⟩ := admitPage_ok hadmit
              · cases hitems
              · have hmore := Gathered.snoc h hroom hpage hadmit
                cases hnext
                have hrest := ih ⟨hmore.1, hmore.2⟩ hrun
                refine ⟨?_, hrest.2⟩
                have hcalls := hrest.1
                simp only at hcalls
                omega

theorem gathers_nil (getter : Getter T) (request : DrainRequest) :
    Gathers getter request {} [] :=
  ⟨⟨rfl, nofun, nofun, rfl, nofun⟩, rfl⟩

/-- **Draining is bounded**, for every reader: at most `MAX_PAGES` calls, and what is returned is
what the pages held. -/
theorem drain_gathered (getter : Getter T) (request : DrainRequest) :
    (drainProjectionGroup getter request).2 ≤ maxPages ∧
      ∀ items, (drainProjectionGroup getter request).1 = .ok items →
        Returned getter request items (drainProjectionGroup getter request).2 := by
  unfold drainProjectionGroup
  split
  · exact ⟨Nat.zero_le _, nofun⟩
  · have hrun := drainLoop_gathered (gathers_nil getter request)
      (show drainLoop getter request maxPages {} = (_, _) from rfl)
    refine ⟨?_, hrun.2⟩
    have hcalls := hrun.1
    simp only [Nat.zero_add] at hcalls
    exact hcalls

/-- A last page that completes the items. -/
theorem admitPage_last {state : DrainState T} {page : PageV1 T} {count : Int}
    (hversion : page.scenarioVersionId = request.scenarioVersionId)
    (hsite : page.siteId = request.siteId)
    (hcount : checkedCount request state.matchingCount page = .ok count)
    (hbound : ((state.items ++ page.items).length : Int) ≤ request.maxRows)
    (hnext : page.nextCursor = none) (hall : ((state.items ++ page.items).length : Int) = count) :
    admitPage request state page = .ok (.inl (state.items ++ page.items)) := by
  unfold admitPage
  rw [if_neg (not_ne_iff.mpr hversion), if_neg (not_ne_iff.mpr hsite), hcount]
  simp only [hnext]
  rw [if_neg (not_lt.mpr hbound), if_neg (not_ne_iff.mpr hall)]

/-- A page with more to follow. -/
theorem admitPage_next {state : DrainState T} {page : PageV1 T} {count next : Int}
    (hversion : page.scenarioVersionId = request.scenarioVersionId)
    (hsite : page.siteId = request.siteId)
    (hcount : checkedCount request state.matchingCount page = .ok count)
    (hbound : ((state.items ++ page.items).length : Int) ≤ request.maxRows)
    (hnext : page.nextCursor = some next) (hadvance : state.cursor < next) :
    admitPage request state page = .ok (.inr ⟨next, state.items ++ page.items, some count,
      state.seenCursors ++ [state.cursor], state.calls + 1⟩) := by
  unfold admitPage
  rw [if_neg (not_ne_iff.mpr hversion), if_neg (not_ne_iff.mpr hsite), hcount]
  simp only [hnext]
  rw [if_neg (not_lt.mpr hbound), if_neg (not_le.mpr hadvance)]

/-! ## The reader of the projection

The pages of the projection are slices of the filtered rows, so the loop gathers them all. -/

/-- A group of the projection, read page by page. -/
def groupGetter (row : Option ProjectionRow) (recordId : T → String) (items : List T)
    (sorts : SortTable T) (filters : FilterTable T) : Getter T :=
  fun _ query => getGroup row recordId items sorts filters query

variable {row : ProjectionRow} {recordId : T → String} {items filtered : List T}
  {sorts : SortTable T} {filters : FilterTable T}

/-- The state of the loop once a part of what matches was read. -/
structure Reading (request : DrainRequest) (filtered : List T) (state : DrainState T) : Prop where
  cursor_nonneg : 0 ≤ state.cursor
  inside : state.cursor = 0 ∨ state.cursor < filtered.length
  items_eq : state.items = filtered.take state.cursor.toNat
  count : state.matchingCount = none ∨ state.matchingCount = some (filtered.length : Int)
  seen : ∀ cursor ∈ state.seenCursors, cursor < state.cursor

theorem reading_nil (request : DrainRequest) (filtered : List T) : Reading request filtered {} :=
  ⟨le_rfl, Or.inl rfl, rfl, Or.inl rfl, nofun⟩

/-- The page that answers a pass. -/
def answerOf (row : ProjectionRow) (items filtered : List T) (query : GroupQueryV1) : PageV1 T where
  scenarioId := row.scenarioId
  scenarioVersionId := row.scenarioVersionId
  siteId := row.siteId
  items := (window filtered query.cursor query.limit).1
  nextCursor := (window filtered query.cursor query.limit).2
  totalCount := items.length
  matchingCount := filtered.length

theorem groupGetter_passQuery
    (hfiltered : filterItems filters request.filters items = .ok filtered) (state : DrainState T)
    (calls : Nat) :
    groupGetter (some row) recordId items sorts filters calls (passQuery request state) =
      .ok (some (answerOf row items filtered (passQuery request state))) := by
  have hordered : orderItems recordId sorts (passQuery request state) filtered = .ok filtered := rfl
  have hanswer := applyQuery_ok (passQuery request state) hfiltered hordered
  unfold groupGetter getGroup
  simp only [hanswer]
  rfl

/-- **A pass reads on**: it ends the loop with everything, or goes on by a page. -/
theorem drainPass_group (recordId : T → String) (sorts : SortTable T)
    (hversion : row.scenarioVersionId = request.scenarioVersionId)
    (hsite : row.siteId = request.siteId)
    (hfiltered : filterItems filters request.filters items = .ok filtered)
    (hpage : 1 ≤ request.pageSize) (hrows : 1 ≤ request.maxRows)
    (hbound : (filtered.length : Int) ≤ request.maxRows) {state : DrainState T}
    (h : Reading request filtered state) :
    if state.cursor + request.pageSize < filtered.length then
      ∃ next, drainPass (groupGetter (some row) recordId items sorts filters) request state =
        .next next ∧ next.cursor = state.cursor + request.pageSize ∧ Reading request filtered next
    else drainPass (groupGetter (some row) recordId items sorts filters) request state =
      .stop (.ok filtered) (state.calls + 1) := by
  -- the cursor is where the last page ended, so it is new and there is room for a row
  have hcursor := h.cursor_nonneg
  have hinside := h.inside
  have hunseen : state.cursor ∉ state.seenCursors := fun hmem => (h.seen _ hmem).false
  have hlength : (state.items.length : Int) = state.cursor := by
    rw [h.items_eq, List.length_take]
    omega
  have hroom : ¬ request.maxRows - state.items.length < 1 := by omega
  have hlimit : 0 ≤ min request.pageSize (request.maxRows - state.items.length) := by omega
  -- neither guard of the pass stops it: what is left is what `admitPage` makes of the page
  have hadmitted : ∀ after, admitPage request state
      (answerOf row items filtered (passQuery request state)) = after →
      drainPass (groupGetter (some row) recordId items sorts filters) request state =
        match after with
        | .error e => .stop (.error e) (state.calls + 1)
        | .ok (.inl found) => .stop (.ok found) (state.calls + 1)
        | .ok (.inr next) => .next next := by
    intro after hafter
    unfold drainPass
    rw [if_neg hunseen, if_neg hroom, groupGetter_passQuery hfiltered]
    simp only [hafter]
  -- the page is the rows from the cursor on, as many as the limit allows
  have hwindow := length_slice filtered hcursor hlimit
  have htaken := take_append_slice filtered hcursor hlimit
  -- what the page makes of the state
  have hcount : checkedCount request state.matchingCount
      (answerOf row items filtered (passQuery request state)) = .ok (filtered.length : Int) := by
    unfold checkedCount
    rcases h.count with hnone | hsome
    · rw [hnone]
      exact if_neg (not_lt.mpr hbound)
    · rw [hsome]
      exact if_neg (not_ne_iff.mpr rfl)
  have hitems : state.items ++ (answerOf row items filtered (passQuery request state)).items =
      filtered.take (state.cursor + (slice filtered state.cursor (state.cursor +
        min request.pageSize (request.maxRows - state.items.length))).length).toNat := by
    rw [← htaken, ← h.items_eq]
    rfl
  have hshort : ¬ ((state.items ++
      (answerOf row items filtered (passQuery request state)).items).length : Int) >
        request.maxRows := by
    rw [hitems, List.length_take]
    omega
  split
  · -- a full page, and rows behind it: the next cursor is a page further
    rename_i hmore
    have hread : ((slice filtered state.cursor (state.cursor +
        min request.pageSize (request.maxRows - state.items.length))).length : Int) =
          request.pageSize := by omega
    have hnext : (window filtered state.cursor
        (min request.pageSize (request.maxRows - state.items.length))).2 =
          some (state.cursor + request.pageSize) := by
      rw [window, hread, if_pos hmore]
    have hadmit := admitPage_next hversion hsite hcount (not_lt.mp hshort) hnext (by omega)
    refine ⟨_, hadmitted _ hadmit, rfl, ?_, ?_, ?_, ?_, ?_⟩
    · show 0 ≤ state.cursor + request.pageSize
      omega
    · exact Or.inr hmore
    · rw [hitems, hread]
    · exact Or.inr rfl
    · intro cursor hmem
      show cursor < state.cursor + request.pageSize
      rcases List.mem_append.mp hmem with hmem | hmem
      · have hlt := h.seen cursor hmem
        omega
      · rw [List.mem_singleton.mp hmem]
        omega
  · -- the page reaches the last row, and what has been read is everything
    rename_i hlast
    have hread : state.cursor + ((slice filtered state.cursor (state.cursor +
        min request.pageSize (request.maxRows - state.items.length))).length : Int) =
          filtered.length := by omega
    have hnext : (window filtered state.cursor
        (min request.pageSize (request.maxRows - state.items.length))).2 = none := by
      rw [window, if_neg (by omega)]
    have hwhole : state.items ++ (answerOf row items filtered (passQuery request state)).items =
        filtered := by
      rw [hitems, hread, Int.toNat_natCast, List.take_length]
    have hadmit := admitPage_last hversion hsite hcount (not_lt.mp hshort) hnext (by rw [hwhole])
    rw [hwhole] at hadmit
    exact hadmitted _ hadmit

/-- Enough passes read everything. -/
theorem drainLoop_group (hversion : row.scenarioVersionId = request.scenarioVersionId)
    (hsite : row.siteId = request.siteId)
    (hfiltered : filterItems filters request.filters items = .ok filtered)
    (hpage : 1 ≤ request.pageSize) (hrows : 1 ≤ request.maxRows)
    (hbound : (filtered.length : Int) ≤ request.maxRows) {fuel : Nat} {state : DrainState T}
    (h : Reading request filtered state)
    (hfuel : (filtered.length : Int) - state.cursor ≤ (fuel + 1 : Nat) * request.pageSize) :
    (drainLoop (groupGetter (some row) recordId items sorts filters) request (fuel + 1) state).1 =
      .ok filtered := by
  induction fuel generalizing state with
  | zero =>
    have hpass := drainPass_group recordId sorts hversion hsite hfiltered hpage hrows hbound h
    rw [if_neg (by push_cast at hfuel; omega)] at hpass
    rw [drainLoop, hpass]
  | succ fuel ih =>
    have hpass := drainPass_group recordId sorts hversion hsite hfiltered hpage hrows hbound h
    split at hpass
    · obtain ⟨next, hnext, hcursor, hreading⟩ := hpass
      rw [drainLoop, hnext]
      apply ih hreading
      rw [hcursor]
      push_cast at hfuel ⊢
      linarith
    · rw [drainLoop, hpass]

/-- **On the projection a drain returns everything that matches**, where that stays within the
bounds on the records and on the calls. -/
theorem drain_whole (hversion : row.scenarioVersionId = request.scenarioVersionId)
    (hsite : row.siteId = request.siteId)
    (hfiltered : filterItems filters request.filters items = .ok filtered)
    (hpage : 1 ≤ request.pageSize) (hrows : 1 ≤ request.maxRows)
    (hbound : (filtered.length : Int) ≤ request.maxRows)
    (hpages : (filtered.length : Int) ≤ maxPages * request.pageSize) :
    (drainProjectionGroup (groupGetter (some row) recordId items sorts filters) request).1 =
      .ok filtered := by
  unfold drainProjectionGroup
  rw [if_neg (by omega)]
  apply drainLoop_group hversion hsite hfiltered hpage hrows hbound (reading_nil request filtered)
  show (filtered.length : Int) - 0 ≤ _
  rw [sub_zero]
  exact hpages

/-- What a page of the projection says. -/
theorem getGroup_ok {query : GroupQueryV1} {page : PageV1 T}
    (h : getGroup (some row) recordId items sorts filters query = .ok (some page)) :
    ∃ filtered ordered, filterItems filters query.filters items = .ok filtered ∧
      page.matchingCount = filtered.length ∧
      page.items = (window ordered query.cursor query.limit).1 ∧
      page.scenarioVersionId = row.scenarioVersionId ∧ page.siteId = row.siteId := by
  unfold getGroup at h
  cases hfiltered : filterItems filters query.filters items with
  | error e =>
    rw [applyQuery_error (Or.inl hfiltered)] at h
    cases h
  | ok filtered =>
    cases hordered : orderItems recordId sorts query filtered with
    | error e =>
      rw [applyQuery_error (Or.inr ⟨filtered, hfiltered, hordered⟩)] at h
      cases h
    | ok ordered =>
      rw [applyQuery_ok query hfiltered hordered] at h
      cases h
      exact ⟨filtered, ordered, rfl, rfl, rfl, rfl, rfl⟩

theorem length_flatMap_le {β : Type} {bound : Int} {f : T → List β} (l : List T)
    (h : ∀ a ∈ l, ((f a).length : Int) ≤ bound) :
    ((l.flatMap f).length : Int) ≤ l.length * bound := by
  induction l with
  | nil => simp
  | cons a l ih =>
    rw [List.flatMap_cons, List.length_append, List.length_cons]
    have ha := h a (List.mem_cons_self ..)
    have hl := ih fun b hb => h b (List.mem_cons_of_mem _ hb)
    push_cast
    linarith

/-- **What a drain returns on the projection is what matches**, and stays within the bounds. -/
theorem drain_group_ok {found : List T}
    (h : (drainProjectionGroup (groupGetter (some row) recordId items sorts filters) request).1 =
      .ok found) :
    filterItems filters request.filters items = .ok found ∧
      row.scenarioVersionId = request.scenarioVersionId ∧ row.siteId = request.siteId ∧
      1 ≤ request.pageSize ∧ 1 ≤ request.maxRows ∧ (found.length : Int) ≤ request.maxRows ∧
      (found.length : Int) ≤ maxPages * request.pageSize := by
  have hdrain := drain_gathered (groupGetter (some row) recordId items sorts filters) request
  have hreturned := hdrain.2 found h
  have hrowBound := hreturned.length_le
  obtain ⟨pages, hgathered, hcount⟩ := hreturned
  have hsizes : 1 ≤ request.pageSize ∧ 1 ≤ request.maxRows := by
    unfold drainProjectionGroup at h
    split at h
    · cases h
    · omega
  -- every page is one of the projection
  have hanswer : ∀ page ∈ pages, ∃ filtered, filterItems filters request.filters items =
      .ok filtered ∧ page.matchingCount = filtered.length ∧
      (page.items.length : Int) ≤ request.pageSize ∧
      row.scenarioVersionId = request.scenarioVersionId ∧ row.siteId = request.siteId := by
    intro page hmem
    obtain ⟨i, hi⟩ := List.mem_iff_getElem?.mp hmem
    obtain ⟨query, hquery, hfilters, hlimit, hpositive⟩ := hgathered.answered i page hi
    obtain ⟨filtered, ordered, hfiltered, hmatching, hitems, hversion, hsite⟩ := getGroup_ok hquery
    have hpinned := hgathered.pinned page hmem
    refine ⟨filtered, ?_, hmatching, ?_, hversion ▸ hpinned.1, hsite ▸ hpinned.2⟩
    · rw [← hfilters]
      exact hfiltered
    · have hnonneg : 0 ≤ query.limit := by
        have hpositive := hpositive hsizes.1
        omega
      have hslice : ((slice ordered query.cursor (query.cursor + query.limit)).length : Int) ≤
          query.limit := length_slice_le ordered hnonneg
      rw [hitems]
      exact hslice.trans hlimit
  cases pages with
  | nil => cases hcount
  | cons first rest =>
    obtain ⟨filtered, hfiltered, hmatching, -, hversion, hsite⟩ :=
      hanswer first (List.mem_cons_self ..)
    have hlength : (found.length : Int) = filtered.length :=
      (Option.some.inj hcount).symm.trans hmatching
    have hpages : (found.length : Int) ≤ maxPages * request.pageSize := by
      have hsum := length_flatMap_le (first :: rest) fun page hmem =>
        (hanswer page hmem).choose_spec.2.2.1
      rw [← hgathered.items_eq, hgathered.calls_eq] at hsum
      refine hsum.trans ?_
      apply mul_le_mul_of_nonneg_right _ (by omega)
      exact_mod_cast hdrain.1
    have hwhole : (drainProjectionGroup (groupGetter (some row) recordId items sorts filters)
        request).1 = .ok filtered :=
      drain_whole hversion hsite hfiltered hsizes.1 hsizes.2 (hlength ▸ hrowBound)
        (hlength ▸ hpages)
    rw [hwhole] at h
    cases h
    exact ⟨hfiltered, hversion, hsite, hsizes.1, hsizes.2, hrowBound, hpages⟩

end Drain

/-! ## Paging -/

/-- **Paging is lossless and bounded.** A query whose sort key is known and whose filters do not
raise has pages, and they are together what it asks for; any other raises at every cursor. A drain
makes at most `MAX_PAGES` calls and returns what the first page counted or raises; on the projection
it returns all that matches, within its bounds. -/
theorem paging_lossless_and_bounded (T : Type) :
    (∀ (recordId : T → String) (items : List T), (items.map recordId).Nodup →
      ∀ query : GroupQueryV1, 0 < query.limit →
      ∀ (sorts : SortTable T) (filters : FilterTable T),
        (Answerable items query sorts filters →
          ∃ pages, Follows (pageAt recordId items query sorts filters) 0 pages ∧
            (∀ pages', Follows (pageAt recordId items query sorts filters) 0 pages' →
              pages' = pages) ∧
            Paged recordId items query sorts filters pages) ∧
        (¬ Answerable items query sorts filters →
          ∃ error, ∀ cursor, pageAt recordId items query sorts filters cursor = .error error)) ∧
    (∀ (getter : Getter T) (request : DrainRequest),
      (drainProjectionGroup getter request).2 ≤ maxPages ∧
      ∀ items, (drainProjectionGroup getter request).1 = .ok items →
        Returned getter request items (drainProjectionGroup getter request).2 ∧
          (items.length : Int) ≤ request.maxRows) ∧
    (∀ (row : ProjectionRow) (recordId : T → String) (items filtered : List T)
      (sorts : SortTable T) (filters : FilterTable T) (request : DrainRequest),
      row.scenarioVersionId = request.scenarioVersionId → row.siteId = request.siteId →
      filterItems filters request.filters items = .ok filtered →
      1 ≤ request.pageSize → 1 ≤ request.maxRows → (filtered.length : Int) ≤ request.maxRows →
      (filtered.length : Int) ≤ maxPages * request.pageSize →
      (drainProjectionGroup (groupGetter (some row) recordId items sorts filters) request).1 =
        .ok filtered) := by
  refine ⟨?_, ?_, ?_⟩
  · intro recordId items hids query hlimit sorts filters
    exact ⟨exists_pages hids hlimit, pageAt_error⟩
  · intro getter request
    have hdrain := drain_gathered getter request
    refine ⟨hdrain.1, fun items hitems => ?_⟩
    have hreturned := hdrain.2 items hitems
    exact ⟨hreturned, hreturned.length_le⟩
  · intro row recordId items filtered sorts filters request hversion hsite hfiltered hpage hrows
      hbound hpages
    exact drain_whole hversion hsite hfiltered hpage hrows hbound hpages

namespace ThreeRows

def row : ProjectionRow := ⟨1, 2, 3⟩

def demand : List DemandIntervalV1 :=
  [⟨"outbound:0", .outbound, "pick", none, 0, 60, 5, .volume⟩,
    ⟨"outbound:1", .outbound, "pack", none, 60, 120, 4, .volume⟩,
    ⟨"indirect:0", .indirect, "pick", none, 0, 480, 2, .headcount⟩]

/-- The rows of one task, the latest first, one a page. -/
def query : GroupQueryV1 :=
  { limit := 1, sort := some "start_minute", order := "desc",
    filters := [("task_id", .text "pick")] }

def request : DrainRequest := ⟨1, 2, 3, 1, 10, [("task_id", .text "pick")]⟩

def picks : List DemandIntervalV1 :=
  [⟨"outbound:0", .outbound, "pick", none, 0, 60, 5, .volume⟩,
    ⟨"indirect:0", .indirect, "pick", none, 0, 480, 2, .headcount⟩]

end ThreeRows

open ThreeRows in
theorem paging_three_rows :
    (∃ pages, Follows (pageAt DemandIntervalV1.recordId demand query demandSorts demandFilters) 0
        pages ∧
      Paged DemandIntervalV1.recordId demand query demandSorts demandFilters pages) ∧
    (drainProjectionGroup (groupGetter (some row) DemandIntervalV1.recordId demand demandSorts
      demandFilters) request).1 = .ok picks := by
  constructor
  · have hanswerable : Answerable demand query demandSorts demandFilters := by
      constructor
      · intro name hsort
        cases hsort
        exact ⟨_, rfl⟩
      · exact ⟨picks, by decide +kernel⟩
    obtain ⟨pages, hpages, -, hpaged⟩ := ((paging_lossless_and_bounded DemandIntervalV1).1
      DemandIntervalV1.recordId demand (by decide) query (by decide) demandSorts
      demandFilters).1 hanswerable
    exact ⟨pages, hpages, hpaged⟩
  · exact (paging_lossless_and_bounded DemandIntervalV1).2.2 row DemandIntervalV1.recordId demand
      picks demandSorts demandFilters request rfl rfl rfl (by decide) (by decide) (by decide)
      (by decide)

end ShiftMind.Projection
