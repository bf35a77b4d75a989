import ShiftMind.Fixtures.System

/-!
# ShiftMind — what the imports under way hold

* **`PhaseSound`** — the rows an import holds, by how far it has come; what other imports do leaves
  it so.
* **`StoreSound`** — the store and the imports agree, kept by each statement.
-/

namespace ShiftMind.Fixtures

open ReadCommitted Transition

/-! ## Rows of a key -/

/-- The version has the key of the call. -/
abbrev OfKey (call : ImportCall) (row : ScenarioVersionRow) : Prop :=
  row.siteId = call.siteId ∧ row.fixtureId = call.fixtureId ∧ row.version = call.version

theorem isVersionOf_some {call : ImportCall} {r : FixtureRow} {row : ScenarioVersionRow} :
    isVersionOf call r = some row ↔ r = .version row ∧ OfKey call row := by
  cases r with
  | version row' =>
    show (if OfKey call row' then some row' else none) = some row ↔ _
    rw [Option.ite_none_right_eq_some, Option.some.injEq]
    constructor
    · intro ⟨hkey, hsame⟩
      rw [← hsame]
      exact ⟨rfl, hkey⟩
    · intro ⟨hrow, hkey⟩
      have hsame := FixtureRow.version.inj hrow
      rw [hsame]
      exact ⟨hkey, rfl⟩
  | scenario id siteId fixtureId => simp [isVersionOf]
  | lineage siteId versionId sourcePackage sourcePath => simp [isVersionOf]

theorem isScenarioOf_some {call : ImportCall} {r : FixtureRow} {id : Uuid} :
    isScenarioOf call r = some id ↔ r = .scenario id call.siteId call.fixtureId := by
  cases r with
  | scenario id' siteId fixtureId =>
    show (if siteId = call.siteId ∧ fixtureId = call.fixtureId then some id' else none) = _ ↔ _
    rw [Option.ite_none_right_eq_some, Option.some.injEq, FixtureRow.scenario.injEq]
    constructor
    · intro ⟨hkey, hsame⟩
      exact ⟨hsame, hkey⟩
    · intro ⟨hsame, hkey⟩
      exact ⟨hkey, hsame⟩
  | version row => simp [isScenarioOf]
  | lineage siteId versionId sourcePackage sourcePath => simp [isScenarioOf]

theorem clash_version {a b : ScenarioVersionRow} :
    clash (.version a) (.version b) = true ↔ a.id = b.id ∨
      a.siteId = b.siteId ∧ a.fixtureId = b.fixtureId ∧ a.version = b.version := by
  simp [clash, and_assoc]

/-- Versions of one key clash. -/
theorem clash_of_key {call : ImportCall} {a b : ScenarioVersionRow} (ha : OfKey call a)
    (hb : OfKey call b) : clash (.version a) (.version b) = true := by
  simp [clash, ha.1, ha.2.1, ha.2.2, hb.1, hb.2.1, hb.2.2]

theorem findVersion_some {call : ImportCall} {rows : List FixtureRow} {row : ScenarioVersionRow}
    (h : rows.findSome? (isVersionOf call) = some row) : .version row ∈ rows ∧ OfKey call row := by
  obtain ⟨r, hr, hrow⟩ := List.exists_of_findSome?_eq_some h
  obtain ⟨rfl, hkey⟩ := isVersionOf_some.mp hrow
  exact ⟨hr, hkey⟩

theorem findVersion_none {call : ImportCall} {rows : List FixtureRow}
    (h : rows.findSome? (isVersionOf call) = none) {row : ScenarioVersionRow}
    (hmem : .version row ∈ rows) : ¬ OfKey call row := by
  intro hkey
  have hnone := List.findSome?_eq_none_iff.mp h _ hmem
  rw [isVersionOf_some.mpr ⟨rfl, hkey⟩] at hnone
  cases hnone

/-! ## The rows of an import

An open transaction holds exactly the rows that its phase has inserted. -/

/-- The rows an import holds are those of `P`. -/
def Holds (s : FixtureStore) (i : Import) (P : FixtureRow → Prop) : Prop :=
  ∀ row, (i.client, row) ∈ s.pending → P row

/-- What an import holds, by how far it has come. -/
def PhaseSound (s : FixtureStore) (i : Import) : Prop :=
  match i.phase with
  | .started => Holds s i fun _ => False
  | .upserted scenarioId | .absent scenarioId =>
    i.scenarioRow scenarioId ∈ s.visible i.client ∧
      Holds s i fun row => row = i.scenarioRow scenarioId
  | .refused scenarioId =>
    (Holds s i fun row => row = i.scenarioRow scenarioId) ∧
      ∃ row, .version row ∈ s.committed ∧ OfKey i.call row
  | .inserted row =>
    (i.client, .version row) ∈ s.pending ∧ row = i.versionRow row.id row.scenarioId ∧
      Holds s i fun r => r = .version row ∨ r = i.scenarioRow row.scenarioId
  | .recorded row =>
    (i.client, .version row) ∈ s.pending ∧ row = i.versionRow row.id row.scenarioId ∧
      (i.client, i.lineageRow row) ∈ s.pending ∧
      Holds s i fun r => r = .version row ∨ r = i.lineageRow row ∨ r = i.scenarioRow row.scenarioId

/-- What others do keeps what an import holds. -/
theorem PhaseSound.beside {s s' : FixtureStore} {i : Import} (h : PhaseSound s i)
    (hpending : ∀ row, (i.client, row) ∈ s'.pending ↔ (i.client, row) ∈ s.pending)
    (hcommitted : ∀ row ∈ s.committed, row ∈ s'.committed) : PhaseSound s' i := by
  -- what was visible stays so: rows are committed for good
  have hvisible : ∀ row, row ∈ s.visible i.client → row ∈ s'.visible i.client := by
    intro row hrow
    rw [Store.mem_visible] at hrow ⊢
    rw [hpending]
    exact hrow.imp (hcommitted row) id
  have hholds : ∀ P : FixtureRow → Prop, Holds s i P → Holds s' i P :=
    fun P hP row hrow => hP row ((hpending row).mp hrow)
  unfold PhaseSound at h ⊢
  cases hphase : i.phase with
  | started =>
    rw [hphase] at h
    exact hholds _ h
  | upserted scenarioId =>
    rw [hphase] at h
    exact ⟨hvisible _ h.1, hholds _ h.2⟩
  | absent scenarioId =>
    rw [hphase] at h
    exact ⟨hvisible _ h.1, hholds _ h.2⟩
  | refused scenarioId =>
    rw [hphase] at h
    obtain ⟨hown, row, hrow, hkey⟩ := h
    exact ⟨hholds _ hown, row, hcommitted _ hrow, hkey⟩
  | inserted row =>
    rw [hphase] at h
    exact ⟨(hpending _).mpr h.1, h.2.1, hholds _ h.2.2⟩
  | recorded row =>
    rw [hphase] at h
    exact ⟨(hpending _).mpr h.1, h.2.1, (hpending _).mpr h.2.2.1, hholds _ h.2.2.2⟩

/-! ## The store -/

/-- The store and the imports under way agree. -/
structure StoreSound (lang : FixtureLang) (store : FixtureStore) (imports : List Import) :
    Prop where
  unique : store.Unique clash
  clients : imports.Pairwise fun a b => a.client ≠ b.client
  owners : ∀ p ∈ store.pending, ∃ i ∈ imports, i.client = p.1
  phases : ∀ i ∈ imports, PhaseSound store i
  digests : ∀ i ∈ imports, checksum lang i.call.payload = .ok i.digest
  traced : ∀ siteId versionId sourcePackage sourcePath,
    .lineage siteId versionId sourcePackage sourcePath ∈ store.committed →
      ∃ row, .version row ∈ store.committed ∧ row.id = versionId ∧ row.siteId = siteId

section

variable {lang : FixtureLang} {store : FixtureStore} {imports : List Import}

/-- A committed row is held by nobody. -/
theorem StoreSound.not_pending (h : StoreSound lang store imports) {row : FixtureRow}
    (hcommitted : row ∈ store.committed) (c : Nat) : (c, row) ∉ store.pending := by
  intro hpending
  have hnodup := h.unique.nodup clash_self
  unfold Store.rows at hnodup
  exact (List.nodup_append.mp hnodup).2.2 row hcommitted row
    (List.mem_map.mpr ⟨_, hpending, rfl⟩) rfl

/-- A version that an import sees and does not hold is committed. -/
theorem StoreSound.committed_of_visible {i : Import} {row : ScenarioVersionRow}
    (hvisible : .version row ∈ store.visible i.client) {scenarioId : Uuid}
    (hholds : Holds store i fun r => r = i.scenarioRow scenarioId) :
    .version row ∈ store.committed := by
  cases Store.mem_visible.mp hvisible with
  | inl hcommitted => exact hcommitted
  | inr hpending => cases hholds _ hpending

/-- Two versions of one key, or of one id, are one. -/
theorem StoreSound.eq_of_clash (h : StoreSound lang store imports) {a b : FixtureRow}
    (ha : a ∈ store.rows) (hb : b ∈ store.rows) (hclash : clash a b = true) : a = b :=
  h.unique.eq_of_clash clash_comm ha hb hclash

/-- The other imports, once the rows of one client have changed and no committed row has gone. -/
theorem StoreSound.others {s' : FixtureStore} (h : StoreSound lang store imports) (c : Nat)
    (hpending : ∀ c', c' ≠ c → ∀ row, (c', row) ∈ s'.pending ↔ (c', row) ∈ store.pending)
    (hcommitted : ∀ row ∈ store.committed, row ∈ s'.committed) :
    ∀ i ∈ imports.filter (fun i => i.client ≠ c), PhaseSound s' i := by
  intro i hi
  obtain ⟨hmem, hne⟩ := List.mem_filter.mp hi
  exact (h.phases i hmem).beside (hpending i.client (of_decide_eq_true hne)) hcommitted

/-- An import goes on after it has inserted a row. -/
theorem StoreSound.insert (h : StoreSound lang store imports) {i : Import} (hi : i ∈ imports)
    {row : FixtureRow} (hwaits : ¬ store.Waits clash i.client row)
    (hfree : ∀ r ∈ store.visible i.client, clash r row = false) {phase : Phase}
    (hphase : PhaseSound (store.insert i.client row) { i with phase := phase }) :
    StoreSound lang (store.insert i.client row)
      ({ i with phase := phase } :: imports.filter fun j => j.client ≠ i.client) where
  unique := h.unique.insert hwaits hfree
  clients := by
    refine List.pairwise_cons.mpr ⟨fun j hj => ?_, h.clients.sublist List.filter_sublist⟩
    exact (of_decide_eq_true (List.mem_filter.mp hj).2 : j.client ≠ i.client).symm
  owners p hp := by
    have howner : ∃ j ∈ imports, j.client = p.1 := by
      cases Store.mem_pending_insert.mp hp with
      | inl hold => exact h.owners p hold
      | inr hnew => exact ⟨i, hi, by rw [hnew]⟩
    obtain ⟨j, hj, hclient⟩ := howner
    -- the import itself is listed in its new phase
    by_cases hsame : j.client = i.client
    · exact ⟨_, List.mem_cons_self, by rw [← hclient, hsame]⟩
    · exact ⟨j, List.mem_cons_of_mem _ (List.mem_filter.mpr ⟨hj, decide_eq_true hsame⟩), hclient⟩
  phases j hj := by
    cases List.mem_cons.mp hj with
    | inl hfirst =>
      rw [hfirst]
      exact hphase
    | inr hrest =>
      -- of the others nothing has changed
      have hpending : ∀ c', c' ≠ i.client → ∀ r,
          (c', r) ∈ (store.insert i.client row).pending ↔ (c', r) ∈ store.pending := by
        intro c' hne r
        rw [Store.mem_pending_insert]
        constructor
        · intro hor
          exact hor.resolve_right fun heq => hne (congrArg Prod.fst heq)
        · exact .inl
      exact h.others i.client hpending (fun r hr => hr) j hrest
  digests j hj := by
    cases List.mem_cons.mp hj with
    | inl hfirst =>
      rw [hfirst]
      exact h.digests i hi
    | inr hrest => exact h.digests j (List.mem_of_mem_filter hrest)
  traced := h.traced

/-- An import goes on without a write. -/
theorem StoreSound.goOn (h : StoreSound lang store imports) {i : Import} (hi : i ∈ imports)
    {phase : Phase} (hphase : PhaseSound store { i with phase := phase }) :
    StoreSound lang store
      ({ i with phase := phase } :: imports.filter fun j => j.client ≠ i.client) where
  unique := h.unique
  clients := by
    refine List.pairwise_cons.mpr ⟨fun j hj => ?_, h.clients.sublist List.filter_sublist⟩
    exact (of_decide_eq_true (List.mem_filter.mp hj).2 : j.client ≠ i.client).symm
  owners p hp := by
    obtain ⟨j, hj, hclient⟩ := h.owners p hp
    by_cases hsame : j.client = i.client
    · exact ⟨_, List.mem_cons_self, by rw [← hclient, hsame]⟩
    · exact ⟨j, List.mem_cons_of_mem _ (List.mem_filter.mpr ⟨hj, decide_eq_true hsame⟩), hclient⟩
  phases j hj := by
    cases List.mem_cons.mp hj with
    | inl hfirst =>
      rw [hfirst]
      exact hphase
    | inr hrest => exact h.phases j (List.mem_of_mem_filter hrest)
  digests j hj := by
    cases List.mem_cons.mp hj with
    | inl hfirst =>
      rw [hfirst]
      exact h.digests i hi
    | inr hrest => exact h.digests j (List.mem_of_mem_filter hrest)
  traced := h.traced

/-- The transaction of an import ends, with what it held or without. -/
theorem StoreSound.ends (h : StoreSound lang store imports) (c : Nat) {s' : FixtureStore}
    (hunique : s'.Unique clash)
    (hpending : ∀ p, p ∈ s'.pending ↔ p ∈ store.pending ∧ p.1 ≠ c)
    (hcommitted : ∀ row ∈ store.committed, row ∈ s'.committed)
    (htraced : ∀ siteId versionId sourcePackage sourcePath,
      .lineage siteId versionId sourcePackage sourcePath ∈ s'.committed →
        ∃ row, .version row ∈ s'.committed ∧ row.id = versionId ∧ row.siteId = siteId) :
    StoreSound lang s' (imports.filter fun j => j.client ≠ c) where
  unique := hunique
  clients := h.clients.sublist List.filter_sublist
  owners p hp := by
    obtain ⟨hmem, hne⟩ := (hpending p).mp hp
    obtain ⟨j, hj, hclient⟩ := h.owners p hmem
    exact ⟨j, List.mem_filter.mpr ⟨hj, decide_eq_true (by rw [hclient]; exact hne)⟩, hclient⟩
  phases := by
    refine h.others c ?_ hcommitted
    intro c' hne row
    rw [hpending]
    exact and_iff_left hne
  digests j hj := h.digests j (List.mem_of_mem_filter hj)
  traced := htraced

theorem StoreSound.abort (h : StoreSound lang store imports) (c : Nat) :
    StoreSound lang (store.abort c) (imports.filter fun j => j.client ≠ c) :=
  h.ends c (h.unique.abort c) (fun _ => Store.mem_pending_abort) (fun _ hrow => hrow) h.traced

theorem StoreSound.commit (h : StoreSound lang store imports) (c : Nat)
    (htraced : ∀ siteId versionId sourcePackage sourcePath,
      (c, .lineage siteId versionId sourcePackage sourcePath) ∈ store.pending →
        ∃ row, (c, .version row) ∈ store.pending ∧ row.id = versionId ∧ row.siteId = siteId) :
    StoreSound lang (store.commit c) (imports.filter fun j => j.client ≠ c) := by
  refine h.ends c (h.unique.commit clash_comm c) (fun _ => Store.mem_pending_commit)
    (fun row hrow => Store.mem_committed_commit.mpr (.inl hrow)) ?_
  intro siteId versionId sourcePackage sourcePath hmem
  cases Store.mem_committed_commit.mp hmem with
  | inl hold =>
    obtain ⟨row, hrow, hid⟩ := h.traced _ _ _ _ hold
    exact ⟨row, Store.mem_committed_commit.mpr (.inl hrow), hid⟩
  | inr hnew =>
    obtain ⟨row, hrow, hid⟩ := htraced _ _ _ _ hnew
    exact ⟨row, Store.mem_committed_commit.mpr (.inr hrow), hid⟩

end

end ShiftMind.Fixtures
