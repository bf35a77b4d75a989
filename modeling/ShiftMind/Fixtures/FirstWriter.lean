import ShiftMind.Fixtures.Invariant

/-!
# ShiftMind — the first import of a version wins

However the statements of concurrent imports interleave, the imports are answered as if each had
been a single step: the first to commit a version creates it, and whoever comes later is told of
that one, or of the conflict. Only an import whose data the database does not hold is told so
instead.

* **`Justified`** — the answer an atomic register would give, or the error of the import's own data.
* **`ImportInv`** — the committed versions are those the log has created.
* **`imports_first_writer`** — every log is a log of that register, and each version it created has
  its payload, its digest and exactly one lineage.
-/

namespace ShiftMind.Fixtures

open ReadCommitted Transition

/-! ## The register

The specification: an atomic register with one cell for each key, written by whoever is first. -/

/-- The version an answer reports as created, if it is of the key. -/
def createdUnder (call : ImportCall) (e : Answered) : Option FixtureImportResult :=
  match e.answer with
  | .result r =>
    if r.created = true ∧ r.siteId = call.siteId ∧ r.fixtureId = call.fixtureId ∧
        r.version = call.version then some r else none
  | _ => none

/-- The version that a log has created under the key of a call. -/
def createdIn (log : List Answered) (call : ImportCall) : Option FixtureImportResult :=
  log.findSome? (createdUnder call)

/-- The answer of an atomic register after a log: the first import under a key creates the version;
a later one is a replay if it has the same digest, and else a conflict. -/
def RegisterAnswer (before : List Answered) (e : Answered) : Prop :=
  match createdIn before e.call with
  | none => ∃ id, e.answer =
      .result ⟨id, e.call.siteId, e.call.fixtureId, e.call.version, e.digest, true⟩
  | some r => e.answer =
      if r.checksumDigest ≠ e.digest then .conflict conflictMessage
      else .result { r with created := false }

/-- An import is answered like that, unless its site does not exist or its data does not fit. -/
def Justified (lang : FixtureLang) (before : List Answered) (e : Answered) : Prop :=
  match e.answer with
  | .integrityError => e.call.siteId ∉ lang.sites
  | .dataError => e.call.fits = false
  | _ => RegisterAnswer before e

/-- The import behind a committed version. -/
structure CreatedBy (lang : FixtureLang) (store : FixtureStore) (row : ScenarioVersionRow)
    (e : Answered) : Prop where
  answer : e.answer = .result (toResult row true)
  digest : checksum lang e.call.payload = .ok row.checksumDigest
  key : OfKey e.call row
  payload : row.payload = e.call.payload
  lineage : .lineage row.siteId row.id e.call.sourcePackage e.call.sourcePath ∈ store.committed

/-- The committed versions are those the log has created. -/
structure ImportInv (lang : FixtureLang) (s : ImportSys) : Prop where
  store : StoreSound lang s.store s.imports
  created : ∀ row, .version row ∈ s.store.committed → ∃ e ∈ s.log, CreatedBy lang s.store row e
  logged : ∀ e ∈ s.log, ∀ r, e.answer = .result r → r.created = true →
    ∃ row, .version row ∈ s.store.committed ∧ r = toResult row true
  explained : Log.Explained (Justified lang) s.log

section

variable {lang : FixtureLang}

theorem createdUnder_some {call : ImportCall} {e : Answered} {r : FixtureImportResult} :
    createdUnder call e = some r ↔ e.answer = .result r ∧ r.created = true ∧
      r.siteId = call.siteId ∧ r.fixtureId = call.fixtureId ∧ r.version = call.version := by
  unfold createdUnder
  cases e.answer with
  | result r' =>
    show (if _ then some r' else none) = some r ↔ _
    rw [Option.ite_none_right_eq_some, Option.some.injEq, ImportAnswer.result.injEq]
    constructor
    · intro ⟨hcreated, hsame⟩
      rw [← hsame]
      exact ⟨rfl, hcreated⟩
    · intro ⟨hsame, hcreated⟩
      rw [hsame]
      exact ⟨hcreated, rfl⟩
  | conflict message => simp
  | integrityError => simp
  | dataError => simp

/-- An answer that is no error is that of the register. -/
theorem justified_of_register {before : List Answered} {e : Answered}
    (hno : e.answer ≠ .integrityError ∧ e.answer ≠ .dataError) (h : RegisterAnswer before e) :
    Justified lang before e := by
  unfold Justified
  split
  · rename_i herror
    exact absurd herror hno.1
  · rename_i herror
    exact absurd herror hno.2
  · exact h

/-- A replay and a conflict are no errors. -/
theorem replayOrReject_ne (existing : ScenarioVersionRow) (digest : String) :
    replayOrReject existing digest ≠ .integrityError ∧
      replayOrReject existing digest ≠ .dataError := by
  unfold replayOrReject
  constructor
  · intro h
    split_ifs at h
  · intro h
    split_ifs at h

/-- The committed version of a key is the one the log has created. -/
theorem ImportInv.createdIn_some {s : ImportSys} (h : ImportInv lang s) {call : ImportCall}
    {row : ScenarioVersionRow} (hrow : .version row ∈ s.store.committed)
    (hkey : OfKey call row) : createdIn s.log call = some (toResult row true) := by
  obtain ⟨e, he, hby⟩ := h.created row hrow
  cases hfind : createdIn s.log call with
  | none =>
    have hnone := List.findSome?_eq_none_iff.mp hfind e he
    rw [createdUnder_some.mpr ⟨hby.answer, rfl, hkey⟩] at hnone
    cases hnone
  | some r =>
    obtain ⟨e', he', hr⟩ := List.exists_of_findSome?_eq_some hfind
    obtain ⟨hanswer, hcreated, hkey'⟩ := createdUnder_some.mp hr
    obtain ⟨row', hrow', rfl⟩ := h.logged e' he' r hanswer hcreated
    -- one key has one version
    have hsame := h.store.eq_of_clash (Store.mem_rows_of_committed hrow')
      (Store.mem_rows_of_committed hrow) (clash_of_key hkey' hkey)
    rw [FixtureRow.version.inj hsame]

theorem ImportInv.createdIn_none {s : ImportSys} (h : ImportInv lang s) {call : ImportCall}
    (hnone : ∀ row, .version row ∈ s.store.committed → ¬ OfKey call row) :
    createdIn s.log call = none := by
  apply List.findSome?_eq_none_iff.mpr
  intro e he
  cases hunder : createdUnder call e with
  | none => rfl
  | some r =>
    obtain ⟨hanswer, hcreated, hkey⟩ := createdUnder_some.mp hunder
    obtain ⟨row, hrow, rfl⟩ := h.logged e he r hanswer hcreated
    exact absurd hkey (hnone row hrow)

/-! ## The steps keep the invariant

Each way a statement can end keeps what the log says of the committed rows. -/

theorem ImportInv.initial {s : ImportSys} (h : s.store = {} ∧ s.imports = [] ∧ s.log = []) :
    ImportInv lang s := by
  obtain ⟨hstore, himports, hlog⟩ := h
  constructor
  case store =>
    rw [hstore, himports]
    exact ⟨.nil, .nil, fun p hp => absurd hp List.not_mem_nil,
      fun i hi => absurd hi List.not_mem_nil, fun i hi => absurd hi List.not_mem_nil,
      fun _ _ _ _ hmem => absurd hmem List.not_mem_nil⟩
  case created =>
    rw [hstore]
    exact fun row hrow => absurd hrow List.not_mem_nil
  case logged =>
    rw [hlog]
    exact fun e he => absurd he List.not_mem_nil
  case explained =>
    rw [hlog]
    exact .nil

/-- A step that commits nothing and answers nobody. -/
theorem ImportInv.quiet {s : ImportSys} (h : ImportInv lang s) {store : FixtureStore}
    {imports : List Import} (hstore : StoreSound lang store imports)
    (hcommitted : store.committed = s.store.committed) :
    ImportInv lang { s with store := store, imports := imports } where
  store := hstore
  created row hrow := by
    obtain ⟨e, he, hby⟩ := h.created row (hcommitted ▸ hrow)
    exact ⟨e, he, hby.answer, hby.digest, hby.key, hby.payload, hcommitted ▸ hby.lineage⟩
  logged e he r hanswer hcreated := by
    obtain ⟨row, hrow, hr⟩ := h.logged e he r hanswer hcreated
    exact ⟨row, hcommitted ▸ hrow, hr⟩
  explained := h.explained

/-- An answer about a version that is there already. -/
theorem ImportInv.answer {s : ImportSys} (h : ImportInv lang s) {store : FixtureStore}
    {imports : List Import} (hstore : StoreSound lang store imports)
    (hcommitted : ∀ row ∈ s.store.committed, row ∈ store.committed)
    (hversions : ∀ row, .version row ∈ store.committed → .version row ∈ s.store.committed)
    {call : ImportCall} (digest : String) (received : Bool) {existing : ScenarioVersionRow}
    (hexisting : .version existing ∈ s.store.committed) (hkey : OfKey call existing) :
    ImportInv lang ⟨store, imports,
      s.log ++ [⟨call, digest, replayOrReject existing digest, received⟩]⟩ where
  store := hstore
  created row hrow := by
    obtain ⟨e, he, hby⟩ := h.created row (hversions row hrow)
    exact ⟨e, List.mem_append_left _ he, hby.answer, hby.digest, hby.key, hby.payload,
      hcommitted _ hby.lineage⟩
  logged e he r hanswer hcreated := by
    cases List.mem_append.mp he with
    | inl hold =>
      obtain ⟨row, hrow, hr⟩ := h.logged e hold r hanswer hcreated
      exact ⟨row, hcommitted _ hrow, hr⟩
    | inr hnew =>
      rw [List.mem_singleton.mp hnew] at hanswer
      unfold replayOrReject at hanswer
      split at hanswer
      · cases hanswer
      · rw [← ImportAnswer.result.inj hanswer] at hcreated
        cases hcreated
  explained := by
    apply h.explained.concat
    apply justified_of_register (replayOrReject_ne existing digest)
    unfold RegisterAnswer
    rw [h.createdIn_some hexisting hkey]
    rfl

/-- An import that ends with an error of its data takes everything back. -/
theorem ImportInv.fail {s : ImportSys} (h : ImportInv lang s) {i : Import} (received : Bool)
    {error : ImportAnswer} (herror : ∀ r, error ≠ .result r)
    (hjustified : Justified lang s.log ⟨i.call, i.digest, error, received⟩) :
    ImportInv lang (s.after i received (failWith s.store i error)) where
  store := h.store.abort i.client
  created row hrow := by
    obtain ⟨e, he, hby⟩ := h.created row hrow
    exact ⟨e, List.mem_append_left _ he, hby.answer, hby.digest, hby.key, hby.payload, hby.lineage⟩
  logged e he r hanswer hcreated := by
    cases List.mem_append.mp he with
    | inl hold => exact h.logged e hold r hanswer hcreated
    | inr hnew =>
      rw [List.mem_singleton.mp hnew] at hanswer
      exact absurd hanswer (herror r)
  explained := h.explained.concat hjustified

/-- So does one whose texts or payload do not fit. -/
theorem ImportInv.unfit {s : ImportSys} (h : ImportInv lang s) {i : Import} (received : Bool)
    (hfits : i.call.fits = false) :
    ImportInv lang (s.after i received (failWith s.store i .dataError)) :=
  h.fail received (fun r hr => by cases hr) hfits

/-- An import that sees a version of its key ends with it. -/
theorem ImportInv.endWith {s : ImportSys} (h : ImportInv lang s) {i : Import} (received : Bool)
    {existing : ScenarioVersionRow} (hexisting : .version existing ∈ s.store.committed)
    (hkey : OfKey i.call existing) {scenarioId : Uuid}
    (hholds : Holds s.store i fun r => r = i.scenarioRow scenarioId) :
    ImportInv lang (s.after i received (endWith s.store i existing)) := by
  -- the import holds its scenario only, so it commits neither version nor lineage
  have hpending : ∀ row, (i.client, FixtureRow.version row) ∉ s.store.pending := by
    intro row hrow
    cases hholds _ hrow
  have hlineage : ∀ siteId versionId sourcePackage sourcePath,
      (i.client, FixtureRow.lineage siteId versionId sourcePackage sourcePath) ∉
        s.store.pending := by
    intro _ _ _ _ hrow
    cases hholds _ hrow
  have hcommit := h.answer
    (h.store.commit i.client fun _ _ _ _ hmem => absurd hmem (hlineage _ _ _ _))
    (fun row hrow => Store.mem_committed_commit.mpr (.inl hrow))
    (fun row hrow => (Store.mem_committed_commit.mp hrow).resolve_right (hpending row))
    i.digest received hexisting hkey
  have habort := h.answer (h.store.abort i.client)
    (fun row hrow => hrow) (fun row hrow => hrow) i.digest received hexisting hkey
  unfold Fixtures.endWith
  -- it replays for the digest of the version, and is refused for another
  cases hanswer : replayOrReject existing i.digest with
  | result r =>
    rw [hanswer] at hcommit
    exact hcommit
  | conflict message =>
    rw [hanswer] at habort
    exact habort
  | integrityError => exact absurd hanswer (replayOrReject_ne existing i.digest).1
  | dataError => exact absurd hanswer (replayOrReject_ne existing i.digest).2

/-- An import starts. -/
theorem ImportInv.start {s : ImportSys} (h : ImportInv lang s) {client : Nat} {call : ImportCall}
    {digest : String} (hclient : ∀ i ∈ s.imports, i.client ≠ client)
    (hdigest : checksum lang call.payload = .ok digest) :
    ImportInv lang { s with imports := ⟨client, call, digest, .started⟩ :: s.imports } := by
  refine h.quiet ?_ rfl
  constructor
  case unique => exact h.store.unique
  case clients =>
    exact List.pairwise_cons.mpr ⟨fun j hj => (hclient j hj).symm, h.store.clients⟩
  case owners =>
    intro p hp
    obtain ⟨j, hj, howner⟩ := h.store.owners p hp
    exact ⟨j, List.mem_cons_of_mem _ hj, howner⟩
  case phases =>
    intro j hj
    cases List.mem_cons.mp hj with
    | inl hfirst =>
      rw [hfirst]
      -- whatever is pending belongs to an import that was there before
      intro row hrow
      obtain ⟨k, hk, howner⟩ := h.store.owners _ hrow
      exact hclient k hk howner
    | inr hrest => exact h.store.phases j hrest
  case digests =>
    intro j hj
    cases List.mem_cons.mp hj with
    | inl hfirst =>
      rw [hfirst]
      exact hdigest
    | inr hrest => exact h.store.digests j hrest
  case traced => exact h.store.traced

/-- No constraint refuses the lineage of a version that was inserted in the same transaction. -/
theorem ImportInv.lineage_free {s : ImportSys} (h : ImportInv lang s) {i : Import}
    {row : ScenarioVersionRow} (hpending : (i.client, .version row) ∈ s.store.pending)
    (hholds : Holds s.store i fun r => r = .version row ∨ r = i.scenarioRow row.scenarioId) :
    ∀ r ∈ s.store.visible i.client, clash r (i.lineageRow row) = false := by
  intro r hr
  cases r with
  | scenario id siteId fixtureId => rfl
  | version row' => rfl
  | lineage siteId versionId sourcePackage sourcePath =>
    apply Bool.eq_false_iff.mpr
    intro hclash
    have hversion : versionId = row.id := by
      simp [clash, Import.lineageRow] at hclash
      exact hclash.2
    cases Store.mem_visible.mp hr with
    | inl hcommitted =>
      -- its version is committed, and has the id of the one that is not
      obtain ⟨row', hrow', hid, -⟩ := h.store.traced _ _ _ _ hcommitted
      have hclash' : clash (.version row') (.version row) = true :=
        clash_version.mpr (.inl (hid.trans hversion))
      have hsame := h.store.eq_of_clash (Store.mem_rows_of_committed hrow')
        (Store.mem_rows_of_pending hpending) hclash'
      rw [hsame] at hrow'
      exact h.store.not_pending hrow' _ hpending
    | inr hown =>
      cases hholds _ hown with
      | inl heq => cases heq
      | inr heq => cases heq

/-- A version is committed, with its lineage. -/
theorem ImportInv.create {s : ImportSys} (h : ImportInv lang s) {i : Import} (hi : i ∈ s.imports)
    (received : Bool) {row : ScenarioVersionRow}
    (hpending : (i.client, .version row) ∈ s.store.pending)
    (hrow : row = i.versionRow row.id row.scenarioId)
    (hlineage : (i.client, i.lineageRow row) ∈ s.store.pending)
    (hholds : Holds s.store i fun r =>
      r = .version row ∨ r = i.lineageRow row ∨ r = i.scenarioRow row.scenarioId) :
    ImportInv lang ⟨s.store.commit i.client, s.others i.client,
      s.log ++ [⟨i.call, i.digest, .result (toResult row true), received⟩]⟩ := by
  have hkey : OfKey i.call row := by
    rw [hrow]
    exact ⟨rfl, rfl, rfl⟩
  have hsite : row.siteId = i.call.siteId := hkey.1
  constructor
  case store =>
    -- the transaction holds the version itself, its scenario and its one lineage row
    refine h.store.commit i.client ?_
    intro siteId versionId sourcePackage sourcePath hmem
    have heq : FixtureRow.lineage siteId versionId sourcePackage sourcePath = i.lineageRow row := by
      rcases hholds _ hmem with heq | heq | heq
      · cases heq
      · exact heq
      · cases heq
    obtain ⟨hsiteId, hversionId, -, -⟩ := FixtureRow.lineage.inj heq
    exact ⟨row, hpending, hversionId.symm, by rw [hsite, hsiteId]⟩
  case created =>
    intro row' hrow'
    cases Store.mem_committed_commit.mp hrow' with
    | inl hold =>
      obtain ⟨e, he, hby⟩ := h.created row' hold
      exact ⟨e, List.mem_append_left _ he, hby.answer, hby.digest, hby.key, hby.payload,
        Store.mem_committed_commit.mpr (.inl hby.lineage)⟩
    | inr hnew =>
      have hsame : row' = row := by
        rcases hholds _ hnew with heq | heq | heq
        · exact FixtureRow.version.inj heq
        · cases heq
        · cases heq
      subst hsame
      refine ⟨_, List.mem_append_right _ List.mem_cons_self, rfl, ?_, hkey, ?_, ?_⟩
      · rw [h.store.digests i hi, hrow]
        rfl
      · rw [hrow]
        rfl
      · rw [hsite]
        exact Store.mem_committed_commit.mpr (.inr hlineage)
  case logged =>
    intro e he r hanswer hcreated
    cases List.mem_append.mp he with
    | inl hold =>
      obtain ⟨row', hrow', hr⟩ := h.logged e hold r hanswer hcreated
      exact ⟨row', Store.mem_committed_commit.mpr (.inl hrow'), hr⟩
    | inr hnew =>
      rw [List.mem_singleton.mp hnew] at hanswer
      exact ⟨row, Store.mem_committed_commit.mpr (.inr hpending),
        (ImportAnswer.result.inj hanswer).symm⟩
  case explained =>
    apply h.explained.concat
    -- no import has created this version: the index would have refused the row
    have hnone : createdIn s.log i.call = none := by
      apply h.createdIn_none
      intro row' hrow' hkey'
      have hsame := h.store.eq_of_clash (Store.mem_rows_of_committed hrow')
        (Store.mem_rows_of_pending hpending) (clash_of_key hkey' hkey)
      rw [hsame] at hrow'
      exact h.store.not_pending hrow' _ hpending
    apply justified_of_register ⟨ImportAnswer.noConfusion, ImportAnswer.noConfusion⟩
    unfold RegisterAnswer
    rw [hnone]
    refine ⟨row.id, ?_⟩
    rw [hrow]
    rfl

/-! ### One statement, by phase -/

section Statement

variable {s : ImportSys} {i : Import} {fresh : Uuid}

/-- No constraint refuses a scenario that the import did not find. -/
theorem scenario_free
    (hunseen : ∀ row ∈ s.store.visible i.client, row.id? ≠ some fresh)
    (hfind : (s.store.visible i.client).findSome? (isScenarioOf i.call) = none) :
    ∀ r ∈ s.store.visible i.client, clash r (i.scenarioRow fresh) = false := by
  intro r hr
  cases r with
  | scenario id siteId fixtureId =>
    apply Bool.eq_false_iff.mpr
    intro hclash
    have hnone := List.findSome?_eq_none_iff.mp hfind _ hr
    simp [clash, Import.scenarioRow] at hclash
    cases hclash with
    | inl hid => exact hunseen _ hr (congrArg some hid)
    | inr hkey =>
      rw [isScenarioOf_some.mpr (by rw [hkey.1, hkey.2])] at hnone
      cases hnone
  | version row => rfl
  | lineage siteId versionId sourcePackage sourcePath => rfl

/-- The scenario is found, or inserted. -/
theorem ImportInv.upsert (h : ImportInv lang s) (hi : i ∈ s.imports) (received : Bool)
    (hat : i.phase = .started)
    (hwaits : ∀ row ∈ i.claims fresh, ¬ s.store.Waits clash i.client row)
    (hunseen : ∀ row ∈ s.store.visible i.client, row.id? ≠ some fresh) :
    ImportInv lang (s.after i received (statement lang.sites s.store i fresh)) := by
  have hphase := h.store.phases i hi
  unfold PhaseSound at hphase
  unfold Fixtures.statement
  rw [hat] at hphase
  simp only [hat]
  by_cases hfits : i.call.scenarioFits = false
  · rw [if_pos hfits]
    exact h.unfit received (by simp [ImportCall.fits, hfits])
  rw [if_neg hfits]
  have hclaimed : i.scenarioRow fresh ∈ i.claims fresh := by
    unfold Import.claims
    rw [hat]
    simp only
    rw [if_pos (by simpa using hfits)]
    rfl
  -- the scenario is there, or it is inserted if its site exists
  cases hfind : (s.store.visible i.client).findSome? (isScenarioOf i.call) with
  | some scenarioId =>
    obtain ⟨r, hr, hscenario⟩ := List.exists_of_findSome?_eq_some hfind
    rw [isScenarioOf_some.mp hscenario] at hr
    exact h.quiet (h.store.goOn hi ⟨hr, fun row hrow => (hphase row hrow).elim⟩) rfl
  | none =>
    simp only
    by_cases hsite : i.call.siteId ∉ lang.sites
    · rw [if_pos hsite]
      exact h.fail received (fun r hr => by cases hr) hsite
    rw [if_neg hsite]
    refine h.quiet
      (h.store.insert hi (hwaits _ hclaimed) (scenario_free hunseen hfind) ⟨?_, ?_⟩) rfl
    · exact Store.mem_visible.mpr (.inr (Store.mem_pending_insert.mpr (.inr rfl)))
    · intro row hrow
      cases Store.mem_pending_insert.mp hrow with
      | inl hold => exact (hphase row hold).elim
      | inr hnew => exact (Prod.mk.inj hnew).2

/-- A version is looked for. -/
theorem ImportInv.find (h : ImportInv lang s) (hi : i ∈ s.imports) (received : Bool)
    {scenarioId : Uuid} (hat : i.phase = .upserted scenarioId) :
    ImportInv lang (s.after i received (statement lang.sites s.store i fresh)) := by
  have hphase := h.store.phases i hi
  unfold PhaseSound at hphase
  unfold Fixtures.statement
  rw [hat] at hphase
  simp only [hat]
  split_ifs with hstorable
  · exact h.unfit received (by
      simp [ImportCall.fits, ImportCall.versionFits, fitsColumn, hstorable])
  cases hfind : (s.store.visible i.client).findSome? (isVersionOf i.call) with
  | some existing =>
    obtain ⟨hvisible, hkey⟩ := findVersion_some hfind
    exact h.endWith received (StoreSound.committed_of_visible hvisible hphase.2) hkey hphase.2
  | none => exact h.quiet (h.store.goOn hi hphase) rfl

/-- What refuses a version, under a new id and with its scenario there, is a committed version of
its key. -/
theorem exists_of_versionRefused {scenarioId : Uuid}
    (hunseen : ∀ row ∈ s.store.visible i.client, row.id? ≠ some fresh)
    (hscenario : i.scenarioRow scenarioId ∈ s.store.visible i.client)
    (hholds : Holds s.store i fun r => r = i.scenarioRow scenarioId)
    (hrefused : versionRefused (s.store.visible i.client) (i.versionRow fresh scenarioId) = true) :
    ∃ row, .version row ∈ s.store.committed ∧ OfKey i.call row := by
  unfold versionRefused at hrefused
  rw [Bool.or_eq_true] at hrefused
  cases hrefused with
  | inl hany =>
    obtain ⟨r, hr, hclash⟩ := List.any_eq_true.mp hany
    cases r with
    | version row =>
      cases clash_version.mp hclash with
      | inl hid => exact absurd (congrArg some hid) (hunseen _ hr)
      | inr hkey => exact ⟨row, StoreSound.committed_of_visible hr hholds, hkey⟩
    | scenario id siteId fixtureId => cases hclash
    | lineage siteId versionId sourcePackage sourcePath => cases hclash
  | inr hmissing =>
    rw [Bool.not_eq_true', List.any_eq_false] at hmissing
    exact absurd (by simp [Import.scenarioRow, Import.versionRow]) (hmissing _ hscenario)

/-- The version is inserted, or refused for one that another import has committed. -/
theorem ImportInv.insertVersion (h : ImportInv lang s) (hi : i ∈ s.imports) (received : Bool)
    {scenarioId : Uuid} (hat : i.phase = .absent scenarioId)
    (hwaits : ∀ row ∈ i.claims fresh, ¬ s.store.Waits clash i.client row)
    (hunseen : ∀ row ∈ s.store.visible i.client, row.id? ≠ some fresh) :
    ImportInv lang (s.after i received (statement lang.sites s.store i fresh)) := by
  have hphase := h.store.phases i hi
  unfold PhaseSound at hphase
  unfold Fixtures.statement
  rw [hat] at hphase
  obtain ⟨hscenario, hholds⟩ := hphase
  simp only [hat]
  -- a text or payload that its column refuses ends the import
  by_cases hfits : i.call.versionFits = false
  · rw [if_pos hfits]
    exact h.unfit received (by simp [ImportCall.fits, hfits])
  rw [if_neg hfits]
  -- the row is one of those the statement claims, so nobody holds it
  have hclaimed : FixtureRow.version (i.versionRow fresh scenarioId) ∈ i.claims fresh := by
    unfold Import.claims
    rw [hat]
    simp only
    rw [if_pos (by simpa using hfits)]
    rfl
  -- a refusal comes from a visible clash: the scenario is there and the version is not new
  split_ifs with hrefused
  · exact h.quiet (h.store.goOn hi
      ⟨hholds, exists_of_versionRefused hunseen hscenario hholds hrefused⟩) rfl
  · unfold versionRefused at hrefused
    rw [Bool.or_eq_true, not_or] at hrefused
    -- no visible row clashes, so the insert goes through
    have hfree : ∀ r ∈ s.store.visible i.client,
        clash r (.version (i.versionRow fresh scenarioId)) = false := by
      intro r hr
      exact Bool.eq_false_iff.mpr fun hclash => hrefused.1 (List.any_eq_true.mpr ⟨r, hr, hclash⟩)
    refine h.quiet (h.store.insert hi (hwaits _ hclaimed) hfree ⟨?_, rfl, ?_⟩) rfl
    · exact Store.mem_pending_insert.mpr (.inr rfl)
    · intro row hrow
      cases Store.mem_pending_insert.mp hrow with
      | inl hold => exact .inr (hholds row hold)
      | inr hnew => exact .inl (Prod.mk.inj hnew).2

/-- An import whose version was refused finds the one that was in its way. -/
theorem ImportInv.findAgain (h : ImportInv lang s) (hi : i ∈ s.imports) (received : Bool)
    {scenarioId : Uuid} (hat : i.phase = .refused scenarioId) :
    ImportInv lang (s.after i received (statement lang.sites s.store i fresh)) := by
  have hphase := h.store.phases i hi
  unfold PhaseSound at hphase
  unfold Fixtures.statement
  rw [hat] at hphase
  obtain ⟨hholds, row, hrow, hkey⟩ := hphase
  simp only [hat]
  cases hfind : (s.store.visible i.client).findSome? (isVersionOf i.call) with
  | some existing =>
    obtain ⟨hvisible, hkey'⟩ := findVersion_some hfind
    exact h.endWith received (StoreSound.committed_of_visible hvisible hholds) hkey' hholds
  | none => exact absurd hkey (findVersion_none hfind (Store.mem_visible.mpr (.inl hrow)))

/-- The lineage is inserted. -/
theorem ImportInv.insertLineage (h : ImportInv lang s) (hi : i ∈ s.imports) (received : Bool)
    {row : ScenarioVersionRow} (hat : i.phase = .inserted row)
    (hwaits : ∀ row ∈ i.claims fresh, ¬ s.store.Waits clash i.client row) :
    ImportInv lang (s.after i received (statement lang.sites s.store i fresh)) := by
  have hphase := h.store.phases i hi
  unfold PhaseSound at hphase
  unfold Fixtures.statement
  rw [hat] at hphase
  obtain ⟨hpending, hrow, hholds⟩ := hphase
  have hfree := h.lineage_free hpending hholds
  -- the version it names is the transaction's own, and its site is the import's
  have haccepted : lineageRefused (s.store.visible i.client) i.call.siteId row
      (i.lineageRow row) = false := by
    unfold lineageRefused
    rw [Bool.or_eq_false_iff]
    constructor
    · rw [List.any_eq_false]
      intro r hr
      rw [hfree r hr]
      exact Bool.false_ne_true
    · rw [Bool.not_eq_false', List.any_eq_true]
      refine ⟨_, Store.mem_visible.mpr (.inr hpending), ?_⟩
      have hsite : row.siteId = i.call.siteId := by rw [hrow]; rfl
      simp [hsite]
  simp only [hat]
  by_cases hfits : i.call.lineageFits = false
  · rw [if_pos hfits]
    exact h.unfit received (by simp [ImportCall.fits, hfits])
  rw [if_neg hfits]
  have hclaimed : i.lineageRow row ∈ i.claims fresh := by
    unfold Import.claims
    rw [hat]
    simp only
    rw [if_pos (by simpa using hfits)]
    rfl
  simp only [haccepted, Bool.false_eq_true, if_false]
  refine h.quiet (h.store.insert hi (hwaits _ hclaimed) hfree ⟨?_, hrow, ?_, ?_⟩) rfl
  · exact Store.mem_pending_insert.mpr (.inl hpending)
  · exact Store.mem_pending_insert.mpr (.inr rfl)
  · intro r hr
    cases Store.mem_pending_insert.mp hr with
    | inl hold => exact (hholds r hold).imp id .inr
    | inr hnew => exact .inr (.inl (Prod.mk.inj hnew).2)

/-- **One statement** of an import keeps the invariant. -/
theorem ImportInv.statement (h : ImportInv lang s) (hi : i ∈ s.imports) (received : Bool)
    (hwaits : ∀ row ∈ i.claims fresh, ¬ s.store.Waits clash i.client row)
    (hfresh : ∀ row ∈ s.store.rows, row.id? ≠ some fresh) :
    ImportInv lang (s.after i received (statement lang.sites s.store i fresh)) := by
  have hunseen : ∀ row ∈ s.store.visible i.client, row.id? ≠ some fresh := by
    intro row hrow
    cases Store.mem_visible.mp hrow with
    | inl hcommitted => exact hfresh row (Store.mem_rows_of_committed hcommitted)
    | inr hpending => exact hfresh row (Store.mem_rows_of_pending hpending)
  cases hat : i.phase with
  | started => exact h.upsert hi received hat hwaits hunseen
  | upserted scenarioId => exact h.find hi received hat
  | absent scenarioId => exact h.insertVersion hi received hat hwaits hunseen
  | refused scenarioId => exact h.findAgain hi received hat
  | inserted row => exact h.insertLineage hi received hat hwaits
  | recorded row =>
    have hphase := h.store.phases i hi
    unfold PhaseSound at hphase
    rw [hat] at hphase
    obtain ⟨hpending, hrow, hlineage, hholds⟩ := hphase
    unfold Fixtures.statement
    rw [hat]
    exact h.create hi received hpending hrow hlineage hholds

end Statement

theorem ImportSys.perform_start (s : ImportSys) (client : Nat) {call : ImportCall} {digest : String}
    (hdigest : checksum lang call.payload = .ok digest) :
    s.perform lang (.start client call) =
      { s with imports := ⟨client, call, digest, .started⟩ :: s.imports } := by
  unfold ImportSys.perform
  simp only [hdigest]

theorem importInv_reachable {s : ImportSys} (hreach : Reachable (importMachine lang).system s) :
    ImportInv lang s := by
  refine Machine.reachable_invariant (ImportInv lang) (fun s h => .initial h) ?_ hreach
  intro s a h ha
  cases a with
  | start client call =>
    obtain ⟨hclient, digest, hdigest⟩ := ha
    show ImportInv lang (s.perform lang (.start client call))
    rw [s.perform_start client hdigest]
    exact h.start hclient hdigest
  | statement i fresh received => exact h.statement ha.1 received ha.2.1 ha.2.2
  | lose i => exact h.quiet (h.store.abort i.client) rfl

/-! ## What is committed stays -/

theorem committed_statement (sites : List Uuid) (s : ImportSys) (i : Import) (fresh : Uuid)
    (received : Bool) : ∀ row ∈ s.store.committed,
      row ∈ (s.after i received (statement sites s.store i fresh)).store.committed := by
  intro row hrow
  have hends : ∀ existing,
      row ∈ (s.after i received (endWith s.store i existing)).store.committed := by
    intro existing
    unfold endWith
    split
    · exact Store.mem_committed_commit.mpr (.inl hrow)
    · exact hrow
  -- an error takes back what is not committed
  have hfails : ∀ error, row ∈ (s.after i received (failWith s.store i error)).store.committed :=
    fun error => hrow
  unfold statement
  cases i.phase with
  | started =>
    simp only
    split
    · exact hfails _
    · split
      · exact hrow
      · split
        · exact hfails _
        · exact hrow
  | upserted scenarioId =>
    simp only
    split
    · exact hfails _
    · split
      · exact hends _
      · exact hrow
  | absent scenarioId =>
    simp only
    split
    · exact hfails _
    · split <;> exact hrow
  | refused scenarioId =>
    simp only
    split
    · exact hends _
    · exact hfails _
  | inserted row' =>
    simp only
    split
    · exact hfails _
    · split
      · exact hfails _
      · exact hrow
  | recorded row' => exact Store.mem_committed_commit.mpr (.inl hrow)

theorem committed_run {s s' : ImportSys} (hreach : Reachable (importMachine lang).system s)
    (hrun : Run (importMachine lang).system s s') :
    ∀ row ∈ s.store.committed, row ∈ s'.store.committed := by
  refine Run.leads (R := fun s s' => ∀ row ∈ s.store.committed, row ∈ s'.store.committed)
    (fun _ _ h => h)
    (fun _ _ _ h h' row hrow => h' row (h row hrow)) ?_ hreach hrun
  rintro s s' - ⟨a, ha, rfl⟩ row hrow
  cases a with
  | start client call =>
    show row ∈ (ImportSys.perform lang s (.start client call)).store.committed
    unfold ImportSys.perform
    simp only
    split <;> exact hrow
  | statement i fresh received => exact committed_statement lang.sites s i fresh received row hrow
  | lose i => exact hrow

/-! ## The first import wins -/

/-- **The first import of a version wins.** However imports interleave and whichever connections are
lost: the answers are, in order and whether or not they arrive, those of an atomic register in which
the first import under a key creates the version and a later one is a replay or, with another
digest, a conflict; only an import to a site that does not exist, or with data that does not fit, is
told of another error; each committed version has the payload of the import that created it, the
digest of that payload and exactly the lineage of that import; and no run takes a version back. -/
theorem imports_first_writer {s : ImportSys} (hreach : Reachable (importMachine lang).system s) :
    (∀ before e after, s.log = before ++ e :: after → Justified lang before e) ∧
    (∀ row, .version row ∈ s.store.committed → ∃ e ∈ s.log,
      e.answer = .result (toResult row true) ∧ OfKey e.call row ∧ row.payload = e.call.payload ∧
      checksum lang row.payload = .ok row.checksumDigest ∧
      ∀ sourcePackage sourcePath,
        .lineage row.siteId row.id sourcePackage sourcePath ∈ s.store.committed ↔
          sourcePackage = e.call.sourcePackage ∧ sourcePath = e.call.sourcePath) ∧
    s.store.committed.Nodup ∧
    ∀ s', Run (importMachine lang).system s s' →
      ∀ row ∈ s.store.committed, row ∈ s'.store.committed := by
  have h := importInv_reachable hreach
  refine ⟨h.explained, ?_, ?_, fun s' hrun => committed_run hreach hrun⟩
  · intro row hrow
    obtain ⟨e, he, hby⟩ := h.created row hrow
    refine ⟨e, he, hby.answer, hby.key, hby.payload, by rw [hby.payload]; exact hby.digest, ?_⟩
    intro sourcePackage sourcePath
    constructor
    · intro hlineage
      -- the index leaves one lineage to a version
      have hsame := h.store.eq_of_clash (Store.mem_rows_of_committed hlineage)
        (Store.mem_rows_of_committed hby.lineage) (by simp [clash])
      obtain ⟨-, -, hpackage, hpath⟩ := FixtureRow.lineage.inj hsame
      exact ⟨hpackage, hpath⟩
    · rintro ⟨hpackage, hpath⟩
      rw [hpackage, hpath]
      exact hby.lineage
  · have hnodup := h.store.unique.nodup clash_self
    exact (List.nodup_append.mp hnodup).1

end

/-! ## Two imports that race -/

namespace Race

/-- SHA-256 of the two payloads below. -/
def lang : FixtureLang where
  floatText _ := []
  sha256 bytes :=
    if bytes.data.toList = "[]".toUTF8.data.toList then
      "4f53cda18c2baa0c0354bb5f9a3ecbe5ed12ab4d8e11ba873c2f11161202b945"
    else "44136fa355b3678a1146ad16f7e8649e94fb4fc21fe77e8310c060f61caaff8a"
  sites := [7]

def call (version : String) (payload : Json Binary64) : ImportCall :=
  ⟨7, "baseline-week", version, payload, "governed", "fixtures/baseline-week.json"⟩

/-- The next statement of a client, if it may run; client 1 is never told. -/
def next? (s : ImportSys) (step : Nat × Uuid) : Option ImportSys :=
  (s.imports.find? fun i => i.client = step.1).bind fun i =>
    if (∀ row ∈ (i.claims step.2).toList, ¬ s.store.Waits clash i.client row) ∧
        ∀ row ∈ s.store.rows, row.id? ≠ some step.2 then
      some (s.after i (decide (step.1 ≠ 1)) (statement lang.sites s.store i step.2))
    else none

theorem reachable_next? {s s' : ImportSys} (hreach : Reachable (importMachine lang).system s)
    {step : Nat × Uuid} (h : next? s step = some s') :
    Reachable (importMachine lang).system s' := by
  obtain ⟨i, hfind, hstep⟩ := Option.bind_eq_some_iff.mp h
  split at hstep
  · rename_i hready
    cases hstep
    refine hreach.step ⟨.statement i step.2 _, ⟨List.mem_of_find?_eq_some hfind, ?_, hready.2⟩, rfl⟩
    intro row hrow
    exact hready.1 row (Option.mem_toList.mpr hrow)
  · cases hstep

/-- The statements of several clients, in order. -/
def all? (s : ImportSys) : List (Nat × Uuid) → Option ImportSys
  | [] => some s
  | step :: steps => (next? s step).bind fun s' => all? s' steps

theorem reachable_all? {steps : List (Nat × Uuid)} :
    ∀ {s s' : ImportSys}, Reachable (importMachine lang).system s → all? s steps = some s' →
      Reachable (importMachine lang).system s' := by
  induction steps with
  | nil =>
    intro s s' hreach h
    rw [← Option.some.inj h]
    exact hreach
  | cons step steps ih =>
    intro s s' hreach h
    obtain ⟨s₁, hnext, hrest⟩ := Option.bind_eq_some_iff.mp h
    exact ih (reachable_next? hreach hnext) hrest

/-- An import that starts. -/
def begun (client : Nat) (version : String) (payload : Json Binary64) : Import :=
  ⟨client, call version payload, (checksum lang payload).toOption.getD "", .started⟩

/-- Four imports start: one of the first version, then three of the second. -/
def opened : ImportSys where
  imports := [begun 3 "2" (.list []), begun 2 "2" (.object []), begun 1 "2" (.list []),
    begun 0 "1" (.list [])]

theorem begin_reachable {s : ImportSys} (hreach : Reachable (importMachine lang).system s)
    (client : Nat) (version : String) (payload : Json Binary64)
    (hclient : ∀ i ∈ s.imports, i.client ≠ client)
    (hdigest : ∃ digest, checksum lang payload = .ok digest) :
    Reachable (importMachine lang).system
      { s with imports := begun client version payload :: s.imports } := by
  refine hreach.step ⟨.start client (call version payload), ⟨hclient, hdigest⟩, ?_⟩
  obtain ⟨digest, hdigest⟩ := hdigest
  show _ = s.perform lang (.start client (call version payload))
  unfold ImportSys.perform begun
  simp only [call, hdigest]
  rfl

theorem opened_reachable : Reachable (importMachine lang).system opened := by
  have hempty : Reachable (importMachine lang).system {} := .of_initial ⟨rfl, rfl, rfl⟩
  have hfirst := begin_reachable hempty 0 "1" (.list []) (by decide) ⟨_, rfl⟩
  have hsecond := begin_reachable hfirst 1 "2" (.list []) (by decide) ⟨_, rfl⟩
  have hthird := begin_reachable hsecond 2 "2" (.object []) (by decide) ⟨_, rfl⟩
  exact begin_reachable hthird 3 "2" (.list []) (by decide) ⟨_, rfl⟩

/-- The first version is imported; then two imports find no second version, and one of them is
first. The last import comes later. -/
def statements : List (Nat × Uuid) :=
  [(0, 10), (0, 11), (0, 12), (0, 13), (0, 14), (1, 20), (1, 21), (2, 22), (2, 23), (1, 24),
    (1, 25), (1, 26), (2, 27), (2, 28), (3, 29), (3, 30)]

def raced : ImportSys := (all? opened statements).getD {}

theorem raced_reachable : Reachable (importMachine lang).system raced := by
  have hraced : (all? opened statements).isSome = true := by decide +kernel
  obtain ⟨s, hs⟩ := Option.isSome_iff_exists.mp hraced
  have hsame : raced = s := by
    unfold raced
    rw [hs]
    rfl
  rw [hsame]
  exact reachable_all? opened_reachable hs

theorem raced_answers : raced.log.map (fun e => (e.answer, e.received)) =
    [(.result ⟨12, 7, "baseline-week", "1", (begun 0 "1" (.list [])).digest, true⟩, true),
      (.result ⟨24, 7, "baseline-week", "2", (begun 1 "2" (.list [])).digest, true⟩, false),
      (.conflict conflictMessage, true),
      (.result ⟨24, 7, "baseline-week", "2", (begun 3 "2" (.list [])).digest, false⟩, true)] := by
  decide +kernel

end Race

theorem imports_first_writer_race : ∃ before e after, Race.raced.log = before ++ e :: after ∧
    e.answer = .conflict conflictMessage ∧ Justified Race.lang before e := by
  obtain ⟨first, rest, hlog, -, hrest⟩ := List.map_eq_cons_iff.mp Race.raced_answers
  obtain ⟨second, rest, rfl, -, hrest⟩ := List.map_eq_cons_iff.mp hrest
  obtain ⟨third, rest, rfl, hthird, -⟩ := List.map_eq_cons_iff.mp hrest
  have hsplit : Race.raced.log = [first, second] ++ third :: rest := hlog
  exact ⟨[first, second], third, rest, hsplit, congrArg Prod.fst hthird,
    (imports_first_writer Race.raced_reachable).1 _ _ _ hsplit⟩

end ShiftMind.Fixtures
