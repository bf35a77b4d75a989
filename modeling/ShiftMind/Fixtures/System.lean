import ShiftMind.Contracts.Canonical
import ShiftMind.Contracts.Scenario
import ShiftMind.Library.Explained
import ShiftMind.Library.ReadCommitted
import ShiftMind.Library.Transition
import ShiftMind.Store.Columns

/-!
# ShiftMind — importing fixtures, interleaved

`adapters/postgres/fixture_history.py`. An import is one transaction of several statements, and any
number of them run at once: between the statement that looks for a version and the one that inserts
it, another import may have committed that version.

* **`FixtureRow`** — the rows of `scenario`, `scenario_version` and `fixture_lineage`, with their
  unique indexes.
* **`statement`** — the next statement of an import, by its `Phase`.
* **`ImportSys`** — the store, the imports under way and the log of what they were answered.

A statement waits while another open transaction holds the key it is about to insert. A text that
its column does not hold and a site that does not exist end the transaction. A connection may be
lost before the transaction ends, which takes it back, or after it was committed, so that its answer
does not arrive. The constants of the checksum are left out.
-/

namespace ShiftMind.Fixtures

open ReadCommitted Transition

/-! ## Rows -/

structure ScenarioVersionRow where
  id : Uuid
  siteId : Uuid
  scenarioId : Uuid
  fixtureId : String
  version : String
  payload : Json Binary64
  checksumDigest : String

inductive FixtureRow where
  | scenario (id siteId : Uuid) (fixtureId : String)
  | version (row : ScenarioVersionRow)
  | lineage (siteId scenarioVersionId : Uuid) (sourcePackage sourcePath : String)

/-- The generated primary key, where something reads it. -/
def FixtureRow.id? : FixtureRow → Option Uuid
  | .scenario id _ _ => some id
  | .version row => some row.id
  | .lineage .. => none

/-- The unique indexes of the three tables. -/
def clash : FixtureRow → FixtureRow → Bool
  | .scenario id siteId fixtureId, .scenario id' siteId' fixtureId' =>
    decide (id = id') || (decide (siteId = siteId') && decide (fixtureId = fixtureId'))
  | .version a, .version b =>
    decide (a.id = b.id) || (decide (a.siteId = b.siteId) &&
      decide (a.fixtureId = b.fixtureId) && decide (a.version = b.version))
  | .lineage siteId versionId _ _, .lineage siteId' versionId' _ _ =>
    decide (siteId = siteId') && decide (versionId = versionId')
  | _, _ => false

theorem clash_comm (a b : FixtureRow) : clash a b = clash b a := by
  cases a <;> cases b <;> simp [clash, eq_comm]

theorem clash_self (a : FixtureRow) : clash a a = true := by
  cases a <;> simp [clash]

/-! ## Imports

An import is a transaction of statements; its phase says which comes next. -/

/-- The canonical text of a number, SHA-256 in hexadecimal, and the sites there are. -/
structure FixtureLang where
  floatText : ℚ → List Char
  sha256 : ByteArray → String
  sites : List Uuid

/-- The digest of a payload. -/
def checksum (lang : FixtureLang) (payload : Json Binary64) : Except String String :=
  (canonicalizeJson lang.floatText payload).map lang.sha256

/-- The arguments of `import_fixture`. -/
structure ImportCall where
  siteId : Uuid
  fixtureId : String
  version : String
  payload : Json Binary64
  sourcePackage : String
  sourcePath : String

/-- A text fits a column of at most `n` characters. -/
def fitsColumn (n : Nat) (text : String) : Bool := decide (text.length ≤ n) && storableText text

namespace ImportCall

/-- The texts of the scenario fit their columns. -/
def scenarioFits (call : ImportCall) : Bool := fitsColumn 200 call.fixtureId

/-- Those of the version do, and the JSON column holds the payload. -/
def versionFits (call : ImportCall) : Bool :=
  fitsColumn 100 call.version && call.payload.texts.all storableText

/-- Those of the lineage do. -/
def lineageFits (call : ImportCall) : Bool :=
  fitsColumn 200 call.sourcePackage && storableText call.sourcePath

/-- Everything fits. -/
def fits (call : ImportCall) : Bool := call.scenarioFits && call.versionFits && call.lineageFits

end ImportCall

structure FixtureImportResult where
  scenarioVersionId : Uuid
  siteId : Uuid
  fixtureId : String
  version : String
  checksumDigest : String
  created : Bool
  deriving DecidableEq, Repr

inductive ImportAnswer where
  | result (r : FixtureImportResult)
  /-- `FixtureVersionConflictError` -/
  | conflict (message : String)
  /-- an `IntegrityError` that left the import -/
  | integrityError
  /-- a `DataError`: a column does not hold a value -/
  | dataError
  deriving DecidableEq, Repr

/-- How far an import has come. -/
inductive Phase where
  | started
  /-- the scenario is there -/
  | upserted (scenarioId : Uuid)
  /-- no version was found -/
  | absent (scenarioId : Uuid)
  /-- the insertion failed and was rolled back to the savepoint -/
  | refused (scenarioId : Uuid)
  | inserted (row : ScenarioVersionRow)
  /-- the lineage is there as well -/
  | recorded (row : ScenarioVersionRow)

/-- An import under way. -/
structure Import where
  client : Nat
  call : ImportCall
  digest : String
  phase : Phase

abbrev FixtureStore := Store Nat FixtureRow

/-- The rows `SELECT … FROM scenario` finds. -/
def isScenarioOf (call : ImportCall) : FixtureRow → Option Uuid
  | .scenario id siteId fixtureId =>
    if siteId = call.siteId ∧ fixtureId = call.fixtureId then some id else none
  | _ => none

/-- The rows `_find_version` finds. -/
def isVersionOf (call : ImportCall) : FixtureRow → Option ScenarioVersionRow
  | .version row =>
    if row.siteId = call.siteId ∧ row.fixtureId = call.fixtureId ∧ row.version = call.version then
      some row
    else none
  | _ => none

/-- `_to_result`. -/
def toResult (row : ScenarioVersionRow) (created : Bool) : FixtureImportResult where
  scenarioVersionId := row.id
  siteId := row.siteId
  fixtureId := row.fixtureId
  version := row.version
  checksumDigest := row.checksumDigest
  created := created

def conflictMessage : String := "Fixture version already exists with a different checksum"

/-- `_replay_or_reject`. -/
def replayOrReject (existing : ScenarioVersionRow) (digest : String) : ImportAnswer :=
  if existing.checksumDigest ≠ digest then .conflict conflictMessage
  else .result (toResult existing false)

namespace Import

def scenarioRow (i : Import) (id : Uuid) : FixtureRow :=
  .scenario id i.call.siteId i.call.fixtureId

def versionRow (i : Import) (id scenarioId : Uuid) : ScenarioVersionRow where
  id := id
  siteId := i.call.siteId
  scenarioId := scenarioId
  fixtureId := i.call.fixtureId
  version := i.call.version
  payload := i.call.payload
  checksumDigest := i.digest

def lineageRow (i : Import) (row : ScenarioVersionRow) : FixtureRow :=
  .lineage i.call.siteId row.id i.call.sourcePackage i.call.sourcePath

/-- The row that the next statement may insert, under a generated id; one that does not fit is
refused before it would wait. -/
def claims (i : Import) (fresh : Uuid) : Option FixtureRow :=
  match i.phase with
  | .started => if i.call.scenarioFits then some (i.scenarioRow fresh) else none
  | .absent scenarioId =>
    if i.call.versionFits then some (.version (i.versionRow fresh scenarioId)) else none
  | .inserted row => if i.call.lineageFits then some (i.lineageRow row) else none
  | _ => none

end Import

/-- A constraint refuses a version: an index, or the reference to its scenario. -/
def versionRefused (visible : List FixtureRow) (row : ScenarioVersionRow) : Bool :=
  visible.any (fun r => clash r (.version row)) ||
    !visible.any fun
      | .scenario id siteId _ => decide (id = row.scenarioId) && decide (siteId = row.siteId)
      | _ => false

/-- A constraint refuses the lineage of a version. -/
def lineageRefused (visible : List FixtureRow) (siteId : Uuid) (row : ScenarioVersionRow)
    (lineage : FixtureRow) : Bool :=
  visible.any (fun r => clash r lineage) ||
    !visible.any fun
      | .version row' => decide (row'.id = row.id) && decide (row'.siteId = siteId)
      | _ => false

/-- What a statement leads to. -/
inductive Next where
  | goesOn (phase : Phase) (store : FixtureStore)
  /-- the transaction ends: committed if it returns, rolled back if it raises -/
  | answers (answer : ImportAnswer) (store : FixtureStore)

/-- The transaction ends with what `_replay_or_reject` makes of a version. -/
def endWith (s : FixtureStore) (i : Import) (existing : ScenarioVersionRow) : Next :=
  match replayOrReject existing i.digest with
  | .result r => .answers (.result r) (s.commit i.client)
  | answer => .answers answer (s.abort i.client)

/-- The transaction ends with an error. -/
def failWith (s : FixtureStore) (i : Import) (error : ImportAnswer) : Next :=
  .answers error (s.abort i.client)

/-- The next statement of `import_fixture`, where the sites are those of `sites`. -/
def statement (sites : List Uuid) (s : FixtureStore) (i : Import) (fresh : Uuid) : Next :=
  match i.phase with
  | .started =>
    if i.call.scenarioFits = false then failWith s i .dataError
    else
      -- `ON CONFLICT DO NOTHING`, and the `SELECT` that follows it when the scenario was there
      match (s.visible i.client).findSome? (isScenarioOf i.call) with
      | some scenarioId => .goesOn (.upserted scenarioId) s
      | none =>
        if i.call.siteId ∉ sites then failWith s i .integrityError
        else .goesOn (.upserted fresh) (s.insert i.client (i.scenarioRow fresh))
  | .upserted scenarioId =>
    -- the version goes into the `SELECT` as a text
    if storableText i.call.version = false then failWith s i .dataError
    else
      match (s.visible i.client).findSome? (isVersionOf i.call) with
      | some existing => endWith s i existing
      | none => .goesOn (.absent scenarioId) s
  | .absent scenarioId =>
    let row := i.versionRow fresh scenarioId
    if i.call.versionFits = false then failWith s i .dataError
    else if versionRefused (s.visible i.client) row then .goesOn (.refused scenarioId) s
    else .goesOn (.inserted row) (s.insert i.client (.version row))
  | .refused _ =>
    match (s.visible i.client).findSome? (isVersionOf i.call) with
    | some existing => endWith s i existing
    | none => failWith s i .integrityError
  | .inserted row =>
    if i.call.lineageFits = false then failWith s i .dataError
    else if lineageRefused (s.visible i.client) i.call.siteId row (i.lineageRow row) then
      failWith s i .integrityError
    else .goesOn (.recorded row) (s.insert i.client (i.lineageRow row))
  | .recorded row => .answers (.result (toResult row true)) (s.commit i.client)

/-! ## The system -/

/-- An import whose transaction has ended, and whether its client was told. -/
structure Answered where
  call : ImportCall
  digest : String
  answer : ImportAnswer
  received : Bool

structure ImportSys where
  store : FixtureStore := {}
  imports : List Import := []
  log : List Answered := []

inductive ImportAction where
  | start (client : Nat) (call : ImportCall)
  /-- the next statement of an import, the id the database would draw, and whether an answer gets
  through -/
  | statement (i : Import) (fresh : Uuid) (received : Bool)
  /-- the connection of an import is lost before its transaction has ended -/
  | lose (i : Import)

/-- When a step may be taken: a payload without a canonical text starts no transaction, a statement
does not overtake the one it waits for, and a drawn id is one that no row has. -/
def ImportAction.Enabled (lang : FixtureLang) (s : ImportSys) : ImportAction → Prop
  | .start client call =>
    (∀ i ∈ s.imports, i.client ≠ client) ∧ ∃ digest, checksum lang call.payload = .ok digest
  | .statement i fresh _ =>
    i ∈ s.imports ∧ (∀ row ∈ i.claims fresh, ¬ s.store.Waits clash i.client row) ∧
      ∀ row ∈ s.store.rows, row.id? ≠ some fresh
  | .lose i => i ∈ s.imports

namespace ImportSys

/-- The imports but those of a client. -/
def others (s : ImportSys) (client : Nat) : List Import :=
  s.imports.filter fun i => i.client ≠ client

def after (s : ImportSys) (i : Import) (received : Bool) : Next → ImportSys
  | .goesOn phase store =>
    { s with store := store, imports := { i with phase := phase } :: s.others i.client }
  | .answers answer store =>
    { store := store
      imports := s.others i.client
      log := s.log ++ [⟨i.call, i.digest, answer, received⟩] }

def perform (lang : FixtureLang) (s : ImportSys) : ImportAction → ImportSys
  | .start client call =>
    match checksum lang call.payload with
    | .ok digest => { s with imports := ⟨client, call, digest, .started⟩ :: s.imports }
    | .error _ => s
  | .statement i fresh received => s.after i received (statement lang.sites s.store i fresh)
  | .lose i => { s with store := s.store.abort i.client, imports := s.others i.client }

end ImportSys

/-- The import machine, from empty tables. -/
def importMachine (lang : FixtureLang) : Machine ImportSys ImportAction where
  initial s := s.store = {} ∧ s.imports = [] ∧ s.log = []
  enabled s a := a.Enabled lang s
  perform s a := s.perform lang a

end ShiftMind.Fixtures
