import ShiftMind.Ingest.SameDemand
import ShiftMind.Scheduling.Comparison

/-!
# ShiftMind — two readings of the tasks and the workers

The engine keeps the members who have a window in the horizon and a qualification, with an override
of zero read as none; the projection keeps everyone, once, and every override that is not null.

* **`tasks_alike`** — the functions of the tasks agree.
* **`ReadAlike`** — what a fixture must be like for the rates and the hours to agree too.
* **`sameFacts_of_readAlike`** — the two readings are the same facts.
-/

namespace ShiftMind.Ingest

open CandidateMetrics Engine
open HardConstraints (workersById)

/-! ## Tasks -/

theorem functionNames_eq {fixture : Fixture} {names : List (String × String)}
    (h : functionNames fixture = .ok names)
    (hnamed : ∀ f ∈ fixture.functions, f.functionId ≠ some "") :
    names = namedPairs FunctionRow.functionId (fun row => row.name.getD "Unknown")
      fixture.functions := by
  obtain ⟨pairs, hpairs, h⟩ := Fallible.bind_ok h
  cases h
  unfold namedPairs
  congr 1
  have hall := Fallible.forall₂_of_mapM hpairs
  clear hpairs h
  generalize fixture.functions = functions at hnamed hall
  -- row by row: no row is without a usable id, so none is left out
  induction hall with
  | nil => rfl
  | @cons f pair functions pairs hone _ ih =>
    obtain ⟨functionId, hid, hone⟩ := Fallible.bind_ok hone
    cases hone
    cases hvalue : f.functionId with
    | none =>
      rw [hvalue] at hid
      cases hid
    | some value =>
      rw [hvalue] at hid
      cases hid
      have hne : functionId ≠ "" := fun hempty =>
        hnamed f List.mem_cons_self (hempty ▸ hvalue)
      have hkept : ((f.functionId.filter fun key => key ≠ "").map fun key =>
          (key, f.name.getD "Unknown")) = some (functionId, f.name.getD "Unknown") := by
        rw [hvalue]
        simp [Option.filter, hne]
      simp only [List.filterMap_cons, hkept]
      rw [ih fun f hf => hnamed f (List.mem_cons_of_mem _ hf)]

/-- **The functions of the tasks agree.** -/
theorem tasks_alike {fixture : Fixture} {names : List (String × String)}
    (h : functionNames fixture = .ok names)
    (hnamed : ∀ f ∈ fixture.functions, f.functionId ≠ some "") :
    functionName (((firstOf TaskRow.taskId [] fixture.tasks).map (ingestTask names)).map
        CpSatBuilder.taskFact) = functionName (normalizeTasks fixture) := by
  funext taskId
  unfold functionName
  rw [Dict.map_get?_indexBy, Dict.map_get?_indexBy, functionNames_eq h hnamed]
  unfold normalizeTasks
  simp only [List.map_map]
  rfl

/-! ## Groups -/

theorem grouped_groupBy {β : Type} (records : List (String × β)) (cid : String) :
    grouped (Dict.groupBy Prod.fst records) cid =
      (records.filter fun p => p.1 = cid).map Prod.snd := by
  unfold grouped
  rw [Dict.getD_groupBy]

theorem recordsOf_eq {β : Type} (records : List (String × β)) (cid : String) :
    recordsOf records cid = (records.filter fun p => p.1 = cid).map Prod.snd :=
  grouped_groupBy records cid

/-! ## Rates -/

/-- The rate of a qualification counts for both readings alike: an override of zero with a positive
default does not. -/
def RateAlike (q : QualificationRow) : Prop := max 0 (ingestRate q) = max 0 (projectedRate q)

instance (q : QualificationRow) : Decidable (RateAlike q) := inferInstanceAs (Decidable (_ = _))

theorem RateAlike.pos_iff {q : QualificationRow} (h : RateAlike q) :
    ingestRate q ≤ 0 ↔ projectedRate q ≤ 0 := by
  unfold RateAlike at h
  rw [← max_eq_left_iff (a := (0 : ℚ)), ← max_eq_left_iff (a := (0 : ℚ)), h]

theorem RateAlike.eq_of_pos {q : QualificationRow} (h : RateAlike q) (hpos : ¬ ingestRate q ≤ 0) :
    ingestRate q = projectedRate q := by
  have hpos' := (not_congr h.pos_iff).mp hpos
  unfold RateAlike at h
  rwa [max_eq_right (not_le.mp hpos).le, max_eq_right (not_le.mp hpos').le] at h

/-- A qualification as the metrics read it. -/
def asRef (q : Qualification) : QualificationRefV1 := ⟨q.taskId, q.rate⟩

/-- A qualification of a contact with an id is read alike. -/
theorem qualification_alike {taskIds : List String} {q : QualificationRow}
    {one : Option (String × Qualification)} (h : ingestQualification taskIds q = .ok one)
    (hrate : (knownTask taskIds q.taskId).isSome → RateAlike q) :
    normalizeQualification taskIds q =
      (one.filter fun p => p.1 ≠ "").map fun p => (p.1, asRef p.2) := by
  unfold ingestQualification at h
  unfold normalizeQualification knownTask
  cases htask : q.taskId with
  | none =>
    rw [htask] at h
    cases h
    rfl
  | some tid =>
    simp only [htask] at h
    by_cases hknown : tid ∈ taskIds
    · have hfilter : (some tid).filter (fun tid => tid ∈ taskIds) = some tid := by
        simp [Option.filter, hknown]
      have hrate : RateAlike q := by
        apply hrate
        unfold knownTask
        rw [htask, hfilter]
        rfl
      rw [if_neg (not_not.mpr hknown)] at h
      rw [hfilter, Option.bind_some]
      -- a rate of zero is passed over on both sides
      by_cases hpos : ingestRate q ≤ 0
      · rw [if_pos hpos] at h
        cases h
        simp only [if_pos (hrate.pos_iff.mp hpos)]
        cases q.contactId.filter fun cid => cid ≠ "" <;> rfl
      · rw [if_neg hpos] at h
        obtain ⟨cid, hcid, h⟩ := Fallible.bind_ok h
        cases h
        have hpos' := (not_congr hrate.pos_iff).mp hpos
        simp only [if_neg hpos']
        cases hcontact : q.contactId with
        | none =>
          rw [hcontact] at hcid
          cases hcid
        | some contact =>
          rw [hcontact] at hcid
          cases hcid
          -- the projection alone asks for an id that is not empty
          by_cases hempty : cid = ""
          · simp [Option.filter, hempty]
          · simp [Option.filter, hempty, asRef, hrate.eq_of_pos hpos]
    · have hfilter : (some tid).filter (fun tid => tid ∈ taskIds) = none := by
        simp [Option.filter, hknown]
      rw [if_pos hknown] at h
      cases h
      rw [hfilter]
      rfl

/-- The qualifications of a contact are read alike. -/
theorem qualifications_alike {fixture : Fixture}
    {quals : List (String × List (String × Qualification))}
    (h : qualificationsFor fixture = .ok quals)
    (hrates : ∀ q ∈ fixture.qualifications, (knownTask fixture.taskIds q.taskId).isSome →
      RateAlike q) {cid : String} (hcid : cid ≠ "") :
    (grouped quals cid).map asRef =
      recordsOf
        (fixture.qualifications.filterMap (normalizeQualification fixture.taskIds)) cid := by
  obtain ⟨found, hfound, h⟩ := Fallible.bind_ok h
  cases h
  rw [grouped_groupBy, recordsOf_eq, List.map_map]
  have hall := Fallible.forall₂_of_mapM hfound
  clear hfound h
  generalize fixture.taskIds = taskIds at hrates hall ⊢
  generalize fixture.qualifications = rows at hrates hall ⊢
  induction hall with
  | nil => rfl
  | @cons q one rows found hone _ ih =>
    have ih := ih fun q hq => hrates q (List.mem_cons_of_mem _ hq)
    have hsame := qualification_alike hone (hrates q List.mem_cons_self)
    cases one with
    | none =>
      rw [List.reduceOption_cons_of_none, List.filterMap_cons_none hsame]
      exact ih
    | some p =>
      rw [List.reduceOption_cons_of_some]
      -- a row of this contact goes into both groups, one of another into neither
      by_cases hp : p.1 = cid
      · have hkept : normalizeQualification taskIds q = some (p.1, asRef p.2) := by
          rw [hsame]
          simp [Option.filter, hp, hcid]
        rw [List.filterMap_cons_some hkept, List.filter_cons_of_pos (by simpa using hp),
          List.filter_cons_of_pos (by simpa using hp), List.map_cons, List.map_cons, ih]
        rfl
      · rw [List.filter_cons_of_neg (by simpa using hp), ih]
        by_cases hempty : p.1 = ""
        · have hnone : normalizeQualification taskIds q = none := by
            rw [hsame]
            simp [Option.filter, hempty]
          rw [List.filterMap_cons_none hnone]
        · have hkept : normalizeQualification taskIds q = some (p.1, asRef p.2) := by
            rw [hsame]
            simp [Option.filter, hempty]
          rw [List.filterMap_cons_some hkept, List.filter_cons_of_neg (by simpa using hp)]

/-! ## Windows

The projection reads the windows of everybody, so one that cannot be read is passed over. -/

/-- A window that reaches into the horizon. -/
def Reaches (start : Nat) (horizonH : ℚ) (w : WindowRow) : Prop :=
  match hoursOfColumns start "StartDateTime" "EndDateTime" w.startDateTime w.endDateTime with
  | .ok (s, e) => (clip s e 0 horizonH).isSome
  | .error _ => False

instance (start : Nat) (horizonH : ℚ) (w : WindowRow) : Decidable (Reaches start horizonH w) := by
  unfold Reaches
  split <;> infer_instance

/-- The contact of such a window has a window. -/
theorem grouped_of_reaches {start : Nat} {horizonH : ℚ} {rows : List WindowRow} {kind : WindowKind}
    {groups : List (String × List (String × Window))}
    (h : windowsFor start horizonH rows kind = .ok groups) {w : WindowRow} (hw : w ∈ rows)
    {cid : String} (hcid : w.contactId = some cid) (hreaches : Reaches start horizonH w) :
    grouped groups cid ≠ [] := by
  obtain ⟨found, hfound, h⟩ := Fallible.bind_ok h
  cases h
  obtain ⟨i, hi, rfl⟩ := List.mem_iff_getElem.mp hw
  have hentry : (rows[i], i) ∈ rows.zipIdx := by
    rw [List.mk_mem_zipIdx_iff_getElem?]
    exact List.getElem?_eq_getElem hi
  obtain ⟨one, hone, hstep⟩ := (Fallible.mem_of_mapM hfound).1 _ hentry
  -- a window that reaches the horizon is kept when clipped
  have hsome : ∃ window, one = some (cid, window) := by
    unfold Reaches at hreaches
    unfold ingestWindow at hstep
    cases htimes : hoursOfColumns start "StartDateTime" "EndDateTime" rows[i].startDateTime
        rows[i].endDateTime with
    | error e =>
      rw [htimes] at hreaches
      exact hreaches.elim
    | ok times =>
      obtain ⟨s, e⟩ := times
      simp only [htimes] at hreaches hstep
      obtain ⟨clipped, hclipped⟩ := Option.isSome_iff_exists.mp hreaches
      rw [hclipped, hcid] at hstep
      cases hstep
      exact ⟨_, rfl⟩
  obtain ⟨window, rfl⟩ := hsome
  rw [grouped_groupBy]
  apply List.ne_nil_of_mem (a := window)
  exact List.mem_map.mpr ⟨(cid, window), List.mem_filter.mpr
    ⟨List.reduceOption_mem_iff.mpr hone, by simp⟩, rfl⟩

/-- The window of a row, or that it is passed over. -/
theorem normalizeWindow_ok (zone : SiteZone) (horizonStart : Int) (kind : WindowKind)
    {row : WindowRow} (hutc : (row.contactId.filter fun cid => cid ≠ "").isSome →
      InUtc row.startDateTime ∧ InUtc row.endDateTime) :
    ∃ one, normalizeWindow zone horizonStart kind row = .ok one := by
  unfold normalizeWindow
  cases hcontact : row.contactId.filter fun cid => cid ≠ "" with
  | none => exact ⟨none, rfl⟩
  | some cid =>
    obtain ⟨hstart, hend⟩ := hutc (by rw [hcontact]; rfl)
    cases hoffsets : offsetsOfColumns zone horizonStart "StartDateTime" "EndDateTime"
        row.startDateTime row.endDateTime with
    | ok offsets => exact ⟨_, rfl⟩
    | error e =>
      simp only [if_pos (offsetsOfColumns_error zone hstart hend hoffsets)]
      exact ⟨none, rfl⟩

/-! ## Workers -/

/-- **What the two readings of a fixture need to agree**: the zone is settled by its start, it does
not end before that, its functions and contacts have ids, no contact comes twice, no override of
zero hides a positive default, no window is of the first day of the calendar, whoever has a
qualification has a window in the horizon, and the demand asks for something within it. -/
structure ReadAlike (fixture : Fixture) (start : Nat) (horizonH : ℚ) : Prop where
  settled : zoneSettled ≤ start
  forward : 0 ≤ horizonH
  functions : ∀ f ∈ fixture.functions, f.functionId ≠ some ""
  contacts : ∀ m ∈ fixture.members, m.contactId ≠ some ""
  distinct : (fixture.members.map MemberRow.contactId).Nodup
  rates : ∀ q ∈ fixture.qualifications, (knownTask fixture.taskIds q.taskId).isSome → RateAlike q
  windows : ∀ w ∈ fixture.rosterProfile ++ fixture.availability,
    (w.contactId.filter fun cid => cid ≠ "").isSome → InUtc w.startDateTime ∧ InUtc w.endDateTime
  rostered : ∀ m ∈ fixture.members, ∀ q ∈ fixture.qualifications, q.contactId = m.contactId →
    (knownTask fixture.taskIds q.taskId).isSome → 0 < ingestRate q →
    ∃ w ∈ fixture.rosterProfile ++ fixture.availability, w.contactId = m.contactId ∧
      Reaches start horizonH w
  demand : DemandAsks fixture start horizonH

/-- Rows with different ids that are not empty are all first ones. -/
theorem firstOf_eq {α : Type} {id : α → Option String} {seen : List String} {rows : List α}
    (hid : ∀ row ∈ rows, ∃ key, id row = some key ∧ key ≠ "" ∧ key ∉ seen)
    (hnodup : (rows.map id).Nodup) :
    firstOf id seen rows = rows.map fun row => ((id row).getD "", row) := by
  induction rows generalizing seen with
  | nil => rfl
  | cons row rows ih =>
    obtain ⟨key, hkey, hne, hseen⟩ := hid row List.mem_cons_self
    rw [List.map_cons, List.nodup_cons] at hnodup
    have hrest : ∀ row' ∈ rows, ∃ key', id row' = some key' ∧ key' ≠ "" ∧ key' ∉ key :: seen := by
      intro row' hrow'
      obtain ⟨key', hkey', hne', hseen'⟩ := hid row' (List.mem_cons_of_mem _ hrow')
      refine ⟨key', hkey', hne', ?_⟩
      rw [List.mem_cons, not_or]
      refine ⟨fun heq => hnodup.1 ?_, hseen'⟩
      rw [hkey, ← heq, ← hkey']
      exact List.mem_map_of_mem hrow'
    unfold firstOf
    simp only [hkey]
    rw [if_neg (by simp [hne, hseen]), ih hrest hnodup.2, List.map_cons, hkey]
    rfl

section

variable {fixture : Fixture} {start : Nat} {horizonH : ℚ}
  {rosters avails : List (String × List (String × Window))}
  {quals : List (String × List (String × Qualification))} {members : List (Option Member)}

/-- A member, and its row. -/
theorem ingestMember_ok {m : MemberRow} {one : Option Member}
    (h : ingestMember fixture rosters avails quals m = .ok one) :
    ∃ cid, m.contactId = some cid ∧
      ((grouped rosters cid ++ grouped avails cid = [] ∨ grouped quals cid = []) ∧ one = none ∨
        ∃ member, one = some member ∧ member.contactId = cid ∧
          member.contractedHours = toFloat m.contractedHours 38 ∧
          member.qualifications = grouped quals cid) := by
  obtain ⟨cid, hcid, h⟩ := Fallible.bind_ok h
  have hcontact : m.contactId = some cid := by
    cases hm : m.contactId with
    | none =>
      rw [hm] at hcid
      cases hcid
    | some contact =>
      rw [hm] at hcid
      cases hcid
      rfl
  refine ⟨cid, hcontact, ?_⟩
  simp only at h
  split_ifs at h with hnone
  · cases h
    exact .inl ⟨hnone, rfl⟩
  · cases h
    exact .inr ⟨_, rfl, rfl, rfl, rfl⟩

/-- Whoever has a qualification for the engine has one in the fixture. -/
theorem exists_qualification (h : qualificationsFor fixture = .ok quals) {cid : String}
    (hne : grouped quals cid ≠ []) :
    ∃ q ∈ fixture.qualifications, q.contactId = some cid ∧
      (knownTask fixture.taskIds q.taskId).isSome ∧ 0 < ingestRate q := by
  obtain ⟨found, hfound, h⟩ := Fallible.bind_ok h
  cases h
  rw [grouped_groupBy] at hne
  -- the group came from a row that was not passed over
  obtain ⟨qualification, hmem⟩ := List.exists_mem_of_ne_nil _ hne
  obtain ⟨p, hp, -⟩ := List.mem_map.mp hmem
  obtain ⟨hp, hpcid⟩ := List.mem_filter.mp hp
  obtain ⟨q, hq, hstep⟩ := (Fallible.mem_of_mapM hfound).2 _ (List.reduceOption_mem_iff.mp hp)
  refine ⟨q, hq, ?_⟩
  unfold ingestQualification at hstep
  cases htask : q.taskId with
  | none =>
    rw [htask] at hstep
    cases hstep
  | some tid =>
    simp only [htask] at hstep
    -- an unknown task and a rate of zero are passed over
    by_cases hknown : tid ∈ fixture.taskIds
    · rw [if_neg (not_not.mpr hknown)] at hstep
      by_cases hrate : ingestRate q ≤ 0
      · rw [if_pos hrate] at hstep
        cases hstep
      · rw [if_neg hrate] at hstep
        obtain ⟨contact, hcontact, hstep⟩ := Fallible.bind_ok hstep
        cases hstep
        have hvalue : q.contactId = some contact := by
          cases hm : q.contactId with
          | none =>
            rw [hm] at hcontact
            cases hcontact
          | some value =>
            rw [hm] at hcontact
            cases hcontact
            rfl
        have hsame : contact = cid := of_decide_eq_true hpcid
        rw [hsame] at hvalue
        refine ⟨hvalue, ?_, not_le.mp hrate⟩
        unfold knownTask
        simp [Option.filter, hknown]
    · rw [if_pos hknown] at hstep
      cases hstep

/-- Whoever the engine leaves out has no qualification. -/
theorem ReadAlike.not_qualified (halike : ReadAlike fixture start horizonH)
    (hrosters : windowsFor start horizonH fixture.rosterProfile .roster = .ok rosters)
    (havails : windowsFor start horizonH fixture.availability .availability = .ok avails)
    (hquals : qualificationsFor fixture = .ok quals) {m : MemberRow} (hm : m ∈ fixture.members)
    {cid : String} (hcid : m.contactId = some cid)
    (hnone : grouped rosters cid ++ grouped avails cid = [] ∨ grouped quals cid = []) :
    grouped quals cid = [] := by
  rcases hnone with hwindows | hnone
  · by_contra hne
    obtain ⟨hroster, havail⟩ := List.append_eq_nil_iff.mp hwindows
    obtain ⟨q, hq, hqcid, hknown, hrate⟩ := exists_qualification hquals hne
    obtain ⟨w, hw, hwcid, hreaches⟩ :=
      halike.rostered m hm q hq (hqcid.trans hcid.symm) hknown hrate
    rcases List.mem_append.mp hw with hw | hw
    · exact grouped_of_reaches hrosters hw (hwcid.trans hcid) hreaches hroster
    · exact grouped_of_reaches havails hw (hwcid.trans hcid) hreaches havail
  · exact hnone

/-- The qualifications of the workers are read alike. -/
theorem workers_qualifications_alike (halike : ReadAlike fixture start horizonH)
    (hrosters : windowsFor start horizonH fixture.rosterProfile .roster = .ok rosters)
    (havails : windowsFor start horizonH fixture.availability .availability = .ok avails)
    (hquals : qualificationsFor fixture = .ok quals) {rows : List MemberRow}
    (hrows : ∀ m ∈ rows, m ∈ fixture.members)
    (hmembers : rows.mapM (ingestMember fixture rosters avails quals) = .ok members) :
    (members.reduceOption.map CpSatBuilder.workerFact).flatMap
        WorkerSchedulingFactV1.qualifications =
      rows.flatMap fun m =>
        recordsOf (fixture.qualifications.filterMap (normalizeQualification fixture.taskIds))
          (m.contactId.getD "") := by
  have hall := Fallible.forall₂_of_mapM hmembers
  clear hmembers
  induction hall with
  | nil => rfl
  | @cons m one rows members hone _ ih =>
    have hm := hrows m List.mem_cons_self
    have ih := ih fun m hm => hrows m (List.mem_cons_of_mem _ hm)
    obtain ⟨cid, hcid, hcases⟩ := ingestMember_ok hone
    have hne : cid ≠ "" := fun hempty => halike.contacts m hm (hempty ▸ hcid)
    have hsame := qualifications_alike hquals halike.rates hne
    rw [List.flatMap_cons, hcid, Option.getD_some, ← hsame, ← ih]
    rcases hcases with ⟨hnone, rfl⟩ | ⟨member, rfl, -, -, hqualifications⟩
    · rw [halike.not_qualified hrosters havails hquals hm hcid hnone,
        List.reduceOption_cons_of_none]
      rfl
    · rw [List.reduceOption_cons_of_some, List.map_cons, List.flatMap_cons, ← hqualifications]
      rfl

end

/-- The fact about a worker that the projection leads to. -/
def projectedFact (windows : List (String × AvailabilityWindowV1)) (fixture : Fixture)
    (row : MemberRow) : WorkerSchedulingFactV1 where
  workerId := row.contactId.getD ""
  employmentType := row.employmentType.getD "Unknown"
  contractedHours := toFloat row.contractedHours 38
  wagePerHour := 0
  qualifications :=
    recordsOf (fixture.qualifications.filterMap (normalizeQualification fixture.taskIds))
      (row.contactId.getD "")
  availabilityWindows := recordsOf windows (row.contactId.getD "")

section

variable {fixture : Fixture} {start : Nat} {horizonH : ℚ} {problem : SchedulingProblem}

/-- What a problem is built from. -/
theorem buildProblem_ok (h : buildProblem fixture = .ok problem)
    (hrange : scenarioRange fixture = .ok (start, horizonH)) :
    ∃ names rosters avails quals members, functionNames fixture = .ok names ∧
      windowsFor start horizonH fixture.rosterProfile .roster = .ok rosters ∧
      windowsFor start horizonH fixture.availability .availability = .ok avails ∧
      qualificationsFor fixture = .ok quals ∧
      fixture.members.mapM (ingestMember fixture rosters avails quals) = .ok members ∧
      problem.members = members.reduceOption ∧
      problem.tasks = (firstOf TaskRow.taskId [] fixture.tasks).map (ingestTask names) ∧
      problem.demand = ingestDemand start horizonH fixture := by
  obtain ⟨range, hrange', h⟩ := Fallible.bind_ok h
  rw [hrange] at hrange'
  cases hrange'
  obtain ⟨names, hnames, h⟩ := Fallible.bind_ok h
  obtain ⟨rosters, hrosters, h⟩ := Fallible.bind_ok h
  obtain ⟨avails, havails, h⟩ := Fallible.bind_ok h
  obtain ⟨quals, hquals, h⟩ := Fallible.bind_ok h
  obtain ⟨members, hmembers, h⟩ := Fallible.bind_ok h
  obtain ⟨breaks, -, h⟩ := Fallible.bind_ok h
  cases h
  exact ⟨names, rosters, avails, quals, members, hnames, hrosters, havails, hquals, hmembers, rfl,
    rfl, rfl⟩

/-- With an id on every contact, nobody is passed over. -/
theorem ReadAlike.members_eq (halike : ReadAlike fixture start horizonH)
    (hids : ∀ m ∈ fixture.members, ∃ cid, m.contactId = some cid) :
    firstOf MemberRow.contactId [] fixture.members =
      fixture.members.map fun m => (m.contactId.getD "", m) := by
  apply firstOf_eq _ halike.distinct
  intro m hm
  obtain ⟨cid, hcid⟩ := hids m hm
  exact ⟨cid, hcid, fun hempty => halike.contacts m hm (hempty ▸ hcid), List.not_mem_nil⟩

section

variable (zone : SiteZone) (digest : DigestInput → String)

/-- With every window in UTC the projection has the workers, with some windows. -/
theorem ReadAlike.normalizeWorkers_ok (halike : ReadAlike fixture start horizonH)
    (horizonStart : Int) :
    ∃ windows, normalizeWorkers zone horizonStart fixture =
      .ok ((firstOf MemberRow.contactId [] fixture.members).map (normalizeWorker
        (fixture.qualifications.filterMap (normalizeQualification fixture.taskIds)) windows)) := by
  obtain ⟨roster, hroster⟩ := Fallible.mapM_isOk_iff.mpr fun w hw =>
    normalizeWindow_ok zone horizonStart .roster
      (halike.windows w (List.mem_append_left fixture.availability hw))
  obtain ⟨availability, havailability⟩ := Fallible.mapM_isOk_iff.mpr fun w hw =>
    normalizeWindow_ok zone horizonStart .availability
      (halike.windows w (List.mem_append_right fixture.rosterProfile hw))
  refine ⟨roster.reduceOption ++ availability.reduceOption, ?_⟩
  unfold normalizeWorkers
  rw [hroster, havailability]
  rfl

/-- The workers of the projected facts, in the order of their rows. -/
theorem projectedWorkers_eq (windows : List (String × AvailabilityWindowV1)) (horizonMinutes : Int)
    (demand : List DemandIntervalV1) (halike : ReadAlike fixture start horizonH)
    (hids : ∀ m ∈ fixture.members, ∃ cid, m.contactId = some cid) :
    (Comparison.factsOf ((firstOf MemberRow.contactId [] fixture.members).map (normalizeWorker
        (fixture.qualifications.filterMap (normalizeQualification fixture.taskIds)) windows))
        (normalizeTasks fixture) demand horizonMinutes).workers =
      fixture.members.map (projectedFact windows fixture) := by
  unfold Comparison.factsOf
  rw [halike.members_eq hids]
  simp only [List.map_map]
  rfl

/-- The projection knows every contact, once, under the hours of its row. -/
theorem projectedHours (windows : List (String × AvailabilityWindowV1))
    (halike : ReadAlike fixture start horizonH)
    (hids : ∀ m ∈ fixture.members, ∃ cid, m.contactId = some cid) {m : MemberRow}
    (hm : m ∈ fixture.members) {cid : String} (hcid : m.contactId = some cid) :
    ∃ worker, Dict.get? (Dict.indexBy WorkerSchedulingFactV1.workerId
        (fixture.members.map (projectedFact windows fixture))) cid = some worker ∧
      worker.contractedHours = toFloat m.contractedHours 38 := by
  have hkey : (projectedFact windows fixture m).workerId = cid := by
    show m.contactId.getD "" = cid
    rw [hcid]
    rfl
  have hlisted : projectedFact windows fixture m ∈
      fixture.members.map (projectedFact windows fixture) := List.mem_map_of_mem hm
  obtain ⟨worker, hworker⟩ : ∃ worker, Dict.get? (Dict.indexBy WorkerSchedulingFactV1.workerId
      (fixture.members.map (projectedFact windows fixture)))
      (projectedFact windows fixture m).workerId = some worker :=
    Dict.get?_indexBy_isSome hlisted
  rw [hkey] at hworker
  refine ⟨worker, hworker, ?_⟩
  -- the row that is found has the same contact, and contacts come once
  obtain ⟨hmem, hid⟩ := Dict.get?_indexBy_eq_some hworker
  obtain ⟨m', hm', rfl⟩ := List.mem_map.mp hmem
  obtain ⟨cid', hcid'⟩ := hids m' hm'
  have hsame : m' = m := by
    apply List.inj_on_of_nodup_map halike.distinct hm' hm
    have hgetD : m'.contactId.getD "" = cid := hid
    rw [hcid'] at hgetD ⊢
    rw [hcid]
    exact congrArg some hgetD
  rw [hsame]
  rfl

/-- **The two readings of a fixture are the same facts.** -/
theorem sameFacts_of_readAlike (halike : ReadAlike fixture start horizonH)
    (hrange : scenarioRange fixture = .ok (start, horizonH))
    (hproblem : buildProblem fixture = .ok problem) {b : CpSatBuilder}
    (hb : b.p = wireEmploymentCaps problem fixture) (values : Option (Var → Int)) :
    ∃ demand workers, normalizeDemand zone (start - 25200) fixture = .ok demand ∧
      normalizeWorkers zone (start - 25200) fixture = .ok workers ∧ ∀ horizonMinutes,
      SameFacts (b.validationFacts digest values).tasks (normalizeTasks fixture)
        (b.validationFacts digest values).demandIntervals demand
        (b.validationFacts digest values)
        (Comparison.factsOf workers (normalizeTasks fixture) demand horizonMinutes) := by
  obtain ⟨names, rosters, avails, quals, members, hnames, hrosters, havails, hquals, hmembers,
    hpmembers, hptasks, hpdemand⟩ := buildProblem_ok hproblem hrange
  obtain ⟨demand, hdemand, hcore⟩ := demand_alike zone digest halike.settled halike.demand
  obtain ⟨windows, hwindows⟩ := halike.normalizeWorkers_ok zone (start - 25200)
  -- a problem was built, so every member has a contact id
  have hids : ∀ m ∈ fixture.members, ∃ cid, m.contactId = some cid := by
    intro m hm
    obtain ⟨one, -, hone⟩ := (Fallible.mem_of_mapM hmembers).1 m hm
    obtain ⟨cid, hcid, -⟩ := ingestMember_ok hone
    exact ⟨cid, hcid⟩
  have hworkers : (b.validationFacts digest values).workers =
      members.reduceOption.map CpSatBuilder.workerFact := by
    show b.p.members.map CpSatBuilder.workerFact = _
    rw [hb]
    exact congrArg _ hpmembers
  refine ⟨demand, _, hdemand, hwindows, fun horizonMinutes => ⟨?_, ?_, ?_, ?_⟩⟩
  · show (b.p.demand.map (CpSatBuilder.demandFact digest)).map demandCore = _
    rw [hcore, hb]
    show (problem.demand.map (CpSatBuilder.demandFact digest)).map demandCore = _
    rw [hpdemand, List.map_map]
    rfl
  · show functionName (b.p.tasks.map CpSatBuilder.taskFact) = _
    rw [hb]
    show functionName (problem.tasks.map CpSatBuilder.taskFact) = _
    rw [hptasks]
    exact tasks_alike hnames halike.functions
  · -- the rates of a task, over the workers that either reading keeps
    intro row _ _
    unfold qualifiedRates
    rw [hworkers, workers_qualifications_alike halike hrosters havails hquals (fun _ hm => hm)
      hmembers]
    rw [projectedWorkers_eq windows horizonMinutes demand halike hids, List.flatMap_map]
    rfl
  · -- a worker of the engine is a member, and the projection keeps every member
    intro workerId worker hget
    unfold workersById at hget
    rw [hworkers] at hget
    obtain ⟨hmem, hid⟩ := Dict.get?_indexBy_eq_some hget
    obtain ⟨member, hmember, rfl⟩ := List.mem_map.mp hmem
    obtain ⟨m, hm, hone⟩ :=
      (Fallible.mem_of_mapM hmembers).2 _ (List.reduceOption_mem_iff.mp hmember)
    obtain ⟨cid, hcid, ⟨-, hcontra⟩ | ⟨found, hfound, hcontact, hhours, -⟩⟩ := ingestMember_ok hone
    · cases hcontra
    cases hfound
    have hcid : m.contactId = some workerId := by
      rw [hcid, ← hid]
      exact congrArg some hcontact.symm
    obtain ⟨worker', hworker', hhours'⟩ := projectedHours windows halike hids hm hcid
    unfold workersById
    rw [projectedWorkers_eq windows horizonMinutes demand halike hids]
    exact ⟨worker', hworker', hhours'.trans hhours.symm⟩

end

end

end ShiftMind.Ingest
