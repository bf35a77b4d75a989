import ShiftMind.Engine.Minutes
import ShiftMind.Ingest.InputAdapter
import ShiftMind.Ingest.Normalisation
import ShiftMind.Scheduling.Recalculation

/-!
# ShiftMind — two readings of the demand

The engine reads the demand of a fixture in hours, clips it to the horizon and leaves out what asks
for nothing; the projection reads it in minutes and keeps everything. A row that asks for something
within the horizon, in whole minutes, is read alike.

* **`Within`**, **`Asks`** — the times, and the amount, of such a row.
* **`demand_alike`** — the two readings of the demand differ in the record ids only.
-/

namespace ShiftMind.Ingest

open CandidateMetrics Engine

/-! ## Times within the horizon -/

/-- A window in whole minutes from the start, within the horizon. -/
structure Within (start : Nat) (horizonH : ℚ) (s e : Nat) : Prop where
  after : start ≤ s
  forward : s < e
  inside : hoursFrom start e ≤ horizonH
  minuteStart : 60 ∣ s - start
  minuteEnd : 60 ∣ e - start

instance (start : Nat) (horizonH : ℚ) (s e : Nat) : Decidable (Within start horizonH s e) :=
  decidable_of_iff (start ≤ s ∧ s < e ∧ hoursFrom start e ≤ horizonH ∧ 60 ∣ s - start ∧
    60 ∣ e - start) ⟨fun ⟨a, b, c, d, e⟩ => ⟨a, b, c, d, e⟩, fun ⟨a, b, c, d, e⟩ => ⟨a, b, c, d, e⟩⟩

/-- A row asks for a positive amount within the horizon, unless its times are passed over. -/
def Asks (start : Nat) (horizonH : ℚ) (times : Except PyError (Nat × Nat)) (amount : ℚ) : Prop :=
  match times with
  | .ok (s, e) => Within start horizonH s e ∧ 0 < amount
  | .error e => passedOver e = true

instance (start : Nat) (horizonH : ℚ) (times : Except PyError (Nat × Nat)) (amount : ℚ) :
    Decidable (Asks start horizonH times amount) :=
  match times with
  | .ok (s, e) => inferInstanceAs (Decidable (Within start horizonH s e ∧ 0 < amount))
  | .error e => inferInstanceAs (Decidable (passedOver e = true))

theorem hoursFrom_le {start s e : Nat} (h : s ≤ e) : hoursFrom start s ≤ hoursFrom start e := by
  unfold hoursFrom
  have hcast : ((s - start : Int) : ℚ) ≤ ((e - start : Int) : ℚ) := Int.cast_le.mpr (by omega)
  linarith

theorem hoursFrom_nonneg {start t : Nat} (h : start ≤ t) : 0 ≤ hoursFrom start t := by
  have hle : hoursFrom start start ≤ hoursFrom start t := hoursFrom_le h
  unfold hoursFrom at hle ⊢
  rw [Int.sub_self] at hle
  simpa using hle

theorem hoursFrom_lt {start s e : Nat} (h : s < e) : hoursFrom start s < hoursFrom start e := by
  unfold hoursFrom
  have hcast : ((s - start : Int) : ℚ) < ((e - start : Int) : ℚ) := Int.cast_lt.mpr (by omega)
  linarith

/-- In whole minutes, hours and minutes are the same time. -/
theorem hoursToMinutes_hoursFrom {start t : Nat} (h : start ≤ t) (hminute : 60 ∣ t - start) :
    hoursToMinutes (hoursFrom start t) = Int.tdiv (t - start) 60 := by
  obtain ⟨k, hk⟩ := hminute
  have hsum : (t : Int) - start = 60 * k := by omega
  have hhours : hoursFrom start t * 60 = ((k : Int) : ℚ) := by
    unfold hoursFrom
    rw [hsum]
    push_cast
    ring
  unfold hoursToMinutes
  rw [hhours, Rounding.roundHalfEven_intCast, hsum, Int.mul_tdiv_cancel_left _ (by decide)]

theorem clip_of_within {start s e : Nat} {horizonH : ℚ} (h : Within start horizonH s e) :
    clip (hoursFrom start s) (hoursFrom start e) 0 horizonH =
      some (hoursFrom start s, hoursFrom start e) := by
  have hstart := hoursFrom_nonneg h.after
  unfold clip
  rw [max_eq_left hstart, min_eq_left h.inside, if_pos (hoursFrom_lt h.forward)]

/-! ## One row

A row is an interval in hours on one side and in minutes on the other; both are the same times
behind the same start. -/

/-- What the metrics read of a band, once it is translated. -/
def bandCore (digest : DigestInput → String) (b : DemandBand) :
    String × Int × Int × ℚ × DemandUnit :=
  demandCore (CpSatBuilder.demandFact digest b)

section

variable (zone : SiteZone) {start : Nat} {horizonH : ℚ} (digest : DigestInput → String)

theorem timesOfColumns_eq (startKey endKey : String) (startValue endValue : Option String) :
    timesOfColumns startKey endKey startValue endValue =
      (column startKey startValue >>= parseDt) >>= fun s =>
        (column endKey endValue >>= parseDt) >>= fun e => pure (s, e) := by
  unfold timesOfColumns
  simp only [bind_assoc]

/-- A text, and the time it denotes. -/
theorem column_parse {key : String} {value : Option String} {t : Nat}
    (h : (column key value >>= parseDt) = .ok t) :
    ∃ text, value = some text ∧ parseDt text = .ok t := by
  cases value with
  | none => cases h
  | some text => exact ⟨text, rfl, h⟩

theorem timesOfColumns_ok {startKey endKey : String} {startValue endValue : Option String}
    {s e : Nat} (h : timesOfColumns startKey endKey startValue endValue = .ok (s, e)) :
    ∃ startText endText, startValue = some startText ∧ endValue = some endText ∧
      parseDt startText = .ok s ∧ parseDt endText = .ok e := by
  rw [timesOfColumns_eq] at h
  obtain ⟨s', hs, h⟩ := Fallible.bind_ok h
  obtain ⟨e', he, h⟩ := Fallible.bind_ok h
  cases h
  obtain ⟨startText, hstart, hs⟩ := column_parse hs
  obtain ⟨endText, hend, he⟩ := column_parse he
  exact ⟨startText, endText, hstart, hend, hs, he⟩

/-- A text that is no time is passed over. -/
theorem parseDt_error {value : String} {e : PyError} (h : parseDt value = .error e) :
    passedOver e = true := by
  unfold parseDt at h
  split at h
  · cases h
  · cases h
    rfl

/-- Times that cannot be read are passed over. -/
theorem timesOfColumns_error {startKey endKey : String} {startValue endValue : Option String}
    {e : PyError} (h : timesOfColumns startKey endKey startValue endValue = .error e) :
    passedOver e = true := by
  -- a column that is missing or does not parse is passed over
  have hcolumn : ∀ key value e, (column key value >>= parseDt) = .error e →
      passedOver e = true := by
    intro key value e h
    cases value with
    | none =>
      cases h
      rfl
    | some value =>
      exact parseDt_error h
  -- the start is read before the end
  rw [timesOfColumns_eq] at h
  cases hs : (column startKey startValue >>= parseDt) with
  | error e' =>
    rw [hs] at h
    cases h
    exact hcolumn _ _ _ hs
  | ok s =>
    rw [hs] at h
    cases he : (column endKey endValue >>= parseDt) with
    | error e' =>
      simp only [he] at h
      cases h
      exact hcolumn _ _ _ he
    | ok e' =>
      simp only [he] at h
      cases h

/-- A cell of another day than the first has an offset, or is passed over. -/
theorem minuteOffset_of_column (horizonStart : Int) {key : String} {value : Option String}
    (hutc : InUtc value) :
    (∃ minute, (column key value >>= minuteOffset zone horizonStart) = .ok minute) ∨
      ∃ e, (column key value >>= minuteOffset zone horizonStart) = .error e ∧
        passedOver e = true := by
  cases value with
  | none => exact .inr ⟨_, rfl, rfl⟩
  | some text =>
    cases hparse : parseDt text with
    | ok t => exact .inl ⟨_, minuteOffset_inUtc zone horizonStart hparse (hutc text rfl t hparse)⟩
    | error e =>
      refine .inr ⟨e, ?_, parseDt_error hparse⟩
      show minuteOffset zone horizonStart text = .error e
      unfold minuteOffset asUtc
      rw [hparse]
      rfl

theorem offsetsOfColumns_error {horizonStart : Int} {startKey endKey : String}
    {startValue endValue : Option String} (hstart : InUtc startValue) (hend : InUtc endValue)
    {e : PyError}
    (h : offsetsOfColumns zone horizonStart startKey endKey startValue endValue = .error e) :
    passedOver e = true := by
  -- the start is read before the end
  have hsplit : offsetsOfColumns zone horizonStart startKey endKey startValue endValue =
      (column startKey startValue >>= minuteOffset zone horizonStart) >>= fun start =>
        (column endKey endValue >>= minuteOffset zone horizonStart) >>= fun stop =>
          pure (start, stop) := by
    unfold offsetsOfColumns
    simp only [bind_assoc]
  rw [hsplit] at h
  rcases minuteOffset_of_column zone horizonStart hstart with
    ⟨minute, hok⟩ | ⟨e', herror, hpassed⟩
  · rw [hok] at h
    rcases minuteOffset_of_column zone horizonStart hend with
      ⟨minute', hok'⟩ | ⟨e', herror, hpassed⟩
    · have h : ((column endKey endValue >>= minuteOffset zone horizonStart) >>= fun stop =>
          pure (minute, stop)) = .error e := h
      rw [hok'] at h
      cases h
    · have h : ((column endKey endValue >>= minuteOffset zone horizonStart) >>= fun stop =>
          pure (minute, stop)) = .error e := h
      rw [herror] at h
      cases h
      exact hpassed
  · rw [herror] at h
    cases h
    exact hpassed

/-- Two times, in minutes. -/
def inMinutes (start : Nat) (times : Nat × Nat) : Int × Int :=
  (Int.tdiv (times.1 - start) 60, Int.tdiv (times.2 - start) 60)

/-- The offsets of two times: what could not be read cannot be read here. -/
def Offsets (start : Nat) (times : Except PyError (Nat × Nat))
    (offsets : Except PyError (Int × Int)) : Prop :=
  match times with
  | .ok (s, e) => start ≤ s → start ≤ e → offsets = .ok (inMinutes start (s, e))
  | .error e => offsets = .error e

theorem offsets_of_columns (hsettled : zoneSettled ≤ start) (startKey endKey : String)
    {startValue endValue : Option String} (hstartUtc : InUtc startValue) :
    Offsets start (timesOfColumns startKey endKey startValue endValue)
      (offsetsOfColumns zone (start - 25200) startKey endKey startValue endValue) := by
  have hminute : ∀ value e, parseDt value = .error e →
      minuteOffset zone (start - 25200) value = .error e := by
    intro value e he
    unfold minuteOffset asUtc
    rw [he]
    rfl
  cases htimes : timesOfColumns startKey endKey startValue endValue with
  | ok times =>
    obtain ⟨s, e⟩ := times
    intro hs he
    obtain ⟨startText, endText, rfl, rfl, hparse, hparse'⟩ := timesOfColumns_ok htimes
    unfold offsetsOfColumns column
    simp only [bind, Except.bind, pure, Except.pure, minuteOffset_eq zone hparse hsettled hs,
      minuteOffset_eq zone hparse' hsettled he]
    rfl
  | error e =>
    -- the columns are read in one order on both sides, so the first that fails is the same
    show offsetsOfColumns zone (start - 25200) startKey endKey startValue endValue = .error e
    unfold timesOfColumns column at htimes
    unfold offsetsOfColumns column
    cases startValue with
    | none =>
      cases htimes
      rfl
    | some startText =>
      simp only [bind, Except.bind] at htimes ⊢
      cases hs : parseDt startText with
      | error e' =>
        rw [hs] at htimes
        cases htimes
        rw [hminute _ _ hs]
      | ok s =>
        have hm := minuteOffset_inUtc zone (start - 25200) hs (hstartUtc startText rfl s hs)
        rw [hs] at htimes
        rw [hm]
        cases endValue with
        | none =>
          cases htimes
          rfl
        | some endText =>
          cases he : parseDt endText with
          | error e' =>
            simp only [he] at htimes ⊢
            cases htimes
            rw [hminute _ _ he]
          | ok e' =>
            simp only [he] at htimes
            cases htimes

/-- The offsets of the two times of an indirect requirement. -/
theorem offsets_of_indirect (hsettled : zoneSettled ≤ start) (row : IndirectRow) :
    Offsets start (indirectWindow row) (indirectOffsets zone (start - 25200) row) := by
  cases htimes : indirectWindow row with
  | ok times =>
    obtain ⟨s, e⟩ := times
    intro hs he
    unfold indirectWindow at htimes
    obtain ⟨date, hdate, htimes⟩ := Fallible.bind_ok htimes
    obtain ⟨windowStart, hstart, htimes⟩ := Fallible.bind_ok htimes
    obtain ⟨windowEnd, hend, htimes⟩ := Fallible.bind_ok htimes
    unfold indirectOffsets
    rw [hdate, hstart, hend]
    exact dayWindowOffsets_eq zone htimes hsettled hs he
  | error e =>
    show indirectOffsets zone (start - 25200) row = .error e
    have hsplit : indirectOffsets zone (start - 25200) row =
        indirectWindow row >>= textOffsets zone (start - 25200) := by
      unfold indirectOffsets indirectWindow dayWindowOffsets
      simp only [bind_assoc]
    rw [hsplit, htimes]
    rfl

/-- **A row that asks for something within the horizon is read alike**, and so is one whose times
are passed over. -/
theorem interval_alike (family : DemandFamily) {unit : DemandUnit}
    (hunit : unit = if family = .indirect then .headcount else .volume)
    {times : Except PyError (Nat × Nat)} {offsets : Except PyError (Int × Int)}
    (hoffsets : Offsets start times offsets) {amount : ℚ} (hasks : Asks start horizonH times amount)
    (taskId : String) (areaId : Option String) (recordId orderId : String) :
    ∃ row, interval family unit offsets taskId areaId amount recordId = .ok row ∧
      row.map demandCore = (if amount ≤ 0 then none
        else band family horizonH (times.map (inHours start)) taskId amount orderId).map
          (bandCore digest) := by
  cases times with
  | error e =>
    have hoffsets : offsets = .error e := hoffsets
    -- both readers pass the same errors over
    have hpassed : passedOver e = true := hasks
    refine ⟨none, ?_, ?_⟩
    · unfold interval
      rw [hoffsets]
      exact if_pos hpassed
    · split_ifs <;> rfl
  | ok times =>
    obtain ⟨s, e⟩ := times
    obtain ⟨hwithin, hpos⟩ : Within start horizonH s e ∧ 0 < amount := hasks
    have hlater : start ≤ e := hwithin.after.trans hwithin.forward.le
    have hoffsets := hoffsets hwithin.after hlater
    -- within the horizon nothing is clipped
    have hband : band family horizonH (.ok (inHours start (s, e))) taskId amount orderId =
        some ⟨taskId, family, hoursFrom start s, hoursFrom start e, amount, orderId⟩ := by
      show (clip (hoursFrom start s) (hoursFrom start e) 0 horizonH).map _ = _
      rw [clip_of_within hwithin]
      rfl
    refine ⟨_, by unfold interval; rw [hoffsets], ?_⟩
    rw [if_neg (not_le.mpr hpos)]
    show _ = Option.map _ (band family horizonH (.ok (inHours start (s, e))) taskId amount orderId)
    rw [hband]
    show some (taskId, Int.tdiv (s - start) 60, Int.tdiv (e - start) 60, amount, unit) =
      some (taskId, hoursToMinutes (hoursFrom start s), hoursToMinutes (hoursFrom start e), amount,
        if family = .indirect then .headcount else .volume)
    -- whole minutes survive the way through hours
    rw [hoursToMinutes_hoursFrom hwithin.after hwithin.minuteStart,
      hoursToMinutes_hoursFrom hlater hwithin.minuteEnd, hunit]

/-! ## The rows of a table -/

theorem outbound_alike (hsettled : zoneSettled ≤ start) {taskIds : List String}
    (entry : OutboundRow × Nat)
    (hutc : (knownTask taskIds entry.1.taskId).isSome → InUtc entry.1.startDateTime)
    (hasks : (knownTask taskIds entry.1.taskId).isSome → Asks start horizonH
      (timesOfColumns "StartDateTime" "EndDateTime" entry.1.startDateTime entry.1.endDateTime)
      (toFloat entry.1.volume 0)) :
    ∃ row, normalizeOutbound zone (start - 25200) taskIds entry = .ok row ∧
      row.map demandCore =
        (ingestOutbound start horizonH taskIds entry).map (bandCore digest) := by
  unfold normalizeOutbound ingestOutbound
  cases hknown : knownTask taskIds entry.1.taskId with
  | none => exact ⟨none, rfl, rfl⟩
  | some tid =>
    have hknown : (knownTask taskIds entry.1.taskId).isSome := by rw [hknown]; rfl
    exact interval_alike digest .outbound rfl
      (offsets_of_columns zone hsettled _ _ (hutc hknown)) (hasks hknown) tid _ _ _

theorem indirect_alike (hsettled : zoneSettled ≤ start) {taskIds : List String}
    (entry : IndirectRow × Nat)
    (hasks : (knownTask taskIds entry.1.taskId).isSome → Asks start horizonH
      (indirectWindow entry.1) (toFloat entry.1.requiredHeadcount 0)) :
    ∃ row, normalizeIndirect zone (start - 25200) taskIds entry = .ok row ∧
      row.map demandCore =
        (ingestIndirect start horizonH taskIds entry).map (bandCore digest) := by
  unfold normalizeIndirect ingestIndirect
  cases hknown : knownTask taskIds entry.1.taskId with
  | none => exact ⟨none, rfl, rfl⟩
  | some tid =>
    exact interval_alike digest .indirect rfl (offsets_of_indirect zone hsettled entry.1)
      (hasks (by rw [hknown]; rfl)) tid _ _ _

theorem inbound_alike (hsettled : zoneSettled ≤ start) {taskIds : List String}
    (entry : InboundRow × Nat)
    (hutc : InUtc entry.1.windowStartDateTime ∧ InUtc entry.1.windowEndDateTime)
    (hasks : ∀ tk ∈ entry.1.tasks, (knownTask taskIds tk.taskId).isSome → Asks start horizonH
      (timesOfColumns "WindowStartDateTime" "WindowEndDateTime" entry.1.windowStartDateTime
        entry.1.windowEndDateTime) (toFloat tk.volume 0)) :
    ∃ rows, normalizeInbound zone (start - 25200) taskIds entry = .ok rows ∧
      rows.map demandCore =
        (ingestInbound start horizonH taskIds entry).map (bandCore digest) := by
  obtain ⟨row, index⟩ := entry
  have hoffsets : Offsets start (timesOfColumns "WindowStartDateTime" "WindowEndDateTime"
      row.windowStartDateTime row.windowEndDateTime)
      (offsetsOfColumns zone (start - 25200) "WindowStartDateTime" "WindowEndDateTime"
        row.windowStartDateTime row.windowEndDateTime) :=
    offsets_of_columns zone hsettled _ _ hutc.1
  unfold normalizeInbound
  cases htimes : timesOfColumns "WindowStartDateTime" "WindowEndDateTime" row.windowStartDateTime
      row.windowEndDateTime with
  | error e =>
    rw [htimes] at hoffsets
    have hoffsets : offsetsOfColumns zone (start - 25200) "WindowStartDateTime"
      "WindowEndDateTime" row.windowStartDateTime row.windowEndDateTime = .error e := hoffsets
    refine ⟨[], ?_, ?_⟩
    · simp only [hoffsets]
      rw [if_pos (timesOfColumns_error htimes)]
    · -- no band either: its times cannot be read
      have hnone : ingestInbound start horizonH taskIds (row, index) = [] := by
        unfold ingestInbound hoursOfColumns
        rw [List.filterMap_eq_nil_iff]
        intro tk htk
        rw [htimes]
        cases knownTask taskIds tk.taskId with
        | none => rfl
        | some tid =>
          show (if toFloat tk.volume 0 ≤ 0 then none else none) = none
          split_ifs <;> rfl
      rw [hnone]
      rfl
  | ok times =>
    obtain ⟨s, e⟩ := times
    obtain ⟨offsets, hok⟩ : ∃ offsets, offsetsOfColumns zone (start - 25200)
        "WindowStartDateTime" "WindowEndDateTime" row.windowStartDateTime
          row.windowEndDateTime = .ok offsets := by
      obtain ⟨startText, endText, hstart, hend, hparse, hparse'⟩ := timesOfColumns_ok htimes
      unfold offsetsOfColumns column
      simp only [hstart, hend, bind, Except.bind, pure, Except.pure,
        minuteOffset_inUtc zone _ hparse (hutc.1 startText hstart s hparse),
        minuteOffset_inUtc zone _ hparse' (hutc.2 endText hend e hparse')]
      exact ⟨_, rfl⟩
    have hrows : ∀ tk ∈ row.tasks.zipIdx, ∃ one,
        normalizeInboundTask taskIds (offsetsOfColumns zone (start - 25200) "WindowStartDateTime"
          "WindowEndDateTime" row.windowStartDateTime row.windowEndDateTime) row index tk =
            .ok one ∧
        one.map demandCore = ((knownTask taskIds tk.1.taskId).bind fun tid =>
          if toFloat tk.1.volume 0 ≤ 0 then none
          else band .inbound horizonH
            (hoursOfColumns start "WindowStartDateTime" "WindowEndDateTime"
              row.windowStartDateTime row.windowEndDateTime)
            tid (toFloat tk.1.volume 0) s!"IB{index}").map (bandCore digest) := by
      intro tk htk
      have hmem : tk.1 ∈ row.tasks := (List.mem_zipIdx' htk).2 ▸ List.getElem_mem _
      unfold normalizeInboundTask
      cases hknown : knownTask taskIds tk.1.taskId with
      | none => exact ⟨none, rfl, rfl⟩
      | some tid =>
        exact interval_alike digest .inbound rfl hoffsets
          (hasks tk.1 hmem (by rw [hknown]; rfl)) tid _ _ _
    obtain ⟨ones, hones, hcore⟩ := Fallible.mapM_reduceOption_alike hrows
    refine ⟨ones.reduceOption, ?_, ?_⟩
    · simp only [hok] at hones ⊢
      rw [hones]
      rfl
    · rw [hcore]
      -- the index of a task is in no record id of the engine
      unfold ingestInbound
      rw [← List.zipIdx_map_fst 0 row.tasks, List.filterMap_map]
      rw [List.zipIdx_map_fst]
      rfl

/-! ## The demand -/

/-- Every row of a known task asks for something within the horizon, and no row that the projection
reads is of the first day of the calendar. -/
structure DemandAsks (fixture : Fixture) (start : Nat) (horizonH : ℚ) : Prop where
  outboundUtc : ∀ row ∈ fixture.outbound, (knownTask fixture.taskIds row.taskId).isSome →
    InUtc row.startDateTime
  inboundUtc : ∀ row ∈ fixture.inbound,
    InUtc row.windowStartDateTime ∧ InUtc row.windowEndDateTime
  outbound : ∀ row ∈ fixture.outbound, (knownTask fixture.taskIds row.taskId).isSome →
    Asks start horizonH
      (timesOfColumns "StartDateTime" "EndDateTime" row.startDateTime row.endDateTime)
      (toFloat row.volume 0)
  inbound : ∀ row ∈ fixture.inbound, ∀ tk ∈ row.tasks,
    (knownTask fixture.taskIds tk.taskId).isSome → Asks start horizonH
      (timesOfColumns "WindowStartDateTime" "WindowEndDateTime" row.windowStartDateTime
        row.windowEndDateTime) (toFloat tk.volume 0)
  indirect : ∀ row ∈ fixture.indirect, (knownTask fixture.taskIds row.taskId).isSome →
    Asks start horizonH (indirectWindow row) (toFloat row.requiredHeadcount 0)

/-- **The two readings of the demand** differ in nothing that the metrics read but the record
ids. -/
theorem demand_alike {fixture : Fixture} (hsettled : zoneSettled ≤ start)
    (hasks : DemandAsks fixture start horizonH) :
    ∃ demand, normalizeDemand zone (start - 25200) fixture = .ok demand ∧
      demand.map demandCore = (ingestDemand start horizonH fixture).map (bandCore digest) := by
  have hmem : ∀ {α : Type} {l : List α} {entry : α × Nat}, entry ∈ l.zipIdx → entry.1 ∈ l :=
    fun h => (List.mem_zipIdx' h).2 ▸ List.getElem_mem _
  obtain ⟨outbound, houtbound, hout⟩ := Fallible.mapM_reduceOption_alike fun entry hentry =>
    outbound_alike zone digest hsettled entry (hasks.outboundUtc _ (hmem hentry))
      (hasks.outbound _ (hmem hentry))
  obtain ⟨inbound, hinbound, hin⟩ := Fallible.mapM_flatten_alike fun entry hentry =>
    inbound_alike zone digest hsettled entry (hasks.inboundUtc _ (hmem hentry))
      (hasks.inbound _ (hmem hentry))
  obtain ⟨indirect, hindirect, hind⟩ := Fallible.mapM_reduceOption_alike fun entry hentry =>
    indirect_alike zone digest hsettled entry (hasks.indirect _ (hmem hentry))
  refine ⟨outbound.reduceOption ++ inbound.flatten ++ indirect.reduceOption, ?_, ?_⟩
  · unfold normalizeDemand
    rw [houtbound, hinbound, hindirect]
    rfl
  · unfold ingestDemand
    rw [List.map_append, List.map_append, List.map_append, List.map_append, hout, hin, hind]

end

end ShiftMind.Ingest
