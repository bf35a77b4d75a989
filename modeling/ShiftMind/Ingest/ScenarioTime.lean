import ShiftMind.Contracts.Workflow
import ShiftMind.Library.Binary64
import ShiftMind.Library.Calendar
import ShiftMind.Library.Fallible
import ShiftMind.Library.Rounding
import Mathlib.Algebra.Order.Ring.Unbundled.Rat
import Mathlib.Algebra.Order.Field.Basic
import Mathlib.Data.List.TakeWhile

/-!
# ShiftMind — times of a fixture

`ingest/scenario_time.py`, and the helpers of `adapters/postgres/scenario_projection.py` that read
the same texts. The engine measures hours from the start of the scenario on the naive time line; the
projection puts a time into the zone of the site and counts whole minutes from the start in UTC.

* **`parseDt`**, **`parseTimeOfDay`**, **`dayWindow`** — what the engine reads.
* **`minuteOffset`**, **`dayWindowOffsets`** — what the projection reads; a time whose UTC time no
  `datetime` can hold is an error.
* **`minuteOffset_eq`**, **`dayWindowOffsets_eq`** — from 1975 on the zone cancels out.
-/

namespace ShiftMind.Ingest

open Calendar Rounding

/-! ## `ingest/scenario_time.py` -/

/-- `parse_dt`, of `str(value)`. -/
def parseDt (value : String) : Except PyError Nat :=
  match strptime (value.toList.takeWhile fun c => c ≠ '.') with
  | some t => .ok t
  | none => .error (.valueError "time data does not match format '%Y-%m-%dT%H:%M:%S'")

/-- `text.split(":")`. -/
def splitColon : List Char → List (List Char)
  | [] => [[]]
  | ':' :: rest => [] :: splitColon rest
  | c :: rest =>
    match splitColon rest with
    | [] => [[c]]
    | part :: parts => (c :: part) :: parts

/-- `int(text)`. -/
def readInt (text : List Char) : Except PyError Int :=
  let (negative, unsigned) := Binary64.signOf (Binary64.strip text)
  match Binary64.digits unsigned with
  | (d :: ds, []) =>
    .ok (if negative then -(Binary64.ofDigits (d :: ds) : Int) else Binary64.ofDigits (d :: ds))
  | _ => .error (.valueError "invalid literal for int() with base 10")

/-- `parse_time_of_day`, of `str(value)`: missing parts are zeros, and those behind the third do not
count. -/
def parseTimeOfDay (value : String) : Except PyError ℚ := do
  let parts ← (splitColon value.toList).mapM readInt
  let part (i : Nat) : ℚ := ((parts[i]?.getD 0 : Int) : ℚ)
  pure (part 0 + part 1 / 60 + part 2 / 3600)

/-- `hours_from`. -/
def hoursFrom (start dt : Nat) : ℚ := ((dt - start : Int) : ℚ) / 3600

/-- `dt + timedelta(hours=hours)`. A time of day is a whole number of seconds, so that nothing is
rounded away. -/
def addHours (dt : Nat) (hours : ℚ) : Except PyError Nat :=
  let sum := dt + roundHalfEven (hours * 3600)
  if 0 ≤ sum ∧ sum < maxSeconds then .ok sum.toNat else .error .overflowError

/-- The two times of `day_window_hours`; a window that does not end after its start ends on the next
day. -/
def dayWindow (date todStart todEnd : String) : Except PyError (Nat × Nat) := do
  let day ← parseDt date
  let sOff ← parseTimeOfDay todStart
  let eOff ← parseTimeOfDay todEnd
  let startDt ← addHours day sOff
  let endDt ← addHours day (eOff + if eOff ≤ sOff then 24 else 0)
  pure (startDt, endDt)

/-! ## The site's zone -/

/-- `ZoneInfo("Asia/Ho_Chi_Minh")`: seven hours ahead of UTC since 13 June 1975, and by what it was
before. An offset is always less than a day. -/
structure SiteZone where
  earlier : Nat → Int
  bounded : ∀ t, -86400 < earlier t ∧ earlier t < 86400

/-- 1975-06-13T00:00:00. -/
def zoneSettled : Nat := seconds 1975 6 13 0 0 0

def SiteZone.utcoffset (zone : SiteZone) (t : Nat) : Int :=
  if t < zoneSettled then zone.earlier t else 25200

variable (zone : SiteZone)

/-- `astimezone`, in seconds on the time line of UTC. -/
def toUtc (t : Nat) : Except PyError Int :=
  let utc : Int := t - zone.utcoffset t
  if 0 ≤ utc ∧ utc < maxSeconds then .ok utc else .error .overflowError

/-- `_as_utc`. -/
def asUtc (value : String) : Except PyError Int := do
  let t ← parseDt value
  toUtc zone t

/-- `_minute_offset`. -/
def minuteOffset (horizonStart : Int) (value : String) : Except PyError Int := do
  let t ← asUtc zone value
  -- `int(seconds / 60)` cuts off towards zero
  pure (Int.tdiv (t - horizonStart) 60)

/-- The offsets of two times, which go through their texts. -/
def textOffsets (horizonStart : Int) (times : Nat × Nat) : Except PyError (Int × Int) := do
  let start ← minuteOffset zone horizonStart (String.ofList (isoformat times.1))
  let stop ← minuteOffset zone horizonStart (String.ofList (isoformat times.2))
  pure (start, stop)

/-- `_day_window_offsets`. -/
def dayWindowOffsets (horizonStart : Int) (date todStart todEnd : String) :
    Except PyError (Int × Int) :=
  dayWindow date todStart todEnd >>= textOffsets zone horizonStart

/-! ## Times in UTC -/

/-- The second day of the calendar; a time on the first may have no time in UTC. -/
def secondDay : Nat := 86400

/-- A cell with a time is not of the first day. -/
def InUtc (value : Option String) : Prop :=
  ∀ text ∈ value, ∀ t, parseDt text = .ok t → secondDay ≤ t

instance (value : Option String) : Decidable (InUtc value) :=
  match value with
  | none => .isTrue fun _ h => by cases h
  | some text =>
    match h : parseDt text with
    | .error _ => .isTrue fun _ htext t ht => by cases htext; rw [h] at ht; cases ht
    | .ok t =>
      decidable_of_iff (secondDay ≤ t) ⟨fun hday _ htext t' ht' => by
        cases htext; rw [h] at ht'; cases ht'; exact hday, fun hall => hall text rfl t h⟩

theorem parseDt_lt {value : String} {t : Nat} (h : parseDt value = .ok t) : t < maxSeconds := by
  unfold parseDt at h
  split at h
  · rename_i ht
    cases h
    exact strptime_lt ht
  · cases h

/-- From the second day on a time has a time in UTC. -/
theorem toUtc_ok {t : Nat} (hday : secondDay ≤ t) (hlast : t < maxSeconds) :
    toUtc zone t = .ok (t - zone.utcoffset t) := by
  have hsettled : zoneSettled + 86400 ≤ maxSeconds := by decide
  unfold toUtc
  apply if_pos
  unfold SiteZone.utcoffset
  unfold secondDay at hday
  split_ifs with hearlier
  · have hbounds := zone.bounded t
    omega
  · have hlate : 25200 ≤ zoneSettled := by decide
    omega

/-- So it has an offset. -/
theorem minuteOffset_inUtc {value : String} {t : Nat} (horizonStart : Int)
    (hparse : parseDt value = .ok t) (hday : secondDay ≤ t) :
    minuteOffset zone horizonStart value =
      .ok (Int.tdiv (t - zone.utcoffset t - horizonStart) 60) := by
  unfold minuteOffset asUtc
  rw [hparse]
  show (toUtc zone t >>= _) = _
  rw [toUtc_ok zone hday (parseDt_lt hparse)]
  rfl

/-! ## The zone cancels out

Behind the settled start the offset is one constant, and a difference of times does not depend on
it. -/

theorem takeWhile_isoformat (t : Nat) :
    (isoformat t).takeWhile (fun c => c ≠ '.') = isoformat t := by
  have hdigit : ∀ d < 10, Nat.digitChar d ≠ '.' := by decide
  have hpadded : ∀ k n, ∀ c ∈ DateTime.padded k n, c ≠ '.' := by
    intro k
    induction k with
    | zero =>
      intro n c hc
      cases hc
    | succ k ih =>
      intro n c hc
      unfold DateTime.padded at hc
      rcases List.mem_append.mp hc with hc | hc
      · exact ih _ c hc
      · rw [List.mem_singleton.mp hc]
        exact hdigit _ (Nat.mod_lt n (by decide))
  rw [List.takeWhile_eq_self_iff]
  intro c hc
  unfold isoformat at hc
  simp only [List.mem_append, List.mem_cons] at hc
  rw [decide_eq_true_eq]
  rcases hc with hc | rfl | hc | rfl | hc | rfl | hc | rfl | hc | rfl | hc
  all_goals first | exact hpadded _ _ c hc | decide

/-- A time goes through its text unchanged. -/
theorem parseDt_isoformat {t : Nat} (h : t < maxSeconds) :
    parseDt (String.ofList (isoformat t)) = .ok t := by
  unfold parseDt
  rw [String.toList_ofList, takeWhile_isoformat, strptime_isoformat h]

theorem utcoffset_settled {t : Nat} (h : zoneSettled ≤ t) : zone.utcoffset t = 25200 :=
  if_neg (Nat.not_lt.mpr h)

/-- **Once the zone is settled it cancels out**: the offset of a time is that on the naive line. -/
theorem minuteOffset_eq {value : String} {t start : Nat} (hparse : parseDt value = .ok t)
    (hstart : zoneSettled ≤ start) (ht : start ≤ t) :
    minuteOffset zone (start - 25200) value = .ok (Int.tdiv (t - start) 60) := by
  have hday : secondDay ≤ zoneSettled := by decide
  rw [minuteOffset_inUtc zone _ hparse (hday.trans (hstart.trans ht)),
    utcoffset_settled zone (hstart.trans ht)]
  congr 2
  omega

theorem addHours_lt {dt : Nat} {hours : ℚ} {sum : Nat} (h : addHours dt hours = .ok sum) :
    sum < maxSeconds := by
  unfold addHours at h
  simp only at h
  split_ifs at h with hrange
  cases h
  omega

/-- The two times of a window are times that a `datetime` can hold. -/
theorem dayWindow_lt {date todStart todEnd : String} {s e : Nat}
    (h : dayWindow date todStart todEnd = .ok (s, e)) : s < maxSeconds ∧ e < maxSeconds := by
  obtain ⟨day, -, h⟩ := Fallible.bind_ok h
  obtain ⟨sOff, -, h⟩ := Fallible.bind_ok h
  obtain ⟨eOff, -, h⟩ := Fallible.bind_ok h
  obtain ⟨startDt, hstart, h⟩ := Fallible.bind_ok h
  obtain ⟨endDt, hend, h⟩ := Fallible.bind_ok h
  cases h
  exact ⟨addHours_lt hstart, addHours_lt hend⟩

theorem dayWindowOffsets_eq {date todStart todEnd : String} {s e start : Nat}
    (h : dayWindow date todStart todEnd = .ok (s, e)) (hstart : zoneSettled ≤ start)
    (hs : start ≤ s) (he : start ≤ e) :
    dayWindowOffsets zone (start - 25200) date todStart todEnd =
      .ok (Int.tdiv (s - start) 60, Int.tdiv (e - start) 60) := by
  obtain ⟨hslt, helt⟩ := dayWindow_lt h
  unfold dayWindowOffsets textOffsets
  simp only [h, bind, Except.bind, pure, Except.pure,
    minuteOffset_eq zone (parseDt_isoformat hslt) hstart hs,
    minuteOffset_eq zone (parseDt_isoformat helt) hstart he]

end ShiftMind.Ingest
