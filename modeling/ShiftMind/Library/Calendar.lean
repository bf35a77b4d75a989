import ShiftMind.Library.DateTime
import Mathlib.Tactic.IntervalCases

/-!
# Dates as ordinals, and naive times

Python's naive `datetime`, without a fraction of a second, is the number of seconds since the first
day of the proleptic Gregorian calendar. A date is the ordinal of its day: `toOrdinal` counts the
days before it, `ofOrdinal` takes off cycles of four hundred years, centuries, cycles of four years
and years, and estimates the month of what is left.

* **`ofOrdinal_spec`** — the date of an ordinal has that ordinal.
* **`strptime_lt`** — what is read from a text is a time that a `datetime` can hold.
* **`strptime_isoformat`** — a text that `isoformat` wrote is read back as it was.
-/

namespace Calendar

open DateTime

/-! ## Ordinals -/

/-- The days of the years before a year. -/
def daysBeforeYear (year : Nat) : Nat :=
  (year - 1) * 365 + (year - 1) / 4 - (year - 1) / 100 + (year - 1) / 400

/-- The days of a month. -/
def monthLength (leap : Bool) (month : Nat) : Nat :=
  if month = 2 then (if leap then 29 else 28)
  else if month = 4 ∨ month = 6 ∨ month = 9 ∨ month = 11 then 30 else 31

/-- The days of the months before a month. -/
def daysBeforeMonth (leap : Bool) (month : Nat) : Nat :=
  ((List.range (month - 1)).map fun m => monthLength leap (m + 1)).sum

/-- The ordinal of a date: the first day of the first year is day one. -/
def toOrdinal (year month day : Nat) : Nat :=
  daysBeforeYear year + daysBeforeMonth (isLeap year) month + day

/-- The month and the day of a day of a year, counted from zero. -/
def monthDay (leap : Bool) (n : Nat) : Nat × Nat :=
  -- an estimate that is the month, or the one behind it
  let month := (n + 50) / 32
  if n < daysBeforeMonth leap month then (month - 1, n - daysBeforeMonth leap (month - 1) + 1)
  else (month, n - daysBeforeMonth leap month + 1)

/-- A day, counted from zero, in cycles of four hundred years, centuries, cycles of four years,
years and days. -/
structure Cycles where
  n400 : Nat
  n100 : Nat
  n4 : Nat
  n1 : Nat
  days : Nat

def cycles (n : Nat) : Cycles where
  n400 := n / 146097
  n100 := n % 146097 / 36524
  n4 := n % 146097 % 36524 / 1461
  n1 := n % 146097 % 36524 % 1461 / 365
  days := n % 146097 % 36524 % 1461 % 365

def Cycles.year (c : Cycles) : Nat := c.n400 * 400 + 1 + c.n100 * 100 + c.n4 * 4 + c.n1

/-- The date of an ordinal. -/
def ofOrdinal (n : Nat) : Nat × Nat × Nat :=
  let c := cycles (n - 1)
  -- the last day of a leap year is one too many for a year of 365 days
  if c.n1 = 4 ∨ c.n100 = 4 then (c.year - 1, 12, 31)
  else
    let leap := c.n1 = 3 && (c.n4 ≠ 24 || c.n100 = 3)
    (c.year, monthDay leap c.days)

/-- The last ordinal: the end of the year 9999. -/
def maxOrdinal : Nat := 3652059

/-! ## The date of an ordinal -/

theorem monthDay_spec (leap : Bool) {n : Nat} (h : n < 365) :
    (1 ≤ (monthDay leap n).1 ∧ (monthDay leap n).1 ≤ 12) ∧
      (1 ≤ (monthDay leap n).2 ∧
        (monthDay leap n).2 ≤ monthLength leap (monthDay leap n).1) ∧
      daysBeforeMonth leap (monthDay leap n).1 + (monthDay leap n).2 = n + 1 := by
  have hall : ∀ leap : Bool, ∀ n < 365,
      (1 ≤ (monthDay leap n).1 ∧ (monthDay leap n).1 ≤ 12) ∧
        (1 ≤ (monthDay leap n).2 ∧
          (monthDay leap n).2 ≤ monthLength leap (monthDay leap n).1) ∧
        daysBeforeMonth leap (monthDay leap n).1 + (monthDay leap n).2 = n + 1 := by
    decide +kernel
  exact hall leap n h

theorem cycles_spec (n : Nat) :
    n = (cycles n).n400 * 146097 + (cycles n).n100 * 36524 + (cycles n).n4 * 1461 +
        (cycles n).n1 * 365 + (cycles n).days ∧
      (cycles n).n100 ≤ 4 ∧ (cycles n).n4 ≤ 24 ∧ (cycles n).n1 ≤ 4 ∧ (cycles n).days < 365 ∧
      ((cycles n).n100 = 4 → (cycles n).n4 = 0 ∧ (cycles n).n1 = 0 ∧ (cycles n).days = 0) ∧
      ((cycles n).n1 = 4 → (cycles n).days = 0) ∧
      -- the last cycle of a century is a day short
      ((cycles n).n4 = 24 → (cycles n).n1 ≤ 3) := by
  unfold cycles
  simp only
  refine ⟨by omega, by omega, by omega, by omega, by omega, ?_, by omega, by omega⟩
  intro h
  omega

/-- The leap years of the cycles. -/
theorem isLeap_year {c : Cycles} (h100 : c.n100 ≤ 3) (h4 : c.n4 ≤ 24) (h1 : c.n1 ≤ 3) :
    isLeap c.year = (c.n1 = 3 && (c.n4 ≠ 24 || c.n100 = 3) : Bool) := by
  have hfour : c.year % 4 = 0 ↔ c.n1 = 3 := by
    unfold Cycles.year
    omega
  have hcentury : c.year % 100 = 0 ↔ c.n1 = 3 ∧ c.n4 = 24 := by
    unfold Cycles.year
    omega
  have hcycle : c.year % 400 = 0 ↔ c.n1 = 3 ∧ c.n4 = 24 ∧ c.n100 = 3 := by
    unfold Cycles.year
    omega
  unfold isLeap
  rw [Bool.eq_iff_iff]
  simp only [Bool.and_eq_true, Bool.or_eq_true, decide_eq_true_eq, ne_eq, hfour, hcentury, hcycle]
  omega

theorem daysBeforeYear_year {c : Cycles} (h100 : c.n100 ≤ 3) (h4 : c.n4 ≤ 24) (h1 : c.n1 ≤ 3) :
    daysBeforeYear c.year = c.n400 * 146097 + c.n100 * 36524 + c.n4 * 1461 + c.n1 * 365 := by
  unfold daysBeforeYear Cycles.year
  omega

theorem daysInMonth_eq (year month : Nat) :
    daysInMonth year month = monthLength (isLeap year) month := rfl

/-- **The date of an ordinal** has that ordinal, in a year of four digits up to the last one, and is
a date of the calendar. -/
theorem ofOrdinal_spec {n : Nat} (hpos : 1 ≤ n) {year month day : Nat}
    (h : ofOrdinal n = (year, month, day)) :
    toOrdinal year month day = n ∧ 1 ≤ year ∧ (n ≤ maxOrdinal → year ≤ 9999) ∧
      (1 ≤ month ∧ month ≤ 12) ∧ 1 ≤ day ∧ day ≤ daysInMonth year month := by
  obtain ⟨hn, h100, h4, h1, hdays, hlast100, hlast1, hshort⟩ := cycles_spec (n - 1)
  generalize hc : cycles (n - 1) = c at hn h100 h4 h1 hdays hlast100 hlast1 hshort
  unfold ofOrdinal at h
  simp only [hc] at h
  split at h
  · -- the last day of a leap year
    rename_i hlast
    obtain ⟨rfl, rfl, rfl⟩ := h
    have hyear : c.year - 1 = 400 * c.n400 + 100 * c.n100 + 4 * c.n4 + c.n1 := by
      unfold Cycles.year
      omega
    have hleap : isLeap (c.year - 1) = true := by
      unfold isLeap
      simp only [Bool.and_eq_true, Bool.or_eq_true, decide_eq_true_eq, ne_eq]
      omega
    refine ⟨?_, by omega, ?_, by omega, by omega, ?_⟩
    · have hmonths : daysBeforeMonth true 12 = 335 := by decide
      unfold toOrdinal
      rw [hleap, hmonths]
      unfold daysBeforeYear
      omega
    · unfold maxOrdinal
      omega
    · show 31 ≤ monthLength (isLeap (c.year - 1)) 12
      simp [monthLength]
  · rename_i hnot
    have h100' : c.n100 ≤ 3 := by omega
    have h1' : c.n1 ≤ 3 := by omega
    obtain ⟨rfl, hmonthDay⟩ := Prod.mk.inj h
    rw [← isLeap_year h100' h4 h1'] at hmonthDay
    obtain ⟨hmonth, hday, hsum⟩ := monthDay_spec (isLeap c.year) hdays
    rw [hmonthDay] at hmonth hday hsum
    simp only at hmonth hday hsum
    refine ⟨?_, ?_, ?_, hmonth, hday.1, ?_⟩
    · unfold toOrdinal
      rw [daysBeforeYear_year h100' h4 h1']
      omega
    · unfold Cycles.year
      omega
    · unfold Cycles.year maxOrdinal
      omega
    · rw [daysInMonth_eq]
      exact hday.2

/-! ## Naive times -/

/-- A naive `datetime`, in seconds since the first day. -/
def seconds (year month day hour minute second : Nat) : Nat :=
  (toOrdinal year month day - 1) * 86400 + hour * 3600 + minute * 60 + second

/-- The first time that no `datetime` can hold. -/
def maxSeconds : Nat := maxOrdinal * 86400

/-- The constructor, which refuses fields out of range. -/
def ofFields (year month day hour minute second : Nat) : Option Nat :=
  if (1 ≤ year ∧ year ≤ 9999) ∧ (1 ≤ month ∧ month ≤ 12) ∧
      (1 ≤ day ∧ day ≤ daysInMonth year month) ∧ hour < 24 ∧ minute < 60 ∧ second < 60 then
    some (seconds year month day hour minute second)
  else none

/-- `t.isoformat()`. -/
def isoformat (t : Nat) : List Char :=
  let date := ofOrdinal (t / 86400 + 1)
  padded 4 date.1 ++ '-' :: (padded 2 date.2.1 ++ '-' :: (padded 2 date.2.2 ++ 'T' ::
    (padded 2 (t % 86400 / 3600) ++ ':' :: (padded 2 (t % 3600 / 60) ++ ':' ::
      padded 2 (t % 60)))))

/-- A number of one digit or two. -/
def readField : List Char → Option (Nat × List Char)
  | [] => none
  | c :: rest =>
    match digitValue c with
    | none => none
    | some d =>
      match rest with
      | [] => some (d, [])
      | c' :: rest' =>
        match digitValue c' with
        | none => some (d, rest)
        | some d' => some (d * 10 + d', rest')

/-- `%d` also takes a blank in front of a digit. -/
def readDay : List Char → Option (Nat × List Char)
  | ' ' :: c :: rest => (digitValue c).map fun d => (d, rest)
  | text => readField text

/-- `datetime.strptime(text, "%Y-%m-%dT%H:%M:%S")`. A directive is followed by a character that is
no digit, or by the end, so a number is read to its end and then held against its range; the `T` may
be a small one. -/
def strptime (text : List Char) : Option Nat := do
  let (year, text) ← readDigits 4 0 text
  let text ← expect '-' text
  let (month, text) ← readField text
  let text ← expect '-' text
  let (day, text) ← readDay text
  let text ← (expect 'T' text).or (expect 't' text)
  let (hour, text) ← readField text
  let text ← expect ':' text
  let (minute, text) ← readField text
  let text ← expect ':' text
  let (second, text) ← readField text
  if text ≠ [] then none
  else ofFields year month day hour minute second

theorem readField_padded {n : Nat} (h : n < 100) {rest : List Char} :
    readField (padded 2 n ++ rest) = some (n, rest) := by
  have hten : n / 10 < 10 := by omega
  have hunit : n % 10 < 10 := by omega
  show readField (Nat.digitChar (n / 10 % 10) :: Nat.digitChar (n % 10) :: rest) = _
  rw [Nat.mod_eq_of_lt hten]
  unfold readField
  simp only [digitValue_digitChar hten, digitValue_digitChar hunit]
  have hsum : n / 10 * 10 + n % 10 = n := by omega
  rw [hsum]

theorem readDay_padded {n : Nat} (h : n < 100) {rest : List Char} :
    readDay (padded 2 n ++ rest) = some (n, rest) := by
  have hten : n / 10 % 10 < 10 := by omega
  have hblank : ∀ d < 10, Nat.digitChar d ≠ ' ' := by decide
  have hread : ∀ c text, c ≠ ' ' → readDay (c :: text) = readField (c :: text) := by
    intro c text hc
    unfold readDay
    split
    · rename_i heq
      exact absurd (List.cons.inj heq).1 hc
    · rfl
  rw [← readField_padded h]
  exact hread _ _ (hblank _ hten)

/-- The months of a year have its days. -/
theorem daysBeforeMonth_add_le (leap : Bool) {month : Nat} (hpos : 1 ≤ month) (hle : month ≤ 12) :
    daysBeforeMonth leap month + monthLength leap month ≤ if leap then 366 else 365 := by
  interval_cases month <;> cases leap <;> decide

/-- The constructor makes nothing that a `datetime` cannot hold. -/
theorem ofFields_lt {year month day hour minute second t : Nat}
    (h : ofFields year month day hour minute second = some t) : t < maxSeconds := by
  unfold ofFields at h
  split_ifs at h with hrange
  cases h
  obtain ⟨⟨hyear, hlast⟩, ⟨hmonth, htwelve⟩, ⟨hday, hdays⟩, hhour, hminute, hsecond⟩ := hrange
  have hyearly := daysBeforeMonth_add_le (isLeap year) hmonth htwelve
  rw [daysInMonth_eq] at hdays
  have hordinal : toOrdinal year month day ≤ maxOrdinal := by
    unfold toOrdinal daysBeforeYear maxOrdinal
    -- the last year is no leap year
    have hleap : isLeap year = true → year ≤ 9998 := by
      intro hleap
      by_contra hlate
      rw [show year = 9999 by omega] at hleap
      exact absurd hleap (by decide)
    split_ifs at hyearly with hl
    · have := hleap hl
      omega
    · omega
  unfold seconds maxSeconds
  have hpos : 1 ≤ toOrdinal year month day := by
    unfold toOrdinal
    omega
  omega

/-- **What is read is a time that a `datetime` can hold.** -/
theorem strptime_lt {text : List Char} {t : Nat} (h : strptime text = some t) : t < maxSeconds := by
  unfold strptime at h
  simp only [Option.bind_eq_bind, Option.bind_eq_some_iff] at h
  obtain ⟨_, -, _, -, _, -, _, -, _, -, _, -, _, -, _, -, _, -, _, -, _, -, h⟩ := h
  split_ifs at h
  exact ofFields_lt h

/-- **A time is read back** from the text that `isoformat` wrote. -/
theorem strptime_isoformat {t : Nat} (h : t < maxSeconds) : strptime (isoformat t) = some t := by
  obtain ⟨⟨year, month, day⟩, hdate⟩ : ∃ date, ofOrdinal (t / 86400 + 1) = date := ⟨_, rfl⟩
  obtain ⟨hordinal, hyear, hlast, hmonth, hday, hdays⟩ := ofOrdinal_spec (by omega) hdate
  have hyear' : year ≤ 9999 := hlast (by
    unfold maxSeconds at h
    omega)
  -- both fields have two digits
  have hlength : daysInMonth year month ≤ 31 := by
    rw [daysInMonth_eq]
    unfold monthLength
    split_ifs <;> omega
  have hfields : ofFields year month day (t % 86400 / 3600) (t % 3600 / 60) (t % 60) = some t := by
    unfold ofFields
    rw [if_pos ⟨⟨hyear, hyear'⟩, hmonth, ⟨hday, hdays⟩, by omega, by omega, by omega⟩]
    unfold seconds
    rw [hordinal]
    congr 1
    omega
  -- the last field ends the text
  have hend : readField (padded 2 (t % 60)) = some (t % 60, []) := by
    have hread : readField (padded 2 (t % 60) ++ []) = some (t % 60, []) :=
      readField_padded (by omega)
    rwa [List.append_nil] at hread
  unfold isoformat strptime
  rw [hdate]
  simp only [readDigits_field (show year < 10 ^ 4 by omega), expect_cons,
    readField_padded (show month < 100 by omega), readDay_padded (show day < 100 by omega),
    readField_padded (show t % 86400 / 3600 < 100 by omega),
    readField_padded (show t % 3600 / 60 < 100 by omega), hend, hfields, Option.bind_eq_bind,
    Option.bind_some, Option.some_or, ne_eq, not_true_eq_false, if_false]

end Calendar
