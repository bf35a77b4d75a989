import Mathlib.Data.Nat.Basic
import Mathlib.Tactic.Ring

/-!
# Dates and times as ISO 8601 texts

Python's aware `datetime`: the fields of a date and a time of day, and an offset from UTC in whole
minutes. A value with a field out of its range cannot be built. `isoformat` writes the fields with
fixed widths and a fraction only where there is one; `fromisoformat` reads the extended layout, with
any separator, any length of the fraction, and `Z` or an offset behind it.

* **`fromisoformat_isoformat`**, **`fromisoformat_rfc3339`** — a text that `isoformat` wrote is read
  back as it was, and so is one that writes an offset of zero as `Z`.
* **`toUtc_of_utc`** — a time in UTC is in UTC already.
-/

namespace DateTime

/-! ## Decimal digits -/

/-- The last `k` decimal digits of `n`, the most significant one first. -/
def padded : Nat → Nat → List Char
  | 0, _ => []
  | k + 1, n => padded k (n / 10) ++ [Nat.digitChar (n % 10)]

def digitValue (c : Char) : Option Nat :=
  if '0' ≤ c ∧ c ≤ '9' then some (c.toNat - '0'.toNat) else none

/-- Read exactly `k` digits behind a number. -/
def readDigits : Nat → Nat → List Char → Option (Nat × List Char)
  | 0, value, text => some (value, text)
  | _ + 1, _, [] => none
  | k + 1, value, c :: text =>
    match digitValue c with
    | some digit => readDigits k (value * 10 + digit) text
    | none => none

/-- Read the digits of a fraction: up to `k` of them count, missing ones are zeros, and the rest is
cut off. -/
def readFraction : Nat → Nat → List Char → Nat × List Char
  | 0, value, text => (value, text.dropWhile fun c => (digitValue c).isSome)
  | k + 1, value, [] => (value * 10 ^ (k + 1), [])
  | k + 1, value, c :: text =>
    match digitValue c with
    | some digit => readFraction k (value * 10 + digit) text
    | none => (value * 10 ^ (k + 1), c :: text)

theorem digitValue_digitChar {d : Nat} (hd : d < 10) : digitValue (Nat.digitChar d) = some d := by
  have hall : ∀ d < 10, digitValue (Nat.digitChar d) = some d := by decide
  exact hall d hd

/-- The last digits of a number: those of its tenth, and its last one. -/
theorem last_digits (k n : Nat) : n % 10 ^ (k + 1) = n / 10 % 10 ^ k * 10 + n % 10 := by
  rw [pow_succ', Nat.mod_mul]
  omega

/-- A reader that takes in one digit at a time takes in the padded digits of a number. -/
theorem reads_padded {β : Type} {read : Nat → Nat → List Char → β}
    (hread : ∀ k value c d text, digitValue c = some d →
      read (k + 1) value (c :: text) = read k (value * 10 + d) text) (k j n value : Nat)
    (rest : List Char) :
    read (k + j) value (padded k n ++ rest) = read j (value * 10 ^ k + n % 10 ^ k) rest := by
  -- the digits before the last one are read first
  induction k generalizing j n value rest with
  | zero => simp [padded, Nat.mod_one]
  | succ k ih =>
    have hlast := digitValue_digitChar (Nat.mod_lt n (by decide : 0 < 10))
    rw [padded, List.append_assoc, List.singleton_append, show k + 1 + j = k + (j + 1) by omega,
      ih, hread _ _ _ _ _ hlast, last_digits, pow_succ]
    congr 1
    ring

theorem readDigits_padded (k n value : Nat) (rest : List Char) :
    readDigits k value (padded k n ++ rest) = some (value * 10 ^ k + n % 10 ^ k, rest) := by
  have hread : ∀ k value c d text, digitValue c = some d →
      readDigits (k + 1) value (c :: text) = readDigits k (value * 10 + d) text := by
    intro k value c d text hd
    rw [readDigits, hd]
  exact reads_padded hread k 0 n value rest

/-- A text that starts with no digit. -/
def NoDigit (text : List Char) : Prop := ∀ c ∈ text.head?, digitValue c = none

theorem readFraction_padded (k n value : Nat) {rest : List Char} (hrest : NoDigit rest) :
    readFraction k value (padded k n ++ rest) = (value * 10 ^ k + n % 10 ^ k, rest) := by
  have hstep : ∀ k value c d text, digitValue c = some d →
      readFraction (k + 1) value (c :: text) = readFraction k (value * 10 + d) text := by
    intro k value c d text hd
    rw [readFraction, hd]
  have hread := reads_padded hstep k 0 n value rest
  rw [Nat.add_zero] at hread
  rw [hread]
  cases rest with
  | nil => rfl
  | cons c rest =>
    have hc : digitValue c = none := hrest c rfl
    simp [readFraction, hc]

end DateTime

open DateTime

/-! ## Dates and times -/

def isLeap (year : Nat) : Bool := year % 4 = 0 && (year % 100 ≠ 0 || year % 400 = 0)

def daysInMonth (year month : Nat) : Nat :=
  if month = 2 then (if isLeap year then 29 else 28)
  else if month = 4 ∨ month = 6 ∨ month = 9 ∨ month = 11 then 30 else 31

/-- The fields of a date, a time of day and an offset from UTC, in minutes. -/
structure DateFields where
  year : Nat
  month : Nat
  day : Nat
  hour : Nat
  minute : Nat
  second : Nat
  microsecond : Nat
  offset : Int
  deriving DecidableEq, Repr

/-- Every field is in its range. -/
structure DateFields.Valid (t : DateFields) : Prop where
  year : 1 ≤ t.year ∧ t.year ≤ 9999
  month : 1 ≤ t.month ∧ t.month ≤ 12
  day : 1 ≤ t.day ∧ t.day ≤ daysInMonth t.year t.month
  hour : t.hour < 24
  minute : t.minute < 60
  second : t.second < 60
  microsecond : t.microsecond < 1000000
  offset : -1440 < t.offset ∧ t.offset < 1440

instance (t : DateFields) : Decidable t.Valid :=
  decidable_of_iff ((1 ≤ t.year ∧ t.year ≤ 9999) ∧ (1 ≤ t.month ∧ t.month ≤ 12) ∧
    (1 ≤ t.day ∧ t.day ≤ daysInMonth t.year t.month) ∧ t.hour < 24 ∧ t.minute < 60 ∧
    t.second < 60 ∧ t.microsecond < 1000000 ∧ -1440 < t.offset ∧ t.offset < 1440)
    ⟨fun ⟨a, b, c, d, e, f, g, h⟩ => ⟨a, b, c, d, e, f, g, h⟩,
      fun ⟨a, b, c, d, e, f, g, h⟩ => ⟨a, b, c, d, e, f, g, h⟩⟩

/-- An aware `datetime`. -/
structure DateTime extends DateFields where
  valid : toDateFields.Valid
  deriving DecidableEq

namespace DateTime

/-- The constructor, which refuses fields out of range. -/
def ofFields (t : DateFields) : Option DateTime := if h : t.Valid then some ⟨t, h⟩ else none

theorem ofFields_toDateFields (t : DateTime) : ofFields t.toDateFields = some t :=
  dif_pos t.valid

/-! ## ISO 8601 -/

/-- The text of an offset. -/
def offsetText (offset : Int) : List Char :=
  (if offset < 0 then '-' else '+') ::
    (padded 2 (offset.natAbs / 60) ++ ':' :: padded 2 (offset.natAbs % 60))

/-- `t.isoformat()`. -/
def isoformat (t : DateTime) : List Char :=
  padded 4 t.year ++ '-' :: (padded 2 t.month ++ '-' :: (padded 2 t.day ++ 'T' ::
    (padded 2 t.hour ++ ':' :: (padded 2 t.minute ++ ':' :: (padded 2 t.second ++
      ((if t.microsecond = 0 then [] else '.' :: padded 6 t.microsecond) ++
        offsetText t.offset))))))

/-- A given character, and what follows it. -/
def expect (c : Char) : List Char → Option (List Char)
  | [] => none
  | c' :: text => if c' = c then some text else none

/-- An offset at the end of a text. -/
def readOffset : List Char → Option Int
  | ['Z'] => some 0
  | sign :: text => do
    let (hours, text) ← readDigits 2 0 text
    let text ← expect ':' text
    let (minutes, text) ← readDigits 2 0 text
    if text ≠ [] then none
    else if sign = '+' then some (hours * 60 + minutes)
    else if sign = '-' then some (-(hours * 60 + minutes))
    else none
  | [] => none

/-- The microseconds behind the seconds; a point or a comma has a digit behind it. -/
def readMicroseconds : List Char → Option (Nat × List Char)
  | c :: d :: text =>
    if c = '.' ∨ c = ',' then
      if (digitValue d).isSome then some (readFraction 6 0 (d :: text)) else none
    else some (0, c :: d :: text)
  | text => some (0, text)

/-- `datetime.fromisoformat(text)`, for the extended layout with an offset. -/
def fromisoformat (text : List Char) : Option DateTime := do
  let (year, text) ← readDigits 4 0 text
  let text ← expect '-' text
  let (month, text) ← readDigits 2 0 text
  let text ← expect '-' text
  let (day, text) ← readDigits 2 0 text
  -- any one character may separate the date and the time
  let text := text.tail
  let (hour, text) ← readDigits 2 0 text
  let text ← expect ':' text
  let (minute, text) ← readDigits 2 0 text
  let text ← expect ':' text
  let (second, text) ← readDigits 2 0 text
  let (microsecond, text) ← readMicroseconds text
  let offset ← readOffset text
  ofFields ⟨year, month, day, hour, minute, second, microsecond, offset⟩

theorem expect_cons (c : Char) (text : List Char) : expect c (c :: text) = some text := if_pos rfl

/-- Reading back a number that fits its width. -/
theorem readDigits_field {k n : Nat} (h : n < 10 ^ k) (rest : List Char) :
    readDigits k 0 (padded k n ++ rest) = some (n, rest) := by
  rw [readDigits_padded, Nat.zero_mul, Nat.zero_add, Nat.mod_eq_of_lt h]

theorem readOffset_offsetText {offset : Int} (h : -1440 < offset ∧ offset < 1440) :
    readOffset (offsetText offset) = some offset := by
  have hhours : offset.natAbs / 60 < 10 ^ 2 := by omega
  have hminutes : offset.natAbs % 60 < 10 ^ 2 := by omega
  -- hours and minutes have two digits each
  have hlast : readDigits 2 0 (padded 2 (offset.natAbs % 60)) =
      some (offset.natAbs % 60, []) := by
    have hread := readDigits_field hminutes []
    rwa [List.append_nil] at hread
  unfold offsetText
  split
  · -- the sign is written apart from the digits
    rename_i hneg
    rw [readOffset]
    · rw [readDigits_field hhours]
      simp only [Option.bind_eq_bind, Option.bind_some, expect_cons, hlast, ne_eq,
        not_true_eq_false, if_false]
      rw [if_neg (by decide)]
      simp only [if_true]
      congr 1
      omega
    · simp
  · rename_i hpos
    rw [readOffset]
    · rw [readDigits_field hhours]
      simp only [Option.bind_eq_bind, Option.bind_some, expect_cons, hlast, ne_eq,
        not_true_eq_false, if_false, if_true]
      congr 1
      omega
    · simp

theorem noDigit_offsetText (offset : Int) : NoDigit (offsetText offset) := by
  intro c hc
  have hfirst : (offsetText offset).head? = some (if offset < 0 then '-' else '+') := rfl
  rw [hfirst, Option.mem_some_iff] at hc
  rw [← hc]
  split
  · rfl
  · rfl

/-- The date and the time of day as `isoformat` writes them, before a given end. -/
def clockText (t : DateTime) (ending : List Char) : List Char :=
  padded 4 t.year ++ '-' :: (padded 2 t.month ++ '-' :: (padded 2 t.day ++ 'T' ::
    (padded 2 t.hour ++ ':' :: (padded 2 t.minute ++ ':' :: (padded 2 t.second ++
      ((if t.microsecond = 0 then [] else '.' :: padded 6 t.microsecond) ++ ending))))))

/-- The fraction is read back, and where it is left out it is zero. -/
theorem readMicroseconds_text {microsecond : Nat} (h : microsecond < 1000000) {ending : List Char}
    (hending : NoDigit ending) (hmark : ∀ c ∈ ending.head?, ¬ (c = '.' ∨ c = ',')) :
    readMicroseconds ((if microsecond = 0 then [] else '.' :: padded 6 microsecond) ++ ending) =
      some (microsecond, ending) := by
  split
  · -- no fraction is written, and what follows starts none
    rename_i hzero
    rw [hzero, List.nil_append]
    unfold readMicroseconds
    split
    · rename_i c d text
      rw [if_neg (hmark c rfl)]
    · rfl
  · have hfraction := readFraction_padded 6 microsecond 0 hending
    have hsix : microsecond < 10 ^ 6 := h
    rw [Nat.zero_mul, Nat.zero_add, Nat.mod_eq_of_lt hsix] at hfraction
    rw [List.cons_append]
    cases hdigits : padded 6 microsecond with
    | nil => simp [padded] at hdigits
    | cons d text =>
      -- the fraction starts with a digit
      have hd : (digitValue d).isSome = true := by
        have hread := readDigits_field hsix []
        rw [List.append_nil, hdigits, readDigits] at hread
        cases hvalue : digitValue d with
        | some digit => rfl
        | none => rw [hvalue] at hread; cases hread
      rw [List.cons_append, readMicroseconds, if_pos (.inl rfl), if_pos hd, ← List.cons_append,
        ← hdigits, hfraction]

/-- A text of the fields of a time is read back, whichever way it ends. -/
theorem fromisoformat_clockText (t : DateTime) {ending : List Char} (hdigit : NoDigit ending)
    (hmark : ∀ c ∈ ending.head?, ¬ (c = '.' ∨ c = ','))
    (hoffset : readOffset ending = some t.offset) :
    fromisoformat (t.clockText ending) = some t := by
  have hvalid := t.valid
  have hyear : t.year < 10 ^ 4 := by have := hvalid.year; omega
  have hmonth : t.month < 10 ^ 2 := by have := hvalid.month; omega
  have hdays : daysInMonth t.year t.month ≤ 31 := by
    unfold daysInMonth
    split_ifs <;> omega
  have hday : t.day < 10 ^ 2 := by have := hvalid.day; omega
  have hhour : t.hour < 10 ^ 2 := by have := hvalid.hour; omega
  have hminute : t.minute < 10 ^ 2 := by have := hvalid.minute; omega
  have hsecond : t.second < 10 ^ 2 := by have := hvalid.second; omega
  unfold fromisoformat clockText
  simp only [Option.bind_eq_bind, readDigits_field hyear, Option.bind_some, expect_cons,
    readDigits_field hmonth, readDigits_field hday, List.tail_cons, readDigits_field hhour,
    readDigits_field hminute, readDigits_field hsecond,
    readMicroseconds_text hvalid.microsecond hdigit hmark, hoffset]
  exact ofFields_toDateFields t

theorem offsetText_mark (offset : Int) :
    ∀ c ∈ (offsetText offset).head?, ¬ (c = '.' ∨ c = ',') := by
  intro c hc
  have hfirst : (offsetText offset).head? = some (if offset < 0 then '-' else '+') := rfl
  rw [hfirst, Option.mem_some_iff] at hc
  rw [← hc]
  split <;> decide

/-- **A text that `isoformat` wrote** is read back as it was. -/
theorem fromisoformat_isoformat (t : DateTime) : fromisoformat t.isoformat = some t :=
  fromisoformat_clockText t (noDigit_offsetText t.offset) (offsetText_mark t.offset)
    (readOffset_offsetText t.valid.offset)

/-- A time in the format of RFC 3339: an offset of zero is written `Z`. -/
def rfc3339 (t : DateTime) : List Char :=
  if t.offset = 0 then t.clockText ['Z'] else t.isoformat

/-- A text in the format of RFC 3339 is read back as it was. -/
theorem fromisoformat_rfc3339 (t : DateTime) : fromisoformat t.rfc3339 = some t := by
  unfold rfc3339
  split
  · rename_i hutc
    have hdigit : NoDigit ['Z'] := by
      intro c hc
      rw [← Option.some.inj hc]
      rfl
    have hmark : ∀ c ∈ ['Z'].head?, ¬ (c = '.' ∨ c = ',') := by
      intro c hc
      rw [← Option.some.inj hc]
      decide
    apply fromisoformat_clockText t hdigit hmark
    rw [hutc]
    rfl
  · exact fromisoformat_isoformat t

/-! ## Time zones -/

/-- The day after a date. -/
def nextDay (year month day : Nat) : Nat × Nat × Nat :=
  if day < daysInMonth year month then (year, month, day + 1)
  else if month < 12 then (year, month + 1, 1)
  else (year + 1, 1, 1)

/-- The day before a date. -/
def previousDay (year month day : Nat) : Nat × Nat × Nat :=
  if 1 < day then (year, month, day - 1)
  else if 1 < month then (year, month - 1, daysInMonth year (month - 1))
  else (year - 1, 12, 31)

/-- `t.astimezone(timezone.utc)`; none stands for a year out of range. -/
def toUtc (t : DateTime) : Option DateTime :=
  let minutes := (t.hour * 60 + t.minute : Int) - t.offset
  let (year, month, day) :=
    if minutes < 0 then previousDay t.year t.month t.day
    else if 1440 ≤ minutes then nextDay t.year t.month t.day
    else (t.year, t.month, t.day)
  let ofDay := (minutes % 1440).toNat
  ofFields ⟨year, month, day, ofDay / 60, ofDay % 60, t.second, t.microsecond, 0⟩

/-- **A time in UTC** is in UTC already. -/
theorem toUtc_of_utc {t : DateTime} (h : t.offset = 0) : t.toUtc = some t := by
  have hhour := t.valid.hour
  have hminute := t.valid.minute
  have hday : ((t.hour * 60 + t.minute : Int) - t.offset) % 1440 = t.hour * 60 + t.minute := by
    rw [h]
    omega
  have hsame : (⟨t.year, t.month, t.day, (t.hour * 60 + t.minute) / 60,
      (t.hour * 60 + t.minute) % 60, t.second, t.microsecond, 0⟩ : DateFields) =
      t.toDateFields := by
    have hhour' : (t.hour * 60 + t.minute) / 60 = t.hour := by omega
    have hminute' : (t.hour * 60 + t.minute) % 60 = t.minute := by omega
    rw [hhour', hminute', ← h]
  unfold toUtc
  simp only [hday]
  rw [if_neg (by omega), if_neg (by omega)]
  have hnat : ((t.hour * 60 + t.minute : Int)).toNat = t.hour * 60 + t.minute := by omega
  rw [hnat]
  simp only
  rw [hsame]
  exact ofFields_toDateFields t

end DateTime
