import Mathlib.Data.List.TakeWhile
import ShiftMind.Streaming.StreamCursor

/-!
# ShiftMind — a resume cursor out of any text

`parse_stream_cursor` over every text a client may send. `StreamCursor` reads the identifier as an
ASCII text; here the other decimal digits and blanks that `int` takes come from the Unicode tables,
and the errors that the constructor of an identifier raises are caught one by one.

* **`UUID`** — the constructor, with what it raises.
* **`parseCursorText`** — the parser.
* **`parseCursorText_eq_some_iff`** — the texts that are accepted, and for what.
-/

namespace ShiftMind.StreamCursor

/-- What the Unicode tables say of the characters beyond ASCII. -/
structure UnicodeTables where
  /-- the digit that a character stands for in a decimal number -/
  decimal : Char → Option Nat
  isSpace : Char → Bool

/-- The exceptions that a constructor may raise. -/
inductive PyError where
  | valueError
  | attributeError
  | typeError
  | other
  deriving DecidableEq, Repr

section Parser

variable (tables : UnicodeTables)

/-- A character as `int` reads it: blanks and decimal digits beyond ASCII become ASCII ones, and any
other character one that no number holds. -/
def toAscii (c : Char) : Char :=
  if c.toNat < 127 then c
  else if tables.isSpace c then ' '
  else
    match tables.decimal c with
    | some digit => Nat.digitChar digit
    | none => '?'

/-- `UUID(text)`. -/
def UUID (text : List Char) : Except PyError Uuid :=
  let bare := removeAll "uuid:".toList 0 (removeAll "urn:".toList 0 text)
  let hex := (strip (fun c => decide (c = '{') || decide (c = '}')) bare).filter (· ≠ '-')
  if hex.length ≠ 32 then .error .valueError
  else
    match intBase16 (hex.map (toAscii tables)) with
    | none => .error .valueError
    | some n => if 0 ≤ n ∧ n < 2 ^ 128 then .ok n.toNat else .error .valueError

/-- `parse_stream_cursor`: `none` is the one rejection, and an error is an exception that leaves
it. -/
def parseCursorText (raw : String) : Except PyError (Option StreamCursorV1) :=
  match partitionColon raw.toList with
  | none => .ok none
  | some (streamText, sequenceText) =>
    if streamText = [] then .ok none
    else if isSequence sequenceText = false then .ok none
    else
      match UUID tables streamText with
      | .ok streamId => .ok (some ⟨streamId, Nat.ofDigitChars 10 sequenceText 0⟩)
      | .error .valueError => .ok none
      | .error .attributeError => .ok none
      | .error .typeError => .ok none
      | .error .other => .error .other

end Parser

/-! ## The constructor -/

variable {tables : UnicodeTables}

theorem removeAll_subset (pattern : List Char) (k : Nat) (text : List Char) :
    removeAll pattern k text ⊆ text := by
  induction text generalizing k with
  | nil => cases k <;> exact List.Subset.refl _
  | cons c rest ih =>
    cases k with
    | succ k => exact List.subset_cons_of_subset _ (ih k)
    | zero =>
      rw [removeAll]
      split
      · exact List.subset_cons_of_subset _ (ih _)
      · exact List.cons_subset_cons _ (ih 0)

theorem strip_subset (drop : Char → Bool) (text : List Char) : strip drop text ⊆ text := by
  intro c hc
  unfold strip at hc
  rw [List.mem_reverse] at hc
  have hmem := List.mem_reverse.mp ((List.dropWhile_sublist _).subset hc)
  exact (List.dropWhile_sublist _).subset hmem

/-- On an ASCII text the tables have no say. -/
theorem UUID_of_ascii {text : List Char} (hascii : ∀ c ∈ text, c.toNat < 127) :
    UUID tables text =
      match uuidOf text with
      | some u => .ok u
      | none => .error .valueError := by
  have hmap : ∀ hex : List Char, hex ⊆ text → hex.map (toAscii tables) = hex := by
    intro hex hsub
    have hself : ∀ c ∈ hex, toAscii tables c = id c := by
      intro c hc
      rw [toAscii, if_pos (hascii c (hsub hc)), id]
    rw [List.map_congr_left hself, List.map_id]
  unfold UUID uuidOf
  simp only
  rw [hmap _ fun c hc => removeAll_subset _ _ _ (removeAll_subset _ _ _
    (strip_subset _ _ (List.mem_filter.mp hc).1))]
  split
  · rfl
  · split
    · rename_i heq
      rw [heq]
    · rename_i n heq
      rw [heq]
      simp only
      split <;> rfl

/-- An identifier that is constructed is one of 128 bits. -/
theorem lt_of_UUID {text : List Char} {u : Uuid} (h : UUID tables text = .ok u) :
    u < 2 ^ 128 := by
  unfold UUID at h
  simp only at h
  split at h
  · cases h
  · split at h
    · cases h
    · rename_i n _
      split at h
      · rename_i hrange
        cases h
        have hto : ((n.toNat : Nat) : Int) = n := Int.toNat_of_nonneg hrange.1
        have hlt : ((n.toNat : Nat) : Int) < ((2 ^ 128 : Nat) : Int) := by
          rw [hto]
          exact_mod_cast hrange.2
        exact Int.ofNat_lt.mp hlt
      · cases h

/-- It raises nothing but a `ValueError`. -/
theorem UUID_error {text : List Char} {error : PyError} (h : UUID tables text = .error error) :
    error = .valueError := by
  unfold UUID at h
  simp only at h
  split at h
  · cases h; rfl
  · split at h
    · cases h; rfl
    · split at h
      · cases h
      · cases h; rfl

theorem uuidText_ascii {u : Uuid} {c : Char} (hc : c ∈ uuidText u) : c.toNat < 127 := by
  cases mem_uuidText hc with
  | inl hhex =>
    obtain ⟨d, hd, rfl⟩ := hhex
    have hall : ∀ d < 16, (Nat.digitChar d).toNat < 127 := by decide
    exact hall d hd
  | inr hdash =>
    subst hdash
    decide

theorem UUID_uuidText {u : Uuid} (hu : u < 2 ^ 128) : UUID tables (uuidText u) = .ok u := by
  rw [UUID_of_ascii fun c hc => uuidText_ascii hc, uuidOf_uuidText hu]

/-! ## The sequence -/

theorem ofDigitChars_lt {digits : List Char} (h : ∀ c ∈ digits, c.isDigit = true) :
    Nat.ofDigitChars 10 digits 0 < 10 ^ digits.length := by
  induction digits with
  | nil => decide
  | cons c digits ih =>
    have hrest := ih fun x hx => h x (List.mem_cons_of_mem _ hx)
    have hc := h c List.mem_cons_self
    have hvalue : c.toNat - '0'.toNat ≤ 9 := by
      rw [Char.isDigit, Bool.and_eq_true, decide_eq_true_eq, decide_eq_true_eq] at hc
      have hnine : c.toNat ≤ 57 := hc.2
      have hzero : '0'.toNat = 48 := rfl
      omega
    rw [Nat.ofDigitChars_cons, Nat.ofDigitChars_eq_ofDigitChars_zero, List.length_cons,
      Nat.pow_succ]
    have hhead : 10 ^ digits.length * (10 * 0 + (c.toNat - '0'.toNat)) ≤
        10 ^ digits.length * 9 := Nat.mul_le_mul_left _ (by omega)
    omega

theorem isSequence_iff {text : List Char} :
    isSequence text = true ↔
      1 ≤ text.length ∧ text.length ≤ maxSequenceDigits ∧ ∀ c ∈ text, c.isDigit = true := by
  unfold isSequence
  rw [Bool.and_eq_true, Bool.and_eq_true, decide_eq_true_eq, decide_eq_true_eq, List.all_eq_true,
    and_assoc]

/-! ## The parser -/

/-- The first colon parts a text. -/
theorem partitionColon_eq_some_iff {raw before after : List Char} :
    partitionColon raw = some (before, after) ↔ raw = before ++ ':' :: after ∧ ':' ∉ before := by
  unfold partitionColon
  rw [List.span_eq_takeWhile_dropWhile]
  constructor
  · intro h
    have happend := List.takeWhile_append_dropWhile (p := (· ≠ ':')) (l := raw)
    cases hdrop : raw.dropWhile (· ≠ ':') with
    | nil => rw [hdrop] at h; cases h
    | cons c rest =>
      rw [hdrop] at h happend
      cases h
      have hc : c = ':' := by
        have hhead := List.head?_dropWhile_not (· ≠ ':') raw
        rw [hdrop] at hhead
        simpa using hhead
      have hnot : ':' ∉ raw.takeWhile (· ≠ ':') := by
        intro hmem
        have hne := List.mem_takeWhile_imp hmem
        simp at hne
      rw [hc] at happend
      exact ⟨happend.symm, hnot⟩
  · rintro ⟨rfl, hnot⟩
    have hbefore : ∀ c ∈ before, decide (c ≠ ':') = true := by
      intro c hc
      exact decide_eq_true fun heq => hnot (heq ▸ hc)
    rw [List.takeWhile_append_of_pos hbefore, List.dropWhile_append_of_pos hbefore]
    simp

/-- **What is accepted**: a spelling of the identifier, a colon and one to 38 digits. -/
theorem parseCursorText_eq_some_iff {raw : String} {cursor : StreamCursorV1} :
    parseCursorText tables raw = .ok (some cursor) ↔
      ∃ text digits, raw.toList = text ++ ':' :: digits ∧ ':' ∉ text ∧ text ≠ [] ∧
        UUID tables text = .ok cursor.streamId ∧ isSequence digits = true ∧
        cursor.sequence = Nat.ofDigitChars 10 digits 0 := by
  unfold parseCursorText
  constructor
  · intro h
    cases hsplit : partitionColon raw.toList with
    | none => rw [hsplit] at h; cases h
    | some pair =>
      obtain ⟨text, digits⟩ := pair
      rw [hsplit] at h
      -- the text is split at its first colon
      obtain ⟨hraw, hcolon⟩ := partitionColon_eq_some_iff.mp hsplit
      simp only at h
      split at h
      · cases h
      · rename_i hempty
        split at h
        · cases h
        · rename_i hsequence
          cases hid : UUID tables text with
          | ok u =>
            rw [hid] at h
            cases h
            exact ⟨text, digits, hraw, hcolon, hempty, hid, by simpa using hsequence, rfl⟩
          | error e =>
            -- an identifier that does not parse gives no cursor
            rw [hid, UUID_error hid] at h
            cases h
  · rintro ⟨text, digits, hraw, hcolon, hempty, hid, hsequence, hvalue⟩
    rw [partitionColon_eq_some_iff.mpr ⟨hraw, hcolon⟩]
    simp only [if_neg hempty, hsequence, Bool.true_eq_false, if_false, hid, ← hvalue]

/-- No exception leaves the parser. -/
theorem parseCursorText_ok (tables : UnicodeTables) (raw : String) :
    ∃ result, parseCursorText tables raw = .ok result := by
  unfold parseCursorText
  split
  · exact ⟨_, rfl⟩
  · split
    · exact ⟨_, rfl⟩
    · split
      · exact ⟨_, rfl⟩
      · rename_i text _ _ _ _
        cases hid : UUID tables text with
        | ok u => exact ⟨_, rfl⟩
        | error e =>
          rw [UUID_error hid]
          exact ⟨_, rfl⟩

/-- What `format_event_id` renders is read back. -/
theorem parseCursorText_format {u : Uuid} {n : Int} (hu : u < 2 ^ 128) (hnonneg : 0 ≤ n)
    (hdigits : n < 10 ^ maxSequenceDigits) :
    parseCursorText tables (formatEventId u n) = .ok (some ⟨u, n⟩) := by
  obtain ⟨k, rfl⟩ := Int.eq_ofNat_of_zero_le hnonneg
  have htext : (toString (k : Int)).toList = Nat.toDigits 10 k := by
    show (Nat.repr k).toList = _
    simp [Nat.repr]
  apply parseCursorText_eq_some_iff.mpr
  refine ⟨uuidText u, Nat.toDigits 10 k, ?_, not_mem_uuidText (by decide) (by decide), ?_,
    UUID_uuidText hu, isSequence_toDigits (by exact_mod_cast hdigits), ?_⟩
  · rw [formatEventId, String.toList_ofList, htext]
  · unfold uuidText
    simp
  · rw [Nat.ofDigitChars_ten_toDigits]

/-- A cursor that was accepted is of an identifier and a sequence that can be formatted. -/
theorem parseCursorText_bounds {raw : String} {cursor : StreamCursorV1}
    (h : parseCursorText tables raw = .ok (some cursor)) :
    cursor.streamId < 2 ^ 128 ∧ 0 ≤ cursor.sequence ∧
      cursor.sequence < 10 ^ maxSequenceDigits := by
  obtain ⟨text, digits, -, -, -, hid, hsequence, hvalue⟩ := parseCursorText_eq_some_iff.mp h
  obtain ⟨-, hlength, hdigits⟩ := isSequence_iff.mp hsequence
  have hlt : Nat.ofDigitChars 10 digits 0 < 10 ^ maxSequenceDigits :=
    lt_of_lt_of_le (ofDigitChars_lt hdigits) (Nat.pow_le_pow_right (by omega) hlength)
  rw [hvalue]
  exact ⟨lt_of_UUID hid, Int.natCast_nonneg _, by exact_mod_cast hlt⟩

/-- **Cursors round trip.** What is formatted is parsed back; no text makes the parser raise; and a
text that is accepted is a spelling of the identifier, a colon and one to 38 ASCII digits, whose
cursor is formatted to a text of the same cursor. -/
theorem cursor_round_trip (tables : UnicodeTables) :
    (∀ (u : Uuid) (n : Int), u < 2 ^ 128 → 0 ≤ n → n < 10 ^ maxSequenceDigits →
      parseCursorText tables (formatEventId u n) = .ok (some ⟨u, n⟩)) ∧
    (∀ raw, ∃ result, parseCursorText tables raw = .ok result) ∧
    (∀ raw cursor, parseCursorText tables raw = .ok (some cursor) →
      (∃ text digits, raw.toList = text ++ ':' :: digits ∧ ':' ∉ text ∧
        UUID tables text = .ok cursor.streamId ∧
        1 ≤ digits.length ∧ digits.length ≤ 38 ∧ (∀ c ∈ digits, c.isDigit = true) ∧
        cursor.sequence = Nat.ofDigitChars 10 digits 0) ∧
      parseCursorText tables (formatEventId cursor.streamId cursor.sequence) =
        .ok (some cursor)) := by
  refine ⟨fun u n hu hn hlt => parseCursorText_format hu hn hlt, parseCursorText_ok tables, ?_⟩
  intro raw cursor h
  obtain ⟨hid, hnonneg, hlt⟩ := parseCursorText_bounds h
  obtain ⟨text, digits, hraw, hcolon, -, hread, hsequence, hvalue⟩ :=
    parseCursorText_eq_some_iff.mp h
  obtain ⟨hone, hlength, hdigits⟩ := isSequence_iff.mp hsequence
  exact ⟨⟨text, digits, hraw, hcolon, hread, hone, hlength, hdigits, hvalue⟩,
    parseCursorText_format hid hnonneg hlt⟩

/-- The tables without a character beyond ASCII. -/
def noTables : UnicodeTables := ⟨fun _ => none, fun _ => false⟩

theorem cursor_round_trip_of_upper_case :
    parseCursorText noTables "0000000A-0000-0000-0000-000000000000:007" =
        .ok (some ⟨10 * 2 ^ 96, 7⟩) ∧
      parseCursorText noTables (formatEventId (10 * 2 ^ 96) 7) = .ok (some ⟨10 * 2 ^ 96, 7⟩) := by
  have hparse : parseCursorText noTables "0000000A-0000-0000-0000-000000000000:007" =
      .ok (some ⟨10 * 2 ^ 96, 7⟩) := by decide +kernel
  exact ⟨hparse, ((cursor_round_trip noTables).2.2 _ _ hparse).2⟩

/-- The text before the colon need not be the one `str` gives: an upper-case spelling is accepted,
as one without dashes or in braces is. -/
theorem accepted_in_upper_case :
    ¬ ∀ (tables : UnicodeTables) (raw : String) (cursor : StreamCursorV1),
      parseCursorText tables raw = .ok (some cursor) →
        ∃ digits, raw.toList = uuidText cursor.streamId ++ ':' :: digits ∧
          isSequence digits = true := by
  intro hall
  have hparse : parseCursorText noTables "0000000A-0000-0000-0000-000000000000:007" =
      .ok (some ⟨10 * 2 ^ 96, 7⟩) := by decide +kernel
  obtain ⟨digits, hraw, -⟩ := hall noTables _ _ hparse
  have hfront := congrArg (List.take 8) hraw
  rw [List.take_append_of_le_length (by decide +kernel)] at hfront
  exact absurd hfront (by decide +kernel)

end ShiftMind.StreamCursor
