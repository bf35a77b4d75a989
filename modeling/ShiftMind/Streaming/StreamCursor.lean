import Mathlib.Data.Nat.Digits.Defs
import Mathlib.Data.List.TakeDrop
import Mathlib.Tactic.Ring
import ShiftMind.Contracts.Scenario

/-!
# ShiftMind — the resume cursor of an event stream

`application/contracts/stream_cursor.py`: a client resumes a stream from the text
`<stream_uuid>:<sequence>` of the last frame it received.

* **`uuidText`**, **`uuidOf`** — `str` of a `UUID` and the constructor that reads it back.
* **`parseStreamCursor`**, **`formatEventId`** — the cursor and the `id:` of a frame.
* **`parseStreamCursor_formatEventId`** — what a frame carries can be resumed from.
-/

namespace ShiftMind

namespace StreamCursor

/-! ## Hexadecimal digits -/

/-- The `k` hexadecimal digits of `n`, the most significant one first. -/
def hexDigits : Nat → Nat → List Char
  | 0, _ => []
  | k + 1, n => hexDigits k (n / 16) ++ [Nat.digitChar (n % 16)]

/-- The value of one digit. -/
def hexValue (c : Char) : Option Nat :=
  if '0' ≤ c ∧ c ≤ '9' then some (c.toNat - '0'.toNat)
  else if 'a' ≤ c ∧ c ≤ 'f' then some (c.toNat - 'a'.toNat + 10)
  else if 'A' ≤ c ∧ c ≤ 'F' then some (c.toNat - 'A'.toNat + 10)
  else none

/-- The digits of `int`: one underscore may stand between two of them. `after` tells whether a
digit came right before. -/
def hexRun : Bool → List Char → Nat → Option Nat
  | after, [], value => if after then some value else none
  | after, c :: rest, value =>
    if c = '_' then
      if after then hexRun false rest value else none
    else
      match hexValue c with
      | some digit => hexRun true rest (value * 16 + digit)
      | none => none

/-- The digits of `int` behind an optional `0x`. -/
def hexNumber : List Char → Option Nat
  | '0' :: x :: rest =>
    if x = 'x' ∨ x = 'X' then
      match rest with
      | '_' :: rest => hexRun false rest 0
      | rest => hexRun false rest 0
    else hexRun false ('0' :: x :: rest) 0
  | text => hexRun false text 0

def isSpace (c : Char) : Bool :=
  [' ', '\t', '\n', '\r', '\x0b', '\x0c'].contains c

/-- Both ends of a text without the characters of a set. -/
def strip (drop : Char → Bool) (text : List Char) : List Char :=
  ((text.dropWhile drop).reverse.dropWhile drop).reverse

/-- `int(text, 16)`. -/
def intBase16 (text : List Char) : Option Int :=
  match strip isSpace text with
  | '-' :: rest => (hexNumber rest).map fun n => -Int.ofNat n
  | '+' :: rest => (hexNumber rest).map Int.ofNat
  | text => (hexNumber text).map Int.ofNat

/-! ## Identifiers -/

/-- `text.replace(pattern, "")`; the number counts the characters of a match still to be dropped. -/
def removeAll (pattern : List Char) : Nat → List Char → List Char
  | _, [] => []
  | k + 1, _ :: rest => removeAll pattern k rest
  | 0, c :: rest =>
    if pattern.isPrefixOf (c :: rest) then removeAll pattern (pattern.length - 1) rest
    else c :: removeAll pattern 0 rest

/-- `str` of a `UUID`. -/
def uuidText (u : Uuid) : List Char :=
  let h := hexDigits 32 u
  h.take 8 ++ '-' :: ((h.drop 8).take 4 ++ '-' :: ((h.drop 12).take 4 ++ '-' ::
    ((h.drop 16).take 4 ++ '-' :: h.drop 20)))

/-- `UUID(text)`. -/
def uuidOf (text : List Char) : Option Uuid :=
  let bare := removeAll "uuid:".toList 0 (removeAll "urn:".toList 0 text)
  let hex := (strip (fun c => decide (c = '{') || decide (c = '}')) bare).filter (· ≠ '-')
  if hex.length ≠ 32 then none
  else
    match intBase16 hex with
    | some n => if 0 ≤ n ∧ n < 2 ^ 128 then some n.toNat else none
    | none => none

end StreamCursor

open StreamCursor

/-! ## The cursor -/

structure StreamCursorV1 where
  streamId : Uuid
  sequence : Int
  deriving DecidableEq, Repr

/-- `MAX_SEQUENCE_DIGITS`. -/
def maxSequenceDigits : Nat := 38

/-- `_SEQUENCE_RE`. -/
def isSequence (text : List Char) : Bool :=
  decide (1 ≤ text.length) && decide (text.length ≤ maxSequenceDigits) && text.all Char.isDigit

/-- `raw.partition(":")`, where a separator was found. -/
def partitionColon (raw : List Char) : Option (List Char × List Char) :=
  match raw.span (· ≠ ':') with
  | (before, _ :: after) => some (before, after)
  | (_, []) => none

/-- `parse_stream_cursor`; the one rejection is `none`. -/
def parseStreamCursor (raw : String) : Option StreamCursorV1 :=
  match partitionColon raw.toList with
  | none => none
  | some (streamText, sequenceText) =>
    if streamText = [] then none
    else if isSequence sequenceText = false then none
    else
      match uuidOf streamText with
      | none => none
      | some streamId => some ⟨streamId, Nat.ofDigitChars 10 sequenceText 0⟩

/-- `format_event_id`. -/
def formatEventId (streamId : Uuid) (sequence : Int) : String :=
  String.ofList (uuidText streamId ++ ':' :: (toString sequence).toList)

namespace StreamCursor

/-! ## An identifier is read back -/

/-- A lower-case hexadecimal digit. -/
def IsHex (c : Char) : Prop := ∃ d < 16, c = Nat.digitChar d

theorem IsHex.ne {c x : Char} (h : IsHex c) (hx : ∀ d < 16, Nat.digitChar d ≠ x) : c ≠ x := by
  obtain ⟨d, hd, rfl⟩ := h
  exact hx d hd

theorem hexValue_digitChar {d : Nat} (hd : d < 16) : hexValue (Nat.digitChar d) = some d := by
  have hall : ∀ d < 16, hexValue (Nat.digitChar d) = some d := by decide
  exact hall d hd

theorem length_hexDigits (k n : Nat) : (hexDigits k n).length = k := by
  induction k generalizing n with
  | zero => rfl
  | succ k ih => rw [hexDigits, List.length_append, ih, List.length_singleton]

theorem isHex_hexDigits {k n : Nat} {c : Char} (h : c ∈ hexDigits k n) : IsHex c := by
  induction k generalizing n with
  | zero => cases h
  | succ k ih =>
    rw [hexDigits, List.mem_append, List.mem_singleton] at h
    cases h with
    | inl hleft => exact ih hleft
    | inr hlast => exact ⟨n % 16, Nat.mod_lt n (by omega), hlast⟩

/-- Reading digits shifts the value read so far. -/
theorem hexRun_hexDigits (k n : Nat) (after : Bool) (rest : List Char) (v : Nat) :
    hexRun after (hexDigits k n ++ rest) v =
      hexRun (after || decide (0 < k)) rest (v * 16 ^ k + n % 16 ^ k) := by
  induction k generalizing n rest with
  | zero => simp [hexDigits, Nat.mod_one]
  | succ k ih =>
    have hdigit : n % 16 < 16 := Nat.mod_lt n (by omega)
    have hunderscore : Nat.digitChar (n % 16) ≠ '_' :=
      IsHex.ne ⟨n % 16, hdigit, rfl⟩ (by decide)
    have hvalue : (v * 16 ^ k + n / 16 % 16 ^ k) * 16 + n % 16 =
        v * 16 ^ (k + 1) + n % 16 ^ (k + 1) := by
      rw [Nat.pow_succ', Nat.mod_mul]
      ring
    rw [hexDigits, List.append_assoc, ih, List.singleton_append, hexRun, if_neg hunderscore,
      hexValue_digitChar hdigit]
    simp only [hvalue, Nat.zero_lt_succ, decide_true, Bool.or_true]

theorem removeAll_of_not_mem {x : Char} {pattern text : List Char} (h : x ∉ text) :
    removeAll (x :: pattern) 0 text = text := by
  induction text with
  | nil => rfl
  | cons c rest ih =>
    rw [List.mem_cons, not_or] at h
    have hbefore : (x :: pattern).isPrefixOf (c :: rest) = false := by
      simp [List.isPrefixOf, h.1]
    rw [removeAll, hbefore, ih h.2]
    rfl

theorem dropWhile_of_none {drop : Char → Bool} {text : List Char}
    (h : ∀ c ∈ text, drop c = false) : text.dropWhile drop = text := by
  cases text with
  | nil => rfl
  | cons c rest => rw [List.dropWhile_cons, h c List.mem_cons_self]; rfl

theorem strip_of_none {drop : Char → Bool} {text : List Char} (h : ∀ c ∈ text, drop c = false) :
    strip drop text = text := by
  unfold strip
  rw [dropWhile_of_none h, dropWhile_of_none fun c hc => h c (List.mem_reverse.mp hc),
    List.reverse_reverse]

/-- Digits without a prefix, a sign or blanks are a number. -/
theorem hexNumber_of_isHex {text : List Char} (h : ∀ c ∈ text, IsHex c) :
    hexNumber text = hexRun false text 0 := by
  unfold hexNumber
  split
  · rename_i x rest
    have hx : IsHex x := h x (by simp)
    rw [if_neg]
    rw [not_or]
    exact ⟨hx.ne (by decide), hx.ne (by decide)⟩
  · rfl

theorem intBase16_of_isHex {text : List Char} (h : ∀ c ∈ text, IsHex c) :
    intBase16 text = (hexRun false text 0).map Int.ofNat := by
  have hspace : ∀ c ∈ text, isSpace c = false := by
    intro c hc
    obtain ⟨d, hd, rfl⟩ := h c hc
    have hall : ∀ d < 16, isSpace (Nat.digitChar d) = false := by decide
    exact hall d hd
  unfold intBase16
  rw [strip_of_none hspace]
  split
  · exact absurd rfl ((h '-' (by simp)).ne (by decide))
  · exact absurd rfl ((h '+' (by simp)).ne (by decide))
  · rw [hexNumber_of_isHex h]

theorem mem_uuidText {u : Uuid} {c : Char} (h : c ∈ uuidText u) : IsHex c ∨ c = '-' := by
  have hpart : ∀ {part : List Char}, part.Sublist (hexDigits 32 u) → ∀ c ∈ part, IsHex c :=
    fun hpart c hc => isHex_hexDigits (hpart.subset hc)
  unfold uuidText at h
  simp only [List.mem_append, List.mem_cons] at h
  rcases h with h | rfl | h | rfl | h | rfl | h | rfl | h
  · exact .inl (hpart (List.take_sublist ..) c h)
  · exact .inr rfl
  · exact .inl (hpart ((List.take_sublist ..).trans (List.drop_sublist ..)) c h)
  · exact .inr rfl
  · exact .inl (hpart ((List.take_sublist ..).trans (List.drop_sublist ..)) c h)
  · exact .inr rfl
  · exact .inl (hpart ((List.take_sublist ..).trans (List.drop_sublist ..)) c h)
  · exact .inr rfl
  · exact .inl (hpart (List.drop_sublist ..) c h)

theorem not_mem_uuidText {u : Uuid} {x : Char} (hhex : ∀ d < 16, Nat.digitChar d ≠ x)
    (hdash : '-' ≠ x) : x ∉ uuidText u := by
  intro hmem
  cases mem_uuidText hmem with
  | inl h => exact h.ne hhex rfl
  | inr h => exact hdash h.symm

/-- The dashes of an identifier stand between its digits. -/
theorem filter_uuidText (u : Uuid) : (uuidText u).filter (· ≠ '-') = hexDigits 32 u := by
  have hpart : ∀ {part : List Char}, part.Sublist (hexDigits 32 u) →
      part.filter (· ≠ '-') = part := by
    intro part hpart
    refine List.filter_eq_self.mpr fun c hc => ?_
    simpa using (isHex_hexDigits (hpart.subset hc)).ne (x := '-') (by decide)
  unfold uuidText
  simp only [List.filter_append, List.filter_cons, ne_eq, not_true_eq_false, decide_false,
    Bool.false_eq_true, if_false]
  simp only [← ne_eq]
  rw [hpart (List.take_sublist ..), hpart ((List.take_sublist ..).trans (List.drop_sublist ..)),
    hpart ((List.take_sublist ..).trans (List.drop_sublist ..)),
    hpart ((List.take_sublist ..).trans (List.drop_sublist ..)), hpart (List.drop_sublist ..)]
  have hfour : ∀ k, (hexDigits 32 u).drop k = ((hexDigits 32 u).drop k).take 4 ++
      (hexDigits 32 u).drop (k + 4) := by
    intro k
    rw [← List.drop_drop, List.take_append_drop]
  rw [← hfour 16, ← hfour 12, ← hfour 8, List.take_append_drop]

/-- **`UUID(str(u))` is `u`.** -/
theorem uuidOf_uuidText {u : Uuid} (hu : u < 2 ^ 128) : uuidOf (uuidText u) = some u := by
  -- the text has no prefix and no braces to strip
  have hurn : removeAll "urn:".toList 0 (uuidText u) = uuidText u :=
    removeAll_of_not_mem (not_mem_uuidText (by decide) (by decide))
  have huuid : removeAll "uuid:".toList 0 (uuidText u) = uuidText u :=
    removeAll_of_not_mem (not_mem_uuidText (by decide) (by decide))
  have hstrip : strip (fun c => decide (c = '{') || decide (c = '}')) (uuidText u) =
      uuidText u := by
    refine strip_of_none fun c hc => ?_
    have hopen : c ≠ '{' := fun heq => not_mem_uuidText (by decide) (by decide) (heq ▸ hc)
    have hclose : c ≠ '}' := fun heq => not_mem_uuidText (by decide) (by decide) (heq ▸ hc)
    simp [hopen, hclose]
  -- its hexadecimal digits spell the number
  have hread : hexRun false (hexDigits 32 u) 0 = some u := by
    have hrun := hexRun_hexDigits 32 u false [] 0
    rw [List.append_nil] at hrun
    rw [hrun, Nat.zero_mul, Nat.zero_add, Nat.mod_eq_of_lt (by
      rw [show 16 ^ 32 = 2 ^ 128 by norm_num]; exact hu)]
    rfl
  unfold uuidOf
  simp only [hurn, huuid, hstrip, filter_uuidText, length_hexDigits, ne_eq, not_true_eq_false,
    if_false, intBase16_of_isHex fun c hc => isHex_hexDigits hc, hread, Option.map_some]
  have hrange : (0 : Int) ≤ Int.ofNat u ∧ Int.ofNat u < 2 ^ 128 :=
    ⟨Int.natCast_nonneg u, Int.ofNat_lt.mpr hu⟩
  rw [if_pos hrange]
  rfl

end StreamCursor

/-! ## A cursor is read back -/

/-- The decimal digits of a sequence that the column can hold. -/
theorem isSequence_toDigits {n : Nat} (hn : n < 10 ^ maxSequenceDigits) :
    isSequence (Nat.toDigits 10 n) = true := by
  have hpos : 1 ≤ (Nat.toDigits 10 n).length := Nat.length_toDigits_pos
  have hlen : (Nat.toDigits 10 n).length ≤ maxSequenceDigits :=
    (Nat.length_toDigits_le_iff (by omega) (by decide)).mpr hn
  have hdigits : (Nat.toDigits 10 n).all Char.isDigit = true :=
    List.all_eq_true.mpr fun c hc => Nat.isDigit_of_mem_toDigits (by omega) (by omega) hc
  unfold isSequence
  rw [decide_eq_true hpos, decide_eq_true hlen, hdigits]
  rfl

/-- **The cursor of a frame is its event**: what `format_event_id` renders, `parse_stream_cursor`
reads back, for every identifier and every sequence the column can hold. -/
theorem parseStreamCursor_formatEventId {streamId : Uuid} {sequence : Int}
    (hstream : streamId < 2 ^ 128) (hnonneg : 0 ≤ sequence)
    (hdigits : sequence < 10 ^ maxSequenceDigits) :
    parseStreamCursor (formatEventId streamId sequence) = some ⟨streamId, sequence⟩ := by
  obtain ⟨n, rfl⟩ := Int.eq_ofNat_of_zero_le hnonneg
  have htext : (toString (n : Int)).toList = Nat.toDigits 10 n := by
    show (Nat.repr n).toList = _
    simp [Nat.repr]
  have hcolon : ∀ c ∈ uuidText streamId, decide (c ≠ ':') = true := by
    intro c hc
    simpa using fun heq : c = ':' => not_mem_uuidText (by decide) (by decide) (heq ▸ hc)
  have hsplit : partitionColon (formatEventId streamId n).toList =
      some (uuidText streamId, Nat.toDigits 10 n) := by
    unfold partitionColon formatEventId
    rw [String.toList_ofList, htext, List.span_eq_takeWhile_dropWhile,
      List.takeWhile_append_of_pos hcolon, List.dropWhile_append_of_pos hcolon]
    simp
  have hnonempty : uuidText streamId ≠ [] := by
    unfold uuidText
    simp
  have hsequence : isSequence (Nat.toDigits 10 n) = true :=
    isSequence_toDigits (by exact_mod_cast hdigits)
  unfold parseStreamCursor
  rw [hsplit]
  simp only [if_neg hnonempty, hsequence, Bool.true_eq_false, if_false, uuidOf_uuidText hstream,
    Nat.ofDigitChars_ten_toDigits]

end ShiftMind
