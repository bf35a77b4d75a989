import ShiftMind.Library.Rounding
import Mathlib.Data.Int.Log

/-!
# Binary64 numbers and the texts that denote them

A `float` of Python as what it stands for: not a number, an infinity, or an exact rational — zero
has no sign here, as none of the operations below tells the two zeros apart. `ofRat` rounds to the
nearest representable number, a tie going to the even one, and `ofText` is `float(text)`.

The comparisons are those of IEEE 754: **every one that involves a NaN is false**, so a check
written `x ≤ 0` lets a NaN pass.
-/

open Rounding

/-- A binary64 number. -/
inductive Binary64 where
  | nan
  | infinity (negative : Bool)
  | finite (value : ℚ)
  deriving DecidableEq, Repr

namespace Binary64

/-! ## Rounding -/

/-- The distance of neighbouring binary64 numbers at the magnitude of `q`. -/
def unit (q : ℚ) : ℚ := 2 ^ max (Int.log 2 |q| - 52) (-1074)

/-- The binary64 number nearest to a rational. -/
def ofRat (q : ℚ) : Binary64 :=
  if q = 0 then .finite 0
  else
    let rounded := (roundHalfEven (q / unit q) : ℚ) * unit q
    if 2 ^ 1024 ≤ |rounded| then .infinity (decide (q < 0)) else .finite rounded

/-- `math.isfinite(x)`. -/
def isFinite : Binary64 → Bool
  | .finite _ => true
  | .nan | .infinity _ => false

/-- The number a finite one stands for. -/
def toRat? : Binary64 → Option ℚ
  | .finite q => some q
  | _ => none

/-! ## Comparisons -/

/-- `a == b`. -/
def eq : Binary64 → Binary64 → Bool
  | .finite a, .finite b => decide (a = b)
  | .infinity a, .infinity b => decide (a = b)
  | _, _ => false

/-- `a < b`. -/
def lt : Binary64 → Binary64 → Bool
  | .finite a, .finite b => decide (a < b)
  | .finite _, .infinity negative => !negative
  | .infinity negative, .finite _ => negative
  | .infinity a, .infinity b => a && !b
  | _, _ => false

/-- `a <= b`. -/
def le (a b : Binary64) : Bool := lt a b || eq a b

@[simp] theorem lt_finite (a b : ℚ) : lt (.finite a) (.finite b) = decide (a < b) := rfl

@[simp] theorem le_finite (a b : ℚ) : le (.finite a) (.finite b) = decide (a ≤ b) := by
  simp [le, lt, eq, le_iff_lt_or_eq]

@[simp] theorem le_nan (a : Binary64) : le a .nan = false := by cases a <;> rfl

@[simp] theorem nan_le (a : Binary64) : le .nan a = false := by cases a <;> rfl

/-! ## Texts -/

/-- White space by Unicode: what `str.isspace` accepts and `\s` matches. -/
def isSpace (c : Char) : Bool :=
  let n := c.toNat
  (9 ≤ n && n ≤ 13) || (28 ≤ n && n ≤ 32) || n = 0x85 || n = 0xA0 || n = 0x1680 ||
    (0x2000 ≤ n && n ≤ 0x200A) || n = 0x2028 || n = 0x2029 || n = 0x202F || n = 0x205F ||
    n = 0x3000

/-- `text.strip()`. -/
def strip (text : List Char) : List Char :=
  (((text.dropWhile isSpace).reverse).dropWhile isSpace).reverse

/-- The code points of the decimal digits zero of Unicode. -/
def decimalZeros : List Nat :=
  [0x30, 0x660, 0x6F0, 0x7C0, 0x966, 0x9E6, 0xA66, 0xAE6, 0xB66, 0xBE6, 0xC66, 0xCE6, 0xD66, 0xDE6,
    0xE50, 0xED0, 0xF20, 0x1040, 0x1090, 0x17E0, 0x1810, 0x1946, 0x19D0, 0x1A80, 0x1A90, 0x1B50,
    0x1BB0, 0x1C40, 0x1C50, 0xA620, 0xA8D0, 0xA900, 0xA9D0, 0xA9F0, 0xAA50, 0xABF0, 0xFF10,
    0x104A0, 0x10D30, 0x11066, 0x110F0, 0x11136, 0x111D0, 0x112F0, 0x11450, 0x114D0, 0x11650,
    0x116C0, 0x11730, 0x118E0, 0x11950, 0x11C50, 0x11D50, 0x11DA0, 0x11F50, 0x16A60, 0x16AC0,
    0x16B50, 0x1D7CE, 0x1D7D8, 0x1D7E2, 0x1D7EC, 0x1D7F6, 0x1E140, 0x1E2F0, 0x1E4F0, 0x1E950,
    0x1FBF0]

def digit? (c : Char) : Option Nat :=
  (decimalZeros.find? fun start => start ≤ c.toNat && c.toNat < start + 10).map fun start =>
    c.toNat - start

/-- The digits a text goes on with, an underscore allowed before each, and the rest. -/
def moreDigits : List Char → List Nat × List Char
  | [] => ([], [])
  | '_' :: c :: rest =>
    match digit? c with
    | some d => let (ds, rest) := moreDigits rest; (d :: ds, rest)
    | none => ([], '_' :: c :: rest)
  | c :: rest =>
    match digit? c with
    | some d => let (ds, rest) := moreDigits rest; (d :: ds, rest)
    | none => ([], c :: rest)

/-- A group of digits, with single underscores between them, and the rest. -/
def digits : List Char → List Nat × List Char
  | [] => ([], [])
  | c :: rest =>
    match digit? c with
    | some d => let (ds, rest) := moreDigits rest; (d :: ds, rest)
    | none => ([], c :: rest)

def ofDigits (ds : List Nat) : Nat := ds.foldl (fun n d => 10 * n + d) 0

/-- A sign, if there is one: whether it is a minus. -/
def signOf : List Char → Bool × List Char
  | '-' :: rest => (true, rest)
  | '+' :: rest => (false, rest)
  | text => (false, text)

/-- The exponent at the end of a number: zero if there is none, nothing if the end is no
exponent. -/
def exponentOf : List Char → Option Int
  | [] => some 0
  | c :: rest =>
    if c = 'e' || c = 'E' then
      let (negative, rest) := signOf rest
      match digits rest with
      | ([], _) => none
      | (ds, []) => some (if negative then -(ofDigits ds : Int) else ofDigits ds)
      | (_, _ :: _) => none
    else none

/-- An unsigned decimal number. -/
def decimalOf (text : List Char) : Option ℚ :=
  let (whole, rest) := digits text
  let (fraction, rest) :=
    match rest with
    | '.' :: rest => digits rest
    | rest => ([], rest)
  if whole = [] ∧ fraction = [] then none
  else (exponentOf rest).map fun exponent =>
    (ofDigits (whole ++ fraction) : ℚ) * (10 : ℚ) ^ (exponent - (fraction.length : Int))

/-- The white space `float` strips: the separators U+001C to U+001F are not among it. -/
def isNumberSpace (c : Char) : Bool := isSpace c && !(28 ≤ c.toNat && c.toNat < 32)

/-- `float(text)`; nothing where it raises `ValueError`. -/
def ofText (text : List Char) : Option Binary64 :=
  let stripped := (((text.dropWhile isNumberSpace).reverse).dropWhile isNumberSpace).reverse
  let (negative, unsigned) := signOf stripped
  let word := String.ofList (unsigned.map Char.toLower)
  if word = "nan" then some .nan
  else if word = "inf" ∨ word = "infinity" then some (.infinity negative)
  else (decimalOf unsigned).map fun q => ofRat (if negative then -q else q)

example : ofText " -1_0.5e1 ".toList = some (.finite (-105)) := by decide +kernel

end Binary64
