import ShiftMind.Library.Binary64
import ShiftMind.Library.Dict
import ShiftMind.Library.Scanner

/-!
# ShiftMind — record-fact tags

`application/grounding/claim_tags.py`: the model wraps a fact it read from a record as
`<claim ev='w3' field='qualifications' value='T1'>…</claim>`. Each regular expression of the source
is a matcher here; `parseClaimTags` is the loop over the tokens that `_TAG.split` leaves.

* **`repairBrokenOpeners`** — an opener that never closes loses its syntax.
* **`parseClaimTags`** — the text parts and the well-formed facts, in order.
* **`keptText`** — what the parser keeps of the text; the parts of a parse are a partition of it
  (`parts_keptText`).
* **`visibleRuns`** — what is left of the text once the tag syntax alone is removed: what is kept,
  and what the repair deletes or the parser drops although it is no tag.
-/

namespace ShiftMind.Grounding

open Scanner Binary64

/-! ## The patterns

The regular expressions of the source as functions on characters: what stands here, and how long it
is. -/

/-- A letter of a pattern under `re.IGNORECASE`, which also takes the two Turkish letters for an
`i`. -/
def sameLetter (letter c : Char) : Bool :=
  c.toLower = letter || (letter = 'i' && (c = 'İ' || c = 'ı'))

/-- What follows a word at the front of a text. -/
def stripWord : List Char → List Char → Option (List Char)
  | [], text => some text
  | _ :: _, [] => none
  | letter :: word, c :: text => if sameLetter letter c then stripWord word text else none

/-- `<claim(?=[\s>])[^<>]*>`. -/
def openTagAt : Matcher Char (List Char) := fun text =>
  match stripWord "<claim".toList text with
  | some (c :: rest) =>
    if isSpace c || c = '>' then
      let body := (c :: rest).takeWhile fun c => c ≠ '<' && c ≠ '>'
      match (c :: rest).drop body.length with
      | '>' :: _ => some (text.take (body.length + 7), body.length + 7)
      | _ => none
    else none
  | _ => none

/-- `</claim\s*>`. -/
def closeTagAt : Matcher Char (List Char) := fun text =>
  match stripWord "</claim".toList text with
  | some rest =>
    let spaces := rest.takeWhile isSpace
    match rest.drop spaces.length with
    | '>' :: _ => some (text.take (spaces.length + 8), spaces.length + 8)
    | _ => none
  | none => none

/-- `_TAG`. -/
def tagAt : Matcher Char (List Char) := fun text => (openTagAt text).or (closeTagAt text)

/-- A quotation mark at the front of a text, with what follows it. -/
def quoteAt : List Char → Option (Char × List Char)
  | c :: rest => if c = '\'' || c = '"' then some (c, rest) else none
  | [] => none

/-- `\s*=\s*` and a quotation mark: the mark, what follows it, and the length of all that. -/
def assignAt (text : List Char) : Option (Char × List Char × Nat) :=
  let spaces := text.takeWhile isSpace
  match text.drop spaces.length with
  | '=' :: rest =>
    let more := rest.takeWhile isSpace
    (quoteAt (rest.drop more.length)).map fun (quote, rest) =>
      (quote, rest, spaces.length + more.length + 2)
  | _ => none

/-- `_PARTIAL_VALUE`: a value up to its closing quotation mark, or to the end without one. -/
def partialValueAt : Matcher Char (List Char) := fun text =>
  match stripWord "value".toList text with
  | some rest =>
    (assignAt rest).map fun (quote, rest, length) =>
      let value := rest.takeWhile fun c => c ≠ quote
      (value, 5 + length + value.length + (if rest.length = value.length then 0 else 1))
  | none => none

/-- What is kept of an opener that never closes: the value it was writing, and what follows it. -/
def visibleOpener (opener : List Char) : List Char :=
  match findFirst partialValueAt opener with
  | some (_, value, after) => value ++ after
  | none => []

/-- `_BROKEN_OPEN`: an opener that runs into the next tag, the end of the line or of the text. -/
def brokenOpenAt : Matcher Char (List Char) := fun text =>
  match stripWord "<claim".toList text with
  | some (c :: rest) =>
    if isSpace c then
      let body := (c :: rest).takeWhile fun c => c ≠ '<' && c ≠ '>' && c ≠ '\n'
      match (c :: rest).drop body.length with
      | '>' :: _ => none
      | _ => some (text.take (body.length + 6), body.length + 6)
    else none
  | _ => none

/-- `malformed_claim_tags`. -/
def malformedClaimTags (text : List Char) : List (List Char) := findAll brokenOpenAt text

/-- `_repair_broken_openers`. -/
def repairBrokenOpeners (text : List Char) : List Char :=
  (scan brokenOpenAt 0 text).flatMap (Sum.elim (fun c => [c]) visibleOpener)

def isNameChar (c : Char) : Bool := c.isAlpha || c = '_'

/-- `_ATTRIBUTE`: a name and its quoted value. -/
def attributeAt : Matcher Char (String × String) := fun text =>
  let name := text.takeWhile isNameChar
  if name = [] then none
  else
    match assignAt (text.drop name.length) with
    | some (quote, rest, length) =>
      let value := rest.takeWhile fun c => c ≠ quote
      if rest.length = value.length then none
      else some ((String.ofList (name.map Char.toLower), String.ofList value),
        name.length + length + value.length + 1)
    | none => none

/-- `_attributes`. -/
def attributesOf (openTag : List Char) : List (String × String) :=
  Dict.ofPairs (findAll attributeAt openTag)

/-! ## The parser -/

structure FactTagPart where
  text : String
  ev : String
  field : String
  value : String
  deriving DecidableEq, Repr

/-- `TagPart`. -/
inductive TagPart where
  | plainText (text : String)
  | factTag (tag : FactTagPart)
  deriving DecidableEq, Repr

def TagPart.text : TagPart → String
  | plainText text => text
  | factTag tag => tag.text

/-- The variables of the loop. -/
structure TagState where
  parts : List TagPart := []
  depth : Nat := 0
  nested : Bool := false
  attributes : List (String × String) := []
  inner : List Char := []

/-- `emit_text`: adjacent text is merged. -/
def emitText (parts : List TagPart) (value : List Char) : List TagPart :=
  if value = [] then parts
  else
    match parts.getLast? with
    | some (.plainText text) => parts.dropLast ++ [.plainText (text ++ String.ofList value)]
    | _ => parts ++ [.plainText (String.ofList value)]

/-- The fact a closed tag states, if it has all three attributes and cites something. -/
def factOf (attributes : List (String × String)) (nested : Bool) (body : List Char) :
    Option FactTagPart :=
  match Dict.get? attributes "ev", Dict.get? attributes "field", Dict.get? attributes "value" with
  | some ev, some field, some value =>
    if nested || ev = "" then none else some ⟨String.ofList body, ev, field, value⟩
  | _, _, _ => none

/-- The outermost tag closes. -/
def closeOutermost (s : TagState) : TagState :=
  match factOf s.attributes s.nested s.inner with
  | some fact => { s with parts := s.parts ++ [.factTag fact], depth := 0 }
  | none => { s with parts := emitText s.parts s.inner, depth := 0 }

/-- `token.lower().startswith(word)`. -/
def startsLike (word : String) (token : List Char) : Bool :=
  word.toList.isPrefixOf (token.map Char.toLower)

/-- The loop takes a token for tag syntax. -/
def isTagSyntax (token : List Char) : Bool :=
  startsLike "<claim" token || startsLike "</claim" token

/-- One token of the loop. -/
def readToken (s : TagState) (token : List Char) : TagState :=
  if startsLike "<claim" token then
    if s.depth = 0 then
      { s with attributes := attributesOf token, inner := [], nested := false, depth := 1 }
    else { s with nested := true, depth := s.depth + 1 }
  else if startsLike "</claim" token then
    match s.depth with
    | 0 => s
    | 1 => closeOutermost s
    | depth + 1 => { s with depth := depth }
  else if s.depth ≠ 0 then { s with inner := s.inner ++ token }
  else { s with parts := emitText s.parts token }

/-- `_TAG.split`, without the empty tokens. -/
def tokens (text : List Char) : List (List Char) := (pieces tagAt text).map (Sum.elim id id)

/-- `parse_claim_tags`: a tag that is never closed leaves its text as prose. -/
def parseClaimTags (text : String) : List TagPart :=
  let s := (tokens (repairBrokenOpeners text.toList)).foldl readToken {}
  if s.depth ≠ 0 then emitText s.parts s.inner else s.parts

example : parseClaimTags "See <claim ev='w1' field='name' value='Ana'>Ana</claim >, <CLAIM x>B" =
    [.plainText "See ", .factTag ⟨"Ana", "w1", "name", "Ana"⟩, .plainText ", B"] := by
  decide +kernel

example : parseClaimTags "<claim ev='t6' field='function' value='despatch'; area: main" =
    [.plainText "despatch; area: main"] := by
  decide +kernel

/-! ## What is left of the text

The runs between tags, and the part of them that the repair of broken openers deletes. -/

/-- The text that the parser keeps: every token of the repaired text that it takes for no tag. -/
def keptText (text : String) : List Char :=
  ((tokens (repairBrokenOpeners text.toList)).filter fun token => !isTagSyntax token).flatten

def partsText (parts : List TagPart) : List Char := parts.flatMap fun part => part.text.toList

/-- What the repair deletes of an opener that never closes: what stands before the value it was
writing, or all of it. -/
def deletedRun (opener : List Char) : List Char :=
  match findFirst partialValueAt opener with
  | some (before, _, _) => before
  | none => opener

/-- What the repair deletes of a text, opener by opener. -/
def deletedRuns (text : String) : List (List Char) :=
  (malformedClaimTags text.toList).map deletedRun

/-- The runs that are no tag, but begin like one: the parser drops them with the tag syntax. -/
def droppedRuns (text : String) : List (List Char) :=
  (pieces tagAt (repairBrokenOpeners text.toList)).filterMap fun
    | .inl run => if isTagSyntax run then some run else none
    | .inr _ => none

/-- **The visible text**, in runs: all of the text but the tags themselves. The parser keeps the
first run and loses the others. -/
def visibleRuns (text : String) : List (List Char) :=
  keptText text :: (deletedRuns text ++ droppedRuns text)

example : visibleRuns "<claim ev='t6' The total is 5 units." =
    [[], "<claim ev='t6' The total is 5 units.".toList] := by
  decide +kernel

theorem partsText_append (parts more : List TagPart) :
    partsText (parts ++ more) = partsText parts ++ partsText more := by
  unfold partsText
  rw [List.flatMap_append]

theorem partsText_emitText (parts : List TagPart) (value : List Char) :
    partsText (emitText parts value) = partsText parts ++ value := by
  unfold emitText
  split
  case isTrue h => rw [h, List.append_nil]
  split
  · rename_i text hlast
    have hsplit := List.dropLast_append_getLast? (TagPart.plainText text) hlast
    conv_rhs => rw [← hsplit]
    simp [partsText, TagPart.text]
  · simp [partsText, TagPart.text]

/-- The text a state has read so far: what it emitted, and the body of the open tag. -/
def TagState.readText (s : TagState) : List Char :=
  partsText s.parts ++ (if s.depth = 0 then [] else s.inner)

/-- A fact keeps the text of its tag. -/
theorem factOf_text {attributes : List (String × String)} {nested : Bool} {body : List Char}
    {fact : FactTagPart} (h : factOf attributes nested body = some fact) :
    fact.text.toList = body := by
  unfold factOf at h
  split at h
  · split at h
    · cases h
    · simp only [Option.some.injEq] at h
      rw [← h, String.toList_ofList]
  · cases h

theorem readText_closeOutermost (s : TagState) (hdepth : s.depth ≠ 0) :
    (closeOutermost s).readText = s.readText := by
  unfold closeOutermost
  cases hfact : factOf s.attributes s.nested s.inner with
  | none => simp [TagState.readText, partsText_emitText, hdepth]
  | some fact =>
    simp [TagState.readText, partsText, TagPart.text, factOf_text hfact, hdepth]

/-- A token adds itself to what was read, unless it is tag syntax. -/
theorem readText_readToken (s : TagState) (token : List Char) :
    (readToken s token).readText = s.readText ++ (if isTagSyntax token then [] else token) := by
  unfold readToken isTagSyntax
  by_cases hopen : startsLike "<claim" token
  · simp only [hopen, ↓reduceIte, Bool.true_or, List.append_nil]
    by_cases hdepth : s.depth = 0
    · simp [hdepth, TagState.readText]
    · simp [hdepth, TagState.readText]
  · by_cases hclose : startsLike "</claim" token
    · simp only [hopen, hclose, Bool.false_eq_true, ↓reduceIte, Bool.or_true, List.append_nil]
      split
      · rfl
      · rename_i hdepth
        exact readText_closeOutermost s (by omega)
      · rename_i depth hone hdepth
        have hne : depth ≠ 0 := fun h => hone h
        simp [TagState.readText, hdepth, hne]
    · simp only [hopen, hclose, Bool.false_eq_true, ↓reduceIte, Bool.or_false]
      by_cases hdepth : s.depth = 0
      · simp [hdepth, TagState.readText, partsText_emitText]
      · simp [hdepth, TagState.readText]

theorem readText_foldl (tokens : List (List Char)) (s : TagState) :
    (tokens.foldl readToken s).readText =
      s.readText ++ (tokens.filter fun token => !isTagSyntax token).flatten := by
  induction tokens generalizing s with
  | nil => simp
  | cons token tokens ih =>
    rw [List.foldl_cons, ih, readText_readToken]
    cases htag : isTagSyntax token with
    | true => simp [htag]
    | false => simp [htag]

/-- **The parts of a parse are the visible text**, in order and cut into parts. -/
theorem parts_keptText (text : String) : partsText (parseClaimTags text) = keptText text := by
  have hread := readText_foldl (tokens (repairBrokenOpeners text.toList)) {}
  unfold parseClaimTags keptText
  simp only
  rw [TagState.readText] at hread
  by_cases hdepth : ((tokens (repairBrokenOpeners text.toList)).foldl readToken {}).depth = 0
  · rw [if_pos hdepth, List.append_nil] at hread
    rw [if_neg (not_not.mpr hdepth), hread]
    rfl
  · rw [if_neg hdepth] at hread
    rw [if_pos hdepth, partsText_emitText, hread]
    rfl

end ShiftMind.Grounding
