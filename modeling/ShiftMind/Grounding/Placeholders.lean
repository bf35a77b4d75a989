import ShiftMind.Library.Scanner
import Mathlib.Data.List.TakeWhile

/-!
# ShiftMind — value placeholders

`application/grounding/placeholders.py`: every calculated value of an answer is a placeholder
`{{r1}}` that names a citation handle. `parseAnswerText` splits a text into its placeholders and
the prose between them; `placeholderAt` is the grammar of one.
-/

namespace ShiftMind.Grounding

open Scanner

/-- A character of a handle: `[A-Za-z0-9_-]`. -/
def isHandleChar (c : Char) : Bool := c.isAlphanum || c = '_' || c = '-'

/-- `_PLACEHOLDER`: two opening braces, a handle, two closing braces. -/
def placeholderAt : Matcher Char String
  | '{' :: '{' :: rest =>
    let handle := rest.takeWhile isHandleChar
    match rest.drop handle.length with
    | '}' :: '}' :: _ =>
      if handle = [] then none else some (String.ofList handle, handle.length + 4)
    | _ => none
  | _ => none

/-- `AnswerPart`. -/
inductive AnswerPart where
  | prose (text : String)
  | placeholder (handle : String)
  deriving DecidableEq, Repr

/-- `parse_answer_text`. -/
def parseAnswerText (text : String) : List AnswerPart :=
  (pieces placeholderAt text.toList).map
    (Sum.elim (fun run => .prose (String.ofList run)) .placeholder)

/-- `placeholder_handles`. -/
def placeholderHandles (text : String) : List String := findAll placeholderAt text.toList

/-- A part as it stood in the text: prose as it is, a handle in double braces. -/
def AnswerPart.render : AnswerPart → String
  | prose text => text
  | placeholder handle => "\x7b\x7b" ++ handle ++ "\x7d\x7d"

example : parseAnswerText "need {{r1}}{{ x }}" =
    [.prose "need ", .placeholder "r1", .prose "{{ x }}"] := by decide +kernel

/-! ## The grammar -/

/-- **The shape of a placeholder.** -/
theorem placeholderAt_eq_some {text : List Char} {handle : String} {n : Nat} :
    placeholderAt text = some (handle, n) ↔
      ∃ rest, text = '{' :: '{' :: handle.toList ++ '}' :: '}' :: rest ∧ handle.toList ≠ [] ∧
        (∀ c ∈ handle.toList, isHandleChar c = true) ∧ n = handle.toList.length + 4 := by
  constructor
  · intro h
    unfold placeholderAt at h
    split at h
    case h_2 => cases h
    rename_i rest
    simp only at h
    split at h
    case h_2 => cases h
    -- two braces, handle characters, two braces
    rename_i after hdrop
    split at h
    · cases h
    · rename_i hhandle
      simp only [Option.some.injEq, Prod.mk.injEq] at h
      obtain ⟨rfl, rfl⟩ := h
      have hchars : ∀ c ∈ rest.takeWhile isHandleChar, isHandleChar c = true :=
        fun c hc => List.mem_takeWhile_imp hc
      have hsplit : rest = rest.takeWhile isHandleChar ++ '}' :: '}' :: after := by
        conv_lhs => rw [← List.take_append_drop (rest.takeWhile isHandleChar).length rest]
        rw [hdrop, ← List.prefix_iff_eq_take.mp (List.takeWhile_prefix _)]
      refine ⟨after, ?_, ?_, ?_, ?_⟩
      · simp only [String.toList_ofList]
        rw [List.cons_append, List.cons_append, ← hsplit]
      · simpa using hhandle
      · simpa using hchars
      · simp
  · intro ⟨rest, htext, hne, hchars, hn⟩
    -- a closing brace is no handle character, so the handle ends there
    have hbrace : isHandleChar '}' = false := by decide
    have htake : (handle.toList ++ '}' :: '}' :: rest).takeWhile isHandleChar =
        handle.toList := by
      rw [List.takeWhile_append_of_pos hchars, List.takeWhile_cons, hbrace]
      simp
    rw [htext, hn]
    simp only [placeholderAt, List.cons_append, htake, List.drop_left, if_neg hne,
      String.ofList_toList]

/-- A placeholder is recognised by its own characters. -/
theorem placeholderAt_local : Local placeholderAt := by
  intro text handle n h
  obtain ⟨rest, rfl, hne, hchars, rfl⟩ := placeholderAt_eq_some.mp h
  refine ⟨by omega, by simp, fun after => ?_⟩
  refine placeholderAt_eq_some.mpr ⟨after, ?_, hne, hchars, rfl⟩
  have hsplit : '{' :: '{' :: handle.toList ++ '}' :: '}' :: rest =
      ('{' :: '{' :: handle.toList ++ ['}', '}']) ++ rest := by simp
  have hlength : handle.toList.length + 4 =
      ('{' :: '{' :: handle.toList ++ ['}', '}']).length := by simp
  rw [hsplit, hlength, List.take_left]
  simp

/-- No placeholder starts inside another: behind its first brace comes one brace at most. -/
theorem placeholderAt_isolated : Isolated placeholderAt := by
  intro text handle n h i hpos hi
  obtain ⟨rest, rfl, hne, hchars, rfl⟩ := placeholderAt_eq_some.mp h
  cases hmatch : placeholderAt
      (('{' :: '{' :: handle.toList ++ '}' :: '}' :: rest).drop i) with
  | none => rfl
  | some found =>
    obtain ⟨other, m⟩ := found
    obtain ⟨rest', hdrop, hne', hchars', -⟩ := placeholderAt_eq_some.mp hmatch
    have hfirst : ∀ j, ((('{' :: '{' :: handle.toList ++ '}' :: '}' :: rest).drop i))[j]? =
        ('{' :: '{' :: handle.toList ++ '}' :: '}' :: rest)[i + j]? := fun j => by simp
    rw [hdrop] at hfirst
    have hzero := hfirst 0
    have hone := hfirst 1
    simp only [List.cons_append, List.getElem?_cons_zero, Nat.add_zero, List.getElem?_cons_succ]
      at hzero hone
    -- position `i` holds an opening brace only for `i = 1`, and a handle follows it there
    obtain ⟨i, rfl⟩ : ∃ k, i = k + 1 := ⟨i - 1, by omega⟩
    cases i with
    | zero =>
      simp only [List.getElem?_cons_succ, Nat.zero_add] at hone
      cases hhandle : handle.toList with
      | nil => exact absurd hhandle hne
      | cons c cs =>
        rw [hhandle] at hone
        simp only [List.cons_append, List.getElem?_cons_zero, Option.some.injEq] at hone
        have hc := hchars c (by rw [hhandle]; exact List.mem_cons_self)
        rw [← hone] at hc
        cases hc
    | succ i =>
      simp only [List.getElem?_cons_succ] at hzero
      by_cases hin : i < handle.toList.length
      · rw [List.getElem?_append_left hin, List.getElem?_eq_getElem hin] at hzero
        have hc := hchars _ (List.getElem_mem hin)
        rw [← Option.some.inj hzero] at hc
        cases hc
      · rw [List.getElem?_append_right (by omega)] at hzero
        obtain ⟨k, hk⟩ : ∃ k, i - handle.toList.length = k ∧ k < 2 := ⟨_, rfl, by omega⟩
        rw [hk.1] at hzero
        match k, hk.2 with
        | 0, _ => simp at hzero
        | 1, _ => simp at hzero

/-! ## The parts of a text

A text is cut at its placeholders, and nothing of it is lost. -/

/-- The placeholders that start in a text, at whatever position. -/
def placeholdersIn (text after : List Char) : List String := matchesIn placeholderAt text after

/-- The handles of the placeholder parts. -/
def AnswerPart.handle? : AnswerPart → Option String
  | prose _ => none
  | placeholder handle => some handle

/-- **Parsing finds every placeholder of the text**, in order. -/
theorem handles_parseAnswerText (text : String) :
    (parseAnswerText text).filterMap AnswerPart.handle? = placeholdersIn text.toList [] := by
  unfold parseAnswerText placeholdersIn
  rw [← findAll_eq placeholderAt_isolated, ← filterMap_pieces, List.filterMap_map]
  refine List.filterMap_congr fun piece _ => ?_
  cases piece <;> rfl

/-- What is left as prose contains no placeholder. -/
theorem prose_parseAnswerText {text prose : String} (h : .prose prose ∈ parseAnswerText text) :
    placeholdersIn prose.toList [] = [] := by
  obtain ⟨piece, hmem, hpiece⟩ := List.mem_map.mp h
  cases piece with
  | inr handle => cases hpiece
  | inl run =>
    simp only [Sum.elim_inl, AnswerPart.prose.injEq] at hpiece
    rw [← hpiece, String.toList_ofList]
    exact matchesIn_run placeholderAt_local hmem

/-- A text in which a well-formed placeholder stands somewhere. -/
def HasPlaceholder (text : String) : Prop :=
  ∃ before handle after : List Char,
    text.toList = before ++ '{' :: '{' :: handle ++ '}' :: '}' :: after ∧
      handle ≠ [] ∧ ∀ c ∈ handle, isHandleChar c = true

/-- Prose has none. -/
theorem not_hasPlaceholder_of_prose {text prose : String}
    (h : .prose prose ∈ parseAnswerText text) : ¬ HasPlaceholder prose := by
  intro ⟨before, handle, after, htext, hne, hchars⟩
  have hmatch : placeholderAt ('{' :: '{' :: handle ++ '}' :: '}' :: after) =
      some (String.ofList handle, handle.length + 4) := by
    apply placeholderAt_eq_some.mpr
    rw [String.toList_ofList]
    exact ⟨after, rfl, hne, hchars, rfl⟩
  have hmem : String.ofList handle ∈ placeholdersIn prose.toList [] := by
    rw [htext, List.append_assoc]
    exact mem_matchesIn (by simp) hmatch
  rw [prose_parseAnswerText h] at hmem
  exact List.not_mem_nil hmem

/-- The characters of the parts, one after another, are those of the text. -/
theorem flatMap_render_parseAnswerText (text : String) :
    (parseAnswerText text).flatMap (fun part => part.render.toList) = text.toList := by
  have hpieces : ((pieces placeholderAt text.toList).map
      (Sum.elim id fun handle => (AnswerPart.placeholder handle).render.toList)).flatten =
      text.toList := by
    apply flatten_pieces
    intro text handle n h
    obtain ⟨rest, rfl, -, -, rfl⟩ := placeholderAt_eq_some.mp h
    have hsplit : '{' :: '{' :: handle.toList ++ '}' :: '}' :: rest =
        ('{' :: '{' :: handle.toList ++ ['}', '}']) ++ rest := by simp
    have hlength : handle.toList.length + 4 =
        ('{' :: '{' :: handle.toList ++ ['}', '}']).length := by simp
    refine ⟨by omega, ?_⟩
    rw [hsplit, hlength, List.take_left]
    simp [AnswerPart.render]
  rw [← hpieces, ← List.flatMap_def]
  unfold parseAnswerText
  rw [List.flatMap_map]
  apply List.flatMap_congr
  intro piece _
  cases piece with
  | inl run => exact String.toList_ofList
  | inr handle => rfl

/-- **Parsing loses nothing.** The parts of a text, written back, are the text; no part is empty
prose or prose with a placeholder in it; and the handles are those that `placeholderHandles` reads,
in their order. -/
theorem parseAnswerText_lossless (text : String) :
    String.join ((parseAnswerText text).map AnswerPart.render) = text ∧
      (∀ prose, .prose prose ∈ parseAnswerText text → prose ≠ "" ∧ ¬ HasPlaceholder prose) ∧
      (parseAnswerText text).filterMap AnswerPart.handle? = placeholderHandles text := by
  refine ⟨?_, ?_, ?_⟩
  · apply String.toList_injective
    rw [String.toList_join, List.flatMap_map]
    exact flatMap_render_parseAnswerText text
  · intro prose hmem
    refine ⟨?_, not_hasPlaceholder_of_prose hmem⟩
    obtain ⟨piece, hpiece, heq⟩ := List.mem_map.mp hmem
    cases piece with
    | inr handle => cases heq
    | inl run =>
      cases heq
      intro hempty
      apply ne_nil_of_mem_pieces hpiece
      have hchars := congrArg String.toList hempty
      rwa [String.toList_ofList] at hchars
  · rw [handles_parseAnswerText]
    exact (findAll_eq placeholderAt_isolated _).symm

end ShiftMind.Grounding
