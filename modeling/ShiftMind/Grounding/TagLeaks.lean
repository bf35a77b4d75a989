import ShiftMind.Grounding.TagGrammar

/-!
# ShiftMind — tags in what the parser shows

`parse_claim_tags` drops the tags of a text and joins what stood around them. Between two
well-formed facts everything that is kept is joined to one text, and a tag may come to stand where
the dropped ones were.

* **`sections`** — the tokens that are joined: those between the well-formed facts of a token list,
  and those inside one.
* **`texts_of_sections`** — each text of a parse is a section, joined.
* **`no_tag_shown_iff`** — no text of a parse contains a tag exactly when the loop takes each tag
  for one, and no tag begins in one token of a section and ends in a later one.
-/

namespace ShiftMind.Grounding

open Scanner

/-! ## Sections -/

/-- A well-formed fact at the front of the tokens: an opening tag that states one, the tokens of
its text, and a closing tag. -/
def factAt : Matcher (List Char) (List (List Char))
  | opener :: rest =>
    let body := rest.takeWhile fun token => !isTagSyntax token
    match rest.drop body.length with
    | closer :: _ =>
      if startsLike "<claim" opener && !startsLike "<claim" closer &&
          (factOf (attributesOf opener) false body.flatten).isSome then
        some (body, body.length + 2)
      else none
    | [] => none
  | [] => none

/-- A token in front of the first section. -/
def keep (token : List Char) : List (List (List Char)) → List (List (List Char))
  | [] => [[token]]
  | first :: rest => (token :: first) :: rest

/-- The kept tokens, cut at each well-formed fact. The first argument counts the tokens of the last
fact that are still to be skipped, the second one the tags that are open. -/
def sections : Nat → Nat → List (List Char) → List (List (List Char))
  | _, _, [] => [[]]
  | skip + 1, depth, _ :: rest => sections skip depth rest
  | 0, depth, token :: rest =>
    match if depth = 0 then factAt (token :: rest) else none with
    | some (body, n) => [] :: body :: sections (n - 1) 0 rest
    | none =>
      if startsLike "<claim" token then sections 0 (depth + 1) rest
      else if startsLike "</claim" token then sections 0 (depth - 1) rest
      else keep token (sections 0 depth rest)

theorem factAt_eq_some {opener : List Char} {rest body : List (List Char)} {n : Nat}
    (h : factAt (opener :: rest) = some (body, n)) :
    ∃ closer after fact, rest = body ++ closer :: after ∧ n = body.length + 2 ∧
      (∀ token ∈ body, isTagSyntax token = false) ∧ startsLike "<claim" opener = true ∧
      startsLike "<claim" closer = false ∧ isTagSyntax closer = true ∧
      factOf (attributesOf opener) false body.flatten = some fact := by
  unfold factAt at h
  simp only at h
  split at h
  case h_2 => cases h
  rename_i closer after hdrop
  split at h
  case isFalse => cases h
  rename_i hfact
  cases h
  simp only [Bool.and_eq_true, Bool.not_eq_true'] at hfact
  obtain ⟨fact, hfact'⟩ := Option.isSome_iff_exists.mp hfact.2
  have hstop := not_of_drop_takeWhile hdrop
  refine ⟨closer, after, fact, ?_, rfl, fun token htoken => ?_, hfact.1.1, hfact.1.2, ?_, hfact'⟩
  · rw [← hdrop, takeWhile_append_drop]
  · have hkept := List.mem_takeWhile_imp htoken
    simpa using hkept
  · simpa using hstop

section FactAt

variable (opener : List Char) {closer : List Char} {body : List (List Char)}

/-- The tokens up to the first closing tag. -/
theorem factAt_closed (hbody : ∀ token ∈ body, isTagSyntax token = false)
    (hcloser : isTagSyntax closer = true) (after : List (List Char)) :
    factAt (opener :: (body ++ closer :: after)) =
      if startsLike "<claim" opener && !startsLike "<claim" closer &&
          (factOf (attributesOf opener) false body.flatten).isSome then
        some (body, body.length + 2)
      else none := by
  have htake : (body ++ closer :: after).takeWhile (fun token => !isTagSyntax token) = body :=
    takeWhile_stop (fun token h => by rw [hbody token h]; rfl) (by rw [hcloser]; rfl)
  unfold factAt
  simp only [htake, List.drop_left]

/-- Without a closing tag there is no fact. -/
theorem factAt_open (hbody : ∀ token ∈ body, isTagSyntax token = false) :
    factAt (opener :: body) = none := by
  have htake : body.takeWhile (fun token => !isTagSyntax token) = body := by
    rw [List.takeWhile_eq_self_iff]
    exact fun token h => by rw [hbody token h]; rfl
  unfold factAt
  simp only [htake, List.drop_length]

end FactAt

/-- Only an opening tag begins a fact. -/
theorem factAt_none {token : List Char} {rest : List (List Char)}
    (h : startsLike "<claim" token = false) : factAt (token :: rest) = none := by
  cases hfact : factAt (token :: rest) with
  | none => rfl
  | some found =>
    obtain ⟨_, _, _, _, _, _, hopen, _⟩ := factAt_eq_some hfact
    rw [h] at hopen
    cases hopen

theorem sections_skip (skip depth : Nat) (tokens : List (List Char)) :
    sections skip depth tokens = sections 0 depth (tokens.drop skip) := by
  induction tokens generalizing skip with
  | nil => cases skip <;> rfl
  | cons token tokens ih =>
    cases skip with
    | zero => rfl
    | succ skip => exact ih skip

/-- Behind a fact a new section begins. -/
theorem sections_fact {opener closer : List Char} {body after : List (List Char)} {n : Nat}
    (h : factAt (opener :: (body ++ closer :: after)) = some (body, n)) :
    sections 0 0 (opener :: (body ++ closer :: after)) = [] :: body :: sections 0 0 after := by
  have hn : n = body.length + 2 := by
    obtain ⟨_, _, _, _, hn, _⟩ := factAt_eq_some h
    exact hn
  have hdrop : (body ++ closer :: after).drop (n - 1) = after := by
    rw [hn, show body.length + 2 - 1 = body.length + 1 by omega, List.drop_append]
    simp
  rw [sections, if_pos rfl, h]
  simp only
  rw [sections_skip, hdrop]

section Step

variable {token : List Char} {rest : List (List Char)} {depth : Nat}

theorem sections_open (hnone : depth = 0 → factAt (token :: rest) = none)
    (hopen : startsLike "<claim" token = true) :
    sections 0 depth (token :: rest) = sections 0 (depth + 1) rest := by
  have hmatch : (if depth = 0 then factAt (token :: rest) else none) = none := by
    split
    · exact hnone ‹_›
    · rfl
  rw [sections, hmatch]
  simp only [hopen, if_true]

theorem sections_close (hopen : startsLike "<claim" token = false)
    (hclose : startsLike "</claim" token = true) :
    sections 0 depth (token :: rest) = sections 0 (depth - 1) rest := by
  have hmatch : (if depth = 0 then factAt (token :: rest) else none) = none := by
    split
    · exact factAt_none hopen
    · rfl
  rw [sections, hmatch]
  simp only [hopen, hclose, if_true, Bool.false_eq_true, if_false]

theorem sections_keep (htoken : isTagSyntax token = false) :
    sections 0 depth (token :: rest) = keep token (sections 0 depth rest) := by
  obtain ⟨hopen, hclose⟩ := Bool.or_eq_false_iff.mp htoken
  have hmatch : (if depth = 0 then factAt (token :: rest) else none) = none := by
    split
    · exact factAt_none hopen
    · rfl
  rw [sections, hmatch]
  simp only [hopen, hclose, Bool.false_eq_true, if_false]

end Step

/-! ## The loop, section by section

The state of the loop holds one open section; each token closes it, extends it or leaves it alone.
-/

/-- The parts once the last token is read. -/
def TagState.finish (s : TagState) : List TagPart :=
  if s.depth ≠ 0 then emitText s.parts s.inner else s.parts

/-- The text that is not cut off yet: what was read since the parts `init`, of which `front` has
been emitted. -/
def TagState.pending (s : TagState) (front : List Char) : List Char :=
  front ++ if s.depth = 0 then [] else s.inner

/-- The parts do not end with a text that what is emitted next would be merged into. -/
def Cut (parts : List TagPart) : Prop := ∀ text, parts.getLast? ≠ some (.plainText text)

theorem emitText_cut {parts : List TagPart} (hcut : Cut parts) {text : List Char}
    (htext : text ≠ []) : emitText parts text = parts ++ [.plainText (String.ofList text)] := by
  unfold emitText
  rw [if_neg htext]
  split
  · rename_i last hlast
    exact absurd hlast (hcut last)
  · rfl

theorem emitText_merge (parts : List TagPart) (last : String) (text : List Char) :
    emitText (parts ++ [.plainText last]) text =
      parts ++ [.plainText (last ++ String.ofList text)] := by
  unfold emitText
  by_cases htext : text = []
  · simp [htext]
  · rw [if_neg htext, List.getLast?_concat]
    simp

/-- Texts emitted one after the other are emitted as one. -/
theorem emitText_emitText (parts : List TagPart) (text more : List Char) :
    emitText (emitText parts text) more = emitText parts (text ++ more) := by
  by_cases htext : text = []
  · rw [htext, List.nil_append]
    rfl
  have hboth : text ++ more ≠ [] := by simp [htext]
  cases hlast : parts.getLast? with
  | none =>
    rw [List.getLast?_eq_none_iff.mp hlast, emitText_cut (by simp [Cut]) htext, emitText_merge,
      emitText_cut (by simp [Cut]) hboth, String.ofList_append]
  | some part =>
    obtain ⟨init, rfl⟩ := List.getLast?_eq_some_iff.mp hlast
    cases part with
    | plainText last =>
      rw [emitText_merge, emitText_merge, emitText_merge, String.ofList_append,
        String.append_assoc]
    | factTag tag =>
      rw [emitText_cut (by simp [Cut]) htext, emitText_merge, emitText_cut (by simp [Cut]) hboth,
        String.ofList_append]

section Texts

variable {P : List Char → Prop}

/-- What holds of the sections' texts, where `front` stands before the first. -/
def SectionsHold (P : List Char → Prop) (front : List Char) : List (List (List Char)) → Prop
  | [] => P front
  | first :: rest => P (front ++ first.flatten) ∧ ∀ tokens ∈ rest, P tokens.flatten

theorem sectionsHold_nil (hnil : P []) (cut : List (List (List Char))) :
    SectionsHold P [] cut ↔ ∀ tokens ∈ cut, P tokens.flatten := by
  cases cut with
  | nil => simpa [SectionsHold] using hnil
  | cons first rest => rw [SectionsHold, List.nil_append, List.forall_mem_cons]

theorem sectionsHold_keep (front token : List Char) (cut : List (List (List Char))) :
    SectionsHold P front (keep token cut) ↔ SectionsHold P (front ++ token) cut := by
  cases cut with
  | nil => simp [keep, SectionsHold]
  | cons first rest => simp [keep, SectionsHold]

/-- Tokens that are no tags are kept. -/
theorem sectionsHold_body {body : List (List Char)}
    (hbody : ∀ token ∈ body, isTagSyntax token = false)
    (front : List Char) (depth : Nat) (rest : List (List Char)) :
    SectionsHold P front (sections 0 depth (body ++ rest)) ↔
      SectionsHold P (front ++ body.flatten) (sections 0 depth rest) := by
  induction body generalizing front with
  | nil => rw [List.nil_append, List.flatten_nil, List.append_nil]
  | cons token body ih =>
    rw [List.cons_append, sections_keep (hbody token List.mem_cons_self), sectionsHold_keep,
      ih fun t ht => hbody t (List.mem_cons_of_mem _ ht), List.flatten_cons, List.append_assoc]

theorem forall_emitText (hnil : P []) {parts : List TagPart} (hcut : Cut parts)
    (text : List Char) : (∀ part ∈ emitText parts text, P part.text.toList) ↔
      (∀ part ∈ parts, P part.text.toList) ∧ P text := by
  by_cases htext : text = []
  · rw [htext]
    show (∀ part ∈ parts, P part.text.toList) ↔ _
    exact (and_iff_left hnil).symm
  rw [emitText_cut hcut htext, List.forall_mem_append]
  simp [TagPart.text]

/-! ### Each kind of token -/

/-- Inside a tag, tokens that are no tags go to its text. -/
theorem foldl_body {body : List (List Char)} (hbody : ∀ token ∈ body, isTagSyntax token = false)
    (s : TagState) (hdepth : s.depth ≠ 0) :
    body.foldl readToken s = { s with inner := s.inner ++ body.flatten } := by
  induction body generalizing s with
  | nil => simp
  | cons token body ih =>
    obtain ⟨hopen, hclose⟩ := Bool.or_eq_false_iff.mp (hbody token List.mem_cons_self)
    have hstep : readToken s token = { s with inner := s.inner ++ token } := by
      unfold readToken
      simp only [hopen, hclose, Bool.false_eq_true, if_false, ne_eq, hdepth, not_false_eq_true,
        if_true]
    have hrest := ih (fun t ht => hbody t (List.mem_cons_of_mem _ ht))
      { s with inner := s.inner ++ token } hdepth
    rw [List.foldl_cons, hstep, hrest, List.flatten_cons, List.append_assoc]

/-- The outermost tag opens. -/
theorem readToken_outermost {s : TagState} {token : List Char} (hdepth : s.depth = 0)
    (hopen : startsLike "<claim" token = true) :
    readToken s token =
      { s with attributes := attributesOf token, inner := [], nested := false, depth := 1 } := by
  unfold readToken
  rw [if_pos hopen, if_pos hdepth]

/-- A tag inside another. -/
theorem readToken_nested {s : TagState} {token : List Char} (hdepth : s.depth ≠ 0)
    (hopen : startsLike "<claim" token = true) :
    readToken s token = { s with nested := true, depth := s.depth + 1 } := by
  unfold readToken
  rw [if_pos hopen, if_neg hdepth]

theorem readToken_outermost_closes {s : TagState} {token : List Char} (hdepth : s.depth = 1)
    (hopen : startsLike "<claim" token = false) (hclose : startsLike "</claim" token = true) :
    readToken s token = closeOutermost s := by
  unfold readToken
  rw [hopen, if_neg Bool.false_ne_true, if_pos hclose, hdepth]
  rfl

/-- A tag that states no fact leaves its text. -/
theorem closeOutermost_text {s : TagState} (h : factOf s.attributes s.nested s.inner = none) :
    closeOutermost s = { s with parts := emitText s.parts s.inner, depth := 0 } := by
  unfold closeOutermost
  rw [h]

theorem factOf_nested (attributes : List (String × String)) (body : List Char) :
    factOf attributes true body = none := by
  unfold factOf
  split
  · simp
  · rfl

theorem startsLike_close {token : List Char} (hopen : startsLike "<claim" token = false)
    (htag : isTagSyntax token = true) : startsLike "</claim" token = true := by
  unfold isTagSyntax at htag
  rw [hopen, Bool.false_or] at htag
  exact htag

/-! ### A whole list of tokens -/

/-- From a state outside every tag, or inside one that states no fact, what the loop goes on to show
is what it has shown and the sections of the tokens it still reads. -/
def TextsHold (P : List Char → Prop) (tokens : List (List Char)) : Prop :=
  ∀ (s : TagState) (init : List TagPart) (front : List Char), Cut init →
    s.parts = emitText init front → (s.depth = 0 ∨ s.nested = true) →
    ((∀ part ∈ (tokens.foldl readToken s).finish, P part.text.toList) ↔
      (∀ part ∈ init, P part.text.toList) ∧
        SectionsHold P (s.pending front) (sections 0 s.depth tokens))

theorem textsHold_nil (hnil : P []) : TextsHold P [] := by
  intro s init front hcut hparts _
  have hfinish : s.finish = emitText init (s.pending front) := by
    unfold TagState.finish TagState.pending
    by_cases hdepth : s.depth = 0
    · simp [hdepth, hparts]
    · simp [hdepth, hparts, emitText_emitText]
  show (∀ part ∈ s.finish, P part.text.toList) ↔ _ ∧ P (s.pending front ++ []) ∧ _
  rw [hfinish, forall_emitText hnil hcut]
  simp

/-- A token that is no tag is kept. -/
theorem TextsHold.keep {token : List Char} {rest : List (List Char)} (h : TextsHold P rest)
    (htag : isTagSyntax token = false) : TextsHold P (token :: rest) := by
  intro s init front hcut hparts hstate
  obtain ⟨hopen, hclose⟩ := Bool.or_eq_false_iff.mp htag
  rw [List.foldl_cons, sections_keep htag, sectionsHold_keep]
  by_cases hdepth : s.depth = 0
  · have hstep : readToken s token = { s with parts := emitText s.parts token } := by
      unfold readToken
      simp only [hopen, hclose, Bool.false_eq_true, if_false, hdepth, ne_eq, not_true_eq_false]
    have hrest := h { s with parts := emitText s.parts token } init (front ++ token) hcut
      (by simp only [hparts, emitText_emitText]) (.inl hdepth)
    rw [hstep, hrest]
    simp [TagState.pending, hdepth]
  · have hstep : readToken s token = { s with inner := s.inner ++ token } := by
      unfold readToken
      simp only [hopen, hclose, Bool.false_eq_true, if_false, hdepth, ne_eq, not_false_eq_true,
        if_true]
    have hrest := h { s with inner := s.inner ++ token } init front hcut hparts hstate
    rw [hstep, hrest]
    simp [TagState.pending, hdepth]

/-- A closing tag ends the tag it is in, and the outermost of those that state no fact leaves its
text. -/
theorem TextsHold.close {token : List Char} {rest : List (List Char)} (h : TextsHold P rest)
    (hopen : startsLike "<claim" token = false) (hclose : startsLike "</claim" token = true) :
    TextsHold P (token :: rest) := by
  intro s init front hcut hparts hstate
  rw [List.foldl_cons, sections_close hopen hclose]
  -- outside any tag, at the end of the outermost, or inside a nested one
  match hdepth : s.depth with
  | 0 =>
    have hstep : readToken s token = s := by
      unfold readToken
      rw [hopen, if_neg Bool.false_ne_true, if_pos hclose, hdepth]
    rw [hstep, h s init front hcut hparts hstate, hdepth]
  | 1 =>
    have hnested := hstate.resolve_left (by omega)
    rw [readToken_outermost_closes hdepth hopen hclose,
      closeOutermost_text (by rw [hnested]; exact factOf_nested _ _)]
    have hrest := h { s with parts := emitText s.parts s.inner, depth := 0 } init
      (front ++ s.inner) hcut (by simp only [hparts, emitText_emitText]) (.inl rfl)
    rw [hrest]
    simp [TagState.pending, hdepth]
  | depth + 2 =>
    have hstep : readToken s token = { s with depth := depth + 1 } := by
      unfold readToken
      rw [hopen, if_neg Bool.false_ne_true, if_pos hclose, hdepth]
      rfl
    have hnested := hstate.resolve_left (by omega)
    rw [hstep, h { s with depth := depth + 1 } init front hcut hparts (.inr hnested)]
    simp [TagState.pending, hdepth]

/-- A tag that opens inside another states no fact, and leaves the other without one. -/
theorem TextsHold.openInside {token : List Char} {rest : List (List Char)} (h : TextsHold P rest)
    (hopen : startsLike "<claim" token = true) {s : TagState} {init : List TagPart}
    {front : List Char} (hcut : Cut init) (hparts : s.parts = emitText init front)
    (hdepth : s.depth ≠ 0) :
    (∀ part ∈ (rest.foldl readToken (readToken s token)).finish, P part.text.toList) ↔
      (∀ part ∈ init, P part.text.toList) ∧
        SectionsHold P (s.pending front) (sections 0 s.depth (token :: rest)) := by
  rw [readToken_nested hdepth hopen, sections_open (fun h => absurd h hdepth) hopen,
    h { s with nested := true, depth := s.depth + 1 } init front hcut hparts (.inr rfl)]
  simp [TagState.pending, hdepth]

/-! ### The outermost tag, opened by a token and read up to the next tag -/

section Outermost

variable {token : List Char} {body : List (List Char)} {parts init : List TagPart}
  {front : List Char}

/-- Nothing closes it. -/
theorem texts_unclosed (hnil : P []) (hbody : ∀ token ∈ body, isTagSyntax token = false)
    (hopen : startsLike "<claim" token = true) (hcut : Cut init)
    (hparts : parts = emitText init front) :
    (∀ part ∈ TagState.finish ⟨parts, 1, false, attributesOf token, body.flatten⟩,
      P part.text.toList) ↔
      (∀ part ∈ init, P part.text.toList) ∧
        SectionsHold P front (sections 0 0 (token :: body)) := by
  have hend := sectionsHold_body (P := P) hbody front 1 []
  rw [List.append_nil] at hend
  have hfinish : TagState.finish ⟨parts, 1, false, attributesOf token, body.flatten⟩ =
      emitText init (front ++ body.flatten) := by
    rw [← emitText_emitText, ← hparts]
    rfl
  rw [sections_open (fun _ => factAt_open token hbody) hopen, hfinish, forall_emitText hnil hcut,
    hend]
  simp [sections, SectionsHold]

variable {closer : List Char} {after : List (List Char)}

/-- Another tag opens in it. -/
theorem texts_reopened (h : TextsHold P after)
    (hbody : ∀ token ∈ body, isTagSyntax token = false)
    (hopen : startsLike "<claim" token = true) (hcloser : isTagSyntax closer = true)
    (hnext : startsLike "<claim" closer = true) (hcut : Cut init)
    (hparts : parts = emitText init front) :
    (∀ part ∈ (after.foldl readToken (readToken
      ⟨parts, 1, false, attributesOf token, body.flatten⟩ closer)).finish, P part.text.toList) ↔
      (∀ part ∈ init, P part.text.toList) ∧
        SectionsHold P front (sections 0 0 (token :: (body ++ closer :: after))) := by
  have hfact := factAt_closed token hbody hcloser after
  rw [hnext, Bool.not_true, Bool.and_false, Bool.false_and, if_neg Bool.false_ne_true] at hfact
  rw [readToken_nested Nat.one_ne_zero hnext, sections_open (fun _ => hfact) hopen,
    sectionsHold_body hbody, sections_open (fun h => absurd h (by omega)) hnext]
  exact h ⟨parts, 2, true, attributesOf token, body.flatten⟩ init front hcut hparts (.inr rfl)

/-- It closes without stating a fact, and leaves its text. -/
theorem texts_plain (h : TextsHold P after) (hbody : ∀ token ∈ body, isTagSyntax token = false)
    (hopen : startsLike "<claim" token = true) (hcloser : isTagSyntax closer = true)
    (hnext : startsLike "<claim" closer = false)
    (hstates : factOf (attributesOf token) false body.flatten = none) (hcut : Cut init)
    (hparts : parts = emitText init front) :
    (∀ part ∈ (after.foldl readToken (readToken
      ⟨parts, 1, false, attributesOf token, body.flatten⟩ closer)).finish, P part.text.toList) ↔
      (∀ part ∈ init, P part.text.toList) ∧
        SectionsHold P front (sections 0 0 (token :: (body ++ closer :: after))) := by
  have hclose := startsLike_close hnext hcloser
  have hfact := factAt_closed token hbody hcloser after
  rw [hstates, Option.isSome_none, Bool.and_false, if_neg Bool.false_ne_true] at hfact
  rw [readToken_outermost_closes rfl hnext hclose, closeOutermost_text hstates,
    sections_open (fun _ => hfact) hopen, sectionsHold_body hbody, sections_close hnext hclose]
  have hrest := h ⟨emitText parts body.flatten, 0, false, attributesOf token, body.flatten⟩ init
    (front ++ body.flatten) hcut (by simp only [hparts, emitText_emitText]) (.inl rfl)
  simp only [TagState.pending, if_true, List.append_nil] at hrest
  exact hrest

/-- It states a fact, whose text is a section of its own. -/
theorem texts_fact (hnil : P []) (h : TextsHold P after)
    (hbody : ∀ token ∈ body, isTagSyntax token = false)
    (hopen : startsLike "<claim" token = true) (hcloser : isTagSyntax closer = true)
    (hnext : startsLike "<claim" closer = false) {fact : FactTagPart}
    (hstates : factOf (attributesOf token) false body.flatten = some fact) (hcut : Cut init)
    (hparts : parts = emitText init front) :
    (∀ part ∈ (after.foldl readToken (readToken
      ⟨parts, 1, false, attributesOf token, body.flatten⟩ closer)).finish, P part.text.toList) ↔
      (∀ part ∈ init, P part.text.toList) ∧
        SectionsHold P front (sections 0 0 (token :: (body ++ closer :: after))) := by
  have hclose := startsLike_close hnext hcloser
  have hfact := factAt_closed token hbody hcloser after
  rw [hstates, hopen, hnext, Bool.not_false, Bool.and_true, Option.isSome_some, Bool.and_true,
    if_pos rfl] at hfact
  have hcloses : closeOutermost ⟨parts, 1, false, attributesOf token, body.flatten⟩ =
      ⟨parts ++ [.factTag fact], 0, false, attributesOf token, body.flatten⟩ := by
    unfold closeOutermost
    rw [hstates]
  have hrest := h ⟨parts ++ [.factTag fact], 0, false, attributesOf token, body.flatten⟩
    (parts ++ [.factTag fact]) [] (by simp [Cut]) rfl (.inl rfl)
  have htext : fact.text.toList = body.flatten := factOf_text hstates
  have hown : (∀ part ∈ [TagPart.factTag fact], P part.text.toList) ↔ P body.flatten := by
    rw [List.forall_mem_singleton, ← htext]
    rfl
  rw [readToken_outermost_closes rfl hnext hclose, hcloses, sections_fact hfact, hrest,
    List.forall_mem_append, hown, hparts, forall_emitText hnil hcut, TagState.pending, if_pos rfl,
    List.append_nil, sectionsHold_nil hnil, SectionsHold, List.forall_mem_cons, List.flatten_nil,
    List.append_nil, and_assoc, and_assoc]

end Outermost

/-- The outermost tag opens: its text goes up to the next tag. -/
theorem texts_opened (hnil : P []) {token : List Char} {body tail : List (List Char)}
    (hopen : startsLike "<claim" token = true) (hbody : ∀ token ∈ body, isTagSyntax token = false)
    (htail : ∀ closer after, tail = closer :: after →
      isTagSyntax closer = true ∧ TextsHold P after)
    {s : TagState} {init : List TagPart} {front : List Char} (hcut : Cut init)
    (hparts : s.parts = emitText init front) (hdepth : s.depth = 0) :
    (∀ part ∈ ((body ++ tail).foldl readToken (readToken s token)).finish, P part.text.toList) ↔
      (∀ part ∈ init, P part.text.toList) ∧
        SectionsHold P front (sections 0 0 (token :: (body ++ tail))) := by
  have hopened : body.foldl readToken (readToken s token) =
      ⟨s.parts, 1, false, attributesOf token, body.flatten⟩ := by
    rw [readToken_outermost hdepth hopen, foldl_body hbody _ Nat.one_ne_zero]
    rfl
  rw [List.foldl_append, hopened]
  cases tail with
  | nil =>
    rw [List.append_nil]
    exact texts_unclosed hnil hbody hopen hcut hparts
  | cons closer after =>
    obtain ⟨hcloser, h⟩ := htail closer after rfl
    rw [List.foldl_cons]
    cases hnext : startsLike "<claim" closer with
    | true => exact texts_reopened h hbody hopen hcloser hnext hcut hparts
    | false =>
      cases hstates : factOf (attributesOf token) false body.flatten with
      | none => exact texts_plain h hbody hopen hcloser hnext hstates hcut hparts
      | some fact => exact texts_fact hnil h hbody hopen hcloser hnext hstates hcut hparts

/-- **The texts of a parse are its sections.** -/
theorem texts_of_sections (hnil : P []) (tokens : List (List Char)) : TextsHold P tokens := by
  -- an outermost tag takes its text with it, so the induction is on the number of tokens
  induction hlength : tokens.length using Nat.strong_induction_on generalizing tokens with
  | _ length ih =>
  cases tokens with
  | nil => exact textsHold_nil hnil
  | cons token rest =>
    have hrest : TextsHold P rest :=
      ih rest.length (by rw [← hlength, List.length_cons]; omega) rest rfl
    cases htag : isTagSyntax token with
    | false => exact hrest.keep htag
    | true =>
      cases hopen : startsLike "<claim" token with
      | false => exact hrest.close hopen (startsLike_close hopen htag)
      | true =>
        intro s init front hcut hparts hstate
        rw [List.foldl_cons]
        by_cases hdepth : s.depth = 0
        · have hsplit := takeWhile_append_drop (fun token => !isTagSyntax token) rest
          have hfront : s.pending front = front := by simp [TagState.pending, hdepth]
          rw [← hsplit, hfront, hdepth]
          apply texts_opened hnil hopen _ _ hcut hparts hdepth
          · intro t ht
            simpa using List.mem_takeWhile_imp ht
          · intro closer after htail
            refine ⟨by simpa using not_of_drop_takeWhile htail, ih after.length ?_ after rfl⟩
            have hshort := congrArg List.length hsplit
            rw [htail, List.length_append, List.length_cons] at hshort
            rw [← hlength, List.length_cons]
            omega
        · exact hrest.openInside hopen hcut hparts hdepth

end Texts

/-- What holds of the texts of a parse. -/
theorem forall_parseClaimTags {P : List Char → Prop} (hnil : P []) (text : String) :
    (∀ part ∈ parseClaimTags text, P part.text.toList) ↔
      ∀ joined ∈ sections 0 0 (tokens (repairBrokenOpeners text.toList)), P joined.flatten := by
  have hloop := texts_of_sections hnil (tokens (repairBrokenOpeners text.toList)) {} [] []
    (by simp [Cut]) rfl (.inl rfl)
  show (∀ part ∈ ((tokens (repairBrokenOpeners text.toList)).foldl readToken {}).finish, _) ↔ _
  rw [hloop]
  simp only [TagState.pending, List.not_mem_nil, false_imp_iff, implies_true, true_and]
  exact sectionsHold_nil hnil _

/-! ## The tokens of the sections -/

theorem mem_keep {token t : List Char} {cut : List (List (List Char))} :
    (∃ joined ∈ keep token cut, t ∈ joined) ↔ t = token ∨ ∃ joined ∈ cut, t ∈ joined := by
  cases cut with
  | nil => simp [keep]
  | cons first rest => simp [keep, or_assoc]

/-- **The sections hold the kept tokens**: those the loop takes for no tag. -/
theorem mem_sections {t : List Char} (tokens : List (List Char)) (depth : Nat) :
    (∃ joined ∈ sections 0 depth tokens, t ∈ joined) ↔ t ∈ tokens ∧ isTagSyntax t = false := by
  induction hlength : tokens.length using Nat.strong_induction_on generalizing tokens depth with
  | _ length ih =>
  cases tokens with
  | nil => simp [sections]
  | cons token rest =>
    have hrest : ∀ depth, (∃ joined ∈ sections 0 depth rest, t ∈ joined) ↔
        t ∈ rest ∧ isTagSyntax t = false := by
      intro depth
      exact ih rest.length (by rw [← hlength, List.length_cons]; omega) rest depth rfl
    cases htag : isTagSyntax token with
    | false =>
      rw [sections_keep htag, mem_keep, hrest, List.mem_cons]
      constructor
      · rintro (rfl | ⟨hmem, hkept⟩)
        · exact ⟨.inl rfl, htag⟩
        · exact ⟨.inr hmem, hkept⟩
      · rintro ⟨rfl | hmem, hkept⟩
        · exact .inl rfl
        · exact .inr ⟨hmem, hkept⟩
    | true =>
      -- a tag is in no section
      have hdropped : t ∈ token :: rest ∧ isTagSyntax t = false ↔
          t ∈ rest ∧ isTagSyntax t = false := by
        rw [List.mem_cons]
        constructor
        · rintro ⟨rfl | hmem, hkept⟩
          · rw [htag] at hkept
            cases hkept
          · exact ⟨hmem, hkept⟩
        · exact fun ⟨hmem, hkept⟩ => ⟨.inr hmem, hkept⟩
      rw [hdropped]
      cases hopen : startsLike "<claim" token with
      | false => rw [sections_close hopen (startsLike_close hopen htag), hrest]
      | true =>
        by_cases hfact : depth = 0 ∧ factAt (token :: rest) ≠ none
        · obtain ⟨rfl, hsome⟩ := hfact
          obtain ⟨⟨body, n⟩, hfact⟩ := Option.ne_none_iff_exists'.mp hsome
          obtain ⟨closer, after, fact, rfl, -, hbody, -, -, hcloser, -⟩ := factAt_eq_some hfact
          have hafter := ih after.length (by
            rw [← hlength, List.length_cons, List.length_append, List.length_cons]
            omega) after 0 rfl
          rw [sections_fact hfact]
          simp only [List.mem_cons, exists_eq_or_imp, List.not_mem_nil, false_or, hafter,
            List.mem_append]
          constructor
          · rintro (hmem | ⟨hmem, hkept⟩)
            · exact ⟨.inl hmem, hbody t hmem⟩
            · exact ⟨.inr (.inr hmem), hkept⟩
          · rintro ⟨hmem | rfl | hmem, hkept⟩
            · exact .inl hmem
            · rw [hcloser] at hkept
              cases hkept
            · exact .inr ⟨hmem, hkept⟩
        · rw [sections_open (fun h => by_contra fun hne => hfact ⟨h, hne⟩) hopen, hrest]

/-! ## The law -/

/-- Every tag of the text is one to the loop as well. The loop compares the lower-case letters of a
token; the pattern also takes the Turkish letters for an `i`. -/
def TagsRecognised (text : String) : Prop :=
  ∀ tag, .inr tag ∈ pieces tagAt (repairBrokenOpeners text.toList) → isTagSyntax tag = true

/-- No tag begins in one of the tokens that are joined and ends in a later one. -/
def JointsPlain (text : String) : Prop :=
  ∀ joined ∈ sections 0 0 (tokens (repairBrokenOpeners text.toList)), Unbroken tagAt joined

/-- The kept tokens are free of tags exactly when no tag is kept: a run between two tags contains
none. -/
theorem kept_tokens_plain_iff (text : String) :
    (∀ token ∈ tokens (repairBrokenOpeners text.toList), isTagSyntax token = false →
      tagsIn token = []) ↔ TagsRecognised text := by
  constructor
  · intro h tag hpiece
    by_contra hkept
    have hmem : tag ∈ tokens (repairBrokenOpeners text.toList) :=
      List.mem_map.mpr ⟨.inr tag, hpiece, rfl⟩
    exact (isTag_of_piece hpiece).tagsIn_ne_nil (h tag hmem (Bool.eq_false_iff.mpr hkept))
  · intro h token hmem hkept
    obtain ⟨piece, hpiece, rfl⟩ := List.mem_map.mp hmem
    cases piece with
    | inl run => exact matchesIn_run tagAt_local hpiece
    | inr tag =>
      have htag : isTagSyntax tag = true := h tag hpiece
      have hkept' : isTagSyntax tag = false := hkept
      rw [htag] at hkept'
      cases hkept'

/-- **Where the parser shows no tag.** No text of a parse, plain or a fact's, contains a tag of the
parser's own grammar, exactly when each tag is one to the loop as well and no tag comes to stand
across the joints of what it keeps. -/
theorem no_tag_shown_iff (text : String) :
    (∀ part ∈ parseClaimTags text, tagsIn part.text.toList = []) ↔
      TagsRecognised text ∧ JointsPlain text := by
  rw [forall_parseClaimTags (P := fun text => tagsIn text = []) rfl, ← kept_tokens_plain_iff]
  have hjoined : ∀ joined, tagsIn (List.flatten joined) = [] ↔
      (∀ token ∈ joined, tagsIn token = []) ∧ Unbroken tagAt joined :=
    fun joined => matchesIn_flatten_iff tagAt_local joined
  have hmem := fun t => mem_sections (t := t) (tokens (repairBrokenOpeners text.toList)) 0
  constructor
  · intro h
    refine ⟨fun token htoken hkept => ?_, fun joined hin => ((hjoined joined).mp (h joined hin)).2⟩
    obtain ⟨joined, hin, htoken'⟩ := (hmem token).mpr ⟨htoken, hkept⟩
    exact ((hjoined joined).mp (h joined hin)).1 token htoken'
  · intro ⟨hplain, hunbroken⟩ joined hin
    refine (hjoined joined).mpr ⟨fun token htoken => ?_, hunbroken joined hin⟩
    obtain ⟨hlisted, hkept⟩ := (hmem token).mp ⟨joined, hin, htoken⟩
    exact hplain token hlisted hkept

/-- **A dropped tag makes a new one**: behind an orphan closing tag the halves of an opening tag
join. -/
theorem orphan_joins_opener : parseClaimTags "<cla</claim>im x>" = [.plainText "<claim x>"] ∧
    tagsIn "<claim x>".toList = ["<claim x>".toList] := by
  decide +kernel

end ShiftMind.Grounding
