import ShiftMind.Grounding.TagLeaks
import ShiftMind.Grounding.TagMarkup

/-!
# ShiftMind — parsing rendered facts

Facts and plain texts rendered to markup and parsed again. Before the tokeniser runs, the repair
takes an opening tag that runs over more than one line for a broken one, and destroys it.

* **`tokens_render`** — the tokens of a rendered list: those of the plain texts, and of each fact
  its opening tag, its text and its closing tag.
* **`claim_tags_survive_iff`** — the parse is the list of parts again exactly when no opening tag
  contains a newline, and no text between the facts contains tag syntax.

One direction counts the `<` of the markup: each fact of the parse takes two of them, each broken
opener loses one, and the plain texts need the rest.
-/

namespace ShiftMind.Grounding

open Scanner Binary64

/-! ## The parts a parse should return -/

/-- A plain text that is not empty is one part. -/
def plainPart (text : List Char) : List TagPart :=
  if text = [] then [] else [.plainText (String.ofList text)]

/-- The parts, with adjacent plain texts merged and empty ones dropped; `front` is the plain text
before them. -/
def mergedParts (front : List Char) : List MarkupPart → List TagPart
  | [] => plainPart front
  | .plainText text :: rest => mergedParts (front ++ text.toList) rest
  | .factTag markup :: rest => plainPart front ++ .factTag markup.fact :: mergedParts [] rest

/-- The texts between the facts. -/
def plainTexts (front : List Char) : List MarkupPart → List (List Char)
  | [] => [front]
  | .plainText text :: rest => plainTexts (front ++ text.toList) rest
  | .factTag _ :: rest => front :: plainTexts [] rest

/-- A text without tag syntax: no opener is malformed, and the loop keeps every token. -/
structure PlainSpan (text : List Char) : Prop where
  whole : malformedClaimTags text = []
  kept : ∀ token ∈ tokens text, isTagSyntax token = false

/-! ## Tokens -/

/-- The tokens around a tag. -/
theorem tokens_tag {tag : List Char} (htag : IsTag tag) (front rest : List Char) :
    tokens (front ++ (tag ++ rest)) = tokens front ++ tag :: tokens rest := by
  have hmatch : tagAt (tag ++ rest) = some (tag, tag.length) :=
    tagAt_eq_some.mpr ⟨rest, rfl, htag, rfl⟩
  have hcontained : Contained tagAt front (tag ++ rest) := by
    obtain ⟨behind, hcons⟩ := htag.cons
    rw [hcons]
    exact tagAt_contained front _
  unfold tokens pieces
  rw [scan_append (same_of_contained tagAt_local hcontained) hcontained,
    scan_match (List.ne_nil_of_length_pos htag.length_pos) hmatch, joinRuns_append,
    List.map_append]
  rfl

theorem flatten_tokens (text : List Char) : (tokens text).flatten = text := by
  apply flatten_pieces
  intro text tag n h
  obtain ⟨rest, rfl, htag, rfl⟩ := tagAt_eq_some.mp h
  refine ⟨htag.length_pos, ?_⟩
  rw [List.take_left]
  rfl

/-- A text without `<` has no tag syntax. -/
theorem kept_of_plain {text : List Char} (h : '<' ∉ text) :
    ∀ token ∈ tokens text, isTagSyntax token = false := by
  intro token hmem
  rw [Bool.eq_false_iff]
  intro htag
  apply h
  rw [← flatten_tokens text]
  exact List.mem_flatten.mpr ⟨token, hmem, mem_of_isTagSyntax htag⟩

/-- The tokens of rendered parts, `front` before them. -/
def partTokens (front : List Char) : List MarkupPart → List (List Char)
  | [] => tokens front
  | .plainText text :: rest => partTokens (front ++ text.toList) rest
  | .factTag m :: rest =>
    tokens front ++ m.openTag :: (tokens m.fact.text.toList ++ m.closeTag :: partTokens [] rest)

theorem tokens_render (front : List Char) (parts : List MarkupPart) :
    tokens (front ++ parts.flatMap MarkupPart.render) = partTokens front parts := by
  induction parts generalizing front with
  | nil => rw [List.flatMap_nil, List.append_nil, partTokens]
  | cons part parts ih =>
    cases part with
    | plainText text =>
      rw [List.flatMap_cons, ← List.append_assoc]
      exact ih (front ++ text.toList)
    | factTag m =>
      have hsplit : front ++ (MarkupPart.factTag m :: parts).flatMap MarkupPart.render =
          front ++ (m.openTag ++ (m.fact.text.toList ++ (m.closeTag ++
            ([] ++ parts.flatMap MarkupPart.render)))) := by
        simp [MarkupPart.render, FactMarkup.render]
      rw [hsplit, tokens_tag m.isTag_openTag, tokens_tag m.isTag_closeTag, ih, partTokens]

/-! ## Parts that survive -/

/-- Outside every tag, tokens that are no tags are emitted. -/
theorem foldl_kept {kept : List (List Char)} (hkept : ∀ token ∈ kept, isTagSyntax token = false)
    (s : TagState) (hdepth : s.depth = 0) :
    kept.foldl readToken s = { s with parts := emitText s.parts kept.flatten } := by
  induction kept generalizing s with
  | nil => rfl
  | cons token kept ih =>
    obtain ⟨hopen, hclose⟩ := Bool.or_eq_false_iff.mp (hkept token List.mem_cons_self)
    have hstep : readToken s token = { s with parts := emitText s.parts token } := by
      unfold readToken
      simp only [hopen, hclose, Bool.false_eq_true, if_false, hdepth, ne_eq, not_true_eq_false]
    have hrest := ih (fun t ht => hkept t (List.mem_cons_of_mem _ ht))
      { s with parts := emitText s.parts token } hdepth
    rw [List.foldl_cons, hstep, hrest, emitText_emitText, List.flatten_cons]

/-- The loop reads the markup of a fact as the fact. -/
theorem foldl_fact (m : FactMarkup) (s : TagState) (hdepth : s.depth = 0) :
    (m.openTag :: (tokens m.fact.text.toList ++ [m.closeTag])).foldl readToken s =
      ⟨s.parts ++ [.factTag m.fact], 0, false, attributesOf m.openTag, m.fact.text.toList⟩ := by
  have hbody := foldl_body (kept_of_plain m.text_plain)
    { s with attributes := attributesOf m.openTag, inner := [], nested := false, depth := 1 }
    Nat.one_ne_zero
  obtain ⟨hopen, hclose⟩ := m.startsLike_closeTag
  rw [List.foldl_cons, readToken_outermost hdepth m.startsLike_openTag, List.foldl_append, hbody,
    List.foldl_cons, List.foldl_nil, readToken_outermost_closes rfl hopen hclose]
  unfold closeOutermost
  simp only [List.nil_append, flatten_tokens, m.factOf_openTag]

theorem emitText_plainPart {parts : List TagPart} (hcut : Cut parts) (text : List Char) :
    emitText parts text = parts ++ plainPart text := by
  unfold plainPart
  by_cases htext : text = []
  · rw [if_pos htext, htext, List.append_nil]
    rfl
  · rw [if_neg htext, emitText_cut hcut htext]

/-- **The loop reads rendered parts as the parts**, where it keeps the texts between the facts. -/
theorem finish_partTokens (parts : List MarkupPart) :
    ∀ (front : List Char) (s : TagState), s.depth = 0 → Cut s.parts →
      (∀ text ∈ plainTexts front parts, ∀ token ∈ tokens text, isTagSyntax token = false) →
      ((partTokens front parts).foldl readToken s).finish = s.parts ++ mergedParts front parts := by
  induction parts with
  | nil =>
    intro front s hdepth hcut hkept
    rw [partTokens, foldl_kept (hkept front List.mem_cons_self) s hdepth, flatten_tokens]
    unfold TagState.finish
    rw [if_neg (not_not.mpr hdepth)]
    exact emitText_plainPart hcut front
  | cons part parts ih =>
    intro front s hdepth hcut hkept
    cases part with
    | plainText text => exact ih _ s hdepth hcut hkept
    | factTag m =>
      -- the text before a fact is kept whole
      have hfront := foldl_kept (hkept front List.mem_cons_self) s hdepth
      have hsplit : partTokens front (.factTag m :: parts) = tokens front ++
          ((m.openTag :: (tokens m.fact.text.toList ++ [m.closeTag])) ++ partTokens [] parts) := by
        simp [partTokens]
      have hrest := ih [] ⟨(s.parts ++ plainPart front) ++ [.factTag m.fact], 0,
        false, attributesOf m.openTag, m.fact.text.toList⟩ rfl (by simp [Cut])
        fun text htext => hkept text (List.mem_cons_of_mem _ htext)
      rw [flatten_tokens, emitText_plainPart hcut] at hfront
      -- the fact is read as itself, and the loop goes on behind it
      have hfact := foldl_fact m { s with parts := s.parts ++ plainPart front } hdepth
      rw [hsplit, List.foldl_append, List.foldl_append, hfront, hfact, hrest, mergedParts]
      simp

/-! ## Parts the repair leaves alone -/

theorem malformed_eq_nil {text : List Char} :
    malformedClaimTags text = [] ↔ matchesIn brokenOpenAt text [] = [] := by
  rw [← scan_free_iff]
  unfold malformedClaimTags findAll
  rw [List.filterMap_eq_nil_iff]
  constructor
  · intro h opener hmem
    cases h _ hmem
  · intro h item hmem
    cases item with
    | inl c => rfl
    | inr opener => exact absurd hmem (h opener)

/-- A text without broken openers is not repaired. -/
theorem repair_of_whole {text : List Char} (h : malformedClaimTags text = []) :
    repairBrokenOpeners text = text := by
  unfold repairBrokenOpeners
  rw [scan_of_free (malformed_eq_nil.mp h), List.flatMap_map]
  simp

/-- The broken openers of a text do not depend on the tag behind it. -/
theorem broken_front (front rest : List Char) :
    matchesIn brokenOpenAt front ('<' :: rest) = [] ↔ matchesIn brokenOpenAt front [] = [] := by
  induction front with
  | nil => exact Iff.rfl
  | cons c front ih =>
    have hhead := brokenOpenAt_append (List.cons_ne_nil c front) rest
    simp only [matchesIn, List.append_nil, List.append_eq_nil_iff, ih, Option.toList_eq_nil_iff,
      Option.map_eq_none_iff, hhead]

/-- **What the repair leaves alone**: rendered parts have no broken opener exactly when each opening
tag is on one line, and no text between the facts has one. -/
theorem malformed_render (front : List Char) (parts : List MarkupPart) :
    malformedClaimTags (front ++ parts.flatMap MarkupPart.render) = [] ↔
      (∀ m, .factTag m ∈ parts → '\n' ∉ m.openTag) ∧
        ∀ text ∈ plainTexts front parts, malformedClaimTags text = [] := by
  simp only [malformed_eq_nil]
  induction parts generalizing front with
  | nil => simp [plainTexts]
  | cons part parts ih =>
    cases part with
    | plainText text =>
      -- a text joins the front
      rw [List.flatMap_cons, MarkupPart.render, ← List.append_assoc, ih (front ++ text.toList)]
      simp [plainTexts]
    | factTag m =>
      obtain ⟨behind, hcons, -⟩ := m.openTag_cons
      have hrest := ih []
      rw [List.nil_append] at hrest
      -- a fact starts with `<`, so what stands before it is read alone
      have hfront : matchesIn brokenOpenAt front
          (m.render ++ (parts.flatMap MarkupPart.render ++ [])) = [] ↔
          matchesIn brokenOpenAt front [] = [] := by
        rw [FactMarkup.render, hcons]
        exact broken_front front _
      rw [List.flatMap_cons, matchesIn_append, MarkupPart.render, matchesIn_append,
        List.append_eq_nil_iff, List.append_eq_nil_iff, m.broken_render, hrest, plainTexts,
        List.append_assoc, hfront]
      simp only [List.mem_cons, MarkupPart.factTag.injEq, forall_eq_or_imp]
      constructor
      · rintro ⟨hbefore, hline, hlines, htexts⟩
        exact ⟨⟨hline, hlines⟩, hbefore, htexts⟩
      · rintro ⟨⟨hline, hlines⟩, hbefore, htexts⟩
        exact ⟨hbefore, hline, hlines, htexts⟩

/-! ## Counting

A lost `<` is counted: every step of the parser keeps the number or loses it for good. -/

/-- The number of facts among the parts. -/
def factCount (parts : List TagPart) : Nat :=
  parts.countP fun
    | .plainText _ => false
    | .factTag _ => true

theorem factCount_emitText (parts : List TagPart) (text : List Char) :
    factCount (emitText parts text) = factCount parts := by
  unfold emitText
  split
  · rfl
  split
  · rename_i last hlast
    obtain ⟨init, rfl⟩ := List.getLast?_eq_some_iff.mp hlast
    rw [List.dropLast_concat]
    simp [factCount]
  · simp [factCount]

/-- The tags the state has used for the facts: two for each, one for the open tag. -/
def TagState.used (s : TagState) : Nat :=
  2 * factCount s.parts + if s.depth = 0 then 0 else 1

theorem used_readToken (s : TagState) (token : List Char) :
    (readToken s token).used ≤ s.used + if isTagSyntax token then 1 else 0 := by
  cases htag : isTagSyntax token with
  | false =>
    obtain ⟨hopen, hclose⟩ := Bool.or_eq_false_iff.mp htag
    unfold readToken
    simp only [hopen, hclose, Bool.false_eq_true, if_false]
    split
    · exact le_refl _
    · simp [TagState.used, factCount_emitText]
  | true =>
    rw [if_pos rfl]
    cases hopen : startsLike "<claim" token with
    | true =>
      by_cases hdepth : s.depth = 0
      · rw [readToken_outermost hdepth hopen]
        simp [TagState.used, hdepth]
      · rw [readToken_nested hdepth hopen]
        simp [TagState.used, hdepth]
    | false =>
      have hclose := startsLike_close hopen htag
      match hdepth : s.depth with
      | 0 =>
        unfold readToken
        rw [hopen, if_neg Bool.false_ne_true, if_pos hclose, hdepth]
        exact Nat.le_succ _
      | 1 =>
        -- the second tag of a fact
        have hcloses : factCount (closeOutermost s).parts ≤ factCount s.parts + 1 ∧
            (closeOutermost s).depth = 0 := by
          unfold closeOutermost
          split
          · simp [factCount]
          · simp [factCount_emitText]
        rw [readToken_outermost_closes hdepth hopen hclose]
        unfold TagState.used
        rw [hcloses.2, hdepth]
        simp only [if_true, Nat.one_ne_zero, if_false]
        omega
      | depth + 2 =>
        unfold readToken
        rw [hopen, if_neg Bool.false_ne_true, if_pos hclose, hdepth]
        simp [TagState.used, hdepth]

/-- **Each fact takes two tags.** -/
theorem factCount_le (tokens : List (List Char)) (s : TagState) :
    2 * factCount (tokens.foldl readToken s).finish ≤ s.used + tokens.countP isTagSyntax := by
  induction tokens generalizing s with
  | nil =>
    have hfinish : factCount s.finish = factCount s.parts := by
      unfold TagState.finish
      split
      · exact factCount_emitText _ _
      · rfl
    rw [List.foldl_nil, hfinish, List.countP_nil]
    unfold TagState.used
    omega
  | cons token tokens ih =>
    have hstep := used_readToken s token
    have hrest := ih (readToken s token)
    rw [List.foldl_cons, List.countP_cons]
    omega

/-! ### The `<` of a text -/

/-- The number of `<`. -/
def angles (text : List Char) : Nat := text.count '<'

theorem angles_append (text more : List Char) : angles (text ++ more) = angles text + angles more :=
  List.count_append

theorem angles_of_plain {text : List Char} (h : '<' ∉ text) : angles text = 0 :=
  List.count_eq_zero.mpr h

theorem FactMarkup.angles_render (m : FactMarkup) : angles m.render = 2 := by
  obtain ⟨rest, hopen, hrest⟩ := m.openTag_cons
  obtain ⟨more, hclose, hmore⟩ := m.closeTag_cons
  rw [FactMarkup.render, angles_append, angles_append, angles_of_plain m.text_plain, hopen, hclose]
  simp only [angles, List.count_cons_self, List.count_cons_of_ne (show '/' ≠ '<' by decide)]
  rw [List.count_eq_zero.mpr hrest, List.count_eq_zero.mpr hmore]

theorem partsText_plainPart (text : List Char) : partsText (plainPart text) = text := by
  unfold plainPart
  split
  · rename_i h
    rw [h]
    rfl
  · simp [partsText, TagPart.text]

theorem factCount_plainPart (text : List Char) : factCount (plainPart text) = 0 := by
  unfold plainPart
  split
  · rfl
  · rfl

theorem factCount_cut (front : List Char) (fact : FactTagPart) (parts : List TagPart) :
    factCount (plainPart front ++ .factTag fact :: parts) = factCount parts + 1 := by
  have hplain := factCount_plainPart front
  unfold factCount at hplain ⊢
  rw [List.countP_append, hplain, List.countP_cons]
  simp

/-- The markup has the `<` of its texts, and two for each fact. -/
theorem angles_render (front : List Char) (parts : List MarkupPart) :
    angles (front ++ parts.flatMap MarkupPart.render) =
      angles (partsText (mergedParts front parts)) + 2 * factCount (mergedParts front parts) := by
  induction parts generalizing front with
  | nil =>
    rw [List.flatMap_nil, List.append_nil, mergedParts, partsText_plainPart, factCount_plainPart]
    omega
  | cons part parts ih =>
    cases part with
    | plainText text =>
      rw [List.flatMap_cons, MarkupPart.render, ← List.append_assoc]
      exact ih (front ++ text.toList)
    | factTag m =>
      have hrest := ih []
      have hfact : factCount (plainPart front ++ .factTag m.fact :: mergedParts [] parts) =
          factCount (mergedParts [] parts) + 1 := factCount_cut front m.fact _
      have htext : partsText (plainPart front ++ .factTag m.fact :: mergedParts [] parts) =
          front ++ (m.fact.text.toList ++ partsText (mergedParts [] parts)) := by
        rw [partsText_append, partsText_plainPart]
        rfl
      rw [List.nil_append] at hrest
      rw [List.flatMap_cons, MarkupPart.render, mergedParts, hfact, htext, angles_append,
        angles_append, angles_append, angles_append, m.angles_render, hrest,
        angles_of_plain m.text_plain]
      omega

/-! ### What the repair loses -/

/-- A broken opener begins with its only `<`. -/
theorem brokenOpenAt_eq_some {text opener : List Char} {n : Nat}
    (h : brokenOpenAt text = some (opener, n)) :
    ∃ tail rest, text = '<' :: (tail ++ rest) ∧ opener = '<' :: tail ∧ '<' ∉ tail ∧
      n = tail.length + 1 := by
  unfold brokenOpenAt at h
  split at h
  case h_2 => cases h
  rename_i c rest hword
  split at h
  case isFalse => cases h
  simp only at h
  obtain ⟨spelt, rfl, hspelt⟩ := stripWord_eq_some.mp hword
  generalize hbody : (c :: rest).takeWhile (fun c => c ≠ '<' && c ≠ '>' && c ≠ '\n') = body at h
  have hfound : some ((spelt ++ c :: rest).take (body.length + 6), body.length + 6) =
      some (opener, n) := by
    split at h
    · cases h
    · exact h
  -- the body stops before the next bracket, and the word has only its first
  have hplain : '<' ∉ body := by
    intro hmem
    rw [← hbody] at hmem
    exact absurd (List.mem_takeWhile_imp hmem) (by decide)
  have hclaim : "<claim".toList = '<' :: "claim".toList := by decide
  have hlength : spelt.length = 6 := hspelt.length
  have hsplit : c :: rest = body ++ (c :: rest).drop body.length := by
    rw [← hbody, takeWhile_append_drop]
  rw [hclaim] at hspelt
  cases hspelt with
  | @cons _ d _ letters hd hletters =>
    have hletters' : '<' ∉ letters := Spells.not_mem hletters (noBracket_of_all (by decide))
    rw [List.length_cons] at hlength
    have hn : letters.length = 5 := by omega
    have htake : (d :: letters ++ c :: rest).take (body.length + 6) = d :: letters ++ body := by
      rw [hsplit, ← List.append_assoc]
      refine List.take_left' ?_
      rw [List.length_append, List.length_cons]
      omega
    rw [htake] at hfound
    cases hfound
    refine ⟨letters ++ body, (c :: rest).drop body.length, ?_, ?_, ?_, ?_⟩
    · rw [sameLetter_eq hd (by decide), List.cons_append, List.append_assoc, ← hsplit]
    · rw [sameLetter_eq hd (by decide), List.cons_append]
    · simp [hletters', hplain]
    · rw [List.length_append, hn]
      omega

theorem assignAt_suffix {text rest : List Char} {quote : Char} {n : Nat}
    (h : assignAt text = some (quote, rest, n)) : rest <:+ text := by
  unfold assignAt at h
  simp only at h
  split at h
  case h_2 => cases h
  rename_i behind hdrop
  obtain ⟨⟨mark, after⟩, hquote, heq⟩ := Option.map_eq_some_iff.mp h
  cases heq
  have hbehind : behind <:+ text := by
    refine (List.suffix_cons '=' behind).trans ?_
    rw [← hdrop]
    exact List.drop_suffix _ _
  unfold quoteAt at hquote
  split at hquote
  case h_2 => cases hquote
  rename_i c more hmore
  split at hquote
  case isFalse => cases hquote
  cases hquote
  refine (List.suffix_cons mark after).trans ?_
  rw [← hmore]
  exact (List.drop_suffix _ _).trans hbehind

/-- A value stands in the text it is found in, behind other characters. -/
theorem partialValueAt_sub {text value : List Char} {n : Nat}
    (h : partialValueAt text = some (value, n)) : value ⊆ text ∧ text.head? ≠ some '<' := by
  unfold partialValueAt at h
  split at h
  case h_2 => cases h
  rename_i rest hword
  obtain ⟨⟨quote, behind, length⟩, hassign, heq⟩ := Option.map_eq_some_iff.mp h
  cases heq
  obtain ⟨spelt, rfl, hspelt⟩ := stripWord_eq_some.mp hword
  constructor
  · intro c hc
    exact List.mem_append_right _
      ((assignAt_suffix hassign).subset ((List.takeWhile_prefix _).subset hc))
  · intro hhead
    have hvalue : "value".toList = 'v' :: "alue".toList := by decide
    rw [hvalue] at hspelt
    cases hspelt with
    | cons hletter _ =>
      cases hhead
      revert hletter
      decide

/-- What is kept of a broken opener stands behind its `<`. -/
theorem visibleOpener_plain {tail : List Char} (h : '<' ∉ tail) :
    '<' ∉ visibleOpener ('<' :: tail) := by
  unfold visibleOpener
  split
  case h_2 => exact List.not_mem_nil
  rename_i before value after hfound
  obtain ⟨rest, n, htext, hmatch, rfl⟩ := findFirst_eq_some hfound
  obtain ⟨hsub, hhead⟩ := partialValueAt_sub hmatch
  have hrest : '<' ∉ rest := by
    cases before with
    | nil =>
      rw [List.nil_append] at htext
      rw [← htext] at hhead
      exact absurd rfl hhead
    | cons c before =>
      cases htext
      exact fun hmem => h (List.mem_append_right _ hmem)
  rw [List.mem_append, not_or]
  exact ⟨fun hmem => hrest (hsub hmem), fun hmem => hrest (List.mem_of_mem_drop hmem)⟩

/-- **Each broken opener loses its `<`.** -/
theorem angles_repair (text : List Char) :
    angles (repairBrokenOpeners text) + (malformedClaimTags text).length = angles text := by
  have hscan : ∀ skip (text : List Char),
      angles ((scan brokenOpenAt skip text).flatMap (Sum.elim (fun c => [c]) visibleOpener)) +
        ((scan brokenOpenAt skip text).filterMap Sum.getRight?).length =
          angles (text.drop skip) := by
    intro skip text
    induction text generalizing skip with
    | nil => cases skip <;> rfl
    | cons c text ih =>
      cases skip with
      | succ skip => exact ih skip
      | zero =>
        rw [scan]
        cases hfound : brokenOpenAt (c :: text) with
        | none =>
          have hrest := ih 0
          simp only [List.flatMap_cons, Sum.elim_inl, List.filterMap_cons, Sum.getRight?_inl,
            List.drop_zero] at hrest ⊢
          rw [show c :: text = [c] ++ text from rfl, angles_append, angles_append]
          omega
        | some found =>
          obtain ⟨opener, n⟩ := found
          obtain ⟨tail, rest, htext, rfl, hplain, rfl⟩ := brokenOpenAt_eq_some hfound
          cases htext
          have hrest := ih tail.length
          -- the repair leaves no bracket of the opener
          have hlost : angles (visibleOpener ('<' :: tail)) = 0 :=
            angles_of_plain (visibleOpener_plain hplain)
          rw [List.drop_left] at hrest
          simp only [List.flatMap_cons, Sum.elim_inr, List.filterMap_cons, Sum.getRight?_inr,
            List.drop_zero, Nat.add_sub_cancel, List.length_cons]
          rw [angles_append, hlost, show '<' :: (tail ++ rest) = ['<'] ++ (tail ++ rest) from rfl,
            angles_append, angles_append, angles_of_plain hplain]
          simp only [angles, List.count_singleton_self] at hrest ⊢
          omega
  exact hscan 0 text

/-! ### Tags among the tokens -/

/-- Each tag token has a `<`. -/
theorem angles_tokens (tokens : List (List Char)) :
    angles (tokens.filter fun token => !isTagSyntax token).flatten + tokens.countP isTagSyntax ≤
      angles tokens.flatten := by
  induction tokens with
  | nil => exact le_refl _
  | cons token tokens ih =>
    rw [List.flatten_cons, angles_append]
    cases htag : isTagSyntax token with
    | false =>
      rw [List.filter_cons_of_pos (by rw [htag]; rfl),
        List.countP_cons_of_neg (by rw [htag]; decide),
        List.flatten_cons, angles_append]
      omega
    | true =>
      have hpos : 0 < angles token := List.count_pos_iff.mpr (mem_of_isTagSyntax htag)
      rw [List.filter_cons_of_neg (by rw [htag]; decide), List.countP_cons_of_pos htag]
      omega

/-- The tags among the tokens of rendered parts: two for each fact, and those in the texts between
them. -/
theorem countP_partTokens (front : List Char) (parts : List MarkupPart) :
    (partTokens front parts).countP isTagSyntax =
      ((plainTexts front parts).map fun text => (tokens text).countP isTagSyntax).sum +
        2 * factCount (mergedParts front parts) := by
  induction parts generalizing front with
  | nil => simp [partTokens, plainTexts, mergedParts, factCount_plainPart]
  | cons part parts ih =>
    cases part with
    | plainText text => exact ih (front ++ text.toList)
    | factTag m =>
      -- the text inside a fact has no tags; its two tags are the fact's own
      have htext : (tokens m.fact.text.toList).countP isTagSyntax = 0 := by
        rw [List.countP_eq_zero]
        intro token htoken
        rw [kept_of_plain m.text_plain token htoken]
        decide
      have hopen : isTagSyntax m.openTag = true := by
        unfold isTagSyntax
        rw [m.startsLike_openTag, Bool.true_or]
      have hclose : isTagSyntax m.closeTag = true := by
        unfold isTagSyntax
        rw [m.startsLike_closeTag.2, Bool.or_true]
      have hfact : factCount (plainPart front ++ .factTag m.fact :: mergedParts [] parts) =
          factCount (mergedParts [] parts) + 1 := factCount_cut front m.fact _
      rw [partTokens, plainTexts, mergedParts, hfact, List.map_cons, List.sum_cons,
        List.countP_append, List.countP_cons_of_pos hopen, List.countP_append,
        List.countP_cons_of_pos hclose, htext, ih []]
      omega

/-! ## The law -/

/-- **Which claim tags survive parsing.** Parsing rendered parts returns the parts, with adjacent
plain texts merged and empty ones dropped, exactly when each opening tag is on one line and the
texts between the facts are without tag syntax. -/
theorem claim_tags_survive_iff (parts : List MarkupPart) :
    parseClaimTags (renderParts parts) = mergedParts [] parts ↔
      (∀ m, .factTag m ∈ parts → '\n' ∉ m.openTag) ∧
        ∀ text ∈ plainTexts [] parts, PlainSpan text := by
  have htext : (renderParts parts).toList = [] ++ parts.flatMap MarkupPart.render := by
    unfold renderParts
    rw [String.toList_ofList, List.nil_append]
  have hwhole := malformed_render [] parts
  rw [← htext] at hwhole
  constructor
  · intro hparse
    -- the texts of the parse and its facts use up every `<` of the markup
    have hvisible : keptText (renderParts parts) = partsText (mergedParts [] parts) := by
      rw [← parts_keptText, hparse]
    have hfacts := factCount_le (tokens (repairBrokenOpeners (renderParts parts).toList)) {}
    have hparse' : ((tokens (repairBrokenOpeners (renderParts parts).toList)).foldl readToken
        {}).finish = mergedParts [] parts := hparse
    rw [hparse'] at hfacts
    have htokens := angles_tokens (tokens (repairBrokenOpeners (renderParts parts).toList))
    rw [flatten_tokens] at htokens
    unfold keptText at hvisible
    rw [hvisible] at htokens
    have hrepair := angles_repair (renderParts parts).toList
    have hrender := angles_render [] parts
    rw [← htext] at hrender
    have hused : TagState.used {} = 0 := rfl
    -- so no opener is broken
    have hmalformed : malformedClaimTags (renderParts parts).toList = [] :=
      List.eq_nil_of_length_eq_zero (by omega)
    obtain ⟨hlines, hwholes⟩ := hwhole.mp hmalformed
    refine ⟨hlines, fun text hmem => ⟨hwholes text hmem, ?_⟩⟩
    -- and no tag is left for the texts between the facts
    rw [repair_of_whole hmalformed] at htokens
    have hcount := countP_partTokens [] parts
    rw [← tokens_render, ← htext] at hcount
    have hnone :
        ((plainTexts [] parts).map fun text => (tokens text).countP isTagSyntax).sum = 0 := by
      omega
    have hzero := List.sum_eq_zero_iff_forall_eq_nat.mp hnone _ (List.mem_map.mpr ⟨text, hmem, rfl⟩)
    intro token htoken
    exact Bool.eq_false_iff.mpr (List.countP_eq_zero.mp hzero token htoken)
  · intro ⟨hlines, hplain⟩
    have hrepair : repairBrokenOpeners (renderParts parts).toList = (renderParts parts).toList :=
      repair_of_whole (hwhole.mpr ⟨hlines, fun text hmem => (hplain text hmem).whole⟩)
    have hloop := finish_partTokens parts [] {} rfl (by simp [Cut])
      fun text hmem => (hplain text hmem).kept
    show ((tokens (repairBrokenOpeners (renderParts parts).toList)).foldl readToken {}).finish = _
    rw [hrepair, htext, tokens_render, hloop]
    rfl

namespace Multiline

/-- An attribute behind one character of white space. -/
def quoted (gap : Char) (name value : String) (hgap : isSpace gap = true)
    (hquote : '\'' ∉ value.toList) (hplain : ∀ c ∈ value.toList, isTagChar c = true) :
    AttributeMarkup where
  gap := [gap]
  name := name
  value := value
  quote := '\''
  blank c hc := by rw [List.mem_singleton.mp hc]; exact hgap
  quotes := .inl rfl
  unquoted := hquote
  plain := hplain

/-- A fact whose first attribute stands on a line of its own. -/
def markup : FactMarkup where
  fact := ⟨"Ana", "w1", "name", "Ana"⟩
  opener := "<claim".toList
  attributes :=
    [quoted '\n' "ev" "w1" (by decide) (by decide) (List.all_eq_true.mp (by decide)),
      quoted ' ' "field" "name" (by decide) (by decide) (List.all_eq_true.mp (by decide)),
      quoted ' ' "value" "Ana" (by decide) (by decide) (List.all_eq_true.mp (by decide))]
  trailing := []
  closer := "</claim".toList
  spaces := []
  opens := by decide
  closes := by decide
  named := .refl _
  first a ha := by cases ha; simp [quoted]
  blank := List.all_eq_true.mp (by decide)
  blank_close := List.all_eq_true.mp (by decide)
  cites := by decide
  plain := List.all_eq_true.mp (by decide)

end Multiline

/-- **A tag over two lines is destroyed**: the repair drops `<claim` at the end of the line, and the
rest of the markup is shown as prose. -/
theorem multiline_tag_destroyed :
    parseClaimTags (renderParts [.factTag Multiline.markup]) =
        [.plainText "\nev='w1' field='name' value='Ana'>Ana"] ∧
      mergedParts [] [.factTag Multiline.markup] = [.factTag ⟨"Ana", "w1", "name", "Ana"⟩] := by
  decide +kernel

end ShiftMind.Grounding
