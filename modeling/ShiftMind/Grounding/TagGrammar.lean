import Mathlib.Data.List.TakeWhile
import ShiftMind.Grounding.ClaimTags

/-!
# ShiftMind — the grammar of claim tags

What the patterns of `application/grounding/claim_tags.py` recognise, as shapes: an opening tag is
`<claim`, spelt in letters of either case, a body without angle brackets that is empty or begins
with white space, and `>`; a closing tag is `</claim`, white space and `>`.

* **`tagAt_eq_some`** — the tag pattern recognises these shapes and nothing else.
* **`tagAt_local`** — a tag is recognised by its own characters, so a substring that is a tag is a
  match wherever it stands.
-/

namespace ShiftMind.Grounding

open Scanner Binary64

/-! ## Words -/

/-- The text spells the word, as the patterns compare letters. -/
def Spells (word text : List Char) : Prop :=
  List.Forall₂ (fun letter c => sameLetter letter c = true) word text

theorem stripWord_eq_some {word text rest : List Char} :
    stripWord word text = some rest ↔ ∃ spelt, text = spelt ++ rest ∧ Spells word spelt := by
  -- along the word; each letter is taken in either case
  induction word generalizing text with
  | nil =>
    constructor
    · intro h
      cases h
      exact ⟨[], rfl, .nil⟩
    · intro ⟨spelt, htext, hspelt⟩
      cases hspelt
      rw [htext]
      rfl
  | cons letter word ih =>
    cases text with
    | nil => simp [stripWord, Spells]
    | cons c text =>
      rw [stripWord]
      constructor
      · intro h
        by_cases hletter : sameLetter letter c = true
        · rw [if_pos hletter, ih] at h
          obtain ⟨spelt, rfl, hspelt⟩ := h
          exact ⟨c :: spelt, rfl, .cons hletter hspelt⟩
        · rw [if_neg hletter] at h
          cases h
      · intro ⟨spelt, htext, hspelt⟩
        cases hspelt with
        | cons hletter hspelt =>
          cases htext
          rw [if_pos hletter, ih]
          exact ⟨_, rfl, hspelt⟩

theorem Spells.length {word text : List Char} (h : Spells word text) :
    text.length = word.length :=
  (List.Forall₂.length_eq h).symm

/-- Only letters have two cases. -/
theorem toLower_eq {c d : Char} (h : c.toLower = d) (hd : d.toNat < 97) : c = d := by
  unfold Char.toLower at h
  split at h
  · rename_i hupper
    have hlow : 65 ≤ c.val.toNat := hupper.1
    have hhigh : c.val.toNat ≤ 90 := hupper.2
    have hval : d.val.toNat = c.val.toNat + 32 := by
      rw [← h]
      show (c.val + 32).toNat = _
      rw [UInt32.toNat_add]
      show (c.val.toNat + 32) % 4294967296 = _
      omega
    have hd' : d.val.toNat < 97 := hd
    omega
  · exact h

theorem sameLetter_eq {letter c : Char} (h : sameLetter letter c = true)
    (hletter : letter.toNat < 97) : c = letter := by
  simp only [sameLetter, Bool.or_eq_true, decide_eq_true_eq, Bool.and_eq_true] at h
  rcases h with h | ⟨rfl, -⟩
  · exact toLower_eq h hletter
  · exact absurd hletter (by decide)

/-! ## Tags -/

/-- A character inside a tag. -/
def isTagChar (c : Char) : Bool := c ≠ '<' && c ≠ '>'

/-- A character of a kind that has no angle brackets. -/
theorem isTagChar_of {p : Char → Bool} {c : Char} (hc : p c = true) (hopen : p '<' = false)
    (hclose : p '>' = false) : isTagChar c = true := by
  simp only [isTagChar, Bool.and_eq_true, decide_eq_true_eq]
  constructor
  · rintro rfl
    rw [hopen] at hc
    cases hc
  · rintro rfl
    rw [hclose] at hc
    cases hc

/-- What `<claim(?=[\s>])[^<>]*>` matches. -/
inductive OpenTag : List Char → Prop
  | mk {word body : List Char} (hword : Spells "<claim".toList word)
      (hbody : ∀ c ∈ body, isTagChar c = true) (hhead : ∀ c ∈ body.head?, isSpace c = true) :
      OpenTag (word ++ body ++ ['>'])

/-- What `</claim\s*>` matches. -/
inductive CloseTag : List Char → Prop
  | mk {word spaces : List Char} (hword : Spells "</claim".toList word)
      (hspaces : ∀ c ∈ spaces, isSpace c = true) : CloseTag (word ++ spaces ++ ['>'])

theorem openTagAt_eq_some {text tag : List Char} {n : Nat} :
    openTagAt text = some (tag, n) ↔
      ∃ rest, text = tag ++ rest ∧ OpenTag tag ∧ n = tag.length := by
  constructor
  · intro h
    unfold openTagAt at h
    split at h
    case h_2 => cases h
    -- the word, a blank or the closing bracket, and then up to the next bracket
    rename_i c rest hword
    obtain ⟨word, rfl, hspelt⟩ := stripWord_eq_some.mp hword
    split at h
    case isFalse => cases h
    rename_i hnext
    simp only at h
    split at h
    case h_2 => cases h
    rename_i after hdrop
    simp only [Option.some.injEq, Prod.mk.injEq] at h
    obtain ⟨htag, hn⟩ := h
    generalize hbody : (c :: rest).takeWhile (fun c => c ≠ '<' && c ≠ '>') = body at *
    have hsplit : c :: rest = body ++ '>' :: after := by
      rw [← hdrop, ← hbody, takeWhile_append_drop]
    have hlength : word.length = 6 := hspelt.length
    have htext : word ++ c :: rest = (word ++ body ++ ['>']) ++ after := by
      rw [hsplit]
      simp
    have hcount : (word ++ body ++ ['>']).length = body.length + 7 := by
      simp [hlength]
      omega
    -- what was read is the word, the body and the closing bracket
    have htag' : tag = word ++ body ++ ['>'] := by
      rw [← htag, htext, ← hcount, List.take_left]
    refine ⟨after, by rw [htag', htext], ?_, by rw [htag', hcount, hn]⟩
    rw [htag']
    refine .mk hspelt (fun d hd => ?_) fun d hd => ?_
    · rw [← hbody] at hd
      exact List.mem_takeWhile_imp hd
    · -- the body begins with the character behind the word
      cases body with
      | nil => cases hd
      | cons b body =>
        cases hsplit
        cases hd
        rcases Bool.or_eq_true_iff.mp hnext with hspace | hclose
        · exact hspace
        · have hb := List.mem_takeWhile_imp (hbody ▸ List.mem_cons_self : c ∈ _)
          simp at hb hclose
          exact absurd hclose hb.2
  · intro ⟨rest, htext, htag, hn⟩
    cases htag with
    | @mk word body hspelt hbody hhead =>
      have hlength : word.length = 6 := hspelt.length
      have hword : stripWord "<claim".toList text = some (body ++ '>' :: rest) :=
        stripWord_eq_some.mpr ⟨word, by rw [htext]; simp, hspelt⟩
      have htake : (body ++ '>' :: rest).takeWhile (fun c => c ≠ '<' && c ≠ '>') = body :=
        takeWhile_stop hbody (by decide)
      have hcount : (word ++ body ++ ['>']).length = body.length + 7 := by
        simp [hlength]
        omega
      -- whatever the body begins with, the reader accepts it and takes all of it
      have hfound : ∀ c behind, body ++ '>' :: rest = c :: behind →
          (isSpace c || c = '>') = true → openTagAt text = some (word ++ body ++ ['>'], n) := by
        intro c behind hbehind hnext
        unfold openTagAt
        rw [hword, hbehind]
        simp only [hnext, if_true]
        rw [← hbehind, htake, List.drop_left]
        simp only [Option.some.injEq, Prod.mk.injEq]
        rw [← hcount, htext, List.take_left]
        exact ⟨rfl, hn.symm⟩
      cases body with
      | nil => exact hfound '>' rest rfl (by simp)
      | cons b body => exact hfound b _ rfl (by rw [hhead b rfl]; rfl)

theorem closeTagAt_eq_some {text tag : List Char} {n : Nat} :
    closeTagAt text = some (tag, n) ↔
      ∃ rest, text = tag ++ rest ∧ CloseTag tag ∧ n = tag.length := by
  constructor
  · intro h
    unfold closeTagAt at h
    split at h
    case h_2 => cases h
    -- the word, blanks, and the closing bracket
    rename_i rest hword
    obtain ⟨word, rfl, hspelt⟩ := stripWord_eq_some.mp hword
    simp only at h
    split at h
    case h_2 => cases h
    rename_i after hdrop
    simp only [Option.some.injEq, Prod.mk.injEq] at h
    obtain ⟨htag, hn⟩ := h
    have hsplit : rest = rest.takeWhile isSpace ++ '>' :: after := by
      rw [← hdrop, takeWhile_append_drop]
    have hlength : word.length = 7 := hspelt.length
    have htext : word ++ rest = (word ++ rest.takeWhile isSpace ++ ['>']) ++ after := by
      conv_lhs => rw [hsplit]
      simp
    have hcount : (word ++ rest.takeWhile isSpace ++ ['>']).length =
        (rest.takeWhile isSpace).length + 8 := by
      simp [hlength]
      omega
    have htag' : tag = word ++ rest.takeWhile isSpace ++ ['>'] := by
      rw [← htag, ← hcount]
      conv_lhs => rw [htext]
      exact List.take_left
    refine ⟨after, by rw [htag']; exact htext, ?_, by rw [htag', hcount, hn]⟩
    rw [htag']
    exact .mk hspelt fun c hc => List.mem_takeWhile_imp hc
  · intro ⟨rest, htext, htag, hn⟩
    cases htag with
    | @mk word spaces hspelt hspaces =>
      have hlength : word.length = 7 := hspelt.length
      -- whatever follows the tag, the blanks end at its bracket
      have hword : stripWord "</claim".toList text = some (spaces ++ '>' :: rest) :=
        stripWord_eq_some.mpr ⟨word, by rw [htext]; simp, hspelt⟩
      have htake : (spaces ++ '>' :: rest).takeWhile isSpace = spaces :=
        takeWhile_stop hspaces (by decide)
      have hcount : (word ++ spaces ++ ['>']).length = spaces.length + 8 := by
        simp [hlength]
        omega
      unfold closeTagAt
      rw [hword]
      simp only [htake, List.drop_left, Option.some.injEq, Prod.mk.injEq]
      rw [← hcount, htext, List.take_left]
      exact ⟨rfl, hn.symm⟩

/-- A tag of the grammar. -/
def IsTag (tag : List Char) : Prop := OpenTag tag ∨ CloseTag tag

/-- The second character tells an opening tag from a closing one. -/
theorem OpenTag.second {tag : List Char} (h : OpenTag tag) :
    ∃ c, tag[1]? = some c ∧ c ≠ '/' := by
  cases h with
  | mk hword =>
    cases hword with
    | cons _ hword =>
      cases hword with
      | @cons _ c _ _ hletter _ =>
        refine ⟨c, rfl, fun heq => ?_⟩
        rw [heq] at hletter
        revert hletter
        decide

theorem CloseTag.second {tag : List Char} (h : CloseTag tag) : tag[1]? = some '/' := by
  cases h with
  | mk hword =>
    cases hword with
    | cons _ hword =>
      cases hword with
      | cons hletter _ =>
        simp only [List.cons_append, List.getElem?_cons_succ, List.getElem?_cons_zero,
          Option.some.injEq]
        exact sameLetter_eq hletter (by decide)

/-- **The tag pattern** recognises the tags of the grammar, each whole. -/
theorem tagAt_eq_some {text tag : List Char} {n : Nat} :
    tagAt text = some (tag, n) ↔ ∃ rest, text = tag ++ rest ∧ IsTag tag ∧ n = tag.length := by
  unfold tagAt
  constructor
  · intro h
    cases hopen : openTagAt text with
    | some found =>
      rw [hopen] at h
      cases h
      obtain ⟨rest, htext, htag, hn⟩ := openTagAt_eq_some.mp hopen
      exact ⟨rest, htext, .inl htag, hn⟩
    | none =>
      rw [hopen, Option.none_or] at h
      obtain ⟨rest, htext, htag, hn⟩ := closeTagAt_eq_some.mp h
      exact ⟨rest, htext, .inr htag, hn⟩
  · intro ⟨rest, htext, htag, hn⟩
    rcases htag with hopen | hclose
    · rw [openTagAt_eq_some.mpr ⟨rest, htext, hopen, hn⟩]
      rfl
    · have hnone : openTagAt text = none := by
        cases hfound : openTagAt text with
        | none => rfl
        | some found =>
          -- the text cannot begin with tags of both kinds
          obtain ⟨other, htext', hother, -⟩ := openTagAt_eq_some.mp hfound
          obtain ⟨c, hc, hne⟩ := hother.second
          have hslash := hclose.second
          have hopen : text[1]? = some c := by
            rw [htext', List.getElem?_append_left (List.getElem?_eq_some_iff.mp hc).1]
            exact hc
          rw [htext, List.getElem?_append_left (List.getElem?_eq_some_iff.mp hslash).1, hslash]
            at hopen
          exact absurd (Option.some.inj hopen).symm hne
      rw [hnone, closeTagAt_eq_some.mpr ⟨rest, htext, hclose, hn⟩]
      rfl

theorem IsTag.length_pos {tag : List Char} (h : IsTag tag) : 0 < tag.length := by
  rcases h with h | h
  · cases h
    simp
  · cases h
    simp

/-- A tag is recognised by its own characters. -/
theorem tagAt_local : Local tagAt := by
  intro text tag n h
  obtain ⟨rest, rfl, htag, rfl⟩ := tagAt_eq_some.mp h
  refine ⟨htag.length_pos, by simp, fun after => ?_⟩
  rw [List.take_left]
  exact tagAt_eq_some.mpr ⟨after, rfl, htag, rfl⟩

/-! ## Tags in a text -/

/-- The tags that start in a text, at whatever position. -/
def tagsIn (text : List Char) : List (List Char) := matchesIn tagAt text []

/-- A tag contains one. -/
theorem IsTag.tagsIn_ne_nil {tag : List Char} (h : IsTag tag) : tagsIn tag ≠ [] := by
  have hself : tagAt tag = some (tag, tag.length) :=
    tagAt_eq_some.mpr ⟨[], (List.append_nil tag).symm, h, rfl⟩
  cases tag with
  | nil => exact absurd h.length_pos (by simp)
  | cons c tag =>
    unfold tagsIn matchesIn
    rw [List.append_nil, hself]
    simp

/-- The tags among the pieces of a text are tags. -/
theorem isTag_of_piece {text tag : List Char} (h : .inr tag ∈ pieces tagAt text) : IsTag tag := by
  have hfound : tag ∈ findAll tagAt text := by
    rw [← filterMap_pieces]
    exact List.mem_filterMap.mpr ⟨.inr tag, h, rfl⟩
  obtain ⟨rest, n, hmatch⟩ := exists_match_of_mem_findAll hfound
  obtain ⟨after, -, htag, -⟩ := tagAt_eq_some.mp hmatch
  exact htag

/-! ## In front of another tag

A tag can only begin at a `<`, so nothing before one can be part of it. -/

/-- A word that does not go on with `<` ends before one. -/
theorem stripWord_append {word : List Char} (hword : ∀ letter ∈ word, sameLetter letter '<' = false)
    (text rest : List Char) :
    stripWord word (text ++ '<' :: rest) =
      (stripWord word text).map (· ++ '<' :: rest) := by
  induction word generalizing text with
  | nil => rfl
  | cons letter word ih =>
    cases text with
    | nil =>
      simp [stripWord, hword letter List.mem_cons_self]
    | cons c text =>
      rw [List.cons_append, stripWord, stripWord]
      split
      · exact ih (fun l hl => hword l (List.mem_cons_of_mem _ hl)) text
      · rfl

/-- No letter of a word is taken for an opening bracket. -/
theorem noBracket_of_all {word : List Char}
    (hall : (word.all fun letter => !sameLetter letter '<') = true) :
    ∀ letter ∈ word, sameLetter letter '<' = false := by
  intro letter hletter
  have hne := List.all_eq_true.mp hall letter hletter
  rwa [Bool.not_eq_true'] at hne

/-- `<claim`, sought at a character in front of another `<`. -/
theorem stripWord_claim {text : List Char} (htext : text ≠ []) (rest : List Char) :
    stripWord "<claim".toList (text ++ '<' :: rest) =
      (stripWord "<claim".toList text).map (· ++ '<' :: rest) := by
  cases text with
  | nil => exact absurd rfl htext
  | cons c text =>
    have hword : "<claim".toList = '<' :: "claim".toList := by decide
    rw [hword, List.cons_append, stripWord, stripWord]
    split
    · exact stripWord_append (noBracket_of_all (by decide)) text rest
    · rfl

/-- A broken opener does not depend on what follows the next `<`. -/
theorem brokenOpenAt_append {text : List Char} (htext : text ≠ []) (rest : List Char) :
    brokenOpenAt (text ++ '<' :: rest) = none ↔ brokenOpenAt text = none := by
  unfold brokenOpenAt
  -- the opener has no `<` but its first, so it ends before the next one
  rw [stripWord_claim htext]
  cases stripWord "<claim".toList text with
  | none => exact Iff.rfl
  | some behind =>
    cases behind with
    | nil =>
      have hspace : isSpace '<' = false := by decide
      simp [hspace]
    | cons c behind =>
      simp only [Option.map_some, List.cons_append]
      split
      case isFalse => exact Iff.rfl
      -- and what follows it is read up to a bracket at most
      have htake := takeWhile_append_stop (p := fun c => c ≠ '<' && c ≠ '>' && c ≠ '\n')
        (c := '<') (by decide) (c :: behind) rest
      rw [List.cons_append] at htake
      rw [htake, ← List.cons_append,
        List.drop_append_of_le_length (List.takeWhile_prefix _).length_le]
      cases hdrop : (c :: behind).drop _ with
      | nil => simp
      | cons d after =>
        by_cases hd : d = '>'
        · subst hd
          exact Iff.rfl
        · simp [hd]

/-- A tag begins with `<`. -/
theorem IsTag.cons {tag : List Char} (h : IsTag tag) : ∃ rest, tag = '<' :: rest := by
  rcases h with h | h
  · cases h with
    | mk hword =>
      cases hword with
      | cons hc _ => exact ⟨_, by rw [sameLetter_eq hc (by decide)]; rfl⟩
  · cases h with
    | mk hword =>
      cases hword with
      | cons hc _ => exact ⟨_, by rw [sameLetter_eq hc (by decide)]; rfl⟩

/-- The letters of a word without `<` are none. -/
theorem Spells.not_mem {word letters : List Char} (h : Spells word letters)
    (hword : ∀ letter ∈ word, sameLetter letter '<' = false) : '<' ∉ letters := by
  intro hmem
  induction h with
  | nil => cases hmem
  | @cons letter c _ _ hsame _ ih =>
    rcases List.mem_cons.mp hmem with rfl | hmem
    · rw [hword letter List.mem_cons_self] at hsame
      cases hsame
    · exact ih (fun l hl => hword l (List.mem_cons_of_mem _ hl)) hmem

/-- Behind its first character a tag has no `<`. -/
theorem IsTag.tail_plain {tag : List Char} (h : IsTag tag) : '<' ∉ tag.tail := by
  rcases h with h | h
  · cases h with
    | @mk word body hword hbody hhead =>
      have hclaim : "<claim".toList = '<' :: "claim".toList := by decide
      rw [hclaim] at hword
      -- the word has one `<`, its first
      cases hword with
      | @cons _ c _ letters hc hrest =>
        simp only [List.cons_append, List.tail_cons, List.mem_append, List.mem_singleton]
        rintro ((hmem | hmem) | hmem)
        · exact Spells.not_mem hrest (noBracket_of_all (by decide)) hmem
        · exact absurd (hbody _ hmem) (by decide)
        · cases hmem
  · cases h with
    | @mk word spaces hword hspaces =>
      have hclaim : "</claim".toList = '<' :: "/claim".toList := by decide
      rw [hclaim] at hword
      cases hword with
      | @cons _ c _ letters hc hrest =>
        simp only [List.cons_append, List.tail_cons, List.mem_append, List.mem_singleton]
        rintro ((hmem | hmem) | hmem)
        · exact Spells.not_mem hrest (noBracket_of_all (by decide)) hmem
        · exact absurd (hspaces _ hmem) (by decide)
        · cases hmem

/-- A tag ends before the next one begins. -/
theorem tagAt_contained (text rest : List Char) : Contained tagAt text ('<' :: rest) := by
  intro i hi tag n hmatch
  obtain ⟨after, htext, htag, rfl⟩ := tagAt_eq_some.mp hmatch
  by_contra hlong
  apply htag.tail_plain
  have hat : tag[text.length - i]? = some '<' := by
    have hget : (tag ++ after)[text.length - i]? = some '<' := by
      rw [← htext, List.getElem?_drop, List.getElem?_append_right (by omega)]
      rw [show i + (text.length - i) - text.length = 0 by omega]
      rfl
    rwa [List.getElem?_append_left (by omega)] at hget
  cases tag with
  | nil => cases hat
  | cons c tag =>
    rw [show text.length - i = (text.length - i - 1) + 1 by omega, List.getElem?_cons_succ] at hat
    exact List.mem_of_getElem? hat

end ShiftMind.Grounding
