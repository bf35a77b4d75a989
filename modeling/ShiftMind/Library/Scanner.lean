import Mathlib.Data.List.Basic
import Mathlib.Tactic.Common

/-!
# Scanning a text for a pattern

A pattern is a **matcher**: on the rest of a text it answers what it recognises at the very front
and how many characters that takes. `scan` finds the leftmost match, goes on behind it, and keeps
every other character, as `finditer`, `sub` and `split` of a regular expression do.

* **`scan`** — the unmatched characters and the matches, in order.
* **`pieces`** — the same with adjacent characters joined to runs, none of them empty.
* **`matchesIn`** — the matches at *every* position of a text, overlapping or not. Where no match
  starts inside another (`Isolated`) and the matcher looks at no more than what it matches
  (`Local`), these are the matches of the scan, and a joint of two texts adds no match exactly when
  no match crosses it (`Contained`).
-/

namespace Scanner

variable {χ α : Type}

/-- What a pattern recognises at the front of a text, and its length. -/
abbrev Matcher (χ α : Type) := List χ → Option (α × Nat)

/-- The characters outside every match, and the matches. The first argument counts the characters
of the last match that are still to be skipped. -/
def scan (m : Matcher χ α) : Nat → List χ → List (χ ⊕ α)
  | _, [] => []
  | skip + 1, _ :: rest => scan m skip rest
  | 0, c :: rest =>
    match m (c :: rest) with
    | some (a, n) => .inr a :: scan m (n - 1) rest
    | none => .inl c :: scan m 0 rest

/-- Put a character before the pieces of what follows it. -/
def consPiece : χ ⊕ α → List (List χ ⊕ α) → List (List χ ⊕ α)
  | .inl c, .inl run :: rest => .inl (c :: run) :: rest
  | .inl c, rest => .inl [c] :: rest
  | .inr a, rest => .inr a :: rest

/-- Adjacent characters joined to runs. -/
def joinRuns (items : List (χ ⊕ α)) : List (List χ ⊕ α) := items.foldr consPiece []

/-- The runs between the matches of a text, and the matches. -/
def pieces (m : Matcher χ α) (text : List χ) : List (List χ ⊕ α) := joinRuns (scan m 0 text)

/-- The matches of a text, from left to right. -/
def findAll (m : Matcher χ α) (text : List χ) : List α :=
  (scan m 0 text).filterMap Sum.getRight?

/-- The first match of a text: what stands before it, what it recognises, and what follows it. -/
def findFirst (m : Matcher χ α) : List χ → Option (List χ × α × List χ)
  | [] => none
  | c :: rest =>
    match m (c :: rest) with
    | some (a, n) => some ([], a, (c :: rest).drop n)
    | none => (findFirst m rest).map fun (before, a, after) => (c :: before, a, after)

/-! ## Every match -/

/-- The matches that start in `text`, at whatever position, where `after` follows it. -/
def matchesIn (m : Matcher χ α) : List χ → List χ → List α
  | [], _ => []
  | c :: text, after => ((m (c :: text ++ after)).map Prod.fst).toList ++ matchesIn m text after

variable {m : Matcher χ α}

theorem matchesIn_append (s t after : List χ) :
    matchesIn m (s ++ t) after = matchesIn m s (t ++ after) ++ matchesIn m t after := by
  induction s with
  | nil => rfl
  | cons c s ih => simp only [List.cons_append, matchesIn, ih, List.append_assoc]

/-- A matcher looks at what it matches and at nothing behind it. -/
def Local (m : Matcher χ α) : Prop :=
  ∀ ⦃text : List χ⦄ ⦃a : α⦄ ⦃n : Nat⦄, m text = some (a, n) →
    0 < n ∧ n ≤ text.length ∧ ∀ after, m (text.take n ++ after) = some (a, n)

/-- No match starts inside another. -/
def Isolated (m : Matcher χ α) : Prop :=
  ∀ ⦃text : List χ⦄ ⦃a : α⦄ ⦃n : Nat⦄, m text = some (a, n) →
    ∀ i, 0 < i → i < n → m (text.drop i) = none

/-- What is matched stays matched, whatever follows the text. -/
theorem Local.extend (hlocal : Local m) {text after : List χ} {a : α} {n : Nat}
    (h : m text = some (a, n)) : m (text ++ after) = some (a, n) := by
  have hsplit : text.take n ++ (text.drop n ++ after) = text ++ after := by
    rw [← List.append_assoc, List.take_append_drop]
  rw [← hsplit]
  exact (hlocal h).2.2 _

/-- A match that ends in the text is a match of the text by itself. -/
theorem Local.restrict (hlocal : Local m) {text after : List χ} {a : α} {n : Nat}
    (h : m (text ++ after) = some (a, n)) (hn : n ≤ text.length) : m text = some (a, n) := by
  have hmatch := (hlocal h).2.2 (text.drop n)
  rwa [List.take_append_of_le_length hn, List.take_append_drop] at hmatch

/-! ## The scan finds every match -/

/-- Where no match starts among the next `skip` characters, the scan resumed behind them finds
every match of the text. -/
theorem filterMap_scan (hisolated : Isolated m) (skip : Nat) (text : List χ)
    (hskip : ∀ i < skip, m (text.drop i) = none) :
    (scan m skip text).filterMap Sum.getRight? = matchesIn m text [] := by
  -- along the text, for every number of characters to skip
  induction text generalizing skip with
  | nil => cases skip <;> rfl
  | cons c rest ih =>
    have hnil : c :: rest ++ [] = c :: rest := List.append_nil _
    cases skip with
    | succ skip =>
      have hnone := hskip 0 (by omega)
      rw [List.drop_zero] at hnone
      simp only [scan, matchesIn, hnil, hnone, Option.map_none, Option.toList_none,
        List.nil_append]
      exact ih skip fun i hi => hskip (i + 1) (by omega)
    | zero =>
      simp only [scan, matchesIn, hnil]
      cases hm : m (c :: rest) with
      | none =>
        simp only [List.filterMap_cons, Sum.getRight?_inl, Option.map_none, Option.toList_none,
          List.nil_append]
        exact ih 0 fun i hi => absurd hi (by omega)
      | some found =>
        obtain ⟨a, n⟩ := found
        simp only [List.filterMap_cons, Sum.getRight?_inr, Option.map_some, Option.toList_some,
          List.singleton_append, List.cons.injEq, true_and]
        refine ih (n - 1) fun i hi => ?_
        -- no match starts within another, so none is skipped
        exact hisolated hm (i + 1) (by omega) (by omega)

/-- **The leftmost matches are all matches**, for a pattern none of whose matches overlap. -/
theorem findAll_eq (hisolated : Isolated m) (text : List χ) :
    findAll m text = matchesIn m text [] :=
  filterMap_scan hisolated 0 text fun i hi => absurd hi (by omega)

/-- What a scan finds is recognised somewhere. -/
theorem exists_match_of_mem_scan {text : List χ} {a : α} {skip : Nat}
    (h : .inr a ∈ scan m skip text) : ∃ rest n, m rest = some (a, n) := by
  induction text generalizing skip with
  | nil => cases skip <;> cases h
  | cons c text ih =>
    cases skip with
    | succ skip => exact ih h
    | zero =>
      rw [scan] at h
      cases hm : m (c :: text) with
      | none =>
        rw [hm] at h
        rcases List.mem_cons.mp h with heq | hmem
        · cases heq
        · exact ih hmem
      | some found =>
        obtain ⟨b, n⟩ := found
        rw [hm] at h
        rcases List.mem_cons.mp h with heq | hmem
        · cases heq
          exact ⟨_, _, hm⟩
        · exact ih hmem

theorem exists_match_of_mem_findAll {text : List χ} {a : α} (h : a ∈ findAll m text) :
    ∃ rest n, m rest = some (a, n) := by
  obtain ⟨item, hmem, hitem⟩ := List.mem_filterMap.mp h
  cases item with
  | inl c => cases hitem
  | inr b =>
    cases hitem
    exact exists_match_of_mem_scan hmem

/-! ## Runs and matches of the pieces -/

theorem filterMap_consPiece (item : χ ⊕ α) (rest : List (List χ ⊕ α)) :
    (consPiece item rest).filterMap Sum.getRight? =
      item.getRight?.toList ++ rest.filterMap Sum.getRight? := by
  cases item with
  | inr a => rfl
  | inl c =>
    cases rest with
    | nil => rfl
    | cons piece rest => cases piece <;> rfl

theorem filterMap_joinRuns (items : List (χ ⊕ α)) :
    (joinRuns items).filterMap Sum.getRight? = items.filterMap Sum.getRight? := by
  induction items with
  | nil => rfl
  | cons item items ih =>
    show (consPiece item (joinRuns items)).filterMap Sum.getRight? = _
    rw [filterMap_consPiece, ih]
    cases item <;> rfl

/-- The matches among the pieces are the matches of the scan. -/
theorem filterMap_pieces (text : List χ) :
    (pieces m text).filterMap Sum.getRight? = findAll m text := filterMap_joinRuns _

/-- What the runs of a scan resumed `skip` characters later have in common: none of them contains
a match, and the first stands at the front of what is scanned. -/
theorem runs_of_scan (hlocal : Local m) (skip : Nat) (text : List χ) :
    (∀ run, .inl run ∈ joinRuns (scan m skip text) → matchesIn m run [] = []) ∧
      (∀ run rest, joinRuns (scan m skip text) = .inl run :: rest → run <+: text.drop skip) := by
  induction text generalizing skip with
  | nil =>
    have hnone : joinRuns (scan m skip ([] : List χ)) = [] := by cases skip <;> rfl
    rw [hnone]
    simp
  | cons c text ih =>
    cases skip with
    | succ skip => exact ih skip
    | zero =>
      cases hm : m (c :: text) with
      | some found =>
        -- the match ends the run before it, and the scan goes on behind the match
        obtain ⟨a, n⟩ := found
        have hscan : joinRuns (scan m 0 (c :: text)) =
            .inr a :: joinRuns (scan m (n - 1) text) := by
          simp [scan, hm, joinRuns, consPiece]
        rw [hscan]
        refine ⟨fun run hmem => ?_, fun run rest h => by cases h⟩
        rcases List.mem_cons.mp hmem with h | h
        · cases h
        · exact (ih (n - 1)).1 run h
      | none =>
        -- the character joins the run behind it, if there is one
        obtain ⟨hruns, hfirst⟩ := ih 0
        have hscan : joinRuns (scan m 0 (c :: text)) =
            consPiece (.inl c) (joinRuns (scan m 0 text)) := by
          simp [scan, hm, joinRuns]
        -- a run in front of the text begins with no match: the text begins with none
        have hfree : ∀ run, run <+: text → matchesIn m run [] = [] →
            matchesIn m (c :: run) [] = [] := by
          intro run hbefore hrun
          obtain ⟨after, rfl⟩ := hbefore
          have hnone : m (c :: run) = none := by
            cases hm' : m (c :: run) with
            | none => rfl
            | some found =>
              have hfound : m (c :: run ++ after) = some found := hlocal.extend hm'
              rw [List.cons_append, hm] at hfound
              cases hfound
          simp [matchesIn, hnone, hrun]
        rw [hscan]
        cases hpieces : joinRuns (scan m 0 text) with
        | nil =>
          refine ⟨fun run hmem => ?_, fun run rest h => ?_⟩
          · simp only [consPiece, List.mem_singleton, Sum.inl.injEq] at hmem
            rw [hmem]
            exact hfree [] List.nil_prefix rfl
          · simp only [consPiece, List.cons.injEq, Sum.inl.injEq] at h
            rw [← h.1]
            simp
        | cons piece pieces =>
          rw [hpieces] at hruns hfirst
          cases piece with
          | inr a =>
            refine ⟨fun run hmem => ?_, fun run rest h => ?_⟩
            · simp only [consPiece, List.mem_cons, Sum.inl.injEq] at hmem
              rcases hmem with rfl | hmem | hmem
              · exact hfree [] List.nil_prefix rfl
              · cases hmem
              · exact hruns run (List.mem_cons_of_mem _ hmem)
            · simp only [consPiece, List.cons.injEq, Sum.inl.injEq] at h
              rw [← h.1]
              simp
          | inl first =>
            have hbefore := hfirst first pieces rfl
            rw [List.drop_zero] at hbefore
            refine ⟨fun run hmem => ?_, fun run rest h => ?_⟩
            · simp only [consPiece, List.mem_cons, Sum.inl.injEq] at hmem
              rcases hmem with rfl | hmem
              · exact hfree first hbefore (hruns first List.mem_cons_self)
              · exact hruns run (List.mem_cons_of_mem _ hmem)
            · simp only [consPiece, List.cons.injEq, Sum.inl.injEq] at h
              rw [← h.1, List.drop_zero]
              exact List.cons_prefix_cons.mpr ⟨rfl, hbefore⟩

/-- **The runs between the matches contain none.** -/
theorem matchesIn_run (hlocal : Local m) {text run : List χ} (h : .inl run ∈ pieces m text) :
    matchesIn m run [] = [] :=
  (runs_of_scan hlocal 0 text).1 run h

/-! ## Matches across a joint

A match is local: it is decided by its own characters, so a joint can only add what crosses it. -/

/-- Every match that starts in `text` ends in it, where `after` follows. -/
def Contained (m : Matcher χ α) (text after : List χ) : Prop :=
  ∀ i < text.length, ∀ a n, m ((text ++ after).drop i) = some (a, n) → i + n ≤ text.length

theorem contained_cons {c : χ} {text after : List χ} :
    Contained m (c :: text) after ↔
      (∀ a n, m (c :: text ++ after) = some (a, n) → n ≤ text.length + 1) ∧
        Contained m text after := by
  unfold Contained
  constructor
  · intro h
    refine ⟨fun a n hm => ?_, fun i hi a n hm => ?_⟩
    · have hle := h 0 (by simp) a n hm
      simpa using hle
    · have hle := h (i + 1) (by simpa using hi) a n hm
      simp only [List.length_cons] at hle
      omega
  · intro ⟨hhead, htail⟩ i hi a n hm
    cases i with
    | zero =>
      have hle := hhead a n hm
      simpa using hle
    | succ i =>
      have hle := htail i (by simpa using hi) a n hm
      simp only [List.length_cons]
      omega

/-- What a text matches by itself it still matches in front of `after`. -/
theorem sublist_matchesIn (hlocal : Local m) (text after : List χ) :
    (matchesIn m text []).Sublist (matchesIn m text after) := by
  induction text with
  | nil => exact .slnil
  | cons c text ih =>
    simp only [matchesIn, List.append_nil]
    refine List.Sublist.append ?_ ih
    cases hm : m (c :: text) with
    | none => simp
    | some found => rw [hlocal.extend hm]

/-- A joint that no match crosses adds none. -/
theorem matchesIn_of_contained (hlocal : Local m) {text after : List χ}
    (h : Contained m text after) : matchesIn m text after = matchesIn m text [] := by
  induction text with
  | nil => rfl
  | cons c text ih =>
    rw [contained_cons] at h
    simp only [matchesIn, List.append_nil, ih h.2]
    cases hm : m (c :: text ++ after) with
    | none =>
      cases hm' : m (c :: text) with
      | none => rfl
      | some found => rw [hlocal.extend hm'] at hm; cases hm
    | some found =>
      obtain ⟨a, n⟩ := found
      have hn : n ≤ (c :: text).length := h.1 a n hm
      rw [hlocal.restrict hm hn]

/-- A joint that adds no match is crossed by none. -/
theorem contained_of_length (hlocal : Local m) {text after : List χ}
    (h : (matchesIn m text after).length ≤ (matchesIn m text []).length) :
    Contained m text after := by
  induction text with
  | nil => exact fun i hi => absurd hi (by simp)
  | cons c text ih =>
    -- the text after a joint only adds matches, so the counts agree at every position
    have hsub := (sublist_matchesIn hlocal text after).length_le
    simp only [matchesIn, List.append_nil, List.length_append] at h
    rw [contained_cons]
    cases hm : m (c :: text ++ after) with
    | none =>
      rw [hm] at h
      simp only [Option.map_none, Option.toList_none, List.length_nil] at h
      refine ⟨by simp, ih ?_⟩
      cases hm' : m (c :: text) with
      | none => rw [hm'] at h; simpa using h
      -- a match within the text stays one
      | some found => rw [hlocal.extend hm'] at hm; cases hm
    | some found =>
      rw [hm] at h
      cases hm' : m (c :: text) with
      | none =>
        rw [hm'] at h
        simp only [Option.map_some, Option.toList_some, List.length_singleton, Option.map_none,
          Option.toList_none, List.length_nil] at h
        -- a match that needs what follows would be one more
        omega
      | some found' =>
        rw [hm'] at h
        simp only [Option.map_some, Option.toList_some, List.length_singleton] at h
        refine ⟨fun a n hn => ?_, ih (by omega)⟩
        -- the two matches are one, and it lies within the text
        have hfound : m (c :: text ++ after) = some found' := hlocal.extend hm'
        rw [hm] at hfound
        cases hfound
        cases hn
        exact (hlocal hm').2.1

/-! ## Scanning a text in parts -/

theorem scan_skip (skip : Nat) (text : List χ) : scan m skip text = scan m 0 (text.drop skip) := by
  induction text generalizing skip with
  | nil => cases skip <;> rfl
  | cons c text ih =>
    cases skip with
    | zero => rfl
    | succ skip => exact ih skip

/-- A match at the front. -/
theorem scan_match {text rest : List χ} {a : α} (htext : text ≠ [])
    (h : m (text ++ rest) = some (a, text.length)) :
    scan m 0 (text ++ rest) = .inr a :: scan m 0 rest := by
  cases text with
  | nil => exact absurd rfl htext
  | cons c text =>
    rw [List.cons_append] at h ⊢
    rw [scan, h]
    simp only
    rw [scan_skip, List.length_cons, Nat.add_sub_cancel, List.drop_left]

/-- No match at the front. -/
theorem scan_run {run rest : List χ} (h : ∀ i < run.length, m ((run ++ rest).drop i) = none) :
    scan m 0 (run ++ rest) = run.map .inl ++ scan m 0 rest := by
  induction run with
  | nil => rfl
  | cons c run ih =>
    have hnone := h 0 (by simp)
    rw [List.drop_zero, List.cons_append] at hnone
    rw [List.cons_append, scan, hnone]
    simp only [List.map_cons, List.cons_append, List.cons.injEq, true_and]
    exact ih fun i hi => h (i + 1) (by simpa using hi)

/-- Two texts are scanned one after the other where the first is scanned as it stands alone. -/
theorem scan_append {front after : List χ}
    (hsame : ∀ i < front.length, m ((front ++ after).drop i) = m (front.drop i))
    (hcontained : Contained m front after) :
    scan m 0 (front ++ after) = scan m 0 front ++ scan m 0 after := by
  -- by induction on the front, for every number of characters still to skip
  have hskip : ∀ skip ≤ front.length,
      scan m skip (front ++ after) = scan m skip front ++ scan m 0 after := by
    induction front with
    | nil =>
      intro skip hle
      rw [Nat.le_zero.mp hle]
      rfl
    | cons c front ih =>
      rw [contained_cons] at hcontained
      have hrest := ih (fun i hi => hsame (i + 1) (by simpa using hi)) hcontained.2
      intro skip hle
      cases skip with
      | succ skip => exact hrest skip (by simpa using hle)
      | zero =>
        have hhead := hsame 0 (by simp)
        rw [List.drop_zero, List.drop_zero, List.cons_append] at hhead
        rw [List.cons_append, scan, scan, hhead]
        cases hm : m (c :: front) with
        | none =>
          simp only [List.cons_append, List.cons.injEq, true_and]
          exact hrest 0 (Nat.zero_le _)
        | some found =>
          obtain ⟨a, n⟩ := found
          have hn := hcontained.1 a n (by rw [List.cons_append, hhead, hm])
          simp only [List.cons_append, List.cons.injEq, true_and]
          exact hrest (n - 1) (by omega)
  exact hskip 0 (Nat.zero_le _)

/-- Up to a joint that no match crosses, a text is matched as it stands alone. -/
theorem same_of_contained (hlocal : Local m) {text after : List χ} (h : Contained m text after)
    (i : Nat) (hi : i < text.length) : m ((text ++ after).drop i) = m (text.drop i) := by
  have hsplit : (text ++ after).drop i = text.drop i ++ after :=
    List.drop_append_of_le_length (by omega)
  cases hm : m ((text ++ after).drop i) with
  | some found =>
    obtain ⟨a, n⟩ := found
    have hn := h i hi a n hm
    rw [hsplit] at hm
    exact (hlocal.restrict hm (by rw [List.length_drop]; omega)).symm
  | none =>
    cases hm' : m (text.drop i) with
    | none => rfl
    | some found =>
      rw [hsplit, hlocal.extend hm'] at hm
      cases hm

/-- A scan without matches: none starts anywhere. -/
theorem scan_free_iff {text : List χ} :
    (∀ a, .inr a ∉ scan m 0 text) ↔ matchesIn m text [] = [] := by
  induction text with
  | nil => simp [scan, matchesIn]
  | cons c text ih =>
    rw [scan, matchesIn, List.append_nil]
    cases hm : m (c :: text) with
    | none => simpa using ih
    | some found =>
      constructor
      · exact fun h => absurd List.mem_cons_self (h found.1)
      · intro h
        simp at h

/-- It keeps every character. -/
theorem scan_of_free {text : List χ} (h : matchesIn m text [] = []) :
    scan m 0 text = text.map .inl := by
  induction text with
  | nil => rfl
  | cons c text ih =>
    rw [matchesIn, List.append_nil, List.append_eq_nil_iff] at h
    rw [scan]
    cases hm : m (c :: text) with
    | some found => rw [hm] at h; simp at h
    | none =>
      simp only [List.map_cons, List.cons.injEq, true_and]
      exact ih h.2

/-- A match separates the runs around it. -/
theorem joinRuns_append (items more : List (χ ⊕ α)) (a : α) :
    joinRuns (items ++ .inr a :: more) = joinRuns items ++ .inr a :: joinRuns more := by
  induction items with
  | nil => rfl
  | cons item items ih =>
    show consPiece item (joinRuns (items ++ .inr a :: more)) = consPiece item (joinRuns items) ++ _
    rw [ih]
    cases item with
    | inr b => rfl
    | inl c =>
      cases hruns : joinRuns items with
      | nil => rfl
      | cons piece pieces => cases piece <;> rfl

/-! ## Matches that can be written back -/

/-- **The pieces of a text make it up**, once each match is written as it stood in the text. -/
theorem flatten_pieces {write : α → List χ}
    (hwrite : ∀ {text : List χ} {a : α} {n : Nat}, m text = some (a, n) →
      0 < n ∧ write a = text.take n) (text : List χ) :
    ((pieces m text).map (Sum.elim id write)).flatten = text := by
  -- joining the runs changes nothing of what is written
  have hjoin : ∀ items : List (χ ⊕ α), ((joinRuns items).map (Sum.elim id write)).flatten =
      items.flatMap (Sum.elim (fun c => [c]) write) := by
    intro items
    induction items with
    | nil => rfl
    | cons item items ih =>
      rw [List.flatMap_cons, ← ih]
      show ((consPiece item (joinRuns items)).map _).flatten = _
      cases item with
      | inr a => rfl
      | inl c =>
        cases joinRuns items with
        | nil => rfl
        | cons piece pieces => cases piece <;> rfl
  -- and the scan writes every character once, a match by its own text
  have hscan : ∀ skip (text : List χ),
      (scan m skip text).flatMap (Sum.elim (fun c => [c]) write) = text.drop skip := by
    intro skip text
    induction text generalizing skip with
    | nil => cases skip <;> rfl
    | cons c text ih =>
      cases skip with
      | succ skip => exact ih skip
      | zero =>
        rw [scan]
        cases hfound : m (c :: text) with
        | none => rw [List.flatMap_cons, ih]; rfl
        | some found =>
          obtain ⟨a, n⟩ := found
          obtain ⟨hpos, hmatched⟩ := hwrite hfound
          obtain ⟨k, rfl⟩ : ∃ k, n = k + 1 := ⟨n - 1, by omega⟩
          rw [List.flatMap_cons, ih]
          show write a ++ text.drop k = c :: text
          rw [hmatched, List.take_succ_cons, List.cons_append, List.take_append_drop]
  unfold pieces
  rw [hjoin, hscan, List.drop_zero]

/-- No run is empty. -/
theorem ne_nil_of_mem_pieces {text run : List χ} (h : .inl run ∈ pieces m text) : run ≠ [] := by
  -- a run starts with one character and only grows
  have hjoin : ∀ items : List (χ ⊕ α), .inl run ∈ joinRuns items → run ≠ [] := by
    intro items
    induction items with
    | nil => exact fun hmem => absurd hmem List.not_mem_nil
    | cons item items ih =>
      intro hmem
      have hmem : .inl run ∈ consPiece item (joinRuns items) := hmem
      cases item with
      -- an item that is no character starts no run
      | inr a =>
        rcases List.mem_cons.mp hmem with heq | hmem
        · cases heq
        · exact ih hmem
      | inl c =>
        cases hruns : joinRuns items with
        | nil =>
          rw [hruns] at hmem
          cases List.mem_singleton.mp hmem
          exact List.cons_ne_nil _ _
        | cons piece pieces =>
          rw [hruns] at hmem ih
          cases piece with
          -- the character joins the run that follows
          | inl first =>
            rcases List.mem_cons.mp hmem with heq | hmem
            · cases heq
              exact List.cons_ne_nil _ _
            · exact ih (List.mem_cons_of_mem _ hmem)
          | inr b =>
            rcases List.mem_cons.mp hmem with heq | hmem
            · cases heq
              exact List.cons_ne_nil _ _
            · exact ih hmem
  exact hjoin _ h

/-- What is recognised behind a part of a text is among its matches. -/
theorem mem_matchesIn {before rest : List χ} {a : α} {n : Nat} (hrest : rest ≠ [])
    (h : m rest = some (a, n)) : a ∈ matchesIn m (before ++ rest) [] := by
  rw [matchesIn_append]
  apply List.mem_append_right
  cases rest with
  | nil => exact absurd rfl hrest
  | cons c rest =>
    rw [matchesIn, List.append_nil, h]
    exact List.mem_append_left _ (List.mem_singleton_self _)

/-- The first match of a text, and what surrounds it. -/
theorem findFirst_eq_some {text before after : List χ} {a : α}
    (h : findFirst m text = some (before, a, after)) :
    ∃ rest n, text = before ++ rest ∧ m rest = some (a, n) ∧ after = rest.drop n := by
  induction text generalizing before with
  | nil => cases h
  | cons c text ih =>
    rw [findFirst] at h
    cases hm : m (c :: text) with
    | some found =>
      rw [hm] at h
      cases h
      exact ⟨_, _, rfl, hm, rfl⟩
    | none =>
      rw [hm] at h
      obtain ⟨⟨front, b, behind⟩, hfound, heq⟩ := Option.map_eq_some_iff.mp h
      cases heq
      obtain ⟨rest, n, htext, hmatch, hafter⟩ := ih hfound
      exact ⟨rest, n, by rw [htext, List.cons_append], hmatch, hafter⟩

/-! ## Joined texts -/

/-- No match starts in one of these texts and ends in a later one. -/
def Unbroken (m : Matcher χ α) : List (List χ) → Prop
  | [] => True
  | text :: texts => Contained m text texts.flatten ∧ Unbroken m texts

theorem unbroken_cons {text : List χ} {texts : List (List χ)} :
    Unbroken m (text :: texts) ↔ Contained m text texts.flatten ∧ Unbroken m texts :=
  Iff.rfl

/-- **Texts joined to one.** It is free of matches exactly when each of them is, and no match runs
across a joint. -/
theorem matchesIn_flatten_iff (hlocal : Local m) (texts : List (List χ)) :
    matchesIn m texts.flatten [] = [] ↔
      (∀ text ∈ texts, matchesIn m text [] = []) ∧ Unbroken m texts := by
  induction texts with
  | nil => simp [matchesIn, Unbroken]
  | cons text texts ih =>
    rw [List.flatten_cons, matchesIn_append, List.append_nil, List.append_eq_nil_iff, ih,
      unbroken_cons, List.forall_mem_cons]
    constructor
    · intro ⟨hjoined, hfree, hunbroken⟩
      have hown : matchesIn m text [] = [] :=
        List.sublist_nil.mp (hjoined ▸ sublist_matchesIn hlocal text texts.flatten)
      have hcontained : Contained m text texts.flatten :=
        contained_of_length hlocal (Nat.le_of_eq (by rw [hjoined, hown]))
      exact ⟨⟨hown, hfree⟩, hcontained, hunbroken⟩
    · intro ⟨⟨hown, hfree⟩, hcontained, hunbroken⟩
      refine ⟨?_, hfree, hunbroken⟩
      rw [matchesIn_of_contained hlocal hcontained]
      exact hown

/-! ## Runs of one kind of character -/

/-- What is taken and what is left. -/
theorem takeWhile_append_drop (p : χ → Bool) (text : List χ) :
    text.takeWhile p ++ text.drop (text.takeWhile p).length = text := by
  conv_lhs => rw [List.prefix_iff_eq_take.mp (List.takeWhile_prefix p (l := text))]
  rw [List.length_take, Nat.min_eq_left (List.takeWhile_prefix p).length_le]
  exact List.take_append_drop _ _

/-- What stops the run is not of its kind. -/
theorem not_of_drop_takeWhile {p : χ → Bool} {text rest : List χ} {c : χ}
    (h : text.drop (text.takeWhile p).length = c :: rest) : p c = false := by
  induction text with
  | nil => simp at h
  | cons d text ih =>
    by_cases hd : p d = true
    · rw [List.takeWhile_cons_of_pos hd] at h
      exact ih h
    · rw [List.takeWhile_cons_of_neg hd] at h
      cases h
      exact Bool.eq_false_iff.mpr hd

/-- A run ends before a character of another kind, whatever follows. -/
theorem takeWhile_append_stop {p : χ → Bool} {c : χ} (hc : p c = false) (text rest : List χ) :
    (text ++ c :: rest).takeWhile p = text.takeWhile p := by
  induction text with
  | nil => rw [List.nil_append, List.takeWhile_cons_of_neg (by rw [hc]; decide), List.takeWhile_nil]
  | cons d text ih =>
    rw [List.cons_append, List.takeWhile_cons, List.takeWhile_cons, ih]

/-- A run is taken whole. -/
theorem takeWhile_stop {p : χ → Bool} {run rest : List χ} {c : χ} (hrun : ∀ d ∈ run, p d = true)
    (hc : p c = false) : (run ++ c :: rest).takeWhile p = run := by
  rw [List.takeWhile_append_of_pos hrun, List.takeWhile_cons_of_neg (by rw [hc]; decide),
    List.append_nil]

end Scanner
