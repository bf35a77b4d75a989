import Mathlib.Data.List.TakeDrop
import ShiftMind.Library.Log

/-!
# Paging through a list

A window of a list is the slice of it from a cursor on, of a limited length, with the cursor of what
follows. A reader who follows the cursors sees the whole list; and a list that is sorted twice, by
an identifier and then by a key, is in the order of the keys, ties in the order of the identifiers.

* **`exists_follows`** — following the cursors of windows ends, and gathers what is behind a cursor.
* **`pairwise_sort`** — a stable sort breaks ties by the order it found.
-/

namespace Paging

variable {α : Type}

/-! ## Slices -/

/-- Where an index of a slice stands in a list of a length; a negative one counts from the end. -/
def sliceIndex (length : Nat) (i : Int) : Nat := if i < 0 then (i + length).toNat else i.toNat

/-- `items[start:stop]`. -/
def slice (items : List α) (start stop : Int) : List α :=
  (items.take (sliceIndex items.length stop)).drop (sliceIndex items.length start)

theorem slice_of_nonneg (items : List α) {start limit : Int} (hstart : 0 ≤ start)
    (hlimit : 0 ≤ limit) :
    slice items start (start + limit) = (items.drop start.toNat).take limit.toNat := by
  have hstop : ¬ start + limit < 0 := by omega
  have hadd : (start + limit).toNat = start.toNat + limit.toNat := by omega
  unfold slice sliceIndex
  rw [if_neg (not_lt.mpr hstart), if_neg hstop, hadd, List.drop_take]
  congr 1
  omega

/-- A window from a cursor on, and the cursor of what follows it. -/
def window (items : List α) (cursor limit : Int) : List α × Option Int :=
  let page := slice items cursor (cursor + limit)
  (page, if cursor + page.length < items.length then some (cursor + page.length) else none)

/-! ## Following the cursors

The windows of one list, each where the one before it ended, are the list. -/

/-- The pages that are read from a cursor on, until one has none to follow. -/
inductive Follows {ε : Type} (read : Int → Except ε (List α × Option Int)) :
    Int → List (List α) → Prop
  | last {cursor : Int} {page : List α} (h : read cursor = .ok (page, none)) :
    Follows read cursor [page]
  | more {cursor next : Int} {page : List α} {pages : List (List α)}
    (h : read cursor = .ok (page, some next)) (hrest : Follows read next pages) :
    Follows read cursor (page :: pages)

/-- The pages are determined. -/
theorem Follows.unique {ε : Type} {read : Int → Except ε (List α × Option Int)} {cursor : Int}
    {pages pages' : List (List α)} (h : Follows read cursor pages)
    (h' : Follows read cursor pages') : pages = pages' := by
  induction h generalizing pages' with
  | last hread =>
    cases h' with
    | last hread' => rw [hread] at hread'; cases hread'; rfl
    | more hread' _ => rw [hread] at hread'; cases hread'
  | more hread _ ih =>
    cases h' with
    | last hread' => rw [hread] at hread'; cases hread'
    | more hread' hrest' =>
      rw [hread] at hread'
      cases hread'
      rw [ih hrest']

theorem length_slice (items : List α) {cursor limit : Int} (hcursor : 0 ≤ cursor)
    (hlimit : 0 ≤ limit) :
    (slice items cursor (cursor + limit)).length =
      min limit.toNat (items.length - cursor.toNat) := by
  rw [slice_of_nonneg items hcursor hlimit, List.length_take, List.length_drop]

/-- A window holds no more than its limit. -/
theorem length_slice_le (items : List α) {cursor limit : Int} (hlimit : 0 ≤ limit) :
    ((slice items cursor (cursor + limit)).length : Int) ≤ limit := by
  unfold slice sliceIndex
  rw [List.length_drop, List.length_take]
  split <;> split <;> omega

/-- A window and what is behind it are what was behind the cursor. -/
theorem slice_append_drop (items : List α) {cursor limit : Int} (hcursor : 0 ≤ cursor)
    (hlimit : 0 ≤ limit) :
    slice items cursor (cursor + limit) ++
        items.drop (cursor + (slice items cursor (cursor + limit)).length).toNat =
      items.drop cursor.toNat := by
  rw [length_slice items hcursor hlimit, slice_of_nonneg items hcursor hlimit]
  by_cases hall : limit.toNat ≤ items.length - cursor.toNat
  · have hto : (cursor + ((min limit.toNat (items.length - cursor.toNat) : Nat) : Int)).toNat =
        cursor.toNat + limit.toNat := by omega
    rw [hto, ← List.drop_drop, List.take_append_drop]
  · have hto : items.length ≤
        (cursor + ((min limit.toNat (items.length - cursor.toNat) : Nat) : Int)).toNat := by omega
    rw [List.drop_of_length_le hto, List.append_nil, List.take_of_length_le]
    rw [List.length_drop]
    omega

/-- What was read before a window, and the window, are what will have been read. -/
theorem take_append_slice (items : List α) {cursor limit : Int} (hcursor : 0 ≤ cursor)
    (hlimit : 0 ≤ limit) :
    items.take cursor.toNat ++ slice items cursor (cursor + limit) =
      items.take (cursor + (slice items cursor (cursor + limit)).length).toNat := by
  have hall := slice_append_drop items hcursor hlimit
  have happend : (items.take cursor.toNat ++ slice items cursor (cursor + limit)) ++
      items.drop (cursor + (slice items cursor (cursor + limit)).length).toNat = items := by
    rw [List.append_assoc, hall, List.take_append_drop]
  have hlength := length_slice items hcursor hlimit
  have hleft : (items.take cursor.toNat ++ slice items cursor (cursor + limit)).length =
      (items.take (cursor + (slice items cursor (cursor + limit)).length).toNat).length := by
    rw [List.length_append, List.length_take, List.length_take]
    omega
  have hsplit := happend.trans
    (List.take_append_drop (cursor + (slice items cursor (cursor + limit)).length).toNat items).symm
  exact (List.append_inj hsplit hleft).1

/-- **Paging is lossless**: following the cursors ends, and the pages are what is behind the cursor,
in order. -/
theorem exists_follows {ε : Type} {read : Int → Except ε (List α × Option Int)} {items : List α}
    {limit : Int} (hread : ∀ cursor, read cursor = .ok (window items cursor limit))
    (hlimit : 0 < limit) {cursor : Int} (hcursor : 0 ≤ cursor) :
    ∃ pages, Follows read cursor pages ∧ pages.flatten = items.drop cursor.toNat := by
  -- by induction on what is behind the cursor
  generalize hn : items.length - cursor.toNat = n
  induction n using Nat.strong_induction_on generalizing cursor with
  | _ n ih =>
    have hlength := length_slice items hcursor hlimit.le
    have happend := slice_append_drop items hcursor hlimit.le
    by_cases hmore : cursor + (slice items cursor (cursor + limit)).length < items.length
    · obtain ⟨pages, hpages, hflatten⟩ := ih
        (items.length - (cursor + (slice items cursor (cursor + limit)).length).toNat)
        (by omega) (by omega) rfl
      refine ⟨_, .more (by rw [hread, window, if_pos hmore]) hpages, ?_⟩
      rw [List.flatten_cons, hflatten]
      exact happend
    · refine ⟨_, .last (by rw [hread, window, if_neg hmore]), ?_⟩
      have hempty : items.drop
          (cursor + (slice items cursor (cursor + limit)).length).toNat = [] :=
        List.drop_of_length_le (by omega)
      rw [hempty, List.append_nil] at happend
      rw [List.flatten_cons, List.flatten_nil, List.append_nil]
      exact happend

/-! ## Stable sorting -/

/-- What a sort compares by: a total preorder of the entries. -/
structure SortKey (α : Type) where
  le : α → α → Bool
  total : ∀ a b, le a b = true ∨ le b a = true
  trans : ∀ a b c, le a b = true → le b c = true → le a c = true

namespace SortKey

/-- By the value of a key. -/
def ofKey {K : Type} [LinearOrder K] (key : α → K) : SortKey α where
  le a b := decide (key a ≤ key b)
  total a b := by simpa using le_total (key a) (key b)
  trans a b c hab hbc := by
    rw [decide_eq_true_eq] at hab hbc ⊢
    exact hab.trans hbc

/-- The other way round. -/
def reverse (key : SortKey α) : SortKey α where
  le a b := key.le b a
  total a b := key.total b a
  trans a b c hab hbc := key.trans c b a hbc hab

/-- `sorted(entries, key=…)`: stable. -/
def sort (key : SortKey α) (entries : List α) : List α :=
  entries.insertionSort fun a b => key.le a b = true

variable {I : Type} [LinearOrder I] {key : SortKey α} {ident : α → I}

/-- Before another in the order of a key, ties in the order of the identifiers. -/
def Before (key : SortKey α) (ident : α → I) (a b : α) : Prop :=
  key.le a b = true ∧ (key.le b a = true → ident a < ident b)

theorem pairwise_orderedInsert {l : List α} {a : α} (hl : l.Pairwise (key.Before ident))
    (ha : ∀ b ∈ l, ident a < ident b) :
    (l.orderedInsert (fun a b => key.le a b = true) a).Pairwise (key.Before ident) := by
  induction l with
  | nil => exact List.pairwise_singleton _ _
  | cons b l ih =>
    rw [List.pairwise_cons] at hl
    rw [List.orderedInsert_cons]
    by_cases hab : key.le a b = true
    · -- what comes first among equals stays first
      rw [if_pos hab, List.pairwise_cons, List.pairwise_cons]
      refine ⟨fun c hc => ⟨?_, fun _ => ha c hc⟩, hl⟩
      rcases List.mem_cons.mp hc with rfl | hc
      · exact hab
      · exact key.trans a b c hab (hl.1 c hc).1
    · rw [if_neg hab, List.pairwise_cons]
      refine ⟨fun c hc => ?_, ih hl.2 fun c hc => ha c (List.mem_cons_of_mem _ hc)⟩
      rcases (List.mem_orderedInsert _).mp hc with rfl | hc
      · have hba : key.le b c = true := (key.total c b).resolve_left hab
        exact ⟨hba, fun h => absurd h hab⟩
      · exact hl.1 c hc

/-- **A stable sort** breaks ties by the order it found. -/
theorem pairwise_sort {l : List α} (hl : l.Pairwise fun a b => ident a < ident b) :
    (key.sort l).Pairwise (key.Before ident) := by
  unfold sort
  induction l with
  | nil => exact List.Pairwise.nil
  | cons a l ih =>
    rw [List.pairwise_cons] at hl
    rw [List.insertionSort_cons]
    apply pairwise_orderedInsert (ih hl.2)
    intro b hb
    exact hl.1 b ((List.mem_insertionSort _).mp hb)

theorem perm_sort (l : List α) : (key.sort l).Perm l := List.perm_insertionSort _ l

end SortKey

end Paging
