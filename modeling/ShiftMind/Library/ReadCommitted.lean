import Mathlib.Data.List.Perm.Basic
import Mathlib.Data.List.Pairwise

/-!
# Transactions that insert, under READ COMMITTED

Open transactions insert rows into tables with unique indexes. A statement sees the rows that are
committed when it runs and those its own transaction has inserted; an insertion whose key another
open transaction holds waits for that one to end. Nothing is updated or deleted.

* **`Store`** — the committed rows, and the rows of open transactions under their clients.
* **`Store.Waits`** — an insertion has to wait; `Store.visible` is what a statement sees.
* **`Store.Unique`** — no two rows clash, committed or not: kept by `insert`, `commit` and `abort`,
  so a commit never violates an index.
-/

namespace ReadCommitted

variable {Client Row : Type}

structure Store (Client Row : Type) where
  committed : List Row := []
  /-- the rows of open transactions -/
  pending : List (Client × Row) := []

namespace Store

/-- The rows of a store, committed or not. -/
def rows (s : Store Client Row) : List Row := s.committed ++ s.pending.map Prod.snd

def insert (s : Store Client Row) (c : Client) (row : Row) : Store Client Row :=
  { s with pending := s.pending ++ [(c, row)] }

@[simp] theorem committed_insert (s : Store Client Row) (c : Client) (row : Row) :
    (s.insert c row).committed = s.committed := rfl

theorem mem_pending_insert {s : Store Client Row} {c : Client} {row : Row} {p : Client × Row} :
    p ∈ (s.insert c row).pending ↔ p ∈ s.pending ∨ p = (c, row) := by
  show p ∈ s.pending ++ [(c, row)] ↔ _
  rw [List.mem_append, List.mem_singleton]

variable [DecidableEq Client]

/-- The rows that a transaction has inserted. -/
def own (s : Store Client Row) (c : Client) : List Row :=
  (s.pending.filter fun p => p.1 = c).map Prod.snd

/-- What a statement of a transaction sees. -/
def visible (s : Store Client Row) (c : Client) : List Row := s.committed ++ s.own c

def commit (s : Store Client Row) (c : Client) : Store Client Row where
  committed := s.committed ++ s.own c
  pending := s.pending.filter fun p => p.1 ≠ c

def abort (s : Store Client Row) (c : Client) : Store Client Row :=
  { s with pending := s.pending.filter fun p => p.1 ≠ c }

theorem mem_own {s : Store Client Row} {c : Client} {row : Row} :
    row ∈ s.own c ↔ (c, row) ∈ s.pending := by
  unfold own
  rw [List.mem_map]
  constructor
  · intro ⟨p, hp, hrow⟩
    obtain ⟨hmem, hc⟩ := List.mem_filter.mp hp
    have hpair : p = (c, row) := Prod.ext (of_decide_eq_true hc) hrow
    rw [← hpair]
    exact hmem
  · intro h
    exact ⟨(c, row), List.mem_filter.mpr ⟨h, decide_eq_true rfl⟩, rfl⟩

theorem mem_visible {s : Store Client Row} {c : Client} {row : Row} :
    row ∈ s.visible c ↔ row ∈ s.committed ∨ (c, row) ∈ s.pending := by
  unfold visible
  rw [List.mem_append, mem_own]

@[simp] theorem committed_abort (s : Store Client Row) (c : Client) :
    (s.abort c).committed = s.committed := rfl

theorem mem_committed_commit {s : Store Client Row} {c : Client} {row : Row} :
    row ∈ (s.commit c).committed ↔ row ∈ s.committed ∨ (c, row) ∈ s.pending := mem_visible

theorem mem_pending_commit {s : Store Client Row} {c : Client} {p : Client × Row} :
    p ∈ (s.commit c).pending ↔ p ∈ s.pending ∧ p.1 ≠ c := by
  show p ∈ s.pending.filter _ ↔ _
  rw [List.mem_filter, decide_eq_true_eq]

theorem mem_pending_abort {s : Store Client Row} {c : Client} {p : Client × Row} :
    p ∈ (s.abort c).pending ↔ p ∈ s.pending ∧ p.1 ≠ c := mem_pending_commit

/-! ## Unique indexes -/

variable (clash : Row → Row → Bool)

/-- Another open transaction holds the key of the row. -/
def Waits (s : Store Client Row) (c : Client) (row : Row) : Prop :=
  ∃ p ∈ s.pending, p.1 ≠ c ∧ clash p.2 row = true

instance (s : Store Client Row) (c : Client) (row : Row) : Decidable (s.Waits clash c row) :=
  inferInstanceAs (Decidable (∃ p ∈ s.pending, p.1 ≠ c ∧ clash p.2 row = true))

omit [DecidableEq Client] in
/-- No two rows clash, committed or not. -/
def Unique (s : Store Client Row) : Prop := s.rows.Pairwise fun a b => clash a b = false

variable {clash}

/-- An insertion that need not wait, and clashes with nothing its transaction sees. -/
theorem Unique.insert {s : Store Client Row} (h : s.Unique clash) {c : Client} {row : Row}
    (hwaits : ¬ s.Waits clash c row) (hfree : ∀ r ∈ s.visible c, clash r row = false) :
    (s.insert c row).Unique clash := by
  have hrows : (s.insert c row).rows = s.rows ++ [row] := by
    unfold Store.insert rows
    simp
  unfold Unique
  rw [hrows, List.pairwise_append]
  refine ⟨h, List.pairwise_singleton .., ?_⟩
  intro r hr r' hr'
  rw [List.mem_singleton.mp hr']
  cases List.mem_append.mp hr with
  | inl hcommitted => exact hfree r (mem_visible.mpr (.inl hcommitted))
  | inr hpending =>
    obtain ⟨p, hp, rfl⟩ := List.mem_map.mp hpending
    -- a row of another transaction would have to be waited for
    by_cases hc : p.1 = c
    · exact hfree p.2 (mem_visible.mpr (.inr (by rw [← hc]; exact hp)))
    · exact Bool.eq_false_iff.mpr fun hclash => hwaits ⟨p, hp, hc, hclash⟩

/-- The rows of a store, those of one transaction moved to the front. -/
theorem perm_rows (s : Store Client Row) (c : Client) :
    ((s.commit c).rows).Perm s.rows := by
  unfold rows commit own
  rw [List.append_assoc, ← List.map_append]
  refine List.Perm.append_left _ (List.Perm.map _ ?_)
  have hsplit := List.filter_append_perm (fun p : Client × Row => decide (p.1 = c)) s.pending
  have hrest : (s.pending.filter fun p => decide (p.1 ≠ c)) =
      s.pending.filter fun p => !decide (p.1 = c) := by
    apply List.filter_congr
    intro p _
    exact decide_not
  rw [hrest]
  exact hsplit

/-- **A commit violates no index.** -/
theorem Unique.commit (hcomm : ∀ a b : Row, clash a b = clash b a) {s : Store Client Row}
    (h : s.Unique clash) (c : Client) : (s.commit c).Unique clash :=
  (perm_rows s c).symm.pairwise h fun {a b} hab => by rw [hcomm]; exact hab

theorem Unique.abort {s : Store Client Row} (h : s.Unique clash) (c : Client) :
    (s.abort c).Unique clash :=
  h.sublist (List.Sublist.append_left (List.Sublist.map _ List.filter_sublist) _)

omit [DecidableEq Client] in
/-- Rows on which an index agrees are one row. -/
theorem Unique.eq_of_clash (hcomm : ∀ a b : Row, clash a b = clash b a) {s : Store Client Row}
    (h : s.Unique clash) {a b : Row} (ha : a ∈ s.rows) (hb : b ∈ s.rows)
    (hclash : clash a b = true) : a = b := by
  by_contra hne
  have hsymm : Std.Symm fun x y : Row => clash x y = false :=
    ⟨fun x y hxy => by rw [hcomm]; exact hxy⟩
  have hfree := List.Pairwise.forall h ha hb hne
  rw [hclash] at hfree
  cases hfree

omit [DecidableEq Client] in
theorem mem_rows_of_committed {s : Store Client Row} {row : Row} (h : row ∈ s.committed) :
    row ∈ s.rows :=
  List.mem_append_left _ h

omit [DecidableEq Client] in
theorem mem_rows_of_pending {s : Store Client Row} {p : Client × Row} (h : p ∈ s.pending) :
    p.2 ∈ s.rows :=
  List.mem_append_right _ (List.mem_map.mpr ⟨p, h, rfl⟩)

omit [DecidableEq Client] in
/-- A row that clashes with itself stands once. -/
theorem Unique.nodup {s : Store Client Row} (h : s.Unique clash)
    (hself : ∀ row : Row, clash row row = true) : s.rows.Nodup := by
  refine List.Pairwise.imp (fun {a b} hfree heq => ?_) h
  rw [heq, hself] at hfree
  cases hfree

end Store

end ReadCommitted
