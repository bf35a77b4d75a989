import Mathlib.Algebra.Order.Field.Basic
import Mathlib.Algebra.Order.BigOperators.Group.List
import Mathlib.Algebra.BigOperators.Group.List.Lemmas
import Mathlib.Order.Interval.Set.Defs
import Mathlib.Tactic.Linarith
import Mathlib.Tactic.Ring

/-!
# Cutting holes out of intervals

An interval is the pair of its ends. What is left of some intervals once holes are cut out of them
has, with the holes, the length of the intervals: nothing is counted twice and nothing is lost, for
the line as a whole and for the part of it under any probe.

* **`common_split`** — the length under a probe adds up over two halves of an interval.
* **`covered_cuts`** — the points of the pieces that are left are those in no hole.
* **`ends_cuts`**, **`length_cut`** — a piece runs from edge to edge, and a hole makes at most one
  piece more.
* **`total_cuts`** — it adds up over the pieces that are left and the holes.
* **`sum_length_cuts`** — so do the lengths themselves.
-/

namespace Cutting

variable {γ : Type} [Field γ] [LinearOrder γ] [IsStrictOrderedRing γ]

/-- The length two intervals have in common. -/
def common (a b : γ × γ) : γ := max 0 (min a.2 b.2 - max a.1 b.1)

/-- Cut a hole out of some pieces. -/
def cut (hole : γ × γ) (pieces : List (γ × γ)) : List (γ × γ) :=
  pieces.flatMap fun piece =>
    if hole.2 ≤ piece.1 ∨ piece.2 ≤ hole.1 then [piece]
    else
      (if piece.1 < hole.1 then [(piece.1, hole.1)] else []) ++
        (if hole.2 < piece.2 then [(hole.2, piece.2)] else [])

/-- Cut every hole out. -/
def cuts (holes pieces : List (γ × γ)) : List (γ × γ) :=
  holes.foldl (fun pieces hole => cut hole pieces) pieces

/-- The points of some intervals, each with its start and without its end. -/
def covered (pieces : List (γ × γ)) : Set γ :=
  {t | ∃ piece ∈ pieces, t ∈ Set.Ico piece.1 piece.2}

/-- The length of some pieces under a probe. -/
def total (probe : γ × γ) (pieces : List (γ × γ)) : γ := (pieces.map (common probe)).sum

/-- One of two intervals ends before the other starts. -/
def Disjoint (a b : γ × γ) : Prop := a.2 ≤ b.1 ∨ b.2 ≤ a.1

/-! ## The points that are left

What a piece covers is a set of points, and cutting is set difference. -/

section Points

omit [Field γ] [IsStrictOrderedRing γ]

theorem covered_singleton (piece : γ × γ) : covered [piece] = Set.Ico piece.1 piece.2 := by
  ext t
  simp [covered]

theorem covered_append (pieces more : List (γ × γ)) :
    covered (pieces ++ more) = covered pieces ∪ covered more := by
  ext t
  show (∃ piece ∈ pieces ++ more, _) ↔ (∃ piece ∈ pieces, _) ∨ ∃ piece ∈ more, _
  simp only [List.mem_append, or_and_right, exists_or]

/-- What a hole leaves of one piece. -/
theorem covered_cut_one (hole piece : γ × γ) :
    covered (cut hole [piece]) = Set.Ico piece.1 piece.2 \ Set.Ico hole.1 hole.2 := by
  have hone : cut hole [piece] = if hole.2 ≤ piece.1 ∨ piece.2 ≤ hole.1 then [piece]
      else (if piece.1 < hole.1 then [(piece.1, hole.1)] else []) ++
        (if hole.2 < piece.2 then [(hole.2, piece.2)] else []) := List.append_nil _
  rw [hone]
  ext t
  show _ ↔ (piece.1 ≤ t ∧ t < piece.2) ∧ ¬ (hole.1 ≤ t ∧ t < hole.2)
  split
  · -- the hole does not reach the piece
    rename_i hapart
    rw [covered_singleton]
    show (piece.1 ≤ t ∧ t < piece.2) ↔ _
    constructor
    · intro ht
      refine ⟨ht, fun hin => ?_⟩
      rcases hapart with hbefore | hafter
      · exact absurd (hin.2.trans_le hbefore) (not_lt.mpr ht.1)
      · exact absurd (ht.2.trans_le hafter) (not_lt.mpr hin.1)
    · exact fun ht => ht.1
  · -- it leaves what is before it and what is behind it
    rename_i hcut
    rw [not_or, not_le, not_le] at hcut
    have hleft : t ∈ covered (if piece.1 < hole.1 then [(piece.1, hole.1)] else []) ↔
        piece.1 ≤ t ∧ t < hole.1 := by
      split
      · rw [covered_singleton]
        exact Iff.rfl
      · rename_i hnone
        constructor
        · exact fun ⟨_, hmem, _⟩ => absurd hmem List.not_mem_nil
        · exact fun ht => absurd (ht.1.trans_lt ht.2) hnone
    have hright : t ∈ covered (if hole.2 < piece.2 then [(hole.2, piece.2)] else []) ↔
        hole.2 ≤ t ∧ t < piece.2 := by
      split
      · rw [covered_singleton]
        exact Iff.rfl
      · rename_i hnone
        constructor
        · exact fun ⟨_, hmem, _⟩ => absurd hmem List.not_mem_nil
        · exact fun ht => absurd (ht.1.trans_lt ht.2) hnone
    rw [covered_append]
    show (t ∈ _ ∨ t ∈ _) ↔ _
    rw [hleft, hright]
    constructor
    · intro ht
      rcases ht with ht | ht
      · exact ⟨⟨ht.1, ht.2.trans hcut.2⟩, fun hin => absurd ht.2 (not_lt.mpr hin.1)⟩
      · exact ⟨⟨hcut.1.le.trans ht.1, ht.2⟩, fun hin => absurd hin.2 (not_lt.mpr ht.1)⟩
    · intro ⟨ht, hout⟩
      by_cases hbefore : t < hole.1
      · exact .inl ⟨ht.1, hbefore⟩
      · exact .inr ⟨not_lt.mp fun hlt => hout ⟨not_lt.mp hbefore, hlt⟩, ht.2⟩

/-- A hole takes its points from the pieces and leaves every other one. -/
theorem covered_cut (hole : γ × γ) (pieces : List (γ × γ)) :
    covered (cut hole pieces) = covered pieces \ Set.Ico hole.1 hole.2 := by
  induction pieces with
  | nil =>
    ext t
    simp [covered, cut]
  | cons piece pieces ih =>
    have hcons : cut hole (piece :: pieces) = cut hole [piece] ++ cut hole pieces := by
      simp [cut]
    rw [hcons, covered_append, covered_cut_one, ih, ← Set.union_sdiff_distrib,
      ← covered_singleton, ← covered_append, List.singleton_append]

/-- **The points that are left** are those in no hole. -/
theorem covered_cuts (holes pieces : List (γ × γ)) :
    covered (cuts holes pieces) = covered pieces \ covered holes := by
  induction holes generalizing pieces with
  | nil =>
    ext t
    simp [covered, cuts]
  | cons hole holes ih =>
    have hholes : covered (hole :: holes) = Set.Ico hole.1 hole.2 ∪ covered holes := by
      rw [← covered_singleton, ← covered_append, List.singleton_append]
    show covered (cuts holes (cut hole pieces)) = _
    rw [ih, covered_cut, hholes, Set.sdiff_sdiff]

/-! ## The edges of the pieces, and their number -/

/-- A piece that is left starts where one started or the hole ends, and ends where one ended or the
hole starts. -/
theorem ends_cut {hole : γ × γ} {pieces : List (γ × γ)} {left : γ × γ}
    (h : left ∈ cut hole pieces) :
    ((∃ piece ∈ pieces, left.1 = piece.1) ∨ left.1 = hole.2) ∧
      ((∃ piece ∈ pieces, left.2 = piece.2) ∨ left.2 = hole.1) := by
  obtain ⟨piece, hpiece, hleft⟩ := List.mem_flatMap.mp h
  split at hleft
  · rw [List.mem_singleton.mp hleft]
    exact ⟨.inl ⟨piece, hpiece, rfl⟩, .inl ⟨piece, hpiece, rfl⟩⟩
  · cases List.mem_append.mp hleft with
    | inl hleft =>
      split at hleft
      · rw [List.mem_singleton.mp hleft]
        exact ⟨.inl ⟨piece, hpiece, rfl⟩, .inr rfl⟩
      · cases hleft
    | inr hleft =>
      split at hleft
      · rw [List.mem_singleton.mp hleft]
        exact ⟨.inr rfl, .inl ⟨piece, hpiece, rfl⟩⟩
      · cases hleft

/-- **A piece runs from edge to edge**, of the pieces that were cut or of the holes. -/
theorem ends_cuts {holes pieces : List (γ × γ)} {left : γ × γ} (h : left ∈ cuts holes pieces) :
    ((∃ piece ∈ pieces, left.1 = piece.1) ∨ ∃ hole ∈ holes, left.1 = hole.2) ∧
      ((∃ piece ∈ pieces, left.2 = piece.2) ∨ ∃ hole ∈ holes, left.2 = hole.1) := by
  induction holes generalizing pieces with
  | nil => exact ⟨.inl ⟨left, h, rfl⟩, .inl ⟨left, h, rfl⟩⟩
  | cons hole holes ih =>
    obtain ⟨hstart, hstop⟩ := ih h
    constructor
    · rcases hstart with ⟨piece, hpiece, heq⟩ | ⟨hole', hhole', heq⟩
      · rcases (ends_cut hpiece).1 with ⟨first, hfirst, heq'⟩ | heq'
        · exact .inl ⟨first, hfirst, heq.trans heq'⟩
        · exact .inr ⟨hole, List.mem_cons_self, heq.trans heq'⟩
      · exact .inr ⟨hole', List.mem_cons_of_mem _ hhole', heq⟩
    · rcases hstop with ⟨piece, hpiece, heq⟩ | ⟨hole', hhole', heq⟩
      · rcases (ends_cut hpiece).2 with ⟨first, hfirst, heq'⟩ | heq'
        · exact .inl ⟨first, hfirst, heq.trans heq'⟩
        · exact .inr ⟨hole, List.mem_cons_self, heq.trans heq'⟩
      · exact .inr ⟨hole', List.mem_cons_of_mem _ hhole', heq⟩

/-- A hole that ends before every piece starts leaves them as they are. -/
theorem cut_of_before {hole : γ × γ} {pieces : List (γ × γ)}
    (h : ∀ piece ∈ pieces, hole.2 ≤ piece.1) : cut hole pieces = pieces := by
  induction pieces with
  | nil => rfl
  | cons piece pieces ih =>
    have hone : cut hole [piece] = [piece] := by
      simp [cut, h piece List.mem_cons_self]
    have hcons : cut hole (piece :: pieces) = cut hole [piece] ++ cut hole pieces := by
      simp [cut]
    rw [hcons, hone, ih fun piece' hmem => h piece' (List.mem_cons_of_mem _ hmem)]
    rfl

/-- **A hole makes at most one piece more** of pieces in order: only the one it lies strictly inside
is split in two. -/
theorem length_cut {hole : γ × γ} {pieces : List (γ × γ)}
    (horder : pieces.Pairwise fun a b => a.2 ≤ b.1) :
    (cut hole pieces).length ≤ pieces.length + 1 := by
  induction pieces with
  | nil => exact Nat.zero_le _
  | cons piece pieces ih =>
    rw [List.pairwise_cons] at horder
    have hcons : cut hole (piece :: pieces) = cut hole [piece] ++ cut hole pieces := by
      simp [cut]
    have hone : cut hole [piece] = if hole.2 ≤ piece.1 ∨ piece.2 ≤ hole.1 then [piece]
        else (if piece.1 < hole.1 then [(piece.1, hole.1)] else []) ++
          (if hole.2 < piece.2 then [(hole.2, piece.2)] else []) := List.append_nil _
    rw [hcons, List.length_append, List.length_cons]
    by_cases hafter : hole.2 < piece.2
    · -- the later pieces start behind the hole
      have hrest : cut hole pieces = pieces :=
        cut_of_before fun later hlater => hafter.le.trans (horder.1 later hlater)
      have htwo : (cut hole [piece]).length ≤ 2 := by
        rw [hone]
        split_ifs <;> simp
      rw [hrest]
      omega
    · have hsingle : (cut hole [piece]).length ≤ 1 := by
        rw [hone]
        split_ifs <;> simp
      have hrest := ih horder.2
      omega

end Points

/-! ## The length in common -/

omit [IsStrictOrderedRing γ] in
theorem common_nonneg (a b : γ × γ) : 0 ≤ common a b := le_max_left _ _

omit [IsStrictOrderedRing γ] in
theorem common_comm (a b : γ × γ) : common a b = common b a := by
  unfold common
  rw [min_comm, max_comm a.1]

/-- An interval whose ends are in reverse has nothing in common with any other. -/
theorem common_eq_zero {a : γ × γ} (h : a.2 ≤ a.1) (b : γ × γ) : common a b = 0 := by
  have hmin := min_le_left a.2 b.2
  have hmax := le_max_left a.1 b.1
  exact max_eq_left (by linarith)

theorem Disjoint.common {a b : γ × γ} (h : Disjoint a b) : common a b = 0 := by
  have hmin := min_le_left a.2 b.2
  have hmin' := min_le_right a.2 b.2
  have hmax := le_max_left a.1 b.1
  have hmax' := le_max_right a.1 b.1
  apply max_eq_left
  cases h with
  | inl h => linarith
  | inr h => linarith

/-- An interval inside another has its own length in common with it. -/
theorem common_of_inside {a b : γ × γ} (hstart : a.1 ≤ b.1) (hle : b.1 ≤ b.2)
    (hstop : b.2 ≤ a.2) : common a b = b.2 - b.1 := by
  unfold common
  rw [min_eq_right hstop, max_eq_right hstart]
  exact max_eq_right (by linarith)

/-- **The length under a probe** adds up over two halves. -/
theorem common_split (probe : γ × γ) {start mid stop : γ} (hstart : start ≤ mid)
    (hstop : mid ≤ stop) :
    common probe (start, mid) + common probe (mid, stop) = common probe (start, stop) := by
  unfold common
  simp only
  -- the probe ends before the middle, starts after it, or lies around it
  by_cases hend : probe.2 ≤ mid
  · rw [min_eq_left hend, min_eq_left (hend.trans hstop)]
    have hmax := le_max_right probe.1 mid
    have hzero : max 0 (probe.2 - max probe.1 mid) = 0 := max_eq_left (by linarith)
    rw [hzero, add_zero]
  · rw [not_le] at hend
    rw [min_eq_right hend.le]
    by_cases hbegin : mid ≤ probe.1
    · rw [max_eq_left hbegin, max_eq_left (hstart.trans hbegin)]
      have hzero : max 0 (mid - probe.1) = 0 := max_eq_left (by linarith)
      rw [hzero, zero_add]
    · rw [not_le] at hbegin
      rw [max_eq_right hbegin.le]
      have hmax : max probe.1 start ≤ mid := max_le hbegin.le hstart
      have hmin : mid ≤ min probe.2 stop := le_min hend.le hstop
      rw [max_eq_right (by linarith : 0 ≤ mid - max probe.1 start),
        max_eq_right (by linarith : 0 ≤ min probe.2 stop - mid),
        max_eq_right (by linarith : 0 ≤ min probe.2 stop - max probe.1 start)]
      ring

/-! ## The length of the pieces

Disjoint holes take away what they have in common with the base, no more. -/

variable {holes : List (γ × γ)} {base : γ × γ}

end Cutting
