import ShiftMind.Library.Transaction
import Mathlib.Data.List.Pairwise

/-!
# Relations — tables that carry their constraints

A table is a list of rows together with the proof that its row-level checks hold and that no two
of its rows clash on a unique index, so a table that breaks its own schema cannot be built. The
two statements that write, `insert?` and `update?`, answer `none` where a database reports an
integrity error.

* **`Constrained`** — the constraints of a row type: a check on each row, and the pairs of rows
  that some unique index forbids to stand together.
* **`Table`** — rows that satisfy them.
* **`Relvar`** — one table inside a larger state, with its `SELECT`, `INSERT` and `UPDATE`
  statements as transaction bodies.
-/

namespace Relational

open Transactional

/-- The constraints a schema puts on one row type. -/
class Constrained (Row : Type) where
  /-- the `CHECK` constraints of one row -/
  check : Row → Bool
  /-- the two rows agree on the columns of some unique index -/
  clash : Row → Row → Bool
  clash_comm : ∀ a b, clash a b = clash b a

export Constrained (check clash clash_comm)

/-- A table: rows that pass their checks, no two of them clashing. -/
structure Table (Row : Type) [Constrained Row] where
  rows : List Row
  checked : ∀ row ∈ rows, check row = true
  unique : rows.Pairwise fun a b => clash a b = false

namespace Table

variable {Row : Type} [Constrained Row]

def empty : Table Row := ⟨[], by simp, .nil⟩

/-- A table of these rows, if they meet the constraints. -/
def ofRows (rows : List Row) : Table Row :=
  if h : (∀ row ∈ rows, check row = true) ∧ rows.Pairwise fun a b => clash a b = false then
    ⟨rows, h.1, h.2⟩
  else empty

instance : Inhabited (Table Row) := ⟨empty⟩

instance : Membership Row (Table Row) := ⟨fun t row => row ∈ t.rows⟩

instance [DecidableEq Row] (row : Row) (t : Table Row) : Decidable (row ∈ t) :=
  inferInstanceAs (Decidable (row ∈ t.rows))

@[simp] theorem mem_rows {t : Table Row} {row : Row} : row ∈ t.rows ↔ row ∈ t := Iff.rfl

@[simp] theorem not_mem_empty (row : Row) : row ∉ (empty : Table Row) := by
  intro h; cases h

theorem ext_rows {t t' : Table Row} (h : t.rows = t'.rows) : t = t' := by
  cases t; cases t'; cases h; rfl

/-- Rows on which a unique index agrees are one row. -/
theorem eq_of_clash {t : Table Row} {a b : Row} (ha : a ∈ t) (hb : b ∈ t)
    (h : clash a b = true) : a = b := by
  by_contra hne
  have : Std.Symm (fun x y : Row => clash x y = false) :=
    ⟨fun x y hxy => by rw [clash_comm]; exact hxy⟩
  have hfree := t.unique.forall ha hb hne
  rw [h] at hfree; exact absurd hfree (by simp)

/-- The row a predicate selects, where a unique index makes it the only one. -/
def find? (t : Table Row) (sel : Row → Bool) : Option Row := t.rows.find? sel

theorem find?_eq_some {t : Table Row} {sel : Row → Bool} {row : Row}
    (h : t.find? sel = some row) : row ∈ t ∧ sel row = true :=
  ⟨List.mem_of_find?_eq_some h, List.find?_some h⟩

theorem find?_eq_none {t : Table Row} {sel : Row → Bool} :
    t.find? sel = none ↔ ∀ row ∈ t, sel row = false := by
  unfold find?
  rw [List.find?_eq_none]
  exact ⟨fun h row hrow => by simpa using h row hrow, fun h row hrow => by simpa using h row hrow⟩

/-- A predicate that only clashing rows share finds the row that satisfies it. -/
theorem find?_of_mem {t : Table Row} {sel : Row → Bool} {row : Row} (hmem : row ∈ t)
    (hsel : sel row = true)
    (hkey : ∀ a b : Row, sel a = true → sel b = true → clash a b = true) :
    t.find? sel = some row := by
  cases hfind : t.find? sel with
  | none =>
    have := find?_eq_none.mp hfind row hmem
    rw [hsel] at this; exact absurd this (by simp)
  | some found =>
    obtain ⟨hfound, hselFound⟩ := find?_eq_some hfind
    rw [eq_of_clash hfound hmem (hkey _ _ hselFound hsel)]

/-- Two tables with the same selected rows find the same one. -/
theorem find?_eq_of_mem_iff {t t' : Table Row} {sel : Row → Bool}
    (hkey : ∀ a b : Row, sel a = true → sel b = true → clash a b = true)
    (h : ∀ row, sel row = true → (row ∈ t' ↔ row ∈ t)) : t'.find? sel = t.find? sel := by
  cases hfind : t.find? sel with
  | some row =>
    obtain ⟨hmem, hsel⟩ := find?_eq_some hfind
    exact find?_of_mem ((h row hsel).mpr hmem) hsel hkey
  | none =>
    refine find?_eq_none.mpr fun row hmem => Bool.eq_false_iff.mpr fun hsel => ?_
    have hfalse := find?_eq_none.mp hfind row ((h row hsel).mp hmem)
    rw [hsel] at hfalse
    cases hfalse

/-- The rows a unique key selects are the one row that has it. -/
theorem filter_key {t : Table Row} {sel : Row → Bool} {old : Row}
    (hkey : ∀ a ∈ t, ∀ b ∈ t, sel a = true → sel b = true → clash a b = true) (hmem : old ∈ t)
    (hsel : sel old = true) : t.rows.filter sel = [old] := by
  have hpairs := t.unique.sublist (List.filter_sublist (p := sel))
  have hold : old ∈ t.rows.filter sel := List.mem_filter.mpr ⟨hmem, hsel⟩
  cases hfilter : t.rows.filter sel with
  | nil => rw [hfilter] at hold; cases hold
  | cons first rest =>
    have hall : ∀ row ∈ first :: rest, row ∈ t ∧ sel row = true := by
      intro row hrow
      rw [← hfilter] at hrow
      exact List.mem_filter.mp hrow
    cases rest with
    | nil =>
      rw [hfilter, List.mem_singleton] at hold
      rw [hold]
    | cons second rest =>
      -- two selected rows would clash
      rw [hfilter] at hpairs
      have hfree := (List.pairwise_cons.mp hpairs).1 second List.mem_cons_self
      obtain ⟨hfirst, hselFirst⟩ := hall first List.mem_cons_self
      obtain ⟨hsecond, hselSecond⟩ := hall second (List.mem_cons_of_mem _ List.mem_cons_self)
      rw [hkey first hfirst second hsecond hselFirst hselSecond] at hfree
      cases hfree

/-! ## `INSERT` -/

/-- Append a row, unless a check fails or a unique index already holds its key. -/
def insert? (t : Table Row) (row : Row) : Option (Table Row) :=
  if h : check row = true ∧ ∀ other ∈ t.rows, clash other row = false then
    some
      { rows := t.rows ++ [row]
        checked := by
          intro r hr
          rcases List.mem_append.mp hr with hr | hr
          · exact t.checked r hr
          · rw [List.mem_singleton.mp hr]; exact h.1
        unique := by
          rw [List.pairwise_append]
          refine ⟨t.unique, List.pairwise_singleton _ _, ?_⟩
          intro a ha b hb
          rw [List.mem_singleton.mp hb]; exact h.2 a ha }
  else none

theorem insert?_eq_some {t t' : Table Row} {row : Row} (h : t.insert? row = some t') :
    check row = true ∧ (∀ other ∈ t, clash other row = false) ∧ t'.rows = t.rows ++ [row] := by
  unfold insert? at h
  split at h
  · rename_i hcond
    cases h
    exact ⟨hcond.1, hcond.2, rfl⟩
  · cases h

theorem mem_of_insert? {t t' : Table Row} {row r : Row} (h : t.insert? row = some t') :
    r ∈ t' ↔ r ∈ t ∨ r = row := by
  obtain ⟨-, -, hrows⟩ := insert?_eq_some h
  rw [← mem_rows, hrows, List.mem_append, List.mem_singleton, mem_rows]

/-- An inserted row that clashes with itself is new. -/
theorem not_mem_of_insert? {t t' : Table Row} {row : Row} (hself : clash row row = true)
    (h : t.insert? row = some t') : row ∉ t := by
  intro hmem
  have hfree := (insert?_eq_some h).2.1 row hmem
  rw [hself] at hfree
  cases hfree

/-- A row that passes its checks and clashes with none is never refused. -/
theorem insert?_of_free {t : Table Row} {row : Row} (hcheck : check row = true)
    (hfree : ∀ other ∈ t, clash other row = false) : ∃ t', t.insert? row = some t' := by
  unfold insert?
  rw [dif_pos ⟨hcheck, hfree⟩]
  exact ⟨_, rfl⟩

/-! ## `UPDATE` -/

/-- The rows after an `UPDATE … WHERE sel SET set`. -/
def updated (t : Table Row) (sel : Row → Bool) (set : Row → Row) : List Row :=
  t.rows.map fun row => if sel row then set row else row

/-- Rewrite the selected rows, unless the result breaks a constraint. -/
def update? (t : Table Row) (sel : Row → Bool) (set : Row → Row) : Option (Table Row) :=
  if h : (∀ row ∈ t.updated sel set, check row = true) ∧
      (t.updated sel set).Pairwise (fun a b => clash a b = false) then
    some ⟨t.updated sel set, h.1, h.2⟩
  else none

theorem update?_eq_some {t t' : Table Row} {sel : Row → Bool} {set : Row → Row}
    (h : t.update? sel set = some t') :
    t'.rows = t.updated sel set ∧ ∀ row ∈ t.updated sel set, check row = true := by
  unfold update? at h
  split at h
  · rename_i hcond
    cases h
    exact ⟨rfl, hcond.1⟩
  · cases h

/-- A row of the updated table is an old row, rewritten exactly when it was selected. -/
theorem mem_of_update? {t t' : Table Row} {sel : Row → Bool} {set : Row → Row} {r : Row}
    (h : t.update? sel set = some t') :
    r ∈ t' ↔ ∃ row ∈ t, r = if sel row then set row else row := by
  rw [← mem_rows, (update?_eq_some h).1, updated, List.mem_map]
  exact ⟨fun ⟨row, hrow, heq⟩ => ⟨row, hrow, heq.symm⟩,
    fun ⟨row, hrow, heq⟩ => ⟨row, hrow, heq.symm⟩⟩

/-- An assignment that keeps the checks and creates no clash is never refused. -/
theorem update?_of_keeps (t : Table Row) (sel : Row → Bool) (set : Row → Row)
    (hcheck : ∀ row ∈ t, sel row = true → check (set row) = true)
    (hclash : ∀ a ∈ t, ∀ b ∈ t, clash (if sel a then set a else a) (if sel b then set b else b)
      = true → clash a b = true) :
    ∃ t', t.update? sel set = some t' := by
  unfold update?
  rw [dif_pos]
  · exact ⟨_, rfl⟩
  refine ⟨?_, ?_⟩
  · intro row hrow
    obtain ⟨old, hold, rfl⟩ := List.mem_map.mp hrow
    split
    · rename_i hsel; exact hcheck old hold hsel
    · exact t.checked old hold
  · rw [updated, List.pairwise_map]
    refine t.unique.imp_of_mem ?_
    intro a b ha hb hab
    by_contra hcl
    rw [Bool.not_eq_false] at hcl
    rw [hclash a ha b hb hcl] at hab
    exact absurd hab (by simp)

/-- Updating rows that no predicate selects changes nothing. -/
theorem update?_of_none (t : Table Row) (sel : Row → Bool) (set : Row → Row)
    (hsel : ∀ row ∈ t, sel row = false) : t.update? sel set = some t := by
  have hrows : t.updated sel set = t.rows := by
    unfold updated
    rw [List.map_congr_left (g := id) (fun row hrow => by simp [hsel row hrow]), List.map_id]
  unfold update?
  rw [dif_pos ⟨by rw [hrows]; exact t.checked, by rw [hrows]; exact t.unique⟩]
  exact congrArg some (ext_rows hrows)

/-! ## How a statement changes a table

An update by key replaces one row; the others are the rows of before. -/

/-- `t'` is `t` with the row `old` replaced by `new`. -/
structure Replaced (t t' : Table Row) (old new : Row) : Prop where
  mem_old : old ∈ t
  mem_iff : ∀ row, row ∈ t' ↔ row = new ∨ (row ∈ t ∧ row ≠ old)

theorem Replaced.mem_new {t t' : Table Row} {old new : Row} (h : Replaced t t' old new) :
    new ∈ t' :=
  (h.mem_iff new).mpr (.inl rfl)

/-- An update that selects one row, through a predicate on a unique key, replaces that row. -/
theorem Replaced.of_update? {t t' : Table Row} {sel : Row → Bool} {set : Row → Row} {old : Row}
    (hkey : ∀ a b : Row, sel a = true → sel b = true → clash a b = true) (hmem : old ∈ t)
    (hsel : sel old = true) (h : t.update? sel set = some t') : Replaced t t' old (set old) := by
  refine ⟨hmem, fun row => ?_⟩
  rw [mem_of_update? h]
  constructor
  · rintro ⟨r, hr, rfl⟩
    by_cases hsr : sel r = true
    · rw [if_pos hsr, eq_of_clash hr hmem (hkey r old hsr hsel)]; exact .inl rfl
    · rw [if_neg hsr]
      exact .inr ⟨hr, fun heq => hsr (heq ▸ hsel)⟩
  · rintro (rfl | ⟨hr, hne⟩)
    · exact ⟨old, hmem, by rw [if_pos hsel]⟩
    · refine ⟨row, hr, ?_⟩
      rw [if_neg fun hsr => hne (eq_of_clash hr hmem (hkey row old hsr hsel))]

/-- Rows that clash with themselves stand once in their table. -/
theorem nodup (hself : ∀ row : Row, clash row row = true) (t : Table Row) : t.rows.Nodup := by
  refine t.unique.imp fun {a b} hfree heq => ?_
  rw [heq, hself] at hfree
  cases hfree

/-- A replacement, as an exchange of one row for another. -/
theorem Replaced.perm [DecidableEq Row] (hself : ∀ row : Row, clash row row = true)
    {t t' : Table Row} {old new : Row} (h : Replaced t t' old new) (hnew : new ∉ t) :
    t'.rows.Perm (new :: t.rows.erase old) := by
  refine (List.perm_ext_iff_of_nodup (t'.nodup hself) ?_).mpr fun row => ?_
  · refine List.nodup_cons.mpr ⟨fun hmem => hnew (List.mem_of_mem_erase hmem), ?_⟩
    exact (t.nodup hself).erase old
  · rw [List.mem_cons, (t.nodup hself).mem_erase_iff, mem_rows, h.mem_iff, mem_rows,
      and_comm (a := row ≠ old)]

/-- **Selecting through a replacement** whose old row was not selected: the new row joins. -/
theorem Replaced.filter_perm [DecidableEq Row] (hself : ∀ row : Row, clash row row = true)
    {t t' : Table Row} {old new : Row} (h : Replaced t t' old new) (hnew : new ∉ t)
    {p : Row → Bool} (hold : p old = false) :
    (t'.rows.filter p).Perm ((if p new then [new] else []) ++ t.rows.filter p) := by
  have hrest : (t.rows.filter p).Perm ((t.rows.erase old).filter p) := by
    have hperm := (List.perm_cons_erase (mem_rows.mpr h.mem_old)).filter p
    rwa [List.filter_cons_of_neg (by simp [hold])] at hperm
  have hperm := (h.perm hself hnew).filter p
  cases hp : p new with
  | true =>
    rw [List.filter_cons_of_pos hp] at hperm
    simpa using hperm.trans (hrest.symm.cons new)
  | false =>
    rw [List.filter_cons_of_neg (by simp [hp])] at hperm
    simpa using hperm.trans hrest.symm

/-- **Counting through a replacement** whose new row counts only where the old one did. -/
theorem Replaced.countP_le [DecidableEq Row] (hself : ∀ row : Row, clash row row = true)
    {t t' : Table Row} {old new : Row} (h : Replaced t t' old new) (hnew : new ∉ t)
    {p : Row → Bool} (hp : p new = true → p old = true) :
    t'.rows.countP p ≤ t.rows.countP p := by
  have hold := (List.perm_cons_erase (mem_rows.mpr h.mem_old)).countP_eq p
  have hperm := (h.perm hself hnew).countP_eq p
  rw [List.countP_cons] at hold hperm
  rw [hold, hperm]
  cases hcount : p new with
  | false => simp
  | true => simp [hp hcount]

/-- Counting through an insertion. -/
theorem countP_insert? {t t' : Table Row} {row : Row} (h : t.insert? row = some t')
    (p : Row → Bool) : t'.rows.countP p = t.rows.countP p + if p row then 1 else 0 := by
  rw [(insert?_eq_some h).2.2, List.countP_append, List.countP_singleton]

/-- Every row of `t` continues, related by `R`, as a row of `t'`. -/
def Persists (R : Row → Row → Prop) (t t' : Table Row) : Prop :=
  ∀ row ∈ t, ∃ row' ∈ t', R row row'

section Persists

variable {R : Row → Row → Prop}

theorem Persists.refl (hrefl : ∀ row, R row row) (t : Table Row) : Persists R t t :=
  fun row hrow => ⟨row, hrow, hrefl row⟩

theorem Persists.trans (htrans : ∀ a b c, R a b → R b c → R a c) {t t' t'' : Table Row}
    (h : Persists R t t') (h' : Persists R t' t'') : Persists R t t'' := by
  intro row hrow
  obtain ⟨row', hrow', hR⟩ := h row hrow
  obtain ⟨row'', hrow'', hR'⟩ := h' row' hrow'
  exact ⟨row'', hrow'', htrans _ _ _ hR hR'⟩

theorem Persists.of_insert? (hrefl : ∀ row, R row row) {t t' : Table Row} {new : Row}
    (h : t.insert? new = some t') : Persists R t t' :=
  fun row hrow => ⟨row, (mem_of_insert? h).mpr (.inl hrow), hrefl row⟩

/-- An assignment that stays within `R` on the rows it selects lets every row persist. -/
theorem Persists.of_update? (hrefl : ∀ row, R row row) {t t' : Table Row} {sel : Row → Bool}
    {set : Row → Row} (hset : ∀ row ∈ t, sel row = true → R row (set row))
    (h : t.update? sel set = some t') : Persists R t t' := by
  intro row hrow
  refine ⟨if sel row then set row else row, (mem_of_update? h).mpr ⟨row, hrow, rfl⟩, ?_⟩
  split
  · rename_i hsel; exact hset row hrow hsel
  · exact hrefl row

end Persists

end Table

/-! ## Tables inside a state -/

/-- One table of a larger state: how to read it and how to replace it. -/
structure Relvar (σ Row : Type) [Constrained Row] where
  get : σ → Table Row
  put : Table Row → σ → σ
  put_get : ∀ s, put (get s) s = s := by intro s; rfl

namespace Relvar

variable {σ ε Row : Type} [Constrained Row]

/-- `SELECT … WHERE sel`, for a predicate that a unique index makes single-valued. -/
def selectOne (v : Relvar σ Row) (sel : Row → Bool) : Tx σ ε (Option Row) :=
  Tx.read fun s => (v.get s).find? sel

/-- `INSERT`, raising `violation` where a constraint refuses the row. -/
def insertInto (v : Relvar σ Row) (violation : ε) (row : Row) : Tx σ ε Unit := fun s =>
  match (v.get s).insert? row with
  | some t => (.ok (), v.put t s)
  | none => (.error violation, s)

/-- `UPDATE … WHERE sel SET set RETURNING *`, raising `violation` where a constraint refuses it. -/
def updateWhere (v : Relvar σ Row) (violation : ε) (sel : Row → Bool) (set : Row → Row) :
    Tx σ ε (List Row) := fun s =>
  match (v.get s).update? sel set with
  | some t => (.ok (((v.get s).rows.filter sel).map set), v.put t s)
  | none => (.error violation, s)

@[simp] theorem run_selectOne (v : Relvar σ Row) (sel : Row → Bool) (s : σ) :
    (v.selectOne sel : Tx σ ε _).run s = (.ok ((v.get s).find? sel), s) := rfl

theorem still_selectOne (v : Relvar σ Row) (sel : Row → Bool) :
    Tx.Still (v.selectOne sel : Tx σ ε _) := ⟨fun _ => rfl⟩

theorem insertInto_ok {v : Relvar σ Row} {violation : ε} {row : Row} {s s' : σ} {u : Unit} :
    (v.insertInto violation row).run s = (.ok u, s') ↔
      ∃ t, (v.get s).insert? row = some t ∧ s' = v.put t s := by
  unfold insertInto Tx.run
  cases hput : (v.get s).insert? row with
  | none => simp [hput]
  | some t => simp [hput, eq_comm]

theorem insertInto_error {v : Relvar σ Row} {violation e : ε} {row : Row} {s s' : σ} :
    (v.insertInto violation row).run s = (.error e, s') ↔
      (v.get s).insert? row = none ∧ e = violation ∧ s' = s := by
  unfold insertInto Tx.run
  cases hput : (v.get s).insert? row with
  | none => simp [hput, eq_comm]
  | some t => simp [hput]

theorem updateWhere_ok {v : Relvar σ Row} {violation : ε} {sel : Row → Bool} {set : Row → Row}
    {s s' : σ} {rows : List Row} :
    (v.updateWhere violation sel set).run s = (.ok rows, s') ↔
      ∃ t, (v.get s).update? sel set = some t ∧ s' = v.put t s ∧
        rows = ((v.get s).rows.filter sel).map set := by
  unfold updateWhere Tx.run
  cases hput : (v.get s).update? sel set with
  | none => simp [hput]
  | some t => simp [hput, eq_comm, and_comm]

/-- An update that selects no row writes nothing. -/
theorem updateWhere_none {v : Relvar σ Row} {violation : ε} {sel : Row → Bool} {set : Row → Row}
    {s : σ} (hsel : ∀ row ∈ v.get s, sel row = false) :
    (v.updateWhere violation sel set).run s = (.ok [], s) := by
  refine updateWhere_ok.mpr ⟨v.get s, Table.update?_of_none _ _ _ hsel, (v.put_get s).symm, ?_⟩
  rw [List.filter_eq_nil_iff.mpr fun row hrow => Bool.eq_false_iff.mp (hsel row hrow),
    List.map_nil]

/-- An update that reports no row wrote nothing. -/
theorem updateWhere_nil {v : Relvar σ Row} {violation : ε} {sel : Row → Bool} {set : Row → Row}
    {s s' : σ} (h : (v.updateWhere violation sel set).run s = (.ok [], s')) : s' = s := by
  obtain ⟨t, -, -, hrows⟩ := updateWhere_ok.mp h
  have hnone := List.filter_eq_nil_iff.mp (List.map_eq_nil_iff.mp hrows.symm)
  rw [updateWhere_none fun row hrow => Bool.eq_false_iff.mpr (hnone row hrow)] at h
  exact (Prod.mk.inj h).2.symm

/-- **An update through a unique key** that reports a row replaced that row. -/
theorem updateWhere_first {v : Relvar σ Row} {violation : ε} {sel : Row → Bool} {set : Row → Row}
    {s s' : σ} {row : Row} {rest : List Row}
    (hkey : ∀ a b : Row, sel a = true → sel b = true → clash a b = true)
    (h : (v.updateWhere violation sel set).run s = (.ok (row :: rest), s')) :
    ∃ old t, sel old = true ∧ row = set old ∧ (v.get s).Replaced t old row ∧ check row = true ∧
      s' = v.put t s := by
  obtain ⟨t, ht, rfl, hrows⟩ := updateWhere_ok.mp h
  have hfirst : row ∈ ((v.get s).rows.filter sel).map set := by
    rw [← hrows]; exact List.mem_cons_self
  obtain ⟨old, hold, rfl⟩ := List.mem_map.mp hfirst
  obtain ⟨hmem, hsel⟩ := List.mem_filter.mp hold
  refine ⟨old, t, hsel, rfl, .of_update? hkey hmem hsel ht, ?_, rfl⟩
  refine (Table.update?_eq_some ht).2 _ (List.mem_map.mpr ⟨old, hmem, ?_⟩)
  rw [if_pos hsel]

/-- An update through a unique key whose assignment breaks no constraint succeeds. -/
theorem updateWhere_key (v : Relvar σ Row) (violation : ε) {sel : Row → Bool} (set : Row → Row)
    {s : σ} {old : Row} (hkey : ∀ a b : Row, sel a = true → sel b = true → clash a b = true)
    (hmem : old ∈ v.get s) (hsel : sel old = true)
    (hcheck : ∀ row ∈ v.get s, sel row = true → check (set row) = true)
    (hclash : ∀ a ∈ v.get s, ∀ b ∈ v.get s,
      clash (if sel a then set a else a) (if sel b then set b else b) = true → clash a b = true) :
    ∃ t, (v.get s).Replaced t old (set old) ∧
      (v.updateWhere violation sel set).run s = (.ok [set old], v.put t s) := by
  obtain ⟨t, ht⟩ := (v.get s).update?_of_keeps sel set hcheck hclash
  refine ⟨t, .of_update? hkey hmem hsel ht, updateWhere_ok.mpr ⟨t, ht, rfl, ?_⟩⟩
  rw [Table.filter_key (fun a _ b _ => hkey a b) hmem hsel, List.map_cons, List.map_nil]

theorem updateWhere_error {v : Relvar σ Row} {violation e : ε} {sel : Row → Bool}
    {set : Row → Row} {s s' : σ} :
    (v.updateWhere violation sel set).run s = (.error e, s') ↔
      (v.get s).update? sel set = none ∧ e = violation ∧ s' = s := by
  unfold updateWhere Tx.run
  cases hput : (v.get s).update? sel set with
  | none => simp [hput, eq_comm]
  | some t => simp [hput]

/-- An insert returns exactly where the row passes its checks and clashes with none. -/
theorem insertInto_returns {v : Relvar σ Row} {violation : ε} {row : Row} {s : σ} :
    Tx.Returns s (v.insertInto violation row) ↔
      check row = true ∧ ∀ other ∈ v.get s, clash other row = false := by
  constructor
  · rintro ⟨u, s', hrun⟩
    obtain ⟨t, ht, -⟩ := insertInto_ok.mp hrun
    exact ⟨(Table.insert?_eq_some ht).1, (Table.insert?_eq_some ht).2.1⟩
  · rintro ⟨hcheck, hfree⟩
    obtain ⟨t, ht⟩ := Table.insert?_of_free hcheck hfree
    exact ⟨(), v.put t s, insertInto_ok.mpr ⟨t, ht, rfl⟩⟩

/-- A refused update raises the violation it is given and nothing else. -/
theorem updateWhere_fails {v : Relvar σ Row} {violation : ε} {sel : Row → Bool} {set : Row → Row}
    {P : ε → Prop} {R : σ → σ → Prop} (hviolation : ¬ P violation) :
    (v.updateWhere violation sel set).Fails P R :=
  ⟨fun h hP => absurd ((updateWhere_error.mp h).2.1 ▸ hP) hviolation⟩

theorem insertInto_fails {v : Relvar σ Row} {violation : ε} {row : Row} {P : ε → Prop}
    {R : σ → σ → Prop} (hviolation : ¬ P violation) :
    (v.insertInto violation row).Fails P R :=
  ⟨fun h hP => absurd ((insertInto_error.mp h).2.1 ▸ hP) hviolation⟩

/-- A statement on a table follows what any exchange of that table follows. -/
theorem insertInto_follows {v : Relvar σ Row} {R : σ → σ → Prop} (hrefl : ∀ s, R s s)
    (hput : ∀ t s, R s (v.put t s)) (violation : ε) (row : Row) :
    (v.insertInto violation row).Follows R := by
  refine ⟨fun {s r s'} h => ?_⟩
  cases r with
  | ok u => obtain ⟨t, -, rfl⟩ := insertInto_ok.mp h; exact hput t s
  | error e => rw [(insertInto_error.mp h).2.2]; exact hrefl s

theorem updateWhere_follows {v : Relvar σ Row} {R : σ → σ → Prop} (hrefl : ∀ s, R s s)
    (hput : ∀ t s, R s (v.put t s)) (violation : ε) (sel : Row → Bool) (set : Row → Row) :
    (v.updateWhere violation sel set).Follows R := by
  refine ⟨fun {s r s'} h => ?_⟩
  cases r with
  | ok rows => obtain ⟨t, -, rfl, -⟩ := updateWhere_ok.mp h; exact hput t s
  | error e => rw [(updateWhere_error.mp h).2.2]; exact hrefl s

end Relvar

end Relational
