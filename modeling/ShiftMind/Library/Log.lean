import Mathlib.Data.List.Sort
import Mathlib.Order.Basic
import Mathlib.Tactic.Push

/-!
# Append-only logs

A log is a list whose entries carry strictly increasing keys; it grows at its end. A reader that
stands at a cursor still has `after` to read, and what it reads in batches is a prefix of that; a
window onto the newest entries is `newest`.

* **`after_of_split`** — the cursor of an entry splits the log behind that entry.
* **`prefix_after_append`** — what was outstanding is a prefix of what is outstanding later.
* **`filter_sort`** — the entries of a table, in order, and a part of them.
-/

namespace Log

variable {α K : Type} (key : α → K)

/-- The cursor of a reader that has read these entries: that of the last one. -/
def cursorAt (start : K) (read : List α) : K :=
  (read.getLast?.map key).getD start

@[simp] theorem cursorAt_nil (start : K) : cursorAt key start ([] : List α) = start := rfl

@[simp] theorem cursorAt_concat (start : K) (read : List α) (e : α) :
    cursorAt key start (read ++ [e]) = key e := by
  simp [cursorAt]

variable [LinearOrder K]

/-- Each entry has a greater key than the entries before it. -/
def Increasing (log : List α) : Prop := log.Pairwise fun a b => key a < key b

/-- The entries behind a cursor. -/
def after (cursor : K) (log : List α) : List α := log.filter fun e => decide (cursor < key e)

/-- The entries of a set, in the order of their keys. -/
def sort (entries : List α) : List α :=
  entries.insertionSort fun a b => key a ≤ key b

/-- The last `n` entries. -/
def newest (n : Nat) (log : List α) : List α := log.drop (log.length - n)

variable {key}

/-! ## Keys -/

theorem Increasing.nodup {log : List α} (h : Increasing key log) : log.Nodup :=
  List.Pairwise.imp (fun hlt heq => absurd (congrArg key heq) hlt.ne) h

theorem Increasing.sublist {log part : List α} (h : Increasing key log) (hpart : part.Sublist log) :
    Increasing key part :=
  List.Pairwise.sublist hpart h

theorem Increasing.append_left {log more : List α} (h : Increasing key (log ++ more)) :
    Increasing key log :=
  h.sublist (List.sublist_append_left ..)

/-- An entry of the first part lies below every entry of the second. -/
theorem Increasing.lt_of_append {log more : List α} (h : Increasing key (log ++ more)) {a b : α}
    (ha : a ∈ log) (hb : b ∈ more) : key a < key b :=
  (List.pairwise_append.mp h).2.2 a ha b hb

theorem Increasing.append {log more : List α} (h : Increasing key log)
    (hmore : Increasing key more) (hlt : ∀ a ∈ log, ∀ b ∈ more, key a < key b) :
    Increasing key (log ++ more) :=
  List.pairwise_append.mpr ⟨h, hmore, hlt⟩

/-- Logs with the same entries are one log. -/
theorem Increasing.eq_of_perm {log log' : List α} (h : Increasing key log)
    (h' : Increasing key log') (hperm : log.Perm log') : log = log' :=
  hperm.eq_of_pairwise (fun _ _ _ _ hab hba => absurd hab (lt_asymm hba)) h h'

theorem Increasing.ext {log log' : List α} (h : Increasing key log) (h' : Increasing key log')
    (hmem : ∀ a, a ∈ log ↔ a ∈ log') : log = log' :=
  h.eq_of_perm h' ((List.perm_ext_iff_of_nodup h.nodup h'.nodup).mpr hmem)

/-! ## Reading behind a cursor

A reader that takes what is behind its cursor, and moves it to the last it took, skips nothing and
repeats nothing. -/

theorem after_append (cursor : K) (log more : List α) :
    after key cursor (log ++ more) = after key cursor log ++ after key cursor more :=
  List.filter_append ..

/-- What was outstanding stays outstanding, in front of what was appended. -/
theorem prefix_after_append {read : List α} {cursor : K} {log : List α} (more : List α)
    (h : read <+: after key cursor log) : read <+: after key cursor (log ++ more) := by
  rw [after_append]
  exact h.trans (List.prefix_append ..)

/-- **The cursor of an entry**: behind it stands the rest of the log. -/
theorem after_of_split {log before rest : List α} {e : α} (h : Increasing key log)
    (hlog : log = before ++ e :: rest) : after key (key e) log = rest := by
  subst hlog
  have hbefore : after key (key e) before = [] := by
    refine List.filter_eq_nil_iff.mpr fun a ha => ?_
    have hlt := h.lt_of_append ha List.mem_cons_self
    simpa using le_of_lt hlt
  have hrest : after key (key e) rest = rest := by
    refine List.filter_eq_self.mpr fun a ha => ?_
    have htail := (List.pairwise_cons.mp (List.pairwise_append.mp h).2.1).1 a ha
    simpa using htail
  have hself : after key (key e) [e] = [] := by simp [after]
  rw [after_append, hbefore, List.nil_append]
  show after key (key e) ([e] ++ rest) = rest
  rw [after_append, hself, hrest, List.nil_append]

/-- **Resuming where one stopped.** Behind the cursor of what was read stands what was not. -/
theorem after_cursorAt {log read rest : List α} {start : K} (h : Increasing key log)
    (hread : after key start log = read ++ rest) :
    after key (cursorAt key start read) log = rest := by
  cases hlast : read.getLast? with
  | none =>
    rw [List.getLast?_eq_none_iff.mp hlast] at hread ⊢
    exact hread
  | some e =>
    obtain ⟨init, rfl⟩ := List.getLast?_eq_some_iff.mp hlast
    have houtstanding : Increasing key (after key start log) := h.sublist List.filter_sublist
    have hmem : e ∈ after key start log := by rw [hread]; simp
    have hstart : start < key e := by simpa using (List.mem_filter.mp hmem).2
    -- a cursor further on cuts the same entries off the whole log and off what was outstanding
    have hfurther : after key (key e) log = after key (key e) (after key start log) := by
      unfold after
      rw [List.filter_filter]
      refine List.filter_congr fun a _ => ?_
      by_cases ha : key e < key a
      · simp [ha, hstart.trans ha]
      · simp [ha]
    rw [cursorAt_concat, hfurther]
    exact after_of_split houtstanding (by rw [hread, List.append_assoc, List.singleton_append])

/-! ## Windows -/

theorem newest_suffix (n : Nat) (log : List α) : newest n log <:+ log := List.drop_suffix ..

theorem length_newest (n : Nat) (log : List α) : (newest n log).length = min n log.length := by
  unfold newest
  rw [List.length_drop]
  omega

/-- Behind enough entries nothing older is in the window. -/
theorem newest_append {n : Nat} (log : List α) {more : List α} (h : n ≤ more.length) :
    newest n (log ++ more) = newest n more := by
  unfold newest
  rw [List.length_append, List.drop_append]
  have hlog : log.drop (log.length + more.length - n) = [] := List.drop_eq_nil_of_le (by omega)
  rw [hlog, List.nil_append]
  congr 1
  omega

/-- A window with room left keeps what came last. -/
theorem newest_append_of_le {n : Nat} {log more : List α} (h : more.length ≤ n) :
    newest n (log ++ more) = newest (n - more.length) log ++ more := by
  unfold newest
  rw [List.length_append, List.drop_append]
  have hmore : more.drop (log.length + more.length - n - log.length) = more := by
    rw [show log.length + more.length - n - log.length = 0 by omega, List.drop_zero]
  rw [hmore]
  congr 2
  omega

theorem newest_newest_append (n : Nat) (log more : List α) :
    newest n (newest n log ++ more) = newest n (log ++ more) := by
  cases Nat.le_total n more.length with
  | inl h => rw [newest_append _ h, newest_append _ h]
  | inr h =>
    rw [newest_append_of_le h, newest_append_of_le h]
    congr 1
    unfold newest
    rw [List.length_drop, List.drop_drop]
    congr 1
    omega

theorem newest_map {β : Type} (f : α → β) (n : Nat) (log : List α) :
    newest n (log.map f) = (newest n log).map f := by
  unfold newest
  rw [List.length_map, List.map_drop]

/-! ## The entries of a table -/

theorem perm_sort (entries : List α) : (sort key entries).Perm entries :=
  List.perm_insertionSort ..

theorem mem_sort {entries : List α} {e : α} : e ∈ sort key entries ↔ e ∈ entries :=
  (perm_sort entries).mem_iff

theorem pairwise_sort (entries : List α) : (sort key entries).Pairwise fun a b => key a ≤ key b :=
  List.pairwise_insertionSort (r := fun a b => key a ≤ key b) entries

/-- A log is the only sorted list of its entries. -/
theorem Increasing.eq_of_sorted {log entries : List α} (h : Increasing key log)
    (hsorted : entries.Pairwise fun a b => key a ≤ key b) (hperm : entries.Perm log) :
    entries = log := by
  have hdistinct : entries.Pairwise fun a b => key a ≠ key b :=
    hperm.symm.pairwise (h.imp fun hlt => hlt.ne) fun hne heq => hne heq.symm
  have hincreasing : Increasing key entries :=
    hsorted.imp₂ (fun _ _ hle hne => lt_of_le_of_ne hle hne) hdistinct
  exact hincreasing.eq_of_perm h hperm

/-- Entries with different keys, sorted, are a log. -/
theorem increasing_sort {entries : List α} (h : entries.Pairwise fun a b => key a ≠ key b) :
    Increasing key (sort key entries) := by
  have hsorted : (sort key entries).Pairwise fun a b => key a ≤ key b := pairwise_sort entries
  have hdistinct : (sort key entries).Pairwise fun a b => key a ≠ key b :=
    (perm_sort entries).symm.pairwise h fun hne heq => hne heq.symm
  exact hsorted.imp₂ (fun _ _ hle hne => lt_of_le_of_ne hle hne) hdistinct

/-- A part of the entries is sorted as it stands among all of them. -/
theorem filter_sort {entries : List α} (h : entries.Pairwise fun a b => key a ≠ key b)
    (p : α → Bool) : sort key (entries.filter p) = (sort key entries).filter p := by
  have hpart : (entries.filter p).Pairwise fun a b => key a ≠ key b :=
    h.sublist List.filter_sublist
  refine (increasing_sort hpart).eq_of_perm ((increasing_sort h).sublist List.filter_sublist) ?_
  exact (perm_sort _).trans ((perm_sort entries).filter p).symm

/-- Entries that keep their keys keep their places. -/
theorem sort_map {β : Type} {key' : β → K} {f : α → β} (hkey : ∀ a, key' (f a) = key a)
    (entries : List α) : sort key' (entries.map f) = (sort key entries).map f := by
  unfold sort
  rw [List.map_insertionSort (r := fun a b => key a ≤ key b) (s := fun a b => key' a ≤ key' b)]
  intro a _ b _
  rw [hkey, hkey]

/-- A log is sorted. -/
theorem sort_of_increasing {log : List α} (h : Increasing key log) : sort key log = log := by
  have hdistinct : log.Pairwise fun a b => key a ≠ key b := h.imp fun hlt heq => hlt.ne heq
  exact (increasing_sort hdistinct).eq_of_perm h (perm_sort log)

/-! ## Numbered logs -/

section Numbered

variable {number : α → Int}

/-- The entries carry `offset + 1`, `offset + 2`, … in order. -/
def Numbered (number : α → Int) (offset : Int) (log : List α) : Prop :=
  ∀ i (h : i < log.length), number log[i] = offset + i + 1

theorem Numbered.nil (offset : Int) : Numbered number offset ([] : List α) :=
  fun i h => absurd h (by simp)

/-- The next number goes on. -/
theorem Numbered.concat {offset : Int} {log : List α} (h : Numbered number offset log) {e : α}
    (he : number e = offset + log.length + 1) : Numbered number offset (log ++ [e]) := by
  intro i hi
  rw [List.length_append, List.length_singleton] at hi
  by_cases hlast : i < log.length
  · rw [List.getElem_append_left hlast]
    exact h i hlast
  · have hindex : i = log.length := by omega
    subst hindex
    rw [List.getElem_append_right le_rfl]
    simpa using he

theorem Numbered.increasing {offset : Int} {log : List α} (h : Numbered number offset log) :
    Increasing number log := by
  refine List.pairwise_iff_getElem.mpr fun i j hi hj hij => ?_
  have hat := h i hi
  have hat' := h j hj
  omega

/-- The greatest number is the number of entries. -/
theorem Numbered.max {log : List α} (h : Numbered number 0 log) :
    (log.map number).max?.getD 0 = log.length := by
  cases hlength : log.length with
  | zero => rw [List.eq_nil_of_length_eq_zero hlength]; rfl
  | succ n =>
    have hmax : (log.map number).max? = some ((n : Int) + 1) := by
      rw [List.max?_eq_some_iff]
      constructor
      · have hn : n < log.length := by omega
        refine List.mem_map.mpr ⟨log[n], List.getElem_mem hn, ?_⟩
        rw [h n hn]
        omega
      · intro number' hmem
        obtain ⟨e, he, rfl⟩ := List.mem_map.mp hmem
        obtain ⟨i, hi, rfl⟩ := List.getElem_of_mem he
        rw [h i hi]
        omega
    rw [hmax, Option.getD_some]
    omega

end Numbered

end Log
