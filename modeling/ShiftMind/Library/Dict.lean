import Mathlib.Data.List.Induction
import Mathlib.Data.List.Nodup
import Mathlib.Algebra.BigOperators.Group.List.Basic
import Mathlib.Algebra.Order.BigOperators.Group.List

/-!
# Dictionaries in insertion order

A dictionary is a list of key–value entries in the order its keys were first inserted, as a
Python `dict` iterates. Everything a grouping loop builds — groups, counters, running sums — is
one fold, `accumulate`, and one lemma, `get?_accumulate`, says what such a loop leaves under a
key: the fold of exactly the items with that key, in order.
-/

namespace Dict

variable {κ ν α : Type} [DecidableEq κ]

/-- The value stored under a key. -/
def get? : List (κ × ν) → κ → Option ν
  | [], _ => none
  | (k', v) :: rest, k => if k' = k then some v else get? rest k

/-- Rewrite the value under a key in place, or append the key at the end. -/
def upsert (f : Option ν → ν) (k : κ) : List (κ × ν) → List (κ × ν)
  | [] => [(k, f none)]
  | (k', v) :: rest => if k' = k then (k', f (some v)) :: rest else (k', v) :: upsert f k rest

def keys (d : List (κ × ν)) : List κ := d.map Prod.fst

theorem get?_upsert (f : Option ν → ν) (k k' : κ) (d : List (κ × ν)) :
    get? (upsert f k d) k' = if k = k' then some (f (get? d k)) else get? d k' := by
  induction d with
  | nil => simp [upsert, get?]
  | cons entry rest ih =>
    obtain ⟨k₀, v⟩ := entry
    by_cases hk : k₀ = k
    · subst hk
      by_cases hk' : k₀ = k' <;> simp [upsert, get?, hk']
    · by_cases hk' : k₀ = k'
      · subst hk'
        simp [upsert, get?, hk, Ne.symm hk]
      · simp [upsert, get?, hk, hk', ih]

theorem mem_keys_upsert {f : Option ν → ν} {k k' : κ} {d : List (κ × ν)} :
    k' ∈ keys (upsert f k d) ↔ k' = k ∨ k' ∈ keys d := by
  induction d with
  | nil => simp [upsert, keys]
  | cons entry rest ih =>
    obtain ⟨k₀, v⟩ := entry
    simp only [keys] at ih
    by_cases hk : k₀ = k
    · subst hk; simp [upsert, keys]
    · simp only [upsert, hk, if_false, keys, List.map_cons, List.mem_cons, ih]
      tauto

theorem nodup_keys_upsert {f : Option ν → ν} {k : κ} {d : List (κ × ν)} (hd : (keys d).Nodup) :
    (keys (upsert f k d)).Nodup := by
  induction d with
  | nil => simp [upsert, keys]
  | cons entry rest ih =>
    obtain ⟨k₀, v⟩ := entry
    simp only [keys, List.map_cons, List.nodup_cons] at hd
    by_cases hk : k₀ = k
    · rw [upsert, if_pos hk]
      exact List.nodup_cons.mpr hd
    · rw [upsert, if_neg hk]
      refine List.nodup_cons.mpr ⟨?_, ih hd.2⟩
      intro h
      exact (mem_keys_upsert.mp h).elim hk hd.1

/-- With distinct keys, an entry is what its key looks up. -/
theorem get?_of_mem {d : List (κ × ν)} (hd : (keys d).Nodup) {k : κ} {v : ν} (h : (k, v) ∈ d) :
    get? d k = some v := by
  induction d with
  | nil => cases h
  | cons entry rest ih =>
    obtain ⟨k₀, v₀⟩ := entry
    simp only [keys, List.map_cons, List.nodup_cons] at hd
    rcases List.mem_cons.mp h with h | h
    · cases h; simp [get?]
    · have hne : k₀ ≠ k := by
        rintro rfl
        exact hd.1 (List.mem_map.mpr ⟨_, h, rfl⟩)
      simpa [get?, hne] using ih hd.2 h

theorem mem_of_get? {d : List (κ × ν)} {k : κ} {v : ν} (h : get? d k = some v) : (k, v) ∈ d := by
  induction d with
  | nil => simp [get?] at h
  | cons entry rest ih =>
    obtain ⟨k₀, v₀⟩ := entry
    by_cases hk : k₀ = k
    · subst hk
      simp only [get?, if_true, Option.some.injEq] at h
      subst h; exact List.mem_cons_self
    · simp only [get?, hk, if_false] at h
      exact List.mem_cons_of_mem _ (ih h)

/-- A dictionary cut down to the keys of a kind. -/
theorem get?_filter (p : κ → Bool) (d : List (κ × ν)) (k : κ) :
    get? (d.filter fun entry => p entry.1) k = if p k then get? d k else none := by
  induction d with
  | nil => simp [get?]
  | cons entry rest ih =>
    obtain ⟨k', v⟩ := entry
    by_cases hk : k' = k
    · subst hk
      by_cases hp : p k' = true <;> simp [hp, get?, ih]
    · by_cases hp : p k' = true <;> simp [hp, get?, hk, ih]

theorem get?_eq_none_of_not_mem {d : List (κ × ν)} {k : κ} (h : k ∉ keys d) : get? d k = none := by
  cases hget : get? d k with
  | none => rfl
  | some v => exact absurd (List.mem_map.mpr ⟨_, mem_of_get? hget, rfl⟩) h

theorem not_mem_keys_of_get? {d : List (κ × ν)} {k : κ} (h : get? d k = none) : k ∉ keys d := by
  intro hmem
  induction d with
  | nil => cases hmem
  | cons entry rest ih =>
    obtain ⟨k', v⟩ := entry
    rw [get?] at h
    split at h
    · cases h
    · rename_i hne
      rcases List.mem_cons.mp hmem with heq | hrest
      · exact hne heq.symm
      · exact ih h hrest

/-! ## Folding a list into a dictionary -/

/-- `d[key(a)] = step(d.get(key(a)), a)` for each item in order. -/
def accumulate (key : α → κ) (step : Option ν → α → ν) (items : List α) : List (κ × ν) :=
  items.foldl (fun d a => upsert (fun old => step old a) (key a) d) []

theorem accumulate_append_singleton (key : α → κ) (step : Option ν → α → ν) (items : List α)
    (a : α) :
    accumulate key step (items ++ [a]) =
      upsert (fun old => step old a) (key a) (accumulate key step items) := by
  simp [accumulate, List.foldl_append]

/-- **What a grouping loop leaves under a key**: the fold of the items carrying that key. -/
theorem get?_accumulate (key : α → κ) (step : Option ν → α → ν) (items : List α) (k : κ) :
    get? (accumulate key step items) k =
      (items.filter fun a => key a = k).foldl (fun old a => some (step old a)) none := by
  induction items using List.reverseRecOn with
  | nil => rfl
  | append_singleton items a ih =>
    rw [accumulate_append_singleton, get?_upsert, List.filter_append, List.foldl_append, ← ih]
    by_cases hk : key a = k
    · subst hk; simp
    · simp [hk]

theorem nodup_keys_accumulate (key : α → κ) (step : Option ν → α → ν) (items : List α) :
    (keys (accumulate key step items)).Nodup := by
  induction items using List.reverseRecOn with
  | nil => exact List.nodup_nil
  | append_singleton items a ih =>
    rw [accumulate_append_singleton]
    exact nodup_keys_upsert ih

theorem mem_accumulate {key : α → κ} {step : Option ν → α → ν} {items : List α} {k : κ} {v : ν} :
    (k, v) ∈ accumulate key step items ↔
      (items.filter fun a => key a = k).foldl (fun old a => some (step old a)) none = some v := by
  rw [← get?_accumulate]
  exact ⟨get?_of_mem (nodup_keys_accumulate key step items), mem_of_get?⟩

/-- `dict(pairs)`: the last value given for a key. -/
def ofPairs (pairs : List (κ × ν)) : List (κ × ν) :=
  accumulate Prod.fst (fun _ p => p.2) pairs

theorem nodup_keys_ofPairs (pairs : List (κ × ν)) : (keys (ofPairs pairs)).Nodup :=
  nodup_keys_accumulate Prod.fst _ pairs

/-- `{key(a): a for a in items}`. -/
def indexBy (key : α → κ) (items : List α) : List (κ × α) :=
  accumulate key (fun _ a => a) items

/-- `defaultdict(list)`: the items under each key, in order. -/
def groupBy (key : α → κ) (items : List α) : List (κ × List α) :=
  accumulate key (fun old a => old.getD [] ++ [a]) items

/-- `Counter`. -/
def counter (items : List κ) : List (κ × Nat) :=
  accumulate id (fun old _ => old.getD 0 + 1) items

/-- `defaultdict(float)` (or `int`): the sum of the amounts under each key. -/
def tally [AddMonoid ν] (pairs : List (κ × ν)) : List (κ × ν) :=
  accumulate Prod.fst (fun old p => old.getD 0 + p.2) pairs

/-- A fold that keeps the last item keeps one of the items. -/
theorem foldl_last {f : α → ν} {l : List α} {o : Option ν} {v : ν}
    (h : l.foldl (fun _ a => some (f a)) o = some v) : o = some v ∨ ∃ a ∈ l, f a = v := by
  induction l generalizing o with
  | nil => exact .inl h
  | cons x xs ih =>
    rcases ih h with h | ⟨a, hmem, ha⟩
    · exact .inr ⟨x, List.mem_cons_self, Option.some.inj h⟩
    · exact .inr ⟨a, List.mem_cons_of_mem _ hmem, ha⟩

/-- An indexed key looks up an item that carries it, and is present when some item does. -/
theorem get?_indexBy_eq_some {key : α → κ} {items : List α} {k : κ} {a : α}
    (h : get? (indexBy key items) k = some a) : a ∈ items ∧ key a = k := by
  rw [indexBy, get?_accumulate] at h
  rcases foldl_last (f := id) h with h | ⟨b, hmem, rfl⟩
  · cases h
  · simpa using List.mem_filter.mp hmem

/-- What a dictionary holds under a key is one of the pairs it was made from. -/
theorem mem_of_get?_ofPairs {pairs : List (κ × ν)} {k : κ} {v : ν}
    (h : get? (ofPairs pairs) k = some v) : (k, v) ∈ pairs := by
  rw [ofPairs, get?_accumulate] at h
  rcases foldl_last (f := Prod.snd) h with h | ⟨pair, hmem, rfl⟩
  · cases h
  · have hpair := List.mem_filter.mp hmem
    have hkey : pair.1 = k := by simpa using hpair.2
    rw [← hkey]
    exact hpair.1

/-- The key of a pair is in the dictionary made from the pairs. -/
theorem exists_get?_ofPairs {pairs : List (κ × ν)} {k : κ} {v : ν} (h : (k, v) ∈ pairs) :
    ∃ w, get? (ofPairs pairs) k = some w := by
  have hfilter : pairs.filter (fun p => p.1 = k) ≠ [] := by
    apply List.ne_nil_of_mem (a := (k, v))
    exact List.mem_filter.mpr ⟨h, decide_eq_true rfl⟩
  rw [ofPairs, get?_accumulate]
  cases hl : pairs.filter (fun p => p.1 = k) using List.reverseRecOn with
  | nil => exact absurd hl hfilter
  | append_singleton rest last _ =>
    rw [List.foldl_append]
    exact ⟨last.2, rfl⟩

/-- A pair whose key has no other value is in the dictionary. -/
theorem get?_ofPairs_of_unique {pairs : List (κ × ν)} {k : κ} {v : ν} (h : (k, v) ∈ pairs)
    (hunique : ∀ w, (k, w) ∈ pairs → w = v) : get? (ofPairs pairs) k = some v := by
  obtain ⟨w, hget⟩ := exists_get?_ofPairs h
  rw [hget, hunique w (mem_of_get?_ofPairs hget)]

/-- A dictionary of pairs under distinct keys holds each of them. -/
theorem get?_ofPairs_of_mem {pairs : List (κ × ν)}
    (hkeys : (pairs.map Prod.fst).Nodup) {k : κ} {v : ν} (h : (k, v) ∈ pairs) :
    get? (ofPairs pairs) k = some v := by
  apply get?_ofPairs_of_unique h
  intro w hmem
  have heq := List.inj_on_of_nodup_map hkeys hmem h rfl
  exact congrArg Prod.snd heq

theorem get?_indexBy_isSome {key : α → κ} {items : List α} {a : α} (h : a ∈ items) :
    ∃ b, get? (indexBy key items) (key a) = some b := by
  have hmem : a ∈ items.filter fun b => key b = key a := List.mem_filter.mpr ⟨h, by simp⟩
  rw [indexBy, get?_accumulate]
  have hsome : ∀ (l : List α), l ≠ [] → ∀ o : Option α,
      ∃ b, l.foldl (fun _ a => some a) o = some b := by
    intro l
    induction l with
    | nil => exact fun h => absurd rfl h
    | cons x xs ih =>
      intro _ o
      cases xs with
      | nil => exact ⟨x, rfl⟩
      | cons y ys => exact ih (by simp) (some x)
  exact hsome _ (List.ne_nil_of_mem hmem) none

theorem foldl_groupBy (l : List α) (acc : List α) :
    l.foldl (fun old a => some (old.getD [] ++ [a])) (some acc) = some (acc ++ l) := by
  induction l generalizing acc with
  | nil => simp
  | cons x xs ih => simp [ih]

/-- **A group** holds exactly the items with its key, in order, and no group is empty. -/
theorem mem_groupBy {key : α → κ} {items : List α} {k : κ} {group : List α} :
    (k, group) ∈ groupBy key items ↔
      group = items.filter (fun a => key a = k) ∧ group ≠ [] := by
  rw [groupBy, mem_accumulate]
  cases hl : items.filter fun a => key a = k with
  | nil => simp +contextual
  | cons x xs =>
    rw [List.foldl_cons]
    simp only [Option.getD_none, List.nil_append]
    rw [foldl_groupBy]
    constructor
    · intro h; cases h; simp
    · rintro ⟨rfl, -⟩; simp

theorem perm_upsert_append (k : κ) (a : α) (d : List (κ × List α)) :
    ((upsert (fun old => old.getD [] ++ [a]) k d).flatMap Prod.snd).Perm
      (d.flatMap Prod.snd ++ [a]) := by
  induction d with
  | nil => exact List.Perm.refl _
  | cons entry rest ih =>
    obtain ⟨k', group⟩ := entry
    rw [upsert]
    split
    · -- the item joins a group that others follow
      simp only [List.flatMap_cons, Option.getD_some, List.append_assoc]
      exact List.perm_append_comm.append_left group
    · simp only [List.flatMap_cons, List.append_assoc]
      exact ih.append_left group

/-- The groups together are the items. -/
theorem perm_groupBy (key : α → κ) (items : List α) :
    ((groupBy key items).flatMap Prod.snd).Perm items := by
  induction items using List.reverseRecOn with
  | nil => exact List.Perm.refl _
  | append_singleton items a ih =>
    unfold groupBy at ih ⊢
    rw [accumulate_append_singleton]
    exact (perm_upsert_append (key a) a _).trans (ih.append_right [a])

/-- Looking a key up in a grouping, an absent group read as empty, filters the items. -/
theorem getD_groupBy (key : α → κ) (items : List α) (k : κ) :
    (get? (groupBy key items) k).getD [] = items.filter fun a => key a = k := by
  rw [groupBy, get?_accumulate]
  cases items.filter fun a => key a = k with
  | nil => rfl
  | cons x xs =>
    rw [List.foldl_cons]
    simp only [Option.getD_none, List.nil_append]
    rw [foldl_groupBy]
    rfl

theorem foldl_counter {l : List α} (n : Nat) :
    l.foldl (fun old _ => some (old.getD 0 + 1)) (some n) = some (n + l.length) := by
  induction l generalizing n with
  | nil => simp
  | cons x xs ih => simp [ih]; omega

theorem mem_counter {items : List κ} {k : κ} {n : Nat} :
    (k, n) ∈ counter items ↔ n = items.count k ∧ n ≠ 0 := by
  rw [counter, mem_accumulate]
  have hcount : items.count k = (items.filter fun a => id a = k).length := by
    rw [List.count_eq_length_filter]
    congr 1
  rw [hcount]
  cases hl : items.filter fun a => id a = k with
  | nil => simp +contextual
  | cons x xs =>
    rw [List.foldl_cons]
    simp only [Option.getD_none, foldl_counter, List.length_cons, Option.some.injEq]
    omega

omit [DecidableEq κ] in
theorem foldl_tally [AddMonoid ν] (l : List (κ × ν)) (total : ν) :
    l.foldl (fun old p => some (old.getD 0 + p.2)) (some total) =
      some (total + (l.map Prod.snd).sum) := by
  induction l generalizing total with
  | nil => simp
  | cons x xs ih => simp [ih, add_assoc]

/-- A running sum under a key is the sum of the amounts added under it. -/
theorem getD_tally [AddMonoid ν] (pairs : List (κ × ν)) (k : κ) :
    (get? (tally pairs) k).getD 0 = ((pairs.filter fun p => p.1 = k).map Prod.snd).sum := by
  rw [tally, get?_accumulate]
  cases pairs.filter fun p => p.1 = k with
  | nil => rfl
  | cons x xs => simp [foldl_tally]

/-- What holds of nothing holds of every running sum exactly if it holds of the sum under every
key. -/
theorem forall_tally_iff [AddMonoid ν] {P : ν → Prop} (hzero : P 0) (pairs : List (κ × ν)) :
    (∀ p ∈ tally pairs, P p.2) ↔ ∀ k, P ((pairs.filter fun p => p.1 = k).map Prod.snd).sum := by
  have hkeys : (keys (tally pairs)).Nodup := nodup_keys_accumulate _ _ _
  constructor
  · intro h k
    rw [← getD_tally]
    cases hget : get? (tally pairs) k with
    | none => exact hzero
    | some v => exact h (k, v) (mem_of_get? hget)
  · rintro h ⟨k, v⟩ hmem
    have hsum := h k
    rw [← getD_tally, get?_of_mem hkeys hmem] at hsum
    exact hsum

/-- A sum over items is one over their groups. -/
theorem sum_groupBy {γ : Type} [AddCommMonoid γ] (key : α → κ) (f : α → γ) (items : List α) :
    ((groupBy key items).map fun entry => (entry.2.map f).sum).sum = (items.map f).sum := by
  rw [← ((perm_groupBy key items).map f).sum_eq, List.map_flatMap, List.flatMap_def,
    List.sum_flatten, List.map_map]
  rfl

/-- Items that add nothing may be left out of a sum. -/
theorem sum_map_filter_of_zero {α γ : Type} [AddCommMonoid γ] (keep : α → Bool) {f : α → γ}
    {items : List α} (h : ∀ a ∈ items, keep a = false → f a = 0) :
    ((items.filter keep).map f).sum = (items.map f).sum := by
  induction items with
  | nil => rfl
  | cons a items ih =>
    have ih := ih fun a' ha' => h a' (List.mem_cons_of_mem _ ha')
    rw [List.filter_cons, List.map_cons, List.sum_cons]
    cases hkeep : keep a with
    | true => rw [if_pos rfl, List.map_cons, List.sum_cons, ih]
    | false =>
      rw [if_neg Bool.false_ne_true, ih, h a List.mem_cons_self hkeep, zero_add]

/-- A sum of nonnegative numbers is zero when each of them is. -/
theorem sum_map_eq_zero_iff {α M : Type} [AddCommMonoid M] [PartialOrder M] [IsOrderedAddMonoid M]
    {f : α → M} {items : List α} (hnonneg : ∀ a ∈ items, 0 ≤ f a) :
    (items.map f).sum = 0 ↔ ∀ a ∈ items, f a = 0 := by
  induction items with
  | nil => simp
  | cons a items ih =>
    have hrest : ∀ b ∈ items, 0 ≤ f b := fun b hb => hnonneg b (List.mem_cons_of_mem _ hb)
    have hsum : 0 ≤ (items.map f).sum := List.sum_nonneg (by simpa using hrest)
    rw [List.map_cons, List.sum_cons, add_eq_zero_iff_of_nonneg (hnonneg a (by simp)) hsum,
      ih hrest,
      List.forall_mem_cons]

theorem sum_filter_upsert [AddCommMonoid ν] (p : κ → Bool) (k : κ) (v : ν) (d : List (κ × ν)) :
    (((upsert (fun old => old.getD 0 + v) k d).filter fun e => p e.1).map Prod.snd).sum =
      ((d.filter fun e => p e.1).map Prod.snd).sum + if p k then v else 0 := by
  induction d with
  | nil => cases hp : p k <;> simp [upsert, hp]
  | cons entry rest ih =>
    obtain ⟨k', v'⟩ := entry
    by_cases hk : k' = k
    · subst hk
      cases hp : p k' <;> simp [upsert, hp, add_right_comm]
    · rw [upsert, if_neg hk, List.filter_cons, List.filter_cons]
      cases hp : p k' <;> simp [ih, add_assoc]

/-- The amounts under the keys of a kind are those that were added under them. -/
theorem sum_filter_tally [AddCommMonoid ν] (p : κ → Bool) (pairs : List (κ × ν)) :
    (((tally pairs).filter fun e => p e.1).map Prod.snd).sum =
      ((pairs.filter fun e => p e.1).map Prod.snd).sum := by
  induction pairs using List.reverseRecOn with
  | nil => rfl
  | append_singleton pairs pair ih =>
    have hlast : tally (pairs ++ [pair]) =
        upsert (fun old => old.getD 0 + pair.2) pair.1 (tally pairs) :=
      accumulate_append_singleton ..
    rw [hlast, sum_filter_upsert, ih, List.filter_append, List.map_append, List.sum_append]
    cases hp : p pair.1 <;> simp [hp]

/-! ## Insertion order -/

theorem upsert_of_get? {k : κ} {v : ν} {d : List (κ × ν)} (h : get? d k = some v) :
    upsert (fun _ => v) k d = d := by
  induction d with
  | nil => cases h
  | cons entry rest ih =>
    obtain ⟨k', v'⟩ := entry
    by_cases hk : k' = k
    · rw [get?, if_pos hk] at h
      cases h
      rw [upsert, if_pos hk]
    · rw [get?, if_neg hk] at h
      rw [upsert, if_neg hk, ih h]

theorem upsert_of_not_mem {f : Option ν → ν} {k : κ} {d : List (κ × ν)} (h : k ∉ keys d) :
    upsert f k d = d ++ [(k, f none)] := by
  induction d with
  | nil => rfl
  | cons entry rest ih =>
    obtain ⟨k', v'⟩ := entry
    rw [keys, List.map_cons, List.mem_cons, not_or] at h
    rw [upsert, if_neg fun heq => h.1 heq.symm, ih h.2]
    rfl

/-- **A second list of items** adds those that were not there, behind the first: an item that
comes again keeps its place. -/
theorem indexBy_append [DecidableEq α] {key : α → κ} {first second : List α}
    (hfirst : indexBy key first = first.map fun a => (key a, a))
    (hkey : ∀ a ∈ first ++ second, ∀ b ∈ first ++ second, key a = key b → a = b)
    (hsecond : second.Nodup) :
    indexBy key (first ++ second) =
      (first ++ second.filter (· ∉ first)).map fun a => (key a, a) := by
  induction second using List.reverseRecOn with
  | nil => simpa using hfirst
  | append_singleton second a ih =>
    rw [List.nodup_append] at hsecond
    have hbefore : ∀ b ∈ first ++ second, b ∈ first ++ (second ++ [a]) := by
      intro b hb
      rw [← List.append_assoc]
      exact List.mem_append_left _ hb
    have ha : a ∈ first ++ (second ++ [a]) := by simp
    have hindex := ih (fun b hb c hc => hkey b (hbefore b hb) c (hbefore c hc)) hsecond.1
    unfold indexBy at hindex ⊢
    rw [← List.append_assoc, accumulate_append_singleton, hindex, List.filter_append]
    by_cases hmem : a ∈ first
    · -- the item is there already
      have hnodup :
          (keys ((first ++ second.filter (· ∉ first)).map fun a => (key a, a))).Nodup := by
        rw [← hindex]
        exact nodup_keys_accumulate ..
      have hget : get? ((first ++ second.filter (· ∉ first)).map fun a => (key a, a)) (key a) =
          some a :=
        get?_of_mem hnodup (List.mem_map.mpr ⟨a, List.mem_append_left _ hmem, rfl⟩)
      rw [upsert_of_get? hget]
      simp [hmem]
    · have hfresh :
          key a ∉ keys ((first ++ second.filter (· ∉ first)).map fun a => (key a, a)) := by
        intro hin
        rw [keys, List.map_map, List.mem_map] at hin
        obtain ⟨b, hb, hsame⟩ := hin
        have hbmem : b ∈ first ++ second := by
          rw [List.mem_append] at hb ⊢
          exact hb.imp_right List.mem_of_mem_filter
        have heq : b = a := hkey b (hbefore b hbmem) a ha hsame
        rw [heq, List.mem_append] at hbmem
        cases hbmem with
        | inl hleft => exact hmem hleft
        | inr hright => exact hsecond.2.2 a hright a (by simp) rfl
      rw [upsert_of_not_mem hfresh]
      simp [hmem, List.append_assoc]

theorem indexBy_of_nodup [DecidableEq α] {key : α → κ} {items : List α}
    (hkey : ∀ a ∈ items, ∀ b ∈ items, key a = key b → a = b) (hnodup : items.Nodup) :
    indexBy key items = items.map fun a => (key a, a) := by
  have hindex : indexBy key ([] ++ items) =
      ([] ++ items.filter (· ∉ [])).map fun a => (key a, a) :=
    indexBy_append rfl (by simpa using hkey) hnodup
  simpa using hindex

/-- What a function makes of the item an index holds under a key. -/
theorem map_get?_indexBy (key : α → κ) (f : α → ν) (items : List α) (k : κ) :
    (get? (indexBy key items) k).map f = get? (ofPairs (items.map fun a => (key a, f a))) k := by
  have hlast : ∀ (l : List α) (o : Option α),
      (l.foldl (fun _ a => some a) o).map f = l.foldl (fun _ a => some (f a)) (o.map f) := by
    intro l
    induction l with
    | nil => exact fun o => rfl
    | cons a l ih => exact fun o => ih (some a)
  rw [indexBy, ofPairs, get?_accumulate, get?_accumulate, hlast, List.filter_map, List.foldl_map]
  rfl

end Dict
