import Mathlib.Tactic.Common

/-!
# Transactions — bodies that fail, catch and write

A transaction body runs against the state its session sees. It returns a value or raises, and
**either way it leaves behind the writes it has made so far**: an exception that the body catches
does not take back the statements issued before it. Only the owner of the session decides between
commit and rollback, once the whole body has ended (`Tx.commit`).

* **`Tx`** — the body: `σ → Except ε α × σ`, a lawful monad with `throw` and `try … catch`.
* **`Tx.commit`** — what the owner keeps: the final state of a body that returned, the initial
  state of a body that raised; `Tx.savepoint` does the same inside a body.
* **`Tx.Leads`** — every returning run of the body relates its two end states by `R`; closed under
  the monad for a preorder `R`, so a property of a long body is read off its statements.
* **`Tx.Fails`** — the same for the runs that raise an exception of some kind: what a handler of
  that kind starts from.
* **`Tx.Follows`** — every run, however it ends, relates its two end states by `R`: what a handler
  of any kind starts from, and what is committed when it returns.
* **`Tx.Yields`** — every value the body returns satisfies a predicate.
* **`Tx.Still`** — the body writes nothing, however it ends; `Tx.StillAt` says so of one state.
-/

namespace Transactional

/-- The body of one transaction over states `σ`: it returns an `α` or raises an `ε`, and in both
cases hands back the session state with its own writes applied. -/
def Tx (σ ε α : Type) : Type := σ → Except ε α × σ

namespace Tx

variable {σ ε α β : Type}

/-- Run a body from a session state. -/
def run (x : Tx σ ε α) (s : σ) : Except ε α × σ := x s

instance : Monad (Tx σ ε) where
  pure a := fun s => (.ok a, s)
  bind x f := fun s =>
    match x.run s with
    | (.ok a, s') => (f a).run s'
    | (.error e, s') => (.error e, s')

instance : MonadExceptOf ε (Tx σ ε) where
  throw e := fun s => (.error e, s)
  tryCatch x handler := fun s =>
    match x.run s with
    | (.ok a, s') => (.ok a, s')
    | (.error e, s') => (handler e).run s'

/-- A read: the value of `f` on the session state. -/
def read (f : σ → α) : Tx σ ε α := fun s => (.ok (f s), s)

/-- An unconditional write. -/
def write (f : σ → σ) : Tx σ ε Unit := fun s => (.ok (), f s)

/-- Lift a pure computation that may raise. -/
def lift (x : Except ε α) : Tx σ ε α := fun s => (x, s)

/-- The state the owner of the session keeps: a body that returned is committed, one that raised
is rolled back. -/
def commit (x : Tx σ ε α) (s : σ) : Except ε α × σ :=
  match x.run s with
  | (.ok a, s') => (.ok a, s')
  | (.error e, _) => (.error e, s)

/-- A body inside a savepoint: an exception takes its writes back before it goes on. -/
def savepoint (x : Tx σ ε α) : Tx σ ε α := x.commit

/-! ## Running each construct -/

@[simp] theorem run_pure (a : α) (s : σ) : (pure a : Tx σ ε α).run s = (.ok a, s) := rfl

@[simp] theorem run_throw (e : ε) (s : σ) : (throw e : Tx σ ε α).run s = (.error e, s) := rfl

@[simp] theorem run_read (f : σ → α) (s : σ) : (read f : Tx σ ε α).run s = (.ok (f s), s) := rfl

@[simp] theorem run_write (f : σ → σ) (s : σ) : (write f : Tx σ ε Unit).run s = (.ok (), f s) := rfl

@[simp] theorem run_lift (x : Except ε α) (s : σ) : (lift x : Tx σ ε α).run s = (x, s) := rfl

theorem run_bind (x : Tx σ ε α) (f : α → Tx σ ε β) (s : σ) :
    (x >>= f).run s =
      match x.run s with
      | (.ok a, s') => (f a).run s'
      | (.error e, s') => (.error e, s') := rfl

theorem run_tryCatch (x : Tx σ ε α) (handler : ε → Tx σ ε α) (s : σ) :
    (tryCatch x handler).run s =
      match x.run s with
      | (.ok a, s') => (.ok a, s')
      | (.error e, s') => (handler e).run s' := rfl

/-- A body whose first part returns continues from the state that part left. -/
theorem run_bind_of_ok {x : Tx σ ε α} {f : α → Tx σ ε β} {s s' : σ} {a : α}
    (hx : x.run s = (.ok a, s')) : (x >>= f).run s = (f a).run s' := by
  rw [run_bind, hx]

/-- A body whose first part raises ends there, with that part's writes. -/
theorem run_bind_of_error {x : Tx σ ε α} {f : α → Tx σ ε β} {s s' : σ} {e : ε}
    (hx : x.run s = (.error e, s')) : (x >>= f).run s = (.error e, s') := by
  rw [run_bind, hx]

theorem run_map_of_ok (f : α → β) {x : Tx σ ε α} {s s' : σ} {a : α}
    (hx : x.run s = (.ok a, s')) : (f <$> x).run s = (.ok (f a), s') :=
  run_bind_of_ok hx

theorem run_map_of_error (f : α → β) {x : Tx σ ε α} {s s' : σ} {e : ε}
    (hx : x.run s = (.error e, s')) : (f <$> x).run s = (.error e, s') :=
  run_bind_of_error hx

@[simp] theorem run_map_lift (f : α → β) (x : Except ε α) (s : σ) :
    (f <$> (lift x : Tx σ ε α)).run s = (f <$> x, s) := by
  cases x <;> rfl

/-- A body that returns is not handled. -/
theorem run_tryCatch_of_ok {x : Tx σ ε α} {handler : ε → Tx σ ε α} {s s' : σ} {a : α}
    (hx : x.run s = (.ok a, s')) : (tryCatch x handler).run s = (.ok a, s') := by
  rw [run_tryCatch, hx]

/-- A body that raises hands its exception and its writes to the handler. -/
theorem run_tryCatch_of_error {x : Tx σ ε α} {handler : ε → Tx σ ε α} {s s' : σ} {e : ε}
    (hx : x.run s = (.error e, s')) : (tryCatch x handler).run s = (handler e).run s' := by
  rw [run_tryCatch, hx]

@[simp] theorem run_read_bind (g : σ → α) (f : α → Tx σ ε β) (s : σ) :
    ((read g : Tx σ ε α) >>= f).run s = (f (g s)).run s := rfl

@[simp] theorem run_pure_bind (a : α) (f : α → Tx σ ε β) (s : σ) :
    ((pure a : Tx σ ε α) >>= f).run s = (f a).run s := rfl

@[simp] theorem run_write_bind (g : σ → σ) (f : Unit → Tx σ ε β) (s : σ) :
    ((write g : Tx σ ε Unit) >>= f).run s = (f ()).run (g s) := rfl

@[simp] theorem run_throw_bind (e : ε) (f : α → Tx σ ε β) (s : σ) :
    ((throw e : Tx σ ε α) >>= f).run s = (.error e, s) := rfl

@[simp] theorem run_ite (c : Prop) [Decidable c] (x y : Tx σ ε α) (s : σ) :
    (if c then x else y).run s = if c then x.run s else y.run s := by
  split <;> rfl

theorem map_id (x : Tx σ ε α) : id <$> x = x := by
  funext s
  show (id <$> x).run s = x.run s
  cases hx : x.run s with
  | mk r s' =>
    cases r with
    | ok a => exact run_map_of_ok id hx
    | error e => exact run_map_of_error id hx

theorem bind_bind {γ : Type} (x : Tx σ ε α) (f : α → Tx σ ε β) (g : β → Tx σ ε γ) :
    x >>= f >>= g = x >>= fun a => f a >>= g := by
  funext s
  show (x >>= f >>= g).run s = (x >>= fun a => f a >>= g).run s
  cases hx : x.run s with
  | mk r s' =>
    cases r with
    | ok a => rw [run_bind (x >>= f), run_bind_of_ok hx, run_bind_of_ok hx, run_bind (f a)]
    | error e => rw [run_bind (x >>= f), run_bind_of_error hx, run_bind_of_error hx]

instance : LawfulMonad (Tx σ ε) :=
  LawfulMonad.mk' (Tx σ ε) map_id (fun _ _ => rfl) bind_bind

/-! ## Inverting a sequence -/

/-- A sequence returned: its first part returned, and the second returned from there. -/
theorem bind_ok {x : Tx σ ε α} {f : α → Tx σ ε β} {s s'' : σ} {b : β} :
    (x >>= f).run s = (.ok b, s'') ↔
      ∃ a s', x.run s = (.ok a, s') ∧ (f a).run s' = (.ok b, s'') := by
  rw [run_bind]
  constructor
  · intro h
    cases hx : x.run s with
    | mk r s' =>
      cases r with
      | ok a => rw [hx] at h; exact ⟨a, s', rfl, h⟩
      | error e => rw [hx] at h; simp at h
  · rintro ⟨a, s', hx, hf⟩
    rw [hx]; exact hf

/-- A sequence raised: its first part did, or the second did from where the first ended. -/
theorem bind_error {x : Tx σ ε α} {f : α → Tx σ ε β} {s s'' : σ} {e : ε} :
    (x >>= f).run s = (.error e, s'') ↔
      x.run s = (.error e, s'') ∨
        ∃ a s', x.run s = (.ok a, s') ∧ (f a).run s' = (.error e, s'') := by
  rw [run_bind]
  constructor
  · intro h
    cases hx : x.run s with
    | mk r s' =>
      cases r with
      | ok a => rw [hx] at h; exact .inr ⟨a, s', rfl, h⟩
      | error e' => rw [hx] at h; exact .inl (by simpa using h)
  · rintro (hx | ⟨a, s', hx, hf⟩)
    · rw [hx]
    · rw [hx]; exact hf

/-- What a loop raises one of its statements raised. -/
theorem forM_error {f : α → Tx σ ε PUnit} {items : List α} {s s' : σ} {e : ε}
    (h : (items.forM f).run s = (.error e, s')) :
    ∃ a ∈ items, ∃ t t', (f a).run t = (.error e, t') := by
  induction items generalizing s with
  | nil => cases h
  | cons a rest ih =>
    rcases bind_error.mp h with hfirst | ⟨u, t, -, hrest⟩
    · exact ⟨a, List.mem_cons_self, s, s', hfirst⟩
    · obtain ⟨b, hb, hraised⟩ := ih hrest
      exact ⟨b, List.mem_cons_of_mem a hb, hraised⟩

/-- A guarded `throw` that returned did not throw. -/
theorem throw_ok {e : ε} {s s' : σ} {a : α} :
    ¬ (throw e : Tx σ ε α).run s = (.ok a, s') := by
  simp

/-- A lifted computation that returned. -/
theorem lift_ok {x : Except ε α} {s s' : σ} {a : α} :
    (lift x : Tx σ ε α).run s = (.ok a, s') ↔ x = .ok a ∧ s' = s := by
  rw [run_lift, Prod.mk.injEq, eq_comm (a := s)]

/-! ## Committing -/

theorem commit_of_ok {x : Tx σ ε α} {s s' : σ} {a : α} (hx : x.run s = (.ok a, s')) :
    x.commit s = (.ok a, s') := by
  rw [commit, hx]

theorem commit_of_error {x : Tx σ ε α} {s s' : σ} {e : ε} (hx : x.run s = (.error e, s')) :
    x.commit s = (.error e, s) := by
  rw [commit, hx]

/-- A commit that reports a value is of a run that returned it. -/
theorem commit_ok {x : Tx σ ε α} {s s' : σ} {a : α} :
    x.commit s = (.ok a, s') ↔ x.run s = (.ok a, s') := by
  unfold commit
  cases hx : x.run s with
  | mk r s'' => cases r <;> simp

theorem run_savepoint_of_ok {x : Tx σ ε α} {s s' : σ} {a : α} (hx : x.run s = (.ok a, s')) :
    x.savepoint.run s = (.ok a, s') :=
  commit_of_ok hx

theorem run_savepoint_of_error {x : Tx σ ε α} {s s' : σ} {e : ε} (hx : x.run s = (.error e, s')) :
    x.savepoint.run s = (.error e, s) :=
  commit_of_error hx

theorem savepoint_ok {x : Tx σ ε α} {s s' : σ} {a : α} :
    x.savepoint.run s = (.ok a, s') ↔ x.run s = (.ok a, s') :=
  commit_ok

/-- A savepoint that raised wrote nothing. -/
theorem savepoint_error {x : Tx σ ε α} {s s' : σ} {e : ε} :
    x.savepoint.run s = (.error e, s') ↔ s' = s ∧ ∃ s'', x.run s = (.error e, s'') := by
  cases hx : x.run s with
  | mk r s'' =>
    cases r with
    | ok a => rw [run_savepoint_of_ok hx]; simp
    | error e' =>
      rw [run_savepoint_of_error hx]
      simp [eq_comm, and_comm]

/-- What an owner commits is the end state of a returning run, or nothing at all. -/
theorem commit_cases (x : Tx σ ε α) (s : σ) :
    (∃ a, x.run s = (.ok a, (x.commit s).2)) ∨ (x.commit s).2 = s := by
  cases hx : x.run s with
  | mk r s' =>
    cases r with
    | ok a => left; exact ⟨a, by rw [commit_of_ok hx]⟩
    | error e => right; rw [commit_of_error hx]

/-! ## Bodies that return -/

/-- From `s` the body returns. -/
def Returns (s : σ) (x : Tx σ ε α) : Prop := ∃ a s', x.run s = (.ok a, s')

theorem Returns.pure (a : α) (s : σ) : Returns s (pure a : Tx σ ε α) := ⟨a, s, rfl⟩

/-- A sequence returns when its parts do, one after the other. -/
theorem returns_bind {x : Tx σ ε α} {f : α → Tx σ ε β} {s : σ} :
    Returns s (x >>= f) ↔ ∃ a s', x.run s = (.ok a, s') ∧ Returns s' (f a) := by
  constructor
  · rintro ⟨b, s'', hrun⟩
    obtain ⟨a, s', hx, hf⟩ := bind_ok.mp hrun
    exact ⟨a, s', hx, b, s'', hf⟩
  · rintro ⟨a, s', hx, b, s'', hf⟩
    exact ⟨b, s'', bind_ok.mpr ⟨a, s', hx, hf⟩⟩

theorem returns_bind_of_ok {x : Tx σ ε α} {f : α → Tx σ ε β} {s s' : σ} {a : α}
    (hx : x.run s = (.ok a, s')) : Returns s (x >>= f) ↔ Returns s' (f a) := by
  unfold Returns
  rw [run_bind_of_ok hx]

/-- From `s` the body writes nothing, whether it returns or raises. -/
def StillAt (s : σ) (x : Tx σ ε α) : Prop := (x.run s).2 = s

theorem StillAt.bind {s : σ} {x : Tx σ ε α} {f : α → Tx σ ε β} (hx : StillAt s x)
    (hf : ∀ a, StillAt s (f a)) : StillAt s (x >>= f) := by
  unfold StillAt at *
  rw [run_bind]
  cases hrun : x.run s with
  | mk r s' =>
    rw [hrun] at hx
    cases r with
    | ok a => rw [show s' = s from hx]; exact hf a
    | error e => exact hx

/-- A body that raises without a write hides whatever follows it. -/
theorem StillAt.of_error {s : σ} {x : Tx σ ε α} {f : α → Tx σ ε β} {e : ε}
    (hx : x.run s = (.error e, s)) : StillAt s (x >>= f) := by
  rw [StillAt, run_bind_of_error hx]

theorem StillAt.ite {s : σ} {c : Prop} [Decidable c] {x y : Tx σ ε α} (hx : c → StillAt s x)
    (hy : ¬ c → StillAt s y) : StillAt s (if c then x else y) := by
  split
  · rename_i hc; exact hx hc
  · rename_i hc; exact hy hc

theorem StillAt.tryCatch {s : σ} {x : Tx σ ε α} {handler : ε → Tx σ ε α} (hx : StillAt s x)
    (hhandler : ∀ e, x.run s = (.error e, s) → StillAt s (handler e)) :
    StillAt s (tryCatch x handler) := by
  unfold StillAt at hx
  rw [StillAt, run_tryCatch]
  cases hrun : x.run s with
  | mk r s' =>
    rw [hrun] at hx
    cases r with
    | ok a => exact hx
    | error e =>
      rw [show s' = s from hx] at hrun ⊢
      exact hhandler e hrun

/-- Committing a body that writes nothing keeps the state. -/
theorem StillAt.commit {s : σ} {x : Tx σ ε α} (hx : StillAt s x) : (x.commit s).2 = s := by
  rcases commit_cases x s with ⟨a, ha⟩ | hs
  · rw [StillAt, ha] at hx; exact hx
  · exact hs

/-- The body writes nothing, from any state. -/
structure Still (x : Tx σ ε α) : Prop where
  unchanged : ∀ s, StillAt s x

theorem Still.pure (a : α) : Still (pure a : Tx σ ε α) := ⟨fun _ => rfl⟩

theorem Still.throw (e : ε) : Still (throw e : Tx σ ε α) := ⟨fun _ => rfl⟩

theorem Still.read (f : σ → α) : Still (read f : Tx σ ε α) := ⟨fun _ => rfl⟩

theorem Still.lift (x : Except ε α) : Still (lift x : Tx σ ε α) := ⟨fun _ => rfl⟩

theorem Still.bind {x : Tx σ ε α} {f : α → Tx σ ε β} (hx : Still x) (hf : ∀ a, Still (f a)) :
    Still (x >>= f) :=
  ⟨fun s => (hx.unchanged s).bind fun a => (hf a).unchanged s⟩

theorem Still.ite {c : Prop} [Decidable c] {x y : Tx σ ε α} (hx : Still x) (hy : Still y) :
    Still (if c then x else y) :=
  ⟨fun s => .ite (fun _ => hx.unchanged s) fun _ => hy.unchanged s⟩

/-- A body that writes nothing ends where it started. -/
theorem Still.eq_of_run {x : Tx σ ε α} (hx : Still x) {s s' : σ} {r : Except ε α}
    (h : x.run s = (r, s')) : s' = s := by
  have := hx.unchanged s
  rwa [StillAt, h] at this

/-! ## Bodies whose returning runs follow a relation -/

/-- Every run of the body that returns leads from its initial state to its final one by `R`. -/
structure Leads (R : σ → σ → Prop) (x : Tx σ ε α) : Prop where
  led : ∀ {s a s'}, x.run s = (.ok a, s') → R s s'

section Leads

variable {R : σ → σ → Prop}

/-- A weaker relation is led to as well. -/
theorem Leads.mono {R' : σ → σ → Prop} {x : Tx σ ε α} (hx : Leads R x)
    (himp : ∀ s s', R s s' → R' s s') : Leads R' x :=
  ⟨fun h => himp _ _ (hx.led h)⟩

theorem Leads.of_still (hrefl : ∀ s, R s s) {x : Tx σ ε α} (hx : Still x) : Leads R x :=
  ⟨fun h => by rw [hx.eq_of_run h]; exact hrefl _⟩

/-- **Sequencing.** What the two parts lead through composes to what the whole leads through. -/
theorem Leads.seq {S T : σ → σ → Prop} (hcomp : ∀ s s' s'', R s s' → S s' s'' → T s s'')
    {x : Tx σ ε α} {f : α → Tx σ ε β} (hx : Leads R x) (hf : ∀ a, Leads S (f a)) :
    Leads T (x >>= f) := by
  refine ⟨fun h => ?_⟩
  obtain ⟨a, s', ha, hb⟩ := bind_ok.mp h
  exact hcomp _ s' _ (hx.led ha) ((hf a).led hb)

theorem Leads.bind (htrans : ∀ s s' s'', R s s' → R s' s'' → R s s'') {x : Tx σ ε α}
    {f : α → Tx σ ε β} (hx : Leads R x) (hf : ∀ a, Leads R (f a)) : Leads R (x >>= f) :=
  hx.seq htrans hf

theorem Leads.throw (e : ε) : Leads R (throw e : Tx σ ε α) :=
  ⟨fun h => absurd h throw_ok⟩

theorem Leads.ite {c : Prop} [Decidable c] {x y : Tx σ ε α} (hx : c → Leads R x)
    (hy : ¬ c → Leads R y) : Leads R (if c then x else y) := by
  split
  · rename_i hc; exact hx hc
  · rename_i hc; exact hy hc

/-- A loop over statements each of which is led through a preorder. -/
theorem Leads.forM (hrefl : ∀ s, R s s) (htrans : ∀ s s' s'', R s s' → R s' s'' → R s s'')
    {f : α → Tx σ ε PUnit} (hf : ∀ a, Leads R (f a)) (items : List α) :
    Leads R (items.forM f) := by
  induction items with
  | nil => exact .of_still hrefl (Still.pure _)
  | cons a rest ih => exact (hf a).bind htrans fun _ => ih

/-- **The commit rule.** A reflexive relation that the returning runs follow relates the state
before a transaction to the state its owner keeps. -/
theorem Leads.commit (hrefl : ∀ s, R s s) {x : Tx σ ε α} (hx : Leads R x) (s : σ) :
    R s (x.commit s).2 := by
  rcases commit_cases x s with ⟨a, ha⟩ | hs
  · exact hx.led ha
  · rw [hs]; exact hrefl s

end Leads

/-! ## Bodies whose runs follow a relation, however they end

For what must hold even of a run that raises, because an answer may commit it. -/

/-- Every run of the body leads from its initial state to its final one by `R`. -/
structure Follows (R : σ → σ → Prop) (x : Tx σ ε α) : Prop where
  followed : ∀ {s r s'}, x.run s = (r, s') → R s s'

section Follows

variable {R : σ → σ → Prop}

theorem Follows.mono {R' : σ → σ → Prop} {x : Tx σ ε α} (hx : Follows R x)
    (himp : ∀ s s', R s s' → R' s s') : Follows R' x :=
  ⟨fun h => himp _ _ (hx.followed h)⟩

theorem Follows.leads {x : Tx σ ε α} (hx : Follows R x) : Leads R x := ⟨fun h => hx.followed h⟩

theorem Follows.of_still (hrefl : ∀ s, R s s) {x : Tx σ ε α} (hx : Still x) : Follows R x :=
  ⟨fun h => by rw [hx.eq_of_run h]; exact hrefl _⟩

theorem Follows.bind (htrans : ∀ s s' s'', R s s' → R s' s'' → R s s'') {x : Tx σ ε α}
    {f : α → Tx σ ε β} (hx : Follows R x) (hf : ∀ a, Follows R (f a)) : Follows R (x >>= f) := by
  refine ⟨fun {s r s''} h => ?_⟩
  cases r with
  | ok b =>
    obtain ⟨a, s', ha, hb⟩ := bind_ok.mp h
    exact htrans _ s' _ (hx.followed ha) ((hf a).followed hb)
  | error e =>
    rcases bind_error.mp h with h | ⟨a, s', ha, hb⟩
    · exact hx.followed h
    · exact htrans _ s' _ (hx.followed ha) ((hf a).followed hb)

theorem Follows.map {x : Tx σ ε α} (hx : Follows R x) (f : α → β) : Follows R (f <$> x) := by
  refine ⟨fun {s r s'} h => ?_⟩
  cases hrun : x.run s with
  | mk r' s'' =>
    cases r' with
    | ok a => rw [run_map_of_ok f hrun] at h; cases h; exact hx.followed hrun
    | error e => rw [run_map_of_error f hrun] at h; cases h; exact hx.followed hrun

theorem Follows.ite {c : Prop} [Decidable c] {x y : Tx σ ε α} (hx : c → Follows R x)
    (hy : ¬ c → Follows R y) : Follows R (if c then x else y) := by
  split
  · rename_i hc; exact hx hc
  · rename_i hc; exact hy hc

/-- A handler goes on from wherever the exception left the state. -/
theorem Follows.tryCatch (htrans : ∀ s s' s'', R s s' → R s' s'' → R s s'') {x : Tx σ ε α}
    {handler : ε → Tx σ ε α} (hx : Follows R x) (hhandler : ∀ e, Follows R (handler e)) :
    Follows R (tryCatch x handler) := by
  refine ⟨fun {s r s''} h => ?_⟩
  rw [run_tryCatch] at h
  cases hrun : x.run s with
  | mk r' s' =>
    rw [hrun] at h
    cases r' with
    | ok a => cases h; exact hx.followed hrun
    | error e => exact htrans _ s' _ (hx.followed hrun) ((hhandler e).followed h)

theorem Follows.savepoint (hrefl : ∀ s, R s s) {x : Tx σ ε α} (hx : Follows R x) :
    Follows R x.savepoint := by
  refine ⟨fun {s r s'} h => ?_⟩
  cases r with
  | ok a => exact hx.followed (savepoint_ok.mp h)
  | error e => rw [(savepoint_error.mp h).1]; exact hrefl s

/-! A body that follows a relation from one state, whichever way it ends. -/

/-- From `s`, whatever the body returns or raises, it has followed `R`. -/
def FollowsAt (R : σ → σ → Prop) (s : σ) (x : Tx σ ε α) : Prop := R s (x.run s).2

theorem Follows.at {x : Tx σ ε α} (hx : Follows R x) (s : σ) : FollowsAt R s x :=
  hx.followed rfl

theorem Follows.of_at {x : Tx σ ε α} (hx : ∀ s, FollowsAt R s x) : Follows R x := by
  refine ⟨fun {s r s'} h => ?_⟩
  have hs := hx s
  rw [FollowsAt, h] at hs
  exact hs

/-- What follows the first part goes on from where it ended. -/
theorem FollowsAt.bind (htrans : ∀ s s' s'', R s s' → R s' s'' → R s s'') {s : σ} {x : Tx σ ε α}
    {f : α → Tx σ ε β} (hx : FollowsAt R s x)
    (hf : ∀ a s', x.run s = (.ok a, s') → FollowsAt R s' (f a)) : FollowsAt R s (x >>= f) := by
  unfold FollowsAt at hx ⊢
  rw [run_bind]
  cases hrun : x.run s with
  | mk r s' =>
    rw [hrun] at hx
    cases r with
    | ok a => exact htrans _ s' _ hx (hf a s' hrun)
    | error e => exact hx

/-- After a read the rest decides. -/
theorem FollowsAt.afterStill (hrefl : ∀ s, R s s) {s : σ} {x : Tx σ ε α} {f : α → Tx σ ε β}
    (hx : Still x) (hf : ∀ a, x.run s = (.ok a, s) → FollowsAt R s (f a)) :
    FollowsAt R s (x >>= f) := by
  unfold FollowsAt
  rw [run_bind]
  cases hrun : x.run s with
  | mk r s' =>
    obtain rfl := hx.eq_of_run hrun
    cases r with
    | ok a => exact hf a hrun
    | error e => exact hrefl s'

end Follows

/-! ## What a body returns -/

/-- Every value the body returns satisfies `Q`. -/
structure Yields (Q : α → Prop) (x : Tx σ ε α) : Prop where
  yielded : ∀ {s a s'}, x.run s = (.ok a, s') → Q a

section Yields

variable {Q : α → Prop}

theorem Yields.pure {a : α} (ha : Q a) : Yields Q (pure a : Tx σ ε α) :=
  ⟨fun h => by cases h; exact ha⟩

theorem Yields.throw (e : ε) : Yields Q (throw e : Tx σ ε α) := ⟨fun h => absurd h throw_ok⟩

theorem Yields.bind {x : Tx σ ε β} {f : β → Tx σ ε α} (hf : ∀ b, Yields Q (f b)) :
    Yields Q (x >>= f) := by
  refine ⟨fun h => ?_⟩
  obtain ⟨b, s', -, h⟩ := bind_ok.mp h
  exact (hf b).yielded h

theorem Yields.ite {c : Prop} [Decidable c] {x y : Tx σ ε α} (hx : c → Yields Q x)
    (hy : ¬ c → Yields Q y) : Yields Q (if c then x else y) := by
  split
  · rename_i hc; exact hx hc
  · rename_i hc; exact hy hc

theorem Yields.tryCatch {x : Tx σ ε α} {handler : ε → Tx σ ε α} (hx : Yields Q x)
    (hhandler : ∀ e, Yields Q (handler e)) : Yields Q (tryCatch x handler) := by
  refine ⟨fun {s a s''} h => ?_⟩
  rw [run_tryCatch] at h
  cases hrun : x.run s with
  | mk r s' =>
    rw [hrun] at h
    cases r with
    | ok a' => cases h; exact hx.yielded hrun
    | error e => exact (hhandler e).yielded h

/-- A body run over a list yields item by item. -/
theorem Yields.mapM {γ : Type} {R : γ → α → Prop} {f : γ → Tx σ ε α}
    (hf : ∀ c, Yields (R c) (f c)) (items : List γ) :
    Yields (List.Forall₂ R items) (items.mapM f) := by
  induction items with
  | nil => exact .pure .nil
  | cons c items ih =>
    refine ⟨fun h => ?_⟩
    rw [List.mapM_cons] at h
    obtain ⟨a, s', ha, h₁⟩ := bind_ok.mp h
    obtain ⟨rest, s'', hrest, hpure⟩ := bind_ok.mp h₁
    cases hpure
    exact .cons ((hf c).yielded ha) (ih.yielded hrest)

end Yields

/-! ## Triples

Pre- and postconditions of a body, with one rule for each construct. -/

/-- **Partial correctness.** From a state in `P`, a run of the body that returns ends in a state
that `Q` allows for the value it returned. -/
structure Triple (P : σ → Prop) (x : Tx σ ε α) (Q : α → σ → Prop) : Prop where
  holds : ∀ {s a s'}, P s → x.run s = (.ok a, s') → Q a s'

section Triple

variable {P : σ → Prop} {Q : α → σ → Prop}

theorem Triple.weaken {P' : σ → Prop} {Q' : α → σ → Prop} {x : Tx σ ε α} (hx : Triple P x Q)
    (hpre : ∀ s, P' s → P s) (hpost : ∀ a s, Q a s → Q' a s) : Triple P' x Q' :=
  ⟨fun hs h => hpost _ _ (hx.holds (hpre _ hs) h)⟩

theorem Triple.pure {a : α} (h : ∀ s, P s → Q a s) : Triple P (pure a : Tx σ ε α) Q :=
  ⟨fun hs hrun => by cases hrun; exact h _ hs⟩

theorem Triple.throw (e : ε) : Triple P (throw e : Tx σ ε α) Q := ⟨fun _ h => absurd h throw_ok⟩

/-- **Sequencing.** What the first part establishes for its value is where the second starts. -/
theorem Triple.bind {R : α → σ → Prop} {S : β → σ → Prop} {x : Tx σ ε α} {f : α → Tx σ ε β}
    (hx : Triple P x R) (hf : ∀ a, Triple (R a) (f a) S) : Triple P (x >>= f) S := by
  refine ⟨fun hs h => ?_⟩
  obtain ⟨a, s', ha, h⟩ := bind_ok.mp h
  exact (hf a).holds (hx.holds hs ha) h

theorem Triple.ite {c : Prop} [Decidable c] {x y : Tx σ ε α} (hx : c → Triple P x Q)
    (hy : ¬ c → Triple P y Q) : Triple P (if c then x else y) Q := by
  split
  · rename_i hc; exact hx hc
  · rename_i hc; exact hy hc

/-- What a body leads through, read as a triple. -/
theorem Triple.ofLeads {R : σ → σ → Prop} {x : Tx σ ε α} (hx : Leads R x)
    (h : ∀ a s s', P s → R s s' → Q a s') : Triple P x Q :=
  ⟨fun hs hrun => h _ _ _ hs (hx.led hrun)⟩

/-- A read keeps what holds, and tells where its value comes from. -/
theorem Triple.ofStill {x : Tx σ ε α} (hx : Still x)
    (h : ∀ s a, P s → x.run s = (.ok a, s) → Q a s) : Triple P x Q := by
  refine ⟨fun {s a s'} hs hrun => ?_⟩
  obtain rfl := hx.eq_of_run hrun
  exact h s' a hs hrun

/-- **Handling.** The handler starts from what an exception leaves. -/
theorem Triple.tryCatch {S : ε → σ → Prop} {x : Tx σ ε α} {handler : ε → Tx σ ε α}
    (hx : Triple P x Q) (hfail : ∀ {s e s'}, P s → x.run s = (.error e, s') → S e s')
    (hhandler : ∀ e, Triple (S e) (handler e) Q) : Triple P (tryCatch x handler) Q := by
  refine ⟨fun {s a s''} hs h => ?_⟩
  rw [run_tryCatch] at h
  cases hrun : x.run s with
  | mk r s' =>
    rw [hrun] at h
    cases r with
    | ok a' => cases h; exact hx.holds hs hrun
    | error e => exact (hhandler e).holds (hfail hs hrun) h

/-- The committed state of a body is where it started, or where its triple ends. -/
theorem Triple.commit {P' : σ → Prop} {x : Tx σ ε α} (hx : Triple P x fun _ s => P' s)
    (hkept : ∀ s, P s → P' s) {s : σ} (hs : P s) : P' (x.commit s).2 := by
  rcases commit_cases x s with ⟨a, hrun⟩ | hcommit
  · exact hx.holds hs hrun
  · rw [hcommit]; exact hkept s hs

end Triple

/-! ## What a caught exception leaves behind -/

/-- Every run of the body that raises an exception of the kind `P` leads from its initial state to
the state it leaves behind by `R`. -/
structure Fails (P : ε → Prop) (R : σ → σ → Prop) (x : Tx σ ε α) : Prop where
  failed : ∀ {s e s'}, x.run s = (.error e, s') → P e → R s s'

section Fails

variable {P : ε → Prop} {R : σ → σ → Prop}

theorem Fails.of_still (hrefl : ∀ s, R s s) {x : Tx σ ε α} (hx : Still x) : Fails P R x :=
  ⟨fun h _ => by rw [hx.eq_of_run h]; exact hrefl _⟩

/-- An exception of another kind is none of this kind's business. -/
theorem Fails.throw_of_not {e : ε} (he : ¬ P e) : Fails P R (throw e : Tx σ ε α) :=
  ⟨fun h hP => by cases h; exact absurd hP he⟩

/-- **Sequencing.** A sequence fails in its first part, or in its second after the first led
there. -/
theorem Fails.seq {S T : σ → σ → Prop} (hcomp : ∀ s s' s'', R s s' → S s' s'' → T s s'')
    {x : Tx σ ε α} {f : α → Tx σ ε β} (hfail : Fails P T x) (hx : Leads R x)
    (hf : ∀ a, Fails P S (f a)) : Fails P T (x >>= f) := by
  refine ⟨fun h hP => ?_⟩
  rcases bind_error.mp h with h | ⟨a, s', ha, h⟩
  · exact hfail.failed h hP
  · exact hcomp _ s' _ (hx.led ha) ((hf a).failed h hP)

theorem Fails.bind (htrans : ∀ s s' s'', R s s' → R s' s'' → R s s'') {x : Tx σ ε α}
    {f : α → Tx σ ε β} (hfail : Fails P R x) (hx : Leads R x) (hf : ∀ a, Fails P R (f a)) :
    Fails P R (x >>= f) :=
  hfail.seq htrans hx hf

/-- A sequence whose second part raises nothing of the kind fails as its first part does. -/
theorem Fails.bind_never {x : Tx σ ε α} {f : α → Tx σ ε β} (hfail : Fails P R x)
    (hf : ∀ a, Fails P (fun _ _ => False) (f a)) : Fails P R (x >>= f) := by
  refine ⟨fun h hP => ?_⟩
  rcases bind_error.mp h with h | ⟨a, s', -, h⟩
  · exact hfail.failed h hP
  · exact ((hf a).failed h hP).elim

theorem Fails.never (hx : Fails P (fun _ _ => False) (α := α) (σ := σ) x) : Fails P R x :=
  ⟨fun h hP => (hx.failed h hP).elim⟩

theorem Fails.ite {c : Prop} [Decidable c] {x y : Tx σ ε α} (hx : c → Fails P R x)
    (hy : ¬ c → Fails P R y) : Fails P R (if c then x else y) := by
  split
  · rename_i hc; exact hx hc
  · rename_i hc; exact hy hc

/-- A handler that passes an exception on, or raises nothing of the kind, fails as the body does. -/
theorem Fails.tryCatch {x : Tx σ ε α} {handler : ε → Tx σ ε α} (hfail : Fails P R x)
    (hhandler : ∀ e, handler e = MonadExcept.throw e ∨ Fails P (fun _ _ => False) (handler e)) :
    Fails P R (tryCatch x handler) := by
  refine ⟨fun {s e s''} h hP => ?_⟩
  rw [run_tryCatch] at h
  cases hrun : x.run s with
  | mk r s' =>
    rw [hrun] at h
    cases r with
    | ok a => cases h
    | error e' =>
      rcases hhandler e' with heq | hnever
      · simp only [heq] at h
        cases h
        exact hfail.failed hrun hP
      · exact (hnever.failed h hP).elim

/-- **The rule of `try … catch`.** The handler continues from what the caught exceptions leave;
the others it lets pass. -/
theorem Leads.tryCatch {S T : σ → σ → Prop} (hcomp : ∀ s s' s'', S s s' → T s' s'' → R s s'')
    {x : Tx σ ε α} {handler : ε → Tx σ ε α} (hx : Leads R x) (hfail : Fails P S x)
    (hcaught : ∀ e, P e → Leads T (handler e))
    (hpassed : ∀ e, ¬ P e → handler e = MonadExcept.throw e) : Leads R (tryCatch x handler) := by
  refine ⟨fun {s a s''} h => ?_⟩
  rw [run_tryCatch] at h
  cases hrun : x.run s with
  | mk r s' =>
    rw [hrun] at h
    cases r with
    | ok a' => cases h; exact hx.led hrun
    | error e =>
      by_cases hP : P e
      · exact hcomp _ s' _ (hfail.failed hrun hP) ((hcaught e hP).led h)
      · simp only [hpassed e hP] at h
        exact absurd h throw_ok

end Fails

/-! ## One effect among quiet statements -/

/-- A body made of statements that lead through `Q`, around at most one part that leads through
`E`. -/
structure Around (Q E : σ → σ → Prop) : Prop where
  refl : ∀ s, Q s s
  trans : ∀ s s' s'', Q s s' → Q s' s'' → Q s s''
  effect : ∀ s s', Q s s' → E s s'
  after : ∀ s s' s'', Q s s' → E s' s'' → E s s''
  before : ∀ s s' s'', E s s' → Q s' s'' → E s s''

section Around

variable {Q E : σ → σ → Prop}

theorem Around.effect_refl (h : Around Q E) (s : σ) : E s s := h.effect _ _ (h.refl s)

theorem Around.still (h : Around Q E) {x : Tx σ ε α} (hx : Still x) : Leads Q x :=
  .of_still h.refl hx

/-- A body without the effect. -/
theorem Around.ofQuiet (h : Around Q E) {x : Tx σ ε α} (hx : Leads Q x) : Leads E x :=
  hx.mono h.effect

theorem Around.ofStill (h : Around Q E) {x : Tx σ ε α} (hx : Still x) : Leads E x :=
  h.ofQuiet (h.still hx)

theorem Around.andThen (h : Around Q E) {x : Tx σ ε α} {f : α → Tx σ ε β} (hx : Leads Q x)
    (hf : ∀ a, Leads Q (f a)) : Leads Q (x >>= f) :=
  hx.bind h.trans hf

theorem Around.afterQuiet (h : Around Q E) {x : Tx σ ε α} {f : α → Tx σ ε β} (hx : Leads Q x)
    (hf : ∀ a, Leads E (f a)) : Leads E (x >>= f) :=
  hx.seq h.after hf

theorem Around.thenQuiet (h : Around Q E) {x : Tx σ ε α} {f : α → Tx σ ε β} (hx : Leads E x)
    (hf : ∀ a, Leads Q (f a)) : Leads E (x >>= f) :=
  hx.seq h.before hf

end Around

end Tx

end Transactional
