import ShiftMind.Library.Json

/-!
# Codecs between values and JSON

A codec writes the values of a type as JSON and reads them back, from what it wrote and from
anything that is the same as JSON: a store may reorder the members of an object. The law is a field,
so a codec that loses or misreads a value cannot be built, and the combinators below are the proofs
that the law survives optional values, sequences, pairs and records.

* **`Codec`** — a writer, a reader and their law.
* **`Fields`** — the members of a record, each with its default.
* **`Codec.record`** — a record of such members, checked when it is built.
-/

/-- How the values of a type are written as JSON and read back. -/
structure Codec (F A : Type) [DecidableEq F] where
  dump : A → Json F
  validate : Json F → Option A
  reads : ∀ {a : A} {j : Json F}, (dump a).same j = true → validate j = some a

namespace Codec

variable {F A B R : Type} [DecidableEq F]

/-! ## Scalars -/

/-- Values written as texts. -/
def text (write : A → String) (read : String → Option A) (hread : ∀ a, read (write a) = some a) :
    Codec F A where
  dump a := .string (write a)
  validate
    | .string text => read text
    | _ => none
  reads := by
    intro a j h
    cases j with
    | string text =>
      have htext : write a = text := by simpa [Json.same] using h
      show read text = some a
      rw [← htext, hread]
    | _ => simp [Json.same] at h

def string : Codec F String := text id some fun _ => rfl

/-- No text is written as `null`. -/
theorem string_solid (t : String) : (string : Codec F String).dump t ≠ .null := nofun

/-- A type of finitely many values, each written as a text of its own. -/
def enumeration (values : List A) (write : A → String)
    (hread : ∀ a, (values.find? fun b => write b = write a) = some a) : Codec F A :=
  text write (fun t => values.find? fun b => write b = t) hread

def int : Codec F Int where
  dump n := .int n
  validate
    | .int n => some n
    | _ => none
  reads := by
    intro n j h
    cases j with
    | int m =>
      have hm : n = m := by simpa [Json.same] using h
      rw [hm]
    | _ => simp [Json.same] at h

/-- A number with a fraction; an integer is read as one. -/
def float (ofInt : Int → F) : Codec F F where
  dump x := .float x
  validate
    | .float x => some x
    | .int n => some (ofInt n)
    | _ => none
  reads := by
    intro x j h
    cases j with
    | float y =>
      have hy : x = y := by simpa [Json.same] using h
      rw [hy]
    | _ => simp [Json.same] at h

/-! ## Optional values and sequences -/

/-- A value or `null`, for values that are never written as `null`. -/
def optional (c : Codec F A) (hsolid : ∀ a, c.dump a ≠ .null) : Codec F (Option A) where
  dump
    | none => .null
    | some a => c.dump a
  validate
    | .null => some none
    | j => (c.validate j).map some
  reads := by
    intro a j h
    cases a with
    | none =>
      cases j with
      | null => rfl
      | _ => simp [Json.same] at h
    | some a =>
      have hread := c.reads h
      cases j with
      | null =>
        -- only `null` is the same as `null`
        have h : (c.dump a).same .null = true := h
        cases hdump : c.dump a with
        | null => exact absurd hdump (hsolid a)
        | _ => rw [hdump] at h; simp [Json.same] at h
      | _ => simp only [hread, Option.map_some]

/-- The items of a sequence, read one by one. -/
def validateItems (c : Codec F A) : List (Json F) → Option (List A)
  | [] => some []
  | j :: items => do
    let a ← c.validate j
    let rest ← validateItems c items
    pure (a :: rest)

theorem validateItems_of_same (c : Codec F A) {xs : List A} {items : List (Json F)}
    (h : Json.sameItems (xs.map c.dump) items = true) : c.validateItems items = some xs := by
  induction xs generalizing items with
  | nil =>
    cases items with
    | nil => rfl
    | cons j items => simp [Json.sameItems] at h
  | cons x xs ih =>
    cases items with
    | nil => simp [Json.sameItems] at h
    | cons j items =>
      rw [List.map_cons, Json.sameItems, Bool.and_eq_true] at h
      rw [validateItems, c.reads h.1, ih h.2]
      rfl

/-- A sequence of any length. -/
def list (c : Codec F A) : Codec F (List A) where
  dump xs := .list (xs.map c.dump)
  validate
    | .list items => c.validateItems items
    | _ => none
  reads := by
    intro xs j h
    cases j with
    | list items => exact c.validateItems_of_same (by simpa [Json.same] using h)
    | _ => simp [Json.same] at h

/-- A sequence of exactly two items. -/
def pair (c : Codec F A) (d : Codec F B) : Codec F (A × B) where
  dump x := .list [c.dump x.1, d.dump x.2]
  validate
    | .list [j, k] => do
      let a ← c.validate j
      let b ← d.validate k
      pure (a, b)
    | _ => none
  reads := by
    intro x j h
    cases j with
    | list items =>
      match items with
      | [j, k] =>
        simp only [Json.same, Json.sameItems, Bool.and_eq_true, Bool.and_true] at h
        show (do
          let a ← c.validate j
          let b ← d.validate k
          pure (a, b)) = some x
        rw [c.reads h.1, d.reads h.2]
        rfl
      | [] => simp [Json.same, Json.sameItems] at h
      | [_] => simp [Json.same, Json.sameItems] at h
      | _ :: _ :: _ :: _ => simp [Json.same, Json.sameItems] at h
    | _ => simp [Json.same] at h

end Codec

/-! ## Records -/

/-- Each of the members has one of its name, with the same value, among those of an object. -/
def Json.Carries {F : Type} [DecidableEq F] (members members' : List (String × Json F)) : Prop :=
  ∀ m ∈ members', ∃ j, Dict.get? members m.1 = some j ∧ m.2.same j = true

/-- The members of a record. -/
structure Fields (F A : Type) [DecidableEq F] where
  dump : A → List (String × Json F)
  read : List (String × Json F) → Option A
  reads : ∀ {a : A} {members : List (String × Json F)},
    Json.Carries members (dump a) → read members = some a

namespace Fields

variable {F A B : Type} [DecidableEq F]

/-- One member, with the default that stands for it where it is missing. -/
def one (name : String) (c : Codec F A) (default : Option A) : Fields F A where
  dump a := [(name, c.dump a)]
  read members :=
    match Dict.get? members name with
    | some j => c.validate j
    | none => default
  reads := by
    intro a members h
    obtain ⟨j, hget, hsame⟩ := h _ List.mem_cons_self
    rw [hget]
    exact c.reads hsame

/-- The members of one list, then those of another. -/
def both (x : Fields F A) (y : Fields F B) : Fields F (A × B) where
  dump p := x.dump p.1 ++ y.dump p.2
  read members := do
    let a ← x.read members
    let b ← y.read members
    pure (a, b)
  reads := by
    intro p members h
    have hx := x.reads fun m hm => h m (List.mem_append_left _ hm)
    have hy := y.reads fun m hm => h m (List.mem_append_right _ hm)
    rw [hx, hy]
    rfl

end Fields

namespace Codec

variable {F A R : Type} [DecidableEq F]

/-- **A record** is written member by member. What was read is built, and building it again from its
members succeeds. -/
def record (fields : Fields F A) (view : R → A) (build : A → Option R)
    (hbuild : ∀ r, build (view r) = some r) : Codec F R where
  dump r := .object (fields.dump (view r))
  validate
    | .object members => (fields.read members).bind build
    | _ => none
  reads := by
    intro r j h
    cases j with
    | object members =>
      rw [Json.same, Bool.and_eq_true, Json.sameMembers_iff] at h
      show (fields.read members).bind build = some r
      rw [fields.reads h.2]
      exact hbuild r
    | _ => simp [Json.same] at h

end Codec
