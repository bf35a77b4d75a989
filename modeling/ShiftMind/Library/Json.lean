import Mathlib.Data.List.Intervals
import Mathlib.Data.List.Lex
import ShiftMind.Library.Dict
import ShiftMind.Library.Log

/-!
# JSON values

JSON values over a type of floating-point numbers, objects as lists of members in insertion order.
`same` is equality as JSON: the order of the members does not count. Ordering the members of every
object by a key gives a normal form, and a text in which every value ends before the next begins
determines the value.

* **`sorted_eq_iff`** — values with distinct member names have one normal form exactly when they are
  the same.
* **`render_injective`** — the text of a value determines it.
-/

/-- A JSON value. -/
inductive Json (F : Type) where
  | null
  | bool (b : Bool)
  | int (n : Int)
  | float (x : F)
  | string (text : String)
  | list (items : List (Json F))
  | object (members : List (String × Json F))
  deriving Repr

namespace Json

variable {F : Type}

/-! ## Texts -/

mutual

/-- The texts in a value: its strings, and the names of its members. -/
def texts : Json F → List String
  | .string text => [text]
  | .list items => textsOfItems items
  | .object members => textsOfMembers members
  | _ => []
termination_by structural j => j

def textsOfItems : List (Json F) → List String
  | [] => []
  | j :: items => texts j ++ textsOfItems items
termination_by structural items => items

def textsOfMembers : List (String × Json F) → List String
  | [] => []
  | (name, j) :: members => name :: (texts j ++ textsOfMembers members)
termination_by structural members => members

end

/-! ## Equality as JSON -/

mutual

/-- Two values are equal, whatever the order of the members of their objects. -/
def same [DecidableEq F] : Json F → Json F → Bool
  | .null, .null => true
  | .bool a, .bool b => a == b
  | .int a, .int b => a == b
  | .float a, .float b => a == b
  | .string a, .string b => a == b
  | .list items, .list items' => sameItems items items'
  | .object members, .object members' =>
    members.length == members'.length && sameMembers members members'
  | _, _ => false
termination_by structural j => j

def sameItems [DecidableEq F] : List (Json F) → List (Json F) → Bool
  | [], [] => true
  | j :: items, j' :: items' => same j j' && sameItems items items'
  | _, _ => false
termination_by structural items => items

/-- Each member has one of its name, with the same value, in an object. -/
def sameMembers [DecidableEq F] : List (String × Json F) → List (String × Json F) → Bool
  | [], _ => true
  | (name, j) :: members, members' =>
    (match Dict.get? members' name with
      | some j' => same j j'
      | none => false) && sameMembers members members'
termination_by structural members => members

end

theorem sameMembers_iff [DecidableEq F] {members members' : List (String × Json F)} :
    sameMembers members members' = true ↔
      ∀ m ∈ members, ∃ j', Dict.get? members' m.1 = some j' ∧ same m.2 j' = true := by
  induction members with
  | nil => simp [sameMembers]
  | cons m members ih =>
    obtain ⟨name, j⟩ := m
    rw [sameMembers, Bool.and_eq_true, ih, List.forall_mem_cons]
    cases Dict.get? members' name with
    | none => simp
    | some j' => simp

/-! ## Values a text can stand for -/

/-- Without floating-point numbers, the integers accepted by `ok`, and the members of an object
under different names. -/
inductive Plain (ok : Int → Prop) : Json F → Prop
  | null : Plain ok .null
  | bool (b : Bool) : Plain ok (.bool b)
  | int {n : Int} (h : ok n) : Plain ok (.int n)
  | string (text : String) : Plain ok (.string text)
  | list {items : List (Json F)} (h : ∀ j ∈ items, Plain ok j) : Plain ok (.list items)
  | object {members : List (String × Json F)} (hnames : (members.map Prod.fst).Nodup)
      (h : ∀ m ∈ members, Plain ok m.2) : Plain ok (.object members)

/-! ## The normal form -/

section Sorted

variable {K : Type} [LinearOrder K] (key : String → K)

mutual

/-- The members of every object in the order of their keys. -/
def sorted : Json F → Json F
  | .list items => .list (sortedItems items)
  | .object members => .object (Log.sort (fun m => key m.1) (sortedMembers members))
  | j => j
termination_by structural j => j

def sortedItems : List (Json F) → List (Json F)
  | [] => []
  | j :: items => sorted j :: sortedItems items
termination_by structural items => items

def sortedMembers : List (String × Json F) → List (String × Json F)
  | [] => []
  | (name, j) :: members => (name, sorted j) :: sortedMembers members
termination_by structural members => members

end

theorem sortedItems_eq_map (items : List (Json F)) :
    sortedItems key items = items.map (sorted key) := by
  induction items with
  | nil => rfl
  | cons j items ih => rw [sortedItems, ih, List.map_cons]

theorem sortedMembers_eq_map (members : List (String × Json F)) :
    sortedMembers key members = members.map fun m => (m.1, sorted key m.2) := by
  induction members with
  | nil => rfl
  | cons m members ih =>
    obtain ⟨name, j⟩ := m
    rw [sortedMembers, ih, List.map_cons]

variable {key} {ok : Int → Prop}

theorem names_sortedMembers (members : List (String × Json F)) :
    (sortedMembers key members).map Prod.fst = members.map Prod.fst := by
  rw [sortedMembers_eq_map, List.map_map]
  rfl

/-- The normal form is a value of the same kind. -/
theorem Plain.sorted {j : Json F} (h : j.Plain ok) : (j.sorted key).Plain ok := by
  induction h with
  | null => exact .null
  | bool b => exact .bool b
  | int h => exact .int h
  | string text => exact .string text
  | list h ih =>
    rw [Json.sorted, sortedItems_eq_map]
    refine .list fun j hj => ?_
    obtain ⟨i, hi, rfl⟩ := List.mem_map.mp hj
    exact ih i hi
  | object hnames h ih =>
    rename_i members
    rw [Json.sorted]
    refine .object ?_ fun m hm => ?_
    · have hperm : (Log.sort (fun m => key m.1) (sortedMembers key members)).Perm
          (sortedMembers key members) := Log.perm_sort _
      rw [(hperm.map Prod.fst).nodup_iff, names_sortedMembers]
      exact hnames
    · rw [Log.mem_sort, sortedMembers_eq_map, List.mem_map] at hm
      obtain ⟨m', hm', rfl⟩ := hm
      exact ih m' hm'

omit [LinearOrder K] in
/-- Members under different names have different keys. -/
theorem pairwise_key (hkey : Function.Injective key) {members : List (String × Json F)}
    (hnames : (members.map Prod.fst).Nodup) :
    members.Pairwise fun a b => key a.1 ≠ key b.1 :=
  (List.pairwise_map.mp hnames).imp fun hne heq => hne (hkey heq)

/-- Objects with the same members have the same members in order. -/
theorem sort_members_eq_iff (hkey : Function.Injective key)
    {members members' : List (String × Json F)}
    (hnames : (members.map Prod.fst).Nodup) (hnames' : (members'.map Prod.fst).Nodup) :
    Log.sort (fun m => key m.1) members = Log.sort (fun m => key m.1) members' ↔
      members.length = members'.length ∧ ∀ m ∈ members, m ∈ members' := by
  constructor
  · intro heq
    have hperm : members.Perm members' :=
      (Log.perm_sort members).symm.trans (heq ▸ Log.perm_sort members')
    exact ⟨hperm.length_eq, fun m hm => hperm.subset hm⟩
  · rintro ⟨hlength, hsub⟩
    have hperm : members.Perm members' :=
      (List.subperm_of_subset hnames.of_map hsub).perm_of_length_le hlength.ge
    have hsorted := Log.increasing_sort (pairwise_key hkey hnames)
    have hsorted' := Log.increasing_sort (pairwise_key hkey hnames')
    exact hsorted.eq_of_perm hsorted'
      ((Log.perm_sort members).trans (hperm.trans (Log.perm_sort members').symm))

variable [DecidableEq F]

theorem sameItems_iff {items items' : List (Json F)} :
    sameItems items items' = true ↔ List.Forall₂ (fun j j' => same j j' = true) items items' := by
  induction items generalizing items' with
  | nil => cases items' <;> simp [sameItems]
  | cons j items ih =>
    cases items' with
    | nil => simp [sameItems]
    | cons j' items' => rw [sameItems, Bool.and_eq_true, ih, List.forall₂_cons]

/-- **The normal form decides equality as JSON.** -/
theorem sorted_eq_iff (hkey : Function.Injective key) {a b : Json F} (ha : a.Plain ok)
    (hb : b.Plain ok) : a.sorted key = b.sorted key ↔ a.same b = true := by
  induction ha generalizing b with
  | null => cases hb <;> simp [sorted, same]
  | bool x => cases hb <;> simp [sorted, same]
  | int h => cases hb <;> simp [sorted, same]
  | string text => cases hb <;> simp [sorted, same]
  | list h ih =>
    rename_i items
    cases hb with
    | list h' =>
      rename_i items'
      rw [sorted, sorted, list.injEq, sortedItems_eq_map, sortedItems_eq_map, same, sameItems_iff]
      clear h
      induction items generalizing items' with
      | nil => cases items' <;> simp
      | cons j items ihItems =>
        cases items' with
        | nil => simp
        | cons j' items' =>
          rw [List.map_cons, List.map_cons, List.cons.injEq, List.forall₂_cons,
            ih j List.mem_cons_self (h' j' List.mem_cons_self),
            ihItems (fun i hi => ih i (List.mem_cons_of_mem _ hi))
              fun i hi => h' i (List.mem_cons_of_mem _ hi)]
    | _ => simp [sorted, same]
  | object hnames h ih =>
    rename_i members
    cases hb with
    | object hnames' h' =>
      rename_i members'
      rw [sorted, sorted, object.injEq, sort_members_eq_iff hkey (by rwa [names_sortedMembers])
        (by rwa [names_sortedMembers]), same, Bool.and_eq_true, beq_iff_eq, sameMembers_iff]
      rw [sortedMembers_eq_map, sortedMembers_eq_map, List.length_map, List.length_map,
        List.forall_mem_map]
      refine and_congr_right fun _ => forall₂_congr fun m hm => ?_
      -- a member is found under its name
      rw [List.mem_map]
      constructor
      · rintro ⟨m', hm', heq⟩
        rw [Prod.mk.injEq] at heq
        have hget : Dict.get? members' m.1 = some m'.2 := by
          rw [← heq.1]
          exact Dict.get?_of_mem hnames' hm'
        exact ⟨m'.2, hget, (ih m hm (h' m' hm')).mp heq.2.symm⟩
      · rintro ⟨j', hget, hsame⟩
        have hm' := Dict.mem_of_get? hget
        exact ⟨(m.1, j'), hm', by rw [(ih m hm (h' _ hm')).mpr hsame]⟩
    | _ => simp [sorted, same]

end Sorted

/-! ## Texts that end by themselves -/

/-- What may follow a number: its text would not go on. -/
def Boundary (rest : List Char) : Prop := ∀ c ∈ rest.head?, c.isDigit = false

theorem boundary_cons {c : Char} {rest : List Char} (h : c.isDigit = false) :
    Boundary (c :: rest) := by
  intro d hd
  rw [List.head?_cons, Option.mem_some_iff] at hd
  rw [← hd]
  exact h

/-- Where the text of one of the values ends, in front of a boundary, can be told. -/
def Delimited {α : Type} (text : α → List Char) (a b : α) : Prop :=
  ∀ r r', Boundary r → Boundary r' → text a ++ r = text b ++ r' → a = b ∧ r = r'

section Sequences

variable {α : Type} {text : α → List Char} {close : Char}

theorem intercalate_cons (x : α) (xs : List α) :
    [','].intercalate ((x :: xs).map text) =
      text x ++ (xs.map fun y => ',' :: text y).flatten := by
  induction xs generalizing x with
  | nil => simp [List.intercalate]
  | cons y ys ih =>
    have hstep : [','].intercalate ((x :: y :: ys).map text) =
        text x ++ ',' :: [','].intercalate ((y :: ys).map text) := by
      simp [List.intercalate]
    rw [hstep, ih]
    simp

theorem boundary_closed (hclose : close.isDigit = false) (xs : List α) (r : List Char) :
    Boundary ((xs.map fun y => ',' :: text y).flatten ++ close :: r) := by
  cases xs with
  | nil => exact boundary_cons hclose
  | cons x xs => exact boundary_cons (by decide)

/-- What follows the first item of a closed sequence. -/
theorem closed_tail_injective (hclose : close.isDigit = false) (hcomma : close ≠ ',')
    {xs ys : List α} (hitems : ∀ x ∈ xs, ∀ y ∈ ys, Delimited text x y) {r r' : List Char}
    (h : (xs.map fun y => ',' :: text y).flatten ++ close :: r =
      (ys.map fun y => ',' :: text y).flatten ++ close :: r') : xs = ys ∧ r = r' := by
  induction xs generalizing ys with
  | nil =>
    cases ys with
    | nil => simpa using h
    | cons y ys =>
      simp only [List.map_nil, List.flatten_nil, List.nil_append, List.map_cons, List.flatten_cons,
        List.cons_append, List.cons.injEq] at h
      exact absurd h.1 hcomma
  | cons x xs ih =>
    cases ys with
    | nil =>
      simp only [List.map_nil, List.flatten_nil, List.nil_append, List.map_cons, List.flatten_cons,
        List.cons_append, List.cons.injEq] at h
      exact absurd h.1.symm hcomma
    | cons y ys =>
      simp only [List.map_cons, List.flatten_cons, List.cons_append, List.cons.injEq, true_and,
        List.append_assoc] at h
      obtain ⟨hxy, hrest⟩ := hitems x List.mem_cons_self y List.mem_cons_self _ _
        (boundary_closed hclose xs r) (boundary_closed hclose ys r') h
      obtain ⟨hxs, hr⟩ := ih (fun a ha b hb =>
        hitems a (List.mem_cons_of_mem _ ha) b (List.mem_cons_of_mem _ hb)) hrest
      exact ⟨by rw [hxy, hxs], hr⟩

/-- **A closed sequence** of items whose ends can be told. -/
theorem closed_injective (hclose : close.isDigit = false) (hcomma : close ≠ ',') {xs ys : List α}
    (hitems : ∀ x ∈ xs, ∀ y ∈ ys, Delimited text x y)
    (hstart : ∀ x, x ∈ xs ∨ x ∈ ys → ∃ c rest, text x = c :: rest ∧ c ≠ close) {r r' : List Char}
    (h : [','].intercalate (xs.map text) ++ close :: r =
      [','].intercalate (ys.map text) ++ close :: r') : xs = ys ∧ r = r' := by
  have hempty : [','].intercalate (([] : List α).map text) = [] := rfl
  cases xs with
  | nil =>
    cases ys with
    | nil => simpa [hempty] using h
    | cons y ys =>
      obtain ⟨c, rest, htext, hne⟩ := hstart y (Or.inr List.mem_cons_self)
      rw [hempty, intercalate_cons, htext, List.nil_append, List.cons_append, List.cons_append,
        List.cons.injEq] at h
      -- an item does not start with the closing character
      exact absurd h.1.symm hne
  | cons x xs =>
    cases ys with
    | nil =>
      obtain ⟨c, rest, htext, hne⟩ := hstart x (Or.inl List.mem_cons_self)
      rw [hempty, intercalate_cons, htext, List.nil_append, List.cons_append, List.cons_append,
        List.cons.injEq] at h
      exact absurd h.1 hne
    | cons y ys =>
      rw [intercalate_cons, intercalate_cons, List.append_assoc, List.append_assoc] at h
      -- the first items end at a boundary, so they are equal and the rests are too
      obtain ⟨hxy, hrest⟩ := hitems x List.mem_cons_self y List.mem_cons_self _ _
        (boundary_closed hclose xs r) (boundary_closed hclose ys r') h
      obtain ⟨hxs, hr⟩ := closed_tail_injective hclose hcomma (fun a ha b hb =>
        hitems a (List.mem_cons_of_mem _ ha) b (List.mem_cons_of_mem _ hb)) hrest
      exact ⟨by rw [hxy, hxs], hr⟩

end Sequences

/-! ## Integers -/

/-- The decimal digits of a number end where something else follows. -/
theorem toDigits_injective {m n : Nat} {r r' : List Char} (hr : Boundary r) (hr' : Boundary r')
    (h : Nat.toDigits 10 m ++ r = Nat.toDigits 10 n ++ r') : m = n ∧ r = r' := by
  have hdigits : ∀ k, ∀ c ∈ Nat.toDigits 10 k, c.isDigit = true := fun k c hc =>
    Nat.isDigit_of_mem_toDigits (by omega) (by omega) hc
  have hnone : ∀ rest, Boundary rest → rest.takeWhile Char.isDigit = [] := by
    intro rest hrest
    cases rest with
    | nil => rfl
    | cons c rest => exact List.takeWhile_cons_of_neg (by simpa using hrest c rfl)
  have htake := congrArg (List.takeWhile Char.isDigit) h
  rw [List.takeWhile_append_of_pos (hdigits m), List.takeWhile_append_of_pos (hdigits n),
    hnone r hr, hnone r' hr', List.append_nil, List.append_nil] at htake
  have hmn : m = n := by
    rw [← Nat.ofDigitChars_ten_toDigits (n := m), htake, Nat.ofDigitChars_ten_toDigits]
  rw [htake] at h
  exact ⟨hmn, List.append_cancel_left h⟩

/-- The decimal text of an integer. -/
def intText (n : Int) : List Char := (toString n).toList

theorem intText_ofNat (n : Nat) : intText n = Nat.toDigits 10 n := by
  show (Nat.repr n).toList = _
  simp [Nat.repr]

theorem intText_negSucc (n : Nat) : intText (Int.negSucc n) = '-' :: Nat.toDigits 10 (n + 1) := by
  show ("-" ++ Nat.repr (n + 1)).toList = _
  simp [Nat.repr]

theorem delimited_intText (m n : Int) : Delimited intText m n := by
  intro r r' hr hr' h
  -- no number starts like the other sign
  have hminus : ∀ k, ∀ rest rest' : List Char, Nat.toDigits 10 k ++ rest ≠ '-' :: rest' := by
    intro k rest rest' heq
    cases hdigits : Nat.toDigits 10 k with
    | nil => exact Nat.toDigits_ne_nil hdigits
    | cons c digits =>
      rw [hdigits, List.cons_append, List.cons.injEq] at heq
      have hc : c.isDigit = true :=
        Nat.isDigit_of_mem_toDigits (by omega) (by omega) (hdigits ▸ List.mem_cons_self)
      rw [heq.1] at hc
      exact absurd hc (by decide)
  cases m with
  | ofNat m =>
    cases n with
    | ofNat n =>
      rw [Int.ofNat_eq_natCast, Int.ofNat_eq_natCast, intText_ofNat, intText_ofNat] at h
      obtain ⟨hmn, hrest⟩ := toDigits_injective hr hr' h
      exact ⟨by rw [hmn], hrest⟩
    | negSucc n =>
      rw [Int.ofNat_eq_natCast, intText_ofNat, intText_negSucc] at h
      exact absurd h (hminus _ _ _)
  | negSucc m =>
    cases n with
    | ofNat n =>
      rw [Int.ofNat_eq_natCast, intText_ofNat, intText_negSucc] at h
      exact absurd h.symm (hminus _ _ _)
    | negSucc n =>
      rw [intText_negSucc, intText_negSucc, List.cons_append, List.cons_append,
        List.cons.injEq] at h
      obtain ⟨hmn, hrest⟩ := toDigits_injective hr hr' h.2
      exact ⟨by rw [Int.negSucc_inj]; omega, hrest⟩

/-! ## The text of a value

Texts are delimited: where one ends can be told from the text itself. -/

section Render

variable (quote : String → List Char) (floatText : F → List Char)

mutual

/-- The text of a value, the members of an object in the order they stand. -/
def render : Json F → List Char
  | .null => ['n', 'u', 'l', 'l']
  | .bool true => ['t', 'r', 'u', 'e']
  | .bool false => ['f', 'a', 'l', 's', 'e']
  | .int n => intText n
  | .float x => floatText x
  | .string text => quote text
  | .list items => '[' :: [','].intercalate (renderItems items) ++ [']']
  | .object members => '{' :: [','].intercalate (renderMembers members) ++ ['}']
termination_by structural j => j

def renderItems : List (Json F) → List (List Char)
  | [] => []
  | j :: items => render j :: renderItems items
termination_by structural items => items

def renderMembers : List (String × Json F) → List (List Char)
  | [] => []
  | (name, j) :: members => (quote name ++ ':' :: render j) :: renderMembers members
termination_by structural members => members

end

/-- The text of a member. -/
def renderMember (m : String × Json F) : List Char :=
  quote m.1 ++ ':' :: render quote floatText m.2

theorem renderItems_eq_map (items : List (Json F)) :
    renderItems quote floatText items = items.map (render quote floatText) := by
  induction items with
  | nil => rfl
  | cons j items ih => rw [renderItems, ih, List.map_cons]

theorem renderMembers_eq_map (members : List (String × Json F)) :
    renderMembers quote floatText members = members.map (renderMember quote floatText) := by
  induction members with
  | nil => rfl
  | cons m members ih =>
    obtain ⟨name, j⟩ := m
    rw [renderMembers, ih, List.map_cons]
    rfl

/-- A quoted string starts with a quotation mark, and its end can be told whatever follows. -/
structure Quotes : Prop where
  start : ∀ s, ∃ rest, quote s = '"' :: rest
  injective : ∀ s t r r', quote s ++ r = quote t ++ r' → s = t ∧ r = r'

/-- The kinds of values, told by the first character of a text. -/
inductive Kind where
  | null
  | bool
  | int
  | float
  | string
  | list
  | object
  deriving DecidableEq

def kind : Json F → Kind
  | .null => .null
  | .bool _ => .bool
  | .int _ => .int
  | .float _ => .float
  | .string _ => .string
  | .list _ => .list
  | .object _ => .object

def kindOf (c : Char) : Kind :=
  if c = 'n' then .null
  else if c = 't' ∨ c = 'f' then .bool
  else if c = '"' then .string
  else if c = '[' then .list
  else if c = '{' then .object
  else if c = '-' ∨ c.isDigit then .int
  else .float

variable {quote} {floatText} {ok : Int → Prop}

theorem kindOf_of_isDigit {c : Char} (h : c.isDigit = true) : kindOf c = .int := by
  have hne : ∀ d : Char, d.isDigit = false → c ≠ d := fun d hd heq => by
    rw [heq, hd] at h
    exact Bool.false_ne_true h
  unfold kindOf
  rw [if_neg (hne _ (by decide)), if_neg, if_neg (hne _ (by decide)), if_neg (hne _ (by decide)),
    if_neg (hne _ (by decide)), if_pos (Or.inr h)]
  rw [not_or]
  exact ⟨hne _ (by decide), hne _ (by decide)⟩

theorem kindOf_render (floatText : F → List Char) (hquote : Quotes quote) {j : Json F}
    (hj : j.Plain ok) :
    ∃ c rest, render quote floatText j = c :: rest ∧ kindOf c = j.kind := by
  cases hj with
  | null => exact ⟨_, _, rfl, rfl⟩
  | bool b => cases b <;> exact ⟨_, _, rfl, rfl⟩
  | int h =>
    rename_i n
    cases n with
    | ofNat n =>
      cases hdigits : Nat.toDigits 10 n with
      | nil => exact absurd hdigits Nat.toDigits_ne_nil
      | cons c digits =>
        refine ⟨c, digits, ?_, kindOf_of_isDigit ?_⟩
        · rw [render, Int.ofNat_eq_natCast, intText_ofNat, hdigits]
        · exact Nat.isDigit_of_mem_toDigits (by omega) (by omega) (hdigits ▸ List.mem_cons_self)
    | negSucc n => exact ⟨_, _, by rw [render, intText_negSucc], rfl⟩
  | string text =>
    obtain ⟨rest, hrest⟩ := hquote.start text
    exact ⟨_, _, by rw [render, hrest], rfl⟩
  | list h => exact ⟨_, _, by rw [render, List.cons_append], rfl⟩
  | object hnames h => exact ⟨_, _, by rw [render, List.cons_append], rfl⟩

theorem kind_eq_of_render (hquote : Quotes quote) {a b : Json F} (ha : a.Plain ok)
    (hb : b.Plain ok) {r r' : List Char}
    (h : render quote floatText a ++ r = render quote floatText b ++ r') : a.kind = b.kind := by
  obtain ⟨c, rest, htext, hkind⟩ := kindOf_render floatText hquote ha
  obtain ⟨c', rest', htext', hkind'⟩ := kindOf_render floatText hquote hb
  rw [htext, htext', List.cons_append, List.cons_append, List.cons.injEq] at h
  rw [← hkind, ← hkind', h.1]

/-- A value does not start like a closing bracket. -/
theorem render_start (hquote : Quotes quote) {j : Json F} (hj : j.Plain ok) {close : Char}
    (hclose : kindOf close = .float) :
    ∃ c rest, render quote floatText j = c :: rest ∧ c ≠ close := by
  obtain ⟨c, rest, htext, hkind⟩ := kindOf_render floatText hquote hj
  refine ⟨c, rest, htext, fun heq => ?_⟩
  rw [heq, hclose] at hkind
  cases hj <;> exact Kind.noConfusion hkind

/-- **The text of a value determines it**, and where it ends. -/
theorem render_delimited (hquote : Quotes quote) {a b : Json F} (ha : a.Plain ok)
    (hb : b.Plain ok) : Delimited (render quote floatText) a b := by
  intro r r' hr hr' h
  have hkind := kind_eq_of_render hquote ha hb h
  induction ha generalizing b r r' with
  | null =>
    cases hb with
    | null => exact ⟨rfl, List.append_cancel_left h⟩
    | _ => cases hkind
  | bool x =>
    cases hb with
    | bool y =>
      cases x <;> cases y
      · exact ⟨rfl, List.append_cancel_left h⟩
      · simp [render] at h
      · simp [render] at h
      · exact ⟨rfl, List.append_cancel_left h⟩
    | _ => cases hkind
  | int _ =>
    cases hb with
    | int _ =>
      rw [render, render] at h
      obtain ⟨hmn, hrest⟩ := delimited_intText _ _ _ _ hr hr' h
      exact ⟨by rw [hmn], hrest⟩
    | _ => cases hkind
  | string text =>
    cases hb with
    | string text' =>
      rw [render, render] at h
      obtain ⟨htext, hrest⟩ := hquote.injective _ _ _ _ h
      exact ⟨by rw [htext], hrest⟩
    | _ => cases hkind
  | list hitems ih =>
    cases hb with
    | list hitems' =>
      rw [render, render, renderItems_eq_map, renderItems_eq_map] at h
      simp only [List.cons_append, List.append_assoc, List.nil_append, List.cons.injEq,
        true_and] at h
      -- the texts of the items end where the next separator or the bracket is
      obtain ⟨heq, hrest⟩ := closed_injective (by decide) (by decide)
        (fun x hx y hy s s' hs hs' htext =>
          ih x hx (hitems' y hy) s s' hs hs' htext
            (kind_eq_of_render hquote (hitems x hx) (hitems' y hy) htext))
        (fun x hx => render_start hquote (hx.elim (hitems x) (hitems' x)) rfl) h
      exact ⟨by rw [heq], hrest⟩
    | _ => cases hkind
  | object hnames hmembers ih =>
    cases hb with
    | object hnames' hmembers' =>
      rw [render, render, renderMembers_eq_map, renderMembers_eq_map] at h
      simp only [List.cons_append, List.append_assoc, List.nil_append, List.cons.injEq,
        true_and] at h
      -- a member is its name, a colon and its value
      obtain ⟨heq, hrest⟩ := closed_injective (by decide) (by decide)
        (fun x hx y hy s s' hs hs' htext => by
          unfold renderMember at htext
          rw [List.append_assoc, List.append_assoc, List.cons_append, List.cons_append] at htext
          obtain ⟨hname, hvalue⟩ := hquote.injective _ _ _ _ htext
          rw [List.cons.injEq] at hvalue
          obtain ⟨hj, hs⟩ := ih x hx (hmembers' y hy) s s' hs hs' hvalue.2
            (kind_eq_of_render hquote (hmembers x hx) (hmembers' y hy) hvalue.2)
          exact ⟨Prod.ext hname hj, hs⟩)
        (fun x _ => by
          obtain ⟨rest, hstart⟩ := hquote.start x.1
          exact ⟨'"', _, by rw [renderMember, hstart, List.cons_append], by decide⟩) h
      exact ⟨by rw [heq], hrest⟩
    | _ => cases hkind

theorem render_injective (hquote : Quotes quote) {a b : Json F} (ha : a.Plain ok)
    (hb : b.Plain ok) (h : render quote floatText a = render quote floatText b) : a = b := by
  have hnil : Boundary [] := by
    intro c hc
    cases hc
  have hdelimited : Delimited (render quote floatText) a b := render_delimited hquote ha hb
  exact (hdelimited [] [] hnil hnil (by rw [h])).1

end Render

end Json
