import ShiftMind.Library.Binary64
import ShiftMind.Library.Fallible
import ShiftMind.Library.Json

/-!
# ShiftMind — canonical JSON

`contracts/canonical.py`: the canonical text of a contract value, and the digest over it. Members
are ordered by the UTF-16 code units of their names, strings are escaped as `json.dumps` escapes
them, and a number that no double can hold is an error.

* **`quoteString`**, **`serializeInt`**, **`serializeFloat`**, **`utf16SortKey`**, **`serialize`**
  — the functions of the module.
* **`canonicalizeJson_eq_iff`** — two values have the same canonical bytes exactly when they are
  equal as JSON.
-/

namespace ShiftMind

/-! ## Strings -/

/-- `ESCAPE_DCT` of `json.encoder`, over the characters that `ESCAPE` matches. -/
def escapeChar (c : Char) : List Char :=
  if c = '"' then ['\\', '"']
  else if c = '\\' then ['\\', '\\']
  else if c = '\x08' then ['\\', 'b']
  else if c = '\x0c' then ['\\', 'f']
  else if c = '\n' then ['\\', 'n']
  else if c = '\r' then ['\\', 'r']
  else if c = '\t' then ['\\', 't']
  else if c.toNat < 0x20 then
    ['\\', 'u', '0', '0', Nat.digitChar (c.toNat / 16), Nat.digitChar (c.toNat % 16)]
  else [c]

/-- `_quote_string`; a character of a text is no surrogate here. -/
def quoteString (value : String) : List Char := '"' :: (value.toList.flatMap escapeChar ++ ['"'])

/-- The UTF-16 code units of a character. -/
def utf16Units (c : Char) : List Nat :=
  if c.toNat < 0x10000 then [c.toNat]
  else [0xD800 + (c.toNat - 0x10000) / 0x400, 0xDC00 + (c.toNat - 0x10000) % 0x400]

/-- `_utf16_sort_key`, as bytes. -/
def utf16SortKey (value : String) : List Nat :=
  (value.toList.flatMap utf16Units).flatMap fun u => [u / 256, u % 256]

/-! ## Numbers and values -/

section Serialize

-- the shortest decimal text of a finite number other than zero, in the form of ECMAScript
variable (floatText : ℚ → List Char)

/-- `_serialize_float`. -/
def serializeFloat : Binary64 → Except String (List Char)
  | .finite q => if q = 0 then .ok ['0'] else .ok (floatText q)
  | _ => .error "RFC 8785 numbers must be finite"

/-- `_serialize_number`, of an integer. -/
def serializeInt (value : Int) : Except String (List Char) :=
  if -(2 ^ 53) ≤ value ∧ value ≤ 2 ^ 53 then .ok (Json.intText value)
  else
    match Binary64.ofRat value with
    | .finite q =>
      if q ≠ value then
        .error ("RFC 8785 integers must be exactly representable as IEEE 754 " ++
          "doubles — this value would silently lose precision")
      else serializeFloat floatText (.finite q)
    | _ => .error "RFC 8785 integers must be expressible as IEEE 754 doubles"

/-- A member, once its value is serialized. -/
def serializeMember (m : String × Except String (List Char)) : Except String (List Char) :=
  m.2.map fun text => quoteString m.1 ++ ':' :: text

mutual

/-- `_serialize`; the members of an object are serialized in the order of their names. -/
def serialize : Json Binary64 → Except String (List Char)
  | .null => .ok ['n', 'u', 'l', 'l']
  | .bool true => .ok ['t', 'r', 'u', 'e']
  | .bool false => .ok ['f', 'a', 'l', 's', 'e']
  | .string value => .ok (quoteString value)
  | .int value => serializeInt floatText value
  | .float value => serializeFloat floatText value
  | .list items =>
    ((serializeItems items).mapM id).map fun texts => '[' :: [','].intercalate texts ++ [']']
  | .object members =>
    ((Log.sort (fun m => utf16SortKey m.1) (serializeMembers members)).mapM
        serializeMember).map fun texts => '{' :: [','].intercalate texts ++ ['}']
termination_by structural value => value

def serializeItems : List (Json Binary64) → List (Except String (List Char))
  | [] => []
  | item :: items => serialize item :: serializeItems items
termination_by structural items => items

def serializeMembers : List (String × Json Binary64) → List (String × Except String (List Char))
  | [] => []
  | (key, value) :: members => (key, serialize value) :: serializeMembers members
termination_by structural members => members

end

/-- `canonicalize_json`. -/
def canonicalizeJson (value : Json Binary64) : Except String ByteArray :=
  (serialize floatText value).map fun text => (String.ofList text).toUTF8

end Serialize

/-! ## The ends of strings and keys

A quoted string shows where it ends, whatever follows it; this is what makes the texts of objects
readable from the left. -/

/-- A concatenation of codes, up to a rest that starts like none of them. -/
theorem flatMap_delimited {α β : Type} {f : α → List β} (stop : List β → Prop)
    (hf : ∀ a b r r', f a ++ r = f b ++ r' → a = b ∧ r = r')
    (hstop : ∀ a r, ¬ stop (f a ++ r)) {xs ys : List α} {s s' : List β} (hs : stop s)
    (hs' : stop s') (h : xs.flatMap f ++ s = ys.flatMap f ++ s') : xs = ys ∧ s = s' := by
  induction xs generalizing ys with
  | nil =>
    cases ys with
    | nil => exact ⟨rfl, h⟩
    | cons y ys =>
      rw [List.flatMap_nil, List.nil_append, List.flatMap_cons, List.append_assoc] at h
      exact absurd (h ▸ hs) (hstop y _)
  | cons x xs ih =>
    cases ys with
    | nil =>
      rw [List.flatMap_nil, List.nil_append, List.flatMap_cons, List.append_assoc] at h
      exact absurd (h ▸ hs') (hstop x _)
    | cons y ys =>
      rw [List.flatMap_cons, List.flatMap_cons, List.append_assoc, List.append_assoc] at h
      obtain ⟨hxy, hrest⟩ := hf x y _ _ h
      obtain ⟨hxs, hs⟩ := ih hrest
      exact ⟨by rw [hxy, hxs], hs⟩

theorem flatMap_injective {α β : Type} {f : α → List β}
    (hf : ∀ a b r r', f a ++ r = f b ++ r' → a = b ∧ r = r') (hne : ∀ a, f a ≠ []) :
    Function.Injective (List.flatMap f) := by
  intro xs ys h
  have hnil : ∀ a r, f a ++ r ≠ [] := fun a r heq => hne a (List.append_eq_nil_iff.mp heq).1
  exact (flatMap_delimited (fun rest => rest = []) hf hnil rfl rfl
    (by rw [List.append_nil, List.append_nil, h])).1

/-- The number that two hexadecimal digits denote. -/
def hexPair (a b : Char) : Nat :=
  16 * (a.toNat - 48) + if b.toNat < 58 then b.toNat - 48 else b.toNat - 87

/-- The character an escape stands for, and what follows. -/
def unescape : List Char → Option (Char × List Char)
  | '\\' :: 'u' :: '0' :: '0' :: a :: b :: rest =>
    some (Char.ofNat (hexPair a b), rest)
  | '\\' :: '"' :: rest => some ('"', rest)
  | '\\' :: '\\' :: rest => some ('\\', rest)
  | '\\' :: 'b' :: rest => some ('\x08', rest)
  | '\\' :: 'f' :: rest => some ('\x0c', rest)
  | '\\' :: 'n' :: rest => some ('\n', rest)
  | '\\' :: 'r' :: rest => some ('\r', rest)
  | '\\' :: 't' :: rest => some ('\t', rest)
  | c :: rest => some (c, rest)
  | [] => none

theorem unescape_escapeChar (c : Char) (rest : List Char) :
    unescape (escapeChar c ++ rest) = some (c, rest) := by
  unfold escapeChar
  split
  · next h => rw [h]; rfl
  split
  · next h => rw [h]; rfl
  split
  · next h => rw [h]; rfl
  split
  · next h => rw [h]; rfl
  split
  · next h => rw [h]; rfl
  split
  · next h => rw [h]; rfl
  split
  · next h => rw [h]; rfl
  split
  · next hcontrol =>
    -- the other control characters have two hexadecimal digits
    have hall : ∀ n < 0x20, hexPair (Nat.digitChar (n / 16)) (Nat.digitChar (n % 16)) = n := by
      decide
    show some (Char.ofNat (hexPair _ _), rest) = some (c, rest)
    rw [hall c.toNat hcontrol, Char.ofNat_toNat]
  · next hquote hbackslash _ _ _ _ _ _ =>
    -- any other character stands for itself
    rw [List.singleton_append]
    unfold unescape
    split <;> simp_all

theorem escapeChar_injective (c d : Char) (r r' : List Char)
    (h : escapeChar c ++ r = escapeChar d ++ r') : c = d ∧ r = r' := by
  have hread := congrArg unescape h
  rw [unescape_escapeChar, unescape_escapeChar, Option.some.injEq, Prod.mk.injEq] at hread
  exact hread

/-- No escape starts like the end of a string. -/
theorem escapeChar_start (c : Char) (rest : List Char) :
    (escapeChar c ++ rest).head? ≠ some '"' := by
  intro hhead
  obtain ⟨tail, htail⟩ := List.head?_eq_some_iff.mp hhead
  have hread := congrArg unescape htail
  rw [unescape_escapeChar] at hread
  have hc : c = '"' := congrArg Prod.fst (Option.some.inj hread)
  rw [hc] at hhead
  exact absurd hhead (by simp [escapeChar])

/-- **Quoted strings** can be told apart, and where they end. -/
theorem quotes_quoteString : Json.Quotes quoteString where
  start s := ⟨_, rfl⟩
  injective s t r r' h := by
    unfold quoteString at h
    rw [List.cons_append, List.cons_append, List.cons.injEq, List.append_assoc,
      List.append_assoc] at h
    obtain ⟨hst, hr⟩ := flatMap_delimited (fun text => text.head? = some '"')
      escapeChar_injective escapeChar_start rfl rfl h.2
    exact ⟨String.toList_injective hst, (List.cons.inj hr).2⟩

/-- The code units of a character end where those of the next begin. -/
theorem utf16Units_injective (c d : Char) (r r' : List Nat)
    (h : utf16Units c ++ r = utf16Units d ++ r') : c = d ∧ r = r' := by
  have hvalid : ∀ e : Char, e.toNat < 0xD800 ∨ 0xDFFF < e.toNat ∧ e.toNat < 0x110000 :=
    fun e => e.valid
  have hc := hvalid c
  have hd := hvalid d
  have hcd : c.toNat = d.toNat → c = d := fun heq => Char.toNat_inj.mp heq
  unfold utf16Units at h
  by_cases hsmall : c.toNat < 0x10000
  · rw [if_pos hsmall] at h
    by_cases hsmall' : d.toNat < 0x10000
    · simp only [if_pos hsmall', List.cons_append, List.nil_append, List.cons.injEq] at h
      exact ⟨hcd h.1, h.2⟩
    · -- a surrogate is no character
      simp only [if_neg hsmall', List.cons_append, List.nil_append, List.cons.injEq] at h
      omega
  · rw [if_neg hsmall] at h
    by_cases hsmall' : d.toNat < 0x10000
    · simp only [if_pos hsmall', List.cons_append, List.nil_append, List.cons.injEq] at h
      omega
    · simp only [if_neg hsmall', List.cons_append, List.nil_append, List.cons.injEq] at h
      exact ⟨hcd (by omega), h.2.2⟩

/-- **The sort key** of a name determines it. -/
theorem utf16SortKey_injective : Function.Injective utf16SortKey := by
  intro s t h
  have hunits : ∀ u v : Nat, ∀ r r' : List Nat,
      [u / 256, u % 256] ++ r = [v / 256, v % 256] ++ r' → u = v ∧ r = r' := by
    intro u v r r' heq
    simp only [List.cons_append, List.nil_append, List.cons.injEq] at heq
    exact ⟨by omega, heq.2.2⟩
  have hunit : ∀ c : Char, utf16Units c ≠ [] := fun c => by
    unfold utf16Units
    split <;> simp
  unfold utf16SortKey at h
  have hcodes := flatMap_injective hunits (fun u => by simp) h
  exact String.toList_injective (flatMap_injective utf16Units_injective hunit hcodes)

/-! ## The canonical text -/

/-- What the canonical text is defined on without a rounding: no floating-point numbers, integers
within 2^53, and the names of an object's members different, as those of a `dict` are. -/
abbrev IJson (value : Json Binary64) : Prop :=
  value.Plain fun n => -(2 ^ 53) ≤ n ∧ n ≤ 2 ^ 53

section Serialize

variable {floatText : ℚ → List Char}

theorem serializeItems_eq_map (items : List (Json Binary64)) :
    serializeItems floatText items = items.map (serialize floatText) := by
  induction items with
  | nil => rfl
  | cons item items ih => rw [serializeItems, ih, List.map_cons]

theorem serializeMembers_eq_map (members : List (String × Json Binary64)) :
    serializeMembers floatText members =
      members.map fun m => (m.1, serialize floatText m.2) := by
  induction members with
  | nil => rfl
  | cons m members ih =>
    obtain ⟨key, value⟩ := m
    rw [serializeMembers, ih, List.map_cons]

/-- **The canonical text is the text of the normal form.** -/
theorem serialize_of_iJson {value : Json Binary64} (h : IJson value) :
    serialize floatText value =
      .ok ((value.sorted utf16SortKey).render quoteString fun _ => []) := by
  induction h with
  | null => rfl
  | bool b => cases b <;> rfl
  | int h => rw [serialize, serializeInt, if_pos h]; rfl
  | string text => rfl
  | list h ih =>
    rename_i items
    have htexts : ∀ j ∈ items, (id ∘ serialize floatText) j = _ := ih
    rw [serialize, serializeItems_eq_map, List.mapM_map, Fallible.mapM_ok htexts, Json.sorted,
      Json.render,
      Json.sortedItems_eq_map, Json.renderItems_eq_map, List.map_map]
    rfl
  | object hnames h ih =>
    rename_i members
    -- the key of a member is its name's, before and after
    have hsort : ∀ {β : Type} (f : String × Json Binary64 → String × β), (∀ m, (f m).1 = m.1) →
        Log.sort (fun m => utf16SortKey m.1) (members.map f) =
          (Log.sort (fun m => utf16SortKey m.1) members).map f :=
      fun f hf => Log.sort_map (fun m => by rw [hf]) members
    have htexts : ∀ m ∈ Log.sort (fun m => utf16SortKey m.1) members,
        (serializeMember ∘ fun m => (m.1, serialize floatText m.2)) m =
          .ok (Json.renderMember quoteString (fun _ => []) (m.1, m.2.sorted utf16SortKey)) := by
      intro m hm
      rw [Function.comp_apply, serializeMember, ih m (Log.mem_sort.mp hm)]
      rfl
    rw [serialize, serializeMembers_eq_map,
      hsort (fun m => (m.1, serialize floatText m.2)) fun _ => rfl,
      List.mapM_map, Fallible.mapM_ok htexts, Json.sorted, Json.render, Json.sortedMembers_eq_map,
      Json.renderMembers_eq_map, hsort (fun m => (m.1, m.2.sorted utf16SortKey)) fun _ => rfl,
      List.map_map]
    rfl

/-- **Canonical JSON is injective, and no order of members matters.** On values without
floating-point numbers the canonical bytes exist, and two values have the same exactly when they are
equal as JSON; the digest of a contract is taken over these bytes. -/
theorem canonicalizeJson_eq_iff {a b : Json Binary64} (ha : IJson a) (hb : IJson b) :
    (∃ bytes, canonicalizeJson floatText a = .ok bytes) ∧
      (canonicalizeJson floatText a = canonicalizeJson floatText b ↔ a.same b = true) := by
  unfold canonicalizeJson
  rw [serialize_of_iJson ha, serialize_of_iJson hb]
  refine ⟨⟨_, rfl⟩, ?_⟩
  rw [← Json.sorted_eq_iff utf16SortKey_injective ha hb]
  constructor
  · intro hbytes
    have htext := String.ofList_injective (String.toByteArray_inj.mp (Except.ok.inj hbytes))
    exact Json.render_injective quotes_quoteString ha.sorted hb.sorted htext
  · intro heq
    rw [heq]

end Serialize

/-- A contract value, written in two orders. -/
def contractValue (reversed : Bool) : Json Binary64 :=
  let members := [("n", .int (-12)), ("é", .list [.null, .bool true]), ("a\n", .string "\"x\"")]
  .object (if reversed then members.reverse else members)

theorem iJson_contractValue (reversed : Bool) : IJson (contractValue reversed) := by
  have hmembers : ∀ m ∈ [("n", Json.int (-12)), ("é", .list [.null, .bool true]),
      ("a\n", .string "\"x\"")], IJson m.2 := by
    intro m hm
    simp only [List.mem_cons, List.not_mem_nil, or_false] at hm
    rcases hm with rfl | rfl | rfl
    · exact .int (by decide)
    · refine .list fun j hj => ?_
      simp only [List.mem_cons, List.not_mem_nil, or_false] at hj
      rcases hj with rfl | rfl
      · exact .null
      · exact .bool true
    · exact .string _
  cases reversed with
  | false => exact .object (by decide) hmembers
  | true => exact .object (by decide) fun m hm => hmembers m (by simpa using List.mem_reverse.mp hm)

/-- Both orders have the same bytes. -/
theorem canonicalizeJson_eq_iff_reversed :
    canonicalizeJson (fun _ => []) (contractValue false) =
      canonicalizeJson (fun _ => []) (contractValue true) :=
  (canonicalizeJson_eq_iff (iJson_contractValue false) (iJson_contractValue true)).2.mpr
    (by decide +kernel)

end ShiftMind
