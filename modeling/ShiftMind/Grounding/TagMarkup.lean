import ShiftMind.Grounding.TagGrammar

/-!
# ShiftMind — markup of well-formed facts

How a model may spell a fact: the tag name in any letter case, the three attributes in any order, in
either quotation marks and with any white space between them.

* **`FactMarkup`** — a fact and its spelling; **`render`** — the text of a list of parts.
* **`factOf_openTag`** — the attributes of every spelling are those of the fact.
* **`brokenOpenAt_openTag`** — the repair takes an opening tag for a broken one exactly when it
  contains a newline.
-/

namespace ShiftMind.Grounding

open Scanner Binary64

/-! ## Spellings -/

/-- An attribute as it is written, with the white space before it. -/
structure AttributeMarkup where
  gap : List Char
  name : String
  value : String
  quote : Char
  blank : ∀ c ∈ gap, isSpace c = true
  quotes : quote = '\'' ∨ quote = '"'
  unquoted : quote ∉ value.toList
  plain : ∀ c ∈ value.toList, isTagChar c = true

def AttributeMarkup.assignment (a : AttributeMarkup) : List Char :=
  a.name.toList ++ '=' :: a.quote :: a.value.toList ++ [a.quote]

def AttributeMarkup.render (a : AttributeMarkup) : List Char := a.gap ++ a.assignment

/-- A fact as it is written. -/
structure FactMarkup where
  fact : FactTagPart
  opener : List Char
  attributes : List AttributeMarkup
  trailing : List Char
  closer : List Char
  spaces : List Char
  opens : opener.map Char.toLower = "<claim".toList
  closes : closer.map Char.toLower = "</claim".toList
  /-- the three attributes, in any order -/
  named : (attributes.map fun a => (a.name, a.value)).Perm
    [("ev", fact.ev), ("field", fact.field), ("value", fact.value)]
  /-- the tag name ends at white space -/
  first : ∀ a ∈ attributes.head?, a.gap ≠ []
  blank : ∀ c ∈ trailing, isSpace c = true
  blank_close : ∀ c ∈ spaces, isSpace c = true
  cites : fact.ev ≠ ""
  plain : ∀ c ∈ fact.text.toList, isTagChar c = true

namespace FactMarkup

variable (m : FactMarkup)

/-- What stands between the tag name and `>`. -/
def inside : List Char := m.attributes.flatMap AttributeMarkup.render ++ m.trailing

def openTag : List Char := m.opener ++ m.inside ++ ['>']

def closeTag : List Char := m.closer ++ m.spaces ++ ['>']

def render : List Char := m.openTag ++ m.fact.text.toList ++ m.closeTag

end FactMarkup

/-- A part as it is written. -/
inductive MarkupPart where
  | plainText (text : String)
  | factTag (markup : FactMarkup)

def MarkupPart.render : MarkupPart → List Char
  | plainText text => text.toList
  | factTag markup => markup.render

/-- The markup of a list of parts. -/
def renderParts (parts : List MarkupPart) : String :=
  String.ofList (parts.flatMap MarkupPart.render)

theorem spells_of_lower {word text : List Char} (h : text.map Char.toLower = word) :
    Spells word text := by
  subst h
  induction text with
  | nil => exact .nil
  | cons c text ih =>
    refine .cons ?_ ih
    simp [sameLetter]

/-! ## Attributes -/

theorem isNameChar_range {c : Char} (h : isNameChar c = true) : 65 ≤ c.toNat ∧ c.toNat ≤ 122 := by
  rcases Bool.or_eq_true_iff.mp h with halpha | hline
  · rcases Bool.or_eq_true_iff.mp halpha with hupper | hlower
    · have hrange : 65 ≤ c.toNat ∧ c.toNat ≤ 90 := by
        have hbounds : 'A'.val ≤ c.val ∧ c.val ≤ 'Z'.val := of_decide_eq_true hupper
        simpa [UInt32.le_iff_toNat_le] using hbounds
      omega
    · have hrange : 97 ≤ c.toNat ∧ c.toNat ≤ 122 := by
        have hbounds : (decide ('a'.val ≤ c.val) && decide (c.val ≤ 'z'.val)) = true := hlower
        simpa [UInt32.le_iff_toNat_le] using hbounds
      omega
  · rw [decide_eq_true_eq] at hline
    subst hline
    decide

theorem isNameChar_of_toLower {c : Char} (h : isNameChar c.toLower = true) :
    isNameChar c = true := by
  by_cases hupper : c.isUpper = true
  · have halpha : c.isAlpha = true := Bool.or_eq_true_iff.mpr (.inl hupper)
    simp [isNameChar, halpha]
  · have hsame : c.toLower = c := by
      unfold Char.toLower
      split
      · rename_i hrange
        exact absurd (decide_eq_true hrange) hupper
      · rfl
    rwa [hsame] at h

theorem isSpace_of_isNameChar {c : Char} (h : isNameChar c = true) : isSpace c = false := by
  have hrange := isNameChar_range h
  simp only [isSpace, Bool.or_eq_false_iff, Bool.and_eq_false_iff, decide_eq_false_iff_not]
  omega

section Scan

/-- A word with white space behind it and no `=` is no attribute. -/
theorem attributeAt_none {letters gap rest : List Char} {c : Char}
    (hletters : ∀ d ∈ letters, isNameChar d = true) (hgap : ∀ d ∈ gap, isSpace d = true)
    (hne : gap ≠ []) (hspace : isSpace c = false) (hassign : c ≠ '=') :
    attributeAt (letters ++ (gap ++ c :: rest)) = none := by
  have hspaces : (gap ++ c :: rest).takeWhile isSpace = gap := takeWhile_stop hgap hspace
  have hnone : assignAt (gap ++ c :: rest) = none := by
    unfold assignAt
    simp only [hspaces, List.drop_left]
    split
    · rename_i heq
      cases heq
      exact absurd rfl hassign
    · rfl
  -- the name ends at the first space, and no `=` follows the spaces
  have hname : (letters ++ (gap ++ c :: rest)).takeWhile isNameChar = letters := by
    cases gap with
    | nil => exact absurd rfl hne
    | cons d gap =>
      refine takeWhile_stop hletters ?_
      have hd := hgap d List.mem_cons_self
      rw [Bool.eq_false_iff]
      intro hletter
      rw [isSpace_of_isNameChar hletter] at hd
      cases hd
  unfold attributeAt
  simp only [hname, List.drop_left, hnone]
  split
  · rfl
  · rfl

/-- An attribute at the front of a text. -/
theorem attributeAt_assignment (a : AttributeMarkup) (hname : a.name.toList ≠ [])
    (hletters : ∀ d ∈ a.name.toList, isNameChar d = true) (rest : List Char) :
    attributeAt (a.assignment ++ rest) =
      some ((String.ofList (a.name.toList.map Char.toLower), a.value), a.assignment.length) := by
  have htext : a.assignment ++ rest =
      a.name.toList ++ '=' :: (a.quote :: (a.value.toList ++ a.quote :: rest)) := by
    unfold AttributeMarkup.assignment
    simp
  -- the name ends at the sign, the value at its own quote
  have htake : (a.assignment ++ rest).takeWhile isNameChar = a.name.toList := by
    rw [htext]
    exact takeWhile_stop hletters (by decide)
  have hquote : isSpace a.quote = false := by
    rcases a.quotes with h | h
    · rw [h]; decide
    · rw [h]; decide
  have hassign : assignAt ('=' :: (a.quote :: (a.value.toList ++ a.quote :: rest))) =
      some (a.quote, a.value.toList ++ a.quote :: rest, 2) := by
    unfold assignAt
    rw [List.takeWhile_cons_of_neg (by decide)]
    simp only [List.length_nil, List.drop_zero]
    rw [List.takeWhile_cons_of_neg (by rw [hquote]; decide)]
    have hmark : (a.quote = '\'' ∨ a.quote = '"') := a.quotes
    simp [quoteAt, hmark]
  have hvalue : (a.value.toList ++ a.quote :: rest).takeWhile (fun c => c ≠ a.quote) =
      a.value.toList := by
    refine takeWhile_stop (fun d hd => ?_) (by simp)
    rw [decide_eq_true_eq]
    rintro rfl
    exact a.unquoted hd
  unfold attributeAt
  simp only [htake, if_neg hname]
  rw [htext, List.drop_left, hassign]
  simp only [hvalue, List.length_append, List.length_cons, String.ofList_toList]
  rw [if_neg (by omega)]
  simp [AttributeMarkup.assignment]
  omega

/-- No attribute begins with another character than a letter. -/
theorem attributeAt_other {c : Char} (h : isNameChar c = false) (rest : List Char) :
    attributeAt (c :: rest) = none := by
  unfold attributeAt
  rw [List.takeWhile_cons_of_neg (by rw [h]; decide)]
  rfl

theorem isNameChar_of_isSpace {c : Char} (h : isSpace c = true) : isNameChar c = false := by
  rw [Bool.eq_false_iff]
  intro hname
  rw [isSpace_of_isNameChar hname] at h
  cases h

/-- White space is scanned over. -/
theorem scan_blank {gap : List Char} (hgap : ∀ c ∈ gap, isSpace c = true) (rest : List Char) :
    scan attributeAt 0 (gap ++ rest) = gap.map .inl ++ scan attributeAt 0 rest := by
  apply scan_run
  intro i hi
  rw [List.drop_append_of_le_length (by omega), List.drop_eq_getElem_cons hi]
  exact attributeAt_other (isNameChar_of_isSpace (hgap _ (List.getElem_mem hi))) _

end Scan

/-- The name of an attribute of a fact. -/
def isAttributeName (name : String) : Prop := name = "ev" ∨ name = "field" ∨ name = "value"

section Names

variable {name : String}

theorem isAttributeName.ne_nil (h : isAttributeName name) : name.toList ≠ [] := by
  rcases h with rfl | rfl | rfl <;> decide

theorem isAttributeName.letters (h : isAttributeName name) :
    ∀ c ∈ name.toList, isNameChar c = true := by
  apply List.all_eq_true.mp
  rcases h with rfl | rfl | rfl <;> decide

theorem isAttributeName.lower (h : isAttributeName name) :
    String.ofList (name.toList.map Char.toLower) = name := by
  rcases h with rfl | rfl | rfl <;> decide

end Names

/-- The attributes of the inside of a tag, in the order they are written. -/
theorem findAll_attributes {attributes : List AttributeMarkup} {trailing : List Char}
    (hnames : ∀ a ∈ attributes, isAttributeName a.name)
    (hblank : ∀ c ∈ trailing, isSpace c = true) :
    findAll attributeAt (attributes.flatMap AttributeMarkup.render ++ (trailing ++ ['>'])) =
      attributes.map fun a => (a.name, a.value) := by
  unfold findAll
  induction attributes with
  | nil =>
    rw [List.flatMap_nil, List.nil_append, scan_blank hblank]
    simp [scan, attributeAt_other (show isNameChar '>' = false by decide)]
  | cons a attributes ih =>
    have hname := hnames a List.mem_cons_self
    have hmatch := attributeAt_assignment a hname.ne_nil hname.letters
      (attributes.flatMap AttributeMarkup.render ++ (trailing ++ ['>']))
    rw [List.flatMap_cons, AttributeMarkup.render, List.append_assoc, List.append_assoc,
      scan_blank a.blank, scan_match (by simp [AttributeMarkup.assignment]) hmatch, hname.lower,
      List.filterMap_append, List.filterMap_cons, ih fun b hb =>
        hnames b (List.mem_cons_of_mem _ hb)]
    simp

namespace FactMarkup

variable (m : FactMarkup)

theorem isAttributeName_of_mem {a : AttributeMarkup} (ha : a ∈ m.attributes) :
    isAttributeName a.name := by
  have hmem : (a.name, a.value) ∈ m.attributes.map fun a => (a.name, a.value) :=
    List.mem_map.mpr ⟨a, ha, rfl⟩
  have hlisted := m.named.subset hmem
  simp only [List.mem_cons, Prod.mk.injEq, List.not_mem_nil, or_false] at hlisted
  rcases hlisted with h | h | h
  · exact .inl h.1
  · exact .inr (.inl h.1)
  · exact .inr (.inr h.1)

/-- A spelling of a tag's word begins with `<`, and letters follow. -/
theorem opener_cons : ∃ letters, m.opener = '<' :: letters ∧
    ∀ c ∈ letters, isNameChar c = true := by
  have hword : "<claim".toList = '<' :: "claim".toList := by decide
  have hopens := m.opens
  rw [hword] at hopens
  obtain ⟨c, letters, hopener, hc, hletters⟩ := List.map_eq_cons_iff.mp hopens
  rw [toLower_eq hc (by decide)] at hopener
  refine ⟨letters, hopener, fun d hd => ?_⟩
  have hlower : d.toLower ∈ "claim".toList := by
    rw [← hletters]
    exact List.mem_map_of_mem hd
  have hall : ∀ e ∈ "claim".toList, isNameChar e = true :=
    List.all_eq_true.mp (by decide)
  exact isNameChar_of_toLower (hall _ hlower)

/-- **The attributes of every spelling** are those of the fact. -/
theorem findAll_openTag :
    findAll attributeAt m.openTag = m.attributes.map fun a => (a.name, a.value) := by
  obtain ⟨letters, hopener, hletters⟩ := m.opener_cons
  have htext : m.openTag = m.opener ++
      (m.attributes.flatMap AttributeMarkup.render ++ (m.trailing ++ ['>'])) := by
    unfold openTag inside
    simp only [List.append_assoc]
  -- the tag name is no attribute: white space and a letter follow it
  obtain ⟨a, rest, hattributes⟩ : ∃ a rest, m.attributes = a :: rest := by
    cases hcases : m.attributes with
    | nil =>
      have hlength := m.named.length_eq
      simp [hcases] at hlength
    | cons a rest => exact ⟨a, rest, rfl⟩
  have hname := m.isAttributeName_of_mem (a := a) (by rw [hattributes]; exact List.mem_cons_self)
  obtain ⟨c, word, hword⟩ := List.exists_cons_of_ne_nil hname.ne_nil
  have hc : isNameChar c = true := hname.letters c (by rw [hword]; exact List.mem_cons_self)
  have hinside : ∃ behind, m.attributes.flatMap AttributeMarkup.render ++ (m.trailing ++ ['>']) =
      a.gap ++ c :: behind := by
    rw [hattributes, List.flatMap_cons, AttributeMarkup.render, AttributeMarkup.assignment, hword]
    simp only [List.append_assoc, List.cons_append]
    exact ⟨_, rfl⟩
  obtain ⟨behind, hbehind⟩ := hinside
  have hnone : ∀ i < m.opener.length, attributeAt ((m.opener ++ (m.attributes.flatMap
      AttributeMarkup.render ++ (m.trailing ++ ['>']))).drop i) = none := by
    intro i hi
    rw [hopener, List.cons_append]
    cases i with
    | zero => exact attributeAt_other (by decide) _
    | succ i =>
      rw [hopener, List.length_cons] at hi
      rw [List.drop_succ_cons, List.drop_append_of_le_length (by omega), hbehind]
      refine attributeAt_none (fun d hd => hletters d (List.mem_of_mem_drop hd)) a.blank
        (m.first a (by rw [hattributes]; rfl)) (isSpace_of_isNameChar hc) ?_
      rintro rfl
      exact absurd hc (by decide)
  have hall := findAll_attributes (fun a ha => m.isAttributeName_of_mem ha) m.blank
  unfold findAll at hall ⊢
  rw [htext, scan_run hnone, List.filterMap_append, hall]
  simp

/-- The tag states the fact. -/
theorem factOf_openTag :
    factOf (attributesOf m.openTag) false m.fact.text.toList = some m.fact := by
  have hkeys : ((m.attributes.map fun a => (a.name, a.value)).map Prod.fst).Nodup := by
    have hperm := m.named.map Prod.fst
    rw [hperm.nodup_iff]
    simp
  have hget :
      ∀ k v, (k, v) ∈ [("ev", m.fact.ev), ("field", m.fact.field), ("value", m.fact.value)] →
      Dict.get? (attributesOf m.openTag) k = some v := by
    intro k v hmem
    unfold attributesOf
    rw [m.findAll_openTag]
    exact Dict.get?_ofPairs_of_mem hkeys (m.named.mem_iff.mpr hmem)
  unfold factOf
  rw [hget "ev" m.fact.ev (by simp), hget "field" m.fact.field (by simp),
    hget "value" m.fact.value (by simp)]
  simp [m.cites]

/-! ## Tags -/

theorem spells_opener : Spells "<claim".toList m.opener := spells_of_lower m.opens

theorem spells_closer : Spells "</claim".toList m.closer := spells_of_lower m.closes

theorem inside_plain : ∀ c ∈ m.inside, isTagChar c = true := by
  have hspace : ∀ {c}, isSpace c = true → isTagChar c = true :=
    fun hc => isTagChar_of hc (by decide) (by decide)
  intro c hc
  rcases List.mem_append.mp hc with hc | hc
  · obtain ⟨a, ha, hc⟩ := List.mem_flatMap.mp hc
    have hquote : isTagChar a.quote = true := by
      rcases a.quotes with h | h
      · rw [h]; decide
      · rw [h]; decide
    rcases List.mem_append.mp hc with hc | hc
    · exact hspace (a.blank c hc)
    · unfold AttributeMarkup.assignment at hc
      simp only [List.mem_append, List.mem_cons, List.not_mem_nil, or_false] at hc
      rcases hc with (hc | rfl | rfl | hc) | rfl
      · exact isTagChar_of ((m.isAttributeName_of_mem ha).letters c hc) (by decide) (by decide)
      · decide
      · exact hquote
      · exact a.plain c hc
      · exact hquote
  · exact hspace (m.blank c hc)

/-- White space stands behind the tag name. -/
theorem inside_cons : ∃ c rest, m.inside = c :: rest ∧ isSpace c = true := by
  cases hcases : m.attributes with
  | nil =>
    have hlength := m.named.length_eq
    simp [hcases] at hlength
  | cons a attributes =>
    have hgap := m.first a (by rw [hcases]; rfl)
    obtain ⟨c, gap, hc⟩ := List.exists_cons_of_ne_nil hgap
    unfold inside
    rw [hcases, List.flatMap_cons, AttributeMarkup.render, hc]
    exact ⟨c, _, rfl, a.blank c (by rw [hc]; exact List.mem_cons_self)⟩

theorem isTag_openTag : IsTag m.openTag := by
  refine .inl (.mk m.spells_opener m.inside_plain fun c hc => ?_)
  obtain ⟨d, rest, hinside, hd⟩ := m.inside_cons
  rw [hinside] at hc
  cases hc
  exact hd

theorem isTag_closeTag : IsTag m.closeTag := .inr (.mk m.spells_closer m.blank_close)

theorem startsLike_openTag : startsLike "<claim" m.openTag = true := by
  unfold startsLike openTag
  rw [List.map_append, List.map_append, m.opens, List.append_assoc, List.isPrefixOf_iff_prefix]
  exact List.prefix_append _ _

theorem startsLike_closeTag : startsLike "<claim" m.closeTag = false ∧
    startsLike "</claim" m.closeTag = true := by
  unfold startsLike closeTag
  rw [List.map_append, List.map_append, m.closes, List.append_assoc]
  constructor
  · rfl
  · rw [List.isPrefixOf_iff_prefix]
    exact List.prefix_append _ _

end FactMarkup

/-- What the loop takes for tag syntax contains `<`. -/
theorem mem_of_isTagSyntax {token : List Char} (h : isTagSyntax token = true) : '<' ∈ token := by
  cases token with
  | nil => exact absurd h (by decide)
  | cons c token =>
    have hfirst : c.toLower = '<' := by
      have hopen : "<claim".toList = '<' :: "claim".toList := by decide
      have hclose : "</claim".toList = '<' :: "/claim".toList := by decide
      unfold isTagSyntax startsLike at h
      rw [hopen, hclose, List.map_cons] at h
      simp only [List.isPrefixOf, Bool.or_eq_true, Bool.and_eq_true, beq_iff_eq] at h
      rcases h with h | h
      · exact h.1.symm
      · exact h.1.symm
    rw [toLower_eq hfirst (by decide)]
    exact List.mem_cons_self

/-! ## Broken openers -/

theorem brokenOpenAt_of_ne {c : Char} (h : c ≠ '<') (rest : List Char) :
    brokenOpenAt (c :: rest) = none := by
  have hword : stripWord "<claim".toList (c :: rest) = none := by
    cases hstrip : stripWord "<claim".toList (c :: rest) with
    | none => rfl
    | some behind =>
      obtain ⟨spelt, htext, hspelt⟩ := stripWord_eq_some.mp hstrip
      cases hspelt with
      | cons hletter _ =>
        cases htext
        exact absurd (sameLetter_eq hletter (by decide)) h
  unfold brokenOpenAt
  rw [hword]

theorem brokenOpenAt_slash (rest : List Char) : brokenOpenAt ('<' :: '/' :: rest) = none := by
  have hword : "<claim".toList = '<' :: 'c' :: "laim".toList := by decide
  have hslash : sameLetter 'c' '/' = false := by decide
  have hnone : stripWord "<claim".toList ('<' :: '/' :: rest) = none := by
    rw [hword, stripWord, stripWord, hslash]
    simp
  unfold brokenOpenAt
  rw [hnone]

/-- A text without `<` has no opener. -/
theorem no_broken_of_plain {text : List Char} (h : '<' ∉ text) (after : List Char) :
    matchesIn brokenOpenAt text after = [] := by
  induction text with
  | nil => rfl
  | cons c text ih =>
    rw [List.mem_cons, not_or] at h
    rw [matchesIn, List.cons_append, brokenOpenAt_of_ne (Ne.symm h.1), ih h.2]
    rfl

namespace FactMarkup

variable (m : FactMarkup)

theorem newline_openTag : '\n' ∈ m.openTag ↔ '\n' ∈ m.inside := by
  obtain ⟨letters, hopener, hletters⟩ := m.opener_cons
  unfold openTag
  rw [hopener]
  simp only [List.cons_append, List.mem_cons, List.mem_append, List.not_mem_nil, or_false]
  constructor
  · rintro (h | (h | h) | h)
    · cases h
    · exact absurd (hletters _ h) (by decide)
    · exact h
    · cases h
  · exact fun h => .inr (.inl (.inr h))

/-- **The repair and a well-formed opening tag**: it takes the tag for a broken one exactly when the
tag runs over more than one line. -/
theorem brokenOpenAt_openTag (rest : List Char) :
    brokenOpenAt (m.openTag ++ rest) = none ↔ '\n' ∉ m.openTag := by
  rw [m.newline_openTag]
  -- the repair reads the opener and then what stands inside the tag
  have hword : stripWord "<claim".toList (m.openTag ++ rest) =
      some (m.inside ++ '>' :: rest) := by
    refine stripWord_eq_some.mpr ⟨m.opener, ?_, m.spells_opener⟩
    unfold openTag
    simp only [List.append_assoc, List.cons_append, List.nil_append]
  obtain ⟨c, inner, hinside, hc⟩ := m.inside_cons
  unfold brokenOpenAt
  rw [hword, hinside, List.cons_append]
  simp only [hc, if_true]
  rw [← List.cons_append, ← hinside]
  -- it reads on to the first bracket or newline
  by_cases hline : '\n' ∈ m.inside
  · obtain ⟨before, behind, hsplit, hbefore⟩ := List.eq_append_cons_of_mem hline
    -- with a newline inside, the reading stops there, before any bracket
    have htake : (m.inside ++ '>' :: rest).takeWhile
        (fun c => c ≠ '<' && c ≠ '>' && c ≠ '\n') = before := by
      rw [hsplit, List.append_assoc]
      refine takeWhile_stop (fun d hd => ?_) (by decide)
      have hplain := m.inside_plain d (by rw [hsplit]; exact List.mem_append_left _ hd)
      have hd' : d ≠ '\n' := fun heq => hbefore (heq ▸ hd)
      simpa [isTagChar, hd'] using hplain
    rw [htake, hsplit, List.append_assoc, List.drop_left]
    simp
  · have htake : (m.inside ++ '>' :: rest).takeWhile
        (fun c => c ≠ '<' && c ≠ '>' && c ≠ '\n') = m.inside := by
      refine takeWhile_stop (fun d hd => ?_) (by decide)
      have hplain := m.inside_plain d hd
      have hd' : d ≠ '\n' := fun heq => hline (heq ▸ hd)
      simpa [isTagChar, hd'] using hplain
    rw [htake, List.drop_left]
    simp [hline]

theorem text_plain : '<' ∉ m.fact.text.toList :=
  fun h => absurd (m.plain _ h) (by decide)

theorem openTag_cons : ∃ rest, m.openTag = '<' :: rest ∧ '<' ∉ rest := by
  obtain ⟨letters, hopener, -⟩ := m.opener_cons
  have htail := m.isTag_openTag.tail_plain
  have hcons : m.openTag = '<' :: (letters ++ m.inside ++ ['>']) := by
    unfold openTag
    rw [hopener]
    rfl
  rw [hcons] at htail
  exact ⟨_, hcons, htail⟩

theorem closeTag_cons : ∃ rest, m.closeTag = '<' :: '/' :: rest ∧ '<' ∉ rest := by
  have hword := m.spells_closer
  have hclaim : "</claim".toList = '<' :: '/' :: "claim".toList := by decide
  rw [hclaim] at hword
  have htail := m.isTag_closeTag.tail_plain
  unfold closeTag at htail ⊢
  cases hcloser : m.closer with
  | nil => rw [hcloser] at hword; cases hword
  | cons c closer =>
    rw [hcloser] at hword htail
    cases hword with
    | cons hc hword =>
      cases hword with
      | @cons _ d _ letters hd hword =>
        rw [sameLetter_eq hc (by decide), sameLetter_eq hd (by decide)]
        simp only [List.cons_append, List.tail_cons, List.mem_cons, not_or] at htail ⊢
        exact ⟨_, rfl, htail.2⟩

/-- The broken openers of a fact's markup, whatever follows it. -/
theorem broken_render (after : List Char) :
    matchesIn brokenOpenAt m.render after = [] ↔ '\n' ∉ m.openTag := by
  obtain ⟨rest, hopen, hrest⟩ := m.openTag_cons
  obtain ⟨more, hclose, hmore⟩ := m.closeTag_cons
  unfold render
  rw [matchesIn_append, matchesIn_append, no_broken_of_plain m.text_plain]
  have hcloses : matchesIn brokenOpenAt m.closeTag after = [] := by
    rw [hclose, matchesIn, List.cons_append, List.cons_append, brokenOpenAt_slash,
      no_broken_of_plain (by simpa using hmore)]
    rfl
  have hopens :
      matchesIn brokenOpenAt m.openTag (m.fact.text.toList ++ (m.closeTag ++ after)) = [] ↔
      '\n' ∉ m.openTag := by
    rw [← m.brokenOpenAt_openTag (m.fact.text.toList ++ (m.closeTag ++ after)), hopen, matchesIn,
      no_broken_of_plain hrest, List.append_nil]
    simp
  rw [hcloses, ← hopens]
  simp

end FactMarkup

end ShiftMind.Grounding
