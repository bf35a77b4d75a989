import Mathlib.Data.List.TakeDrop
import Mathlib.Data.List.TakeWhile

/-!
# Splitting URLs

`urllib.parse.urlsplit` and the properties of its result. Two checks depend on tables outside this
module, as does lower-casing: whether a host in brackets is an address, and whether a network
location is safe under Unicode normalization.
-/

namespace Url

/-- The tables. -/
structure Tables where
  /-- `text.lower()` -/
  lower : List Char → List Char
  /-- `_check_bracketed_host` passes -/
  bracketedHostOk : List Char → Bool
  /-- `_checknetloc` passes -/
  netlocOk : List Char → Bool

/-- `SplitResult`, without the query and the fragment. -/
structure SplitResult where
  scheme : List Char
  netloc : List Char
  path : List Char
  deriving DecidableEq, Repr

/-- The characters stripped at the start of a URL: controls and the space. -/
def isControlOrSpace (c : Char) : Bool := c.toNat ≤ 32

/-- The characters removed from a URL wherever they stand. -/
def isUnsafeByte (c : Char) : Bool := [Char.ofNat 9, Char.ofNat 13, Char.ofNat 10].contains c

def isSchemeChar (c : Char) : Bool := c.isAlphanum || c == '+' || c == '-' || c == '.'

/-- The scheme of a URL and what follows its colon. -/
def splitScheme (lower : List Char → List Char) (url : List Char) : List Char × List Char :=
  let front := url.takeWhile (· ≠ ':')
  match url, url.drop front.length with
  | first :: _, ':' :: rest =>
    if first.isAlpha && front.all isSchemeChar then (lower front, rest) else ([], url)
  | _, _ => ([], url)

/-- The network location, if there is one, and what follows it. -/
def splitNetloc : List Char → List Char × List Char
  | '/' :: '/' :: rest => rest.span fun c => c ≠ '/' ∧ c ≠ '?' ∧ c ≠ '#'
  | url => ([], url)

/-- `urlsplit(url)`; none stands for its `ValueError`. -/
def urlsplit (tables : Tables) (url : List Char) : Option SplitResult :=
  let url := (url.dropWhile isControlOrSpace).filter fun c => !isUnsafeByte c
  let (scheme, url) := splitScheme tables.lower url
  let (netloc, url) := splitNetloc url
  let opened := netloc.contains '['
  let closed := netloc.contains ']'
  if opened != closed then none
  else if opened &&
      !tables.bracketedHostOk (((netloc.dropWhile (· ≠ '[')).tail).takeWhile (· ≠ ']')) then none
  else
    let path := (url.takeWhile (· ≠ '#')).takeWhile (· ≠ '?')
    if tables.netlocOk netloc then some ⟨scheme, netloc, path⟩ else none

/-- What follows the last `@` of a network location. -/
def hostinfo (netloc : List Char) : List Char := (netloc.reverse.takeWhile (· ≠ '@')).reverse

/-- `_hostinfo`: the host and the text of the port. -/
def hostAndPort (netloc : List Char) : List Char × List Char :=
  let info := hostinfo netloc
  match info.dropWhile (· ≠ '[') with
  | _ :: bracketed =>
    (bracketed.takeWhile (· ≠ ']'), ((bracketed.dropWhile (· ≠ ']')).dropWhile (· ≠ ':')).tail)
  | [] => (info.takeWhile (· ≠ ':'), (info.dropWhile (· ≠ ':')).tail)

/-- `parts.hostname`: the zone of an address keeps its case. -/
def SplitResult.hostname (tables : Tables) (parts : SplitResult) : Option (List Char) :=
  match (hostAndPort parts.netloc).1 with
  | [] => none
  | host => some (tables.lower (host.takeWhile (· ≠ '%')) ++ host.dropWhile (· ≠ '%'))

/-- `int(text)` of ASCII digits. -/
def decimal (text : List Char) : Nat := text.foldl (fun n c => n * 10 + (c.toNat - '0'.toNat)) 0

/-- `parts.port`; the outer none stands for its `ValueError`. -/
def SplitResult.port (parts : SplitResult) : Option (Option Nat) :=
  match (hostAndPort parts.netloc).2 with
  | [] => some none
  | text =>
    if text.all Char.isDigit then
      if decimal text ≤ 65535 then some (some (decimal text)) else none
    else none

/-- `urlunsplit((scheme, netloc, path, "", ""))` for a scheme and a network location that are not
empty. -/
def urlunsplit (scheme netloc path : List Char) : List Char :=
  scheme ++ ':' :: '/' :: '/' :: (netloc ++
    (if path ≠ [] ∧ path.head? ≠ some '/' then '/' :: path else path))

/-! ## What the parts of a URL do not depend on -/

/-- A character that ends the path. -/
def IsMark (c : Char) : Prop := c = '?' ∨ c = '#'

theorem dropWhile_append_of_false {p : Char → Bool} {c : Char} (hc : p c = false)
    (text rest : List Char) :
    (text ++ c :: rest).dropWhile p = text.dropWhile p ++ c :: rest := by
  induction text with
  | nil => rw [List.nil_append, List.dropWhile_cons_of_neg (by simp [hc])]; rfl
  | cons first text ih =>
    by_cases hp : p first = true
    · rw [List.cons_append, List.dropWhile_cons_of_pos hp, List.dropWhile_cons_of_pos hp, ih]
    · rw [List.cons_append, List.dropWhile_cons_of_neg hp, List.dropWhile_cons_of_neg hp]
      rfl

theorem takeWhile_append_of_false {p : Char → Bool} {c : Char} (hc : p c = false)
    (text rest : List Char) : (text ++ c :: rest).takeWhile p = text.takeWhile p := by
  induction text with
  | nil => rw [List.nil_append, List.takeWhile_cons_of_neg (by simp [hc])]; rfl
  | cons first text ih =>
    by_cases hp : p first = true
    · rw [List.cons_append, List.takeWhile_cons_of_pos hp, List.takeWhile_cons_of_pos hp, ih]
    · rw [List.cons_append, List.takeWhile_cons_of_neg hp, List.takeWhile_cons_of_neg hp]

theorem takeWhile_append_mark {mark : Char} (hmark : IsMark mark) (text rest : List Char) :
    (((text ++ mark :: rest).takeWhile (· ≠ '#')).takeWhile (· ≠ '?')) =
      (text.takeWhile (· ≠ '#')).takeWhile (· ≠ '?') := by
  rcases hmark with rfl | rfl
  · by_cases hmem : '#' ∈ text
    · obtain ⟨front, back, rfl, hfront⟩ := List.eq_append_cons_of_mem hmem
      rw [List.append_assoc, List.cons_append, takeWhile_append_of_false (by decide),
        takeWhile_append_of_false (by decide)]
    · have htext : ∀ c ∈ text, decide (c ≠ '#') = true := by
        intro c hc
        exact decide_eq_true fun heq => hmem (heq ▸ hc)
      rw [List.takeWhile_append_of_pos htext, List.takeWhile_cons_of_pos (by decide),
        takeWhile_append_of_false (by decide), List.takeWhile_eq_self_iff.mpr htext]
  · rw [takeWhile_append_of_false (by decide)]

theorem splitScheme_of_not_mem (lower : List Char → List Char) {url : List Char}
    (h : ':' ∉ url) : splitScheme lower url = ([], url) := by
  have hurl : ∀ c ∈ url, decide (c ≠ ':') = true := by
    intro c hc
    exact decide_eq_true fun heq => h (heq ▸ hc)
  have hdrop : url.drop (url.takeWhile (· ≠ ':')).length = [] := by
    rw [List.takeWhile_eq_self_iff.mpr hurl, List.drop_length]
  unfold splitScheme
  simp only [hdrop]

theorem splitScheme_of_colon (lower : List Char → List Char) {front : List Char}
    (back : List Char) (hfront : ':' ∉ front) :
    splitScheme lower (front ++ ':' :: back) =
      if front.head?.any Char.isAlpha && front.all isSchemeChar then (lower front, back)
      else ([], front ++ ':' :: back) := by
  have hurl : ∀ c ∈ front, decide (c ≠ ':') = true := by
    intro c hc
    exact decide_eq_true fun heq => hfront (heq ▸ hc)
  have htake : (front ++ ':' :: back).takeWhile (· ≠ ':') = front := by
    rw [takeWhile_append_of_false (by decide), List.takeWhile_eq_self_iff.mpr hurl]
  have hdrop : (front ++ ':' :: back).drop front.length = ':' :: back := List.drop_left
  unfold splitScheme
  simp only [htake, hdrop]
  cases front with
  | nil => simp
  | cons first front => rfl

/-- A scheme stands before the first character that no scheme holds. -/
theorem splitScheme_append_of {c : Char} (hcolon : ':' ≠ c) (hscheme : isSchemeChar c = false)
    (lower : List Char → List Char) (url rest : List Char) :
    splitScheme lower (url ++ c :: rest) =
      ((splitScheme lower url).1, (splitScheme lower url).2 ++ c :: rest) := by
  by_cases hmem : ':' ∈ url
  · -- the colon stands before the character
    obtain ⟨front, back, rfl, hfront⟩ := List.eq_append_cons_of_mem hmem
    rw [List.append_assoc, List.cons_append, splitScheme_of_colon lower _ hfront,
      splitScheme_of_colon lower _ hfront]
    split <;> simp
  · rw [splitScheme_of_not_mem lower hmem]
    by_cases hrest : ':' ∈ rest
    · -- the colon stands behind the character, which no scheme holds
      obtain ⟨front, back, rfl, hfront⟩ := List.eq_append_cons_of_mem hrest
      have hfront' : ':' ∉ url ++ c :: front := by simp [hmem, hcolon, hfront]
      have hassoc : url ++ c :: (front ++ ':' :: back) =
          (url ++ c :: front) ++ ':' :: back := by simp
      rw [hassoc, splitScheme_of_colon lower back hfront', if_neg (by simp [hscheme])]
    · exact splitScheme_of_not_mem lower (by simp [hmem, hcolon, hrest])

/-- A query or a fragment holds no scheme: the text before it has the scheme, if any. -/
theorem splitScheme_append {mark : Char} (hmark : IsMark mark) (lower : List Char → List Char)
    (url rest : List Char) :
    splitScheme lower (url ++ mark :: rest) =
      ((splitScheme lower url).1, (splitScheme lower url).2 ++ mark :: rest) := by
  have hcolon : ':' ≠ mark := by rcases hmark with rfl | rfl <;> decide
  have hscheme : isSchemeChar mark = false := by rcases hmark with rfl | rfl <;> decide
  exact splitScheme_append_of hcolon hscheme lower url rest

theorem splitNetloc_append {mark : Char} (hmark : IsMark mark) (url rest : List Char) :
    splitNetloc (url ++ mark :: rest) =
      ((splitNetloc url).1, (splitNetloc url).2 ++ mark :: rest) := by
  have hslash : mark ≠ '/' := by rcases hmark with rfl | rfl <;> decide
  have hstop : decide (mark ≠ '/' ∧ mark ≠ '?' ∧ mark ≠ '#') = false := by
    rcases hmark with rfl | rfl <;> decide
  unfold splitNetloc
  split
  · -- the marked text starts with two slashes, so the text does
    rename_i back heq
    cases url with
    | nil => exact absurd (List.cons.inj heq).1 hslash
    | cons first url =>
      cases url with
      | nil => exact absurd (List.cons.inj (List.cons.inj heq).2).1 hslash
      | cons second url =>
        simp only [List.cons_append, List.cons.injEq] at heq
        obtain ⟨rfl, rfl, rfl⟩ := heq
        have htake := takeWhile_append_of_false
          (p := fun c => decide (c ≠ '/' ∧ c ≠ '?' ∧ c ≠ '#')) hstop url rest
        have hdrop := dropWhile_append_of_false
          (p := fun c => decide (c ≠ '/' ∧ c ≠ '?' ∧ c ≠ '#')) hstop url rest
        simp only [List.span_eq_takeWhile_dropWhile, htake, hdrop]
  · rename_i hnone
    split
    · rename_i back
      exact absurd rfl (hnone (back ++ mark :: rest))
    · rfl

/-- **What follows a question mark or a hash** has no part in a scheme, a network location or a
path. -/
theorem urlsplit_append {mark : Char} (hmark : IsMark mark) (tables : Tables)
    (url rest : List Char) : urlsplit tables (url ++ mark :: rest) = urlsplit tables url := by
  have hcontrol : isControlOrSpace mark = false := by rcases hmark with rfl | rfl <;> decide
  have hbyte : isUnsafeByte mark = false := by rcases hmark with rfl | rfl <;> decide
  have hclean : ((url ++ mark :: rest).dropWhile isControlOrSpace).filter (!isUnsafeByte ·) =
      (url.dropWhile isControlOrSpace).filter (!isUnsafeByte ·) ++
        mark :: rest.filter (!isUnsafeByte ·) := by
    rw [dropWhile_append_of_false hcontrol, List.filter_append,
      List.filter_cons_of_pos (by simp [hbyte])]
  unfold urlsplit
  rw [hclean]
  simp only [splitScheme_append hmark, splitNetloc_append hmark, takeWhile_append_mark hmark]

/-! ## A path behind a location -/

/-- A path ends the network location in front of it. -/
theorem splitNetloc_slash {url : List Char} (h : (splitNetloc url).1 ≠ []) (rest : List Char) :
    splitNetloc (url ++ '/' :: rest) =
      ((splitNetloc url).1, (splitNetloc url).2 ++ '/' :: rest) := by
  have hstop : decide ('/' ≠ '/' ∧ '/' ≠ '?' ∧ '/' ≠ '#') = false := by decide
  unfold splitNetloc at h
  split at h
  · rename_i back
    show List.span _ (back ++ '/' :: rest) = _
    have htake := takeWhile_append_of_false
      (p := fun c => decide (c ≠ '/' ∧ c ≠ '?' ∧ c ≠ '#')) hstop back rest
    have hdrop := dropWhile_append_of_false
      (p := fun c => decide (c ≠ '/' ∧ c ≠ '?' ∧ c ≠ '#')) hstop back rest
    unfold splitNetloc
    simp only [List.span_eq_takeWhile_dropWhile, htake, hdrop]
  · exact absurd rfl h

/-- The checks of a network location. -/
def locationOk (tables : Tables) (netloc : List Char) : Bool :=
  !(netloc.contains '[' != netloc.contains ']') &&
    !(netloc.contains '[' &&
      !tables.bracketedHostOk (((netloc.dropWhile (· ≠ '[')).tail).takeWhile (· ≠ ']'))) &&
    tables.netlocOk netloc

/-- The characters of a URL that are read. -/
def clean (url : List Char) : List Char :=
  (url.dropWhile isControlOrSpace).filter fun c => !isUnsafeByte c

theorem clean_slash (url rest : List Char) :
    clean (url ++ '/' :: rest) = clean url ++ '/' :: rest.filter (!isUnsafeByte ·) := by
  unfold clean
  rw [dropWhile_append_of_false (by decide), List.filter_append,
    List.filter_cons_of_pos (by decide)]

/-- Two refusals and a check, in one. -/
theorem checks_eq {α : Type} (refused refused' ok : Bool) (a : α) :
    (if refused then none else if refused' then none else if ok then some a else none) =
      if !refused && !refused' && ok then some a else none := by
  cases refused <;> cases refused' <;> cases ok <;> rfl

/-- `urlsplit`, with its checks in one place. -/
theorem urlsplit_eq (tables : Tables) (url : List Char) :
    urlsplit tables url =
      if locationOk tables (splitNetloc (splitScheme tables.lower (clean url)).2).1 then
        some ⟨(splitScheme tables.lower (clean url)).1,
          (splitNetloc (splitScheme tables.lower (clean url)).2).1,
          ((splitNetloc (splitScheme tables.lower (clean url)).2).2.takeWhile (· ≠ '#')).takeWhile
            (· ≠ '?')⟩
      else none := by
  exact checks_eq _ _ _ _

/-- **A path behind a URL with a location** leaves the scheme and the location what they are. -/
theorem urlsplit_slash (tables : Tables) {url : List Char} {parts : SplitResult}
    (h : urlsplit tables url = some parts) (hnetloc : parts.netloc ≠ []) (rest : List Char) :
    ∃ parts', urlsplit tables (url ++ '/' :: rest) = some parts' ∧
      parts'.scheme = parts.scheme ∧ parts'.netloc = parts.netloc := by
  rw [urlsplit_eq] at h
  split at h
  · rename_i hok
    have hparts := Option.some.inj h
    subst hparts
    rw [urlsplit_eq, clean_slash, splitScheme_append_of (by decide) (by decide),
      splitNetloc_slash hnetloc, if_pos hok]
    exact ⟨_, rfl, rfl, rfl⟩
  · cases h

/-- User information has no part in the host and the port. -/
theorem hostAndPort_userinfo (user netloc : List Char) :
    hostAndPort (user ++ '@' :: netloc) = hostAndPort netloc := by
  have hinfo : hostinfo (user ++ '@' :: netloc) = hostinfo netloc := by
    unfold hostinfo
    rw [List.reverse_append, List.reverse_cons, List.append_assoc, List.singleton_append,
      takeWhile_append_of_false (by decide)]
  unfold hostAndPort
  rw [hinfo]

end Url
