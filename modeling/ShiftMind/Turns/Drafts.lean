import Mathlib.Logic.Relation
import ShiftMind.Store.Schema

/-!
# ShiftMind — the life of a draft

What the two draft tables look like while drafts are created, revised and ended, and what one such
move preserves. Nothing here runs a statement: a transaction is related to its moves elsewhere.

* **`DraftSound`** — the versions of a draft are numbered from one without a gap, its current
  version is the last, and its resource version counts them — plus one once it has ended.
* **`DraftMove`** — the four things a statement group does to the draft tables.
* **`DraftsSound.move`** — soundness is an invariant of the moves.
* **`DraftsEvolve`** — a draft stays as it is, or was active and has gone up in its resource
  version: a preorder that every move follows, so that a draft found again at a resource version
  seen before is the draft seen before.
-/

namespace ShiftMind

open Relational Relation

/-! ## Sound drafts -/

/-- The ordinal of the latest version: the resource version while the draft is active, and one
less once it has ended. -/
def ProposalRow.latestOrdinal (row : ProposalRow) : Int :=
  if row.state = .active then row.resourceVersion else row.resourceVersion - 1

/-- `v` is the version a draft points to. -/
structure CurrentVersion (row : ProposalRow) (v : ProposalVersionRow) : Prop where
  id : row.currentVersionId = some v.id
  site : v.siteId = row.siteId
  draft : v.proposalId = row.id
  ordinal : v.versionOrdinal = row.latestOrdinal
  payload : v.payload.proposalId = some row.id

/-- A draft and its versions. -/
structure DraftSound (db : Db) (row : ProposalRow) : Prop where
  /-- its version ordinals are exactly `1 … n` -/
  ordinals : ∀ k, (∃ v ∈ db.proposalVersion, v.proposalId = row.id ∧ v.versionOrdinal = k) ↔
    1 ≤ k ∧ k ≤ row.latestOrdinal
  current : ∃ v ∈ db.proposalVersion, CurrentVersion row v

/-- The draft tables. -/
structure DraftsSound (db : Db) : Prop where
  drafts : ∀ row ∈ db.proposal, DraftSound db row
  owned : ∀ v ∈ db.proposalVersion, ∃ row ∈ db.proposal, row.id = v.proposalId

/-- A sound draft has at least one version. -/
theorem DraftSound.one_le {db : Db} {row : ProposalRow} (h : DraftSound db row) :
    1 ≤ row.latestOrdinal := by
  obtain ⟨v, hv, hcurrent⟩ := h.current
  have := (h.ordinals v.versionOrdinal).mp ⟨v, hv, hcurrent.draft, rfl⟩
  rw [← hcurrent.ordinal]
  exact this.1

theorem eq_of_id {t : Table ProposalRow} {a b : ProposalRow} (ha : a ∈ t) (hb : b ∈ t)
    (hid : a.id = b.id) : a = b :=
  Table.eq_of_clash ha hb (by simp [clash, hid])

/-- **One active draft.** Two active drafts of a conversation are one. -/
theorem eq_of_active {t : Table ProposalRow} {a b : ProposalRow} (ha : a ∈ t) (hb : b ∈ t)
    (hactive : a.state = .active) (hactive' : b.state = .active)
    (hconversation : a.conversationId = b.conversationId) : a = b :=
  Table.eq_of_clash ha hb (by simp [clash, hactive, hactive', hconversation])

/-! ## Moves

A draft is created, revised or ended; nothing else happens to one. -/

/-- A version of a draft, at this ordinal. -/
structure VersionOf (row : ProposalRow) (ordinal : Int) (v : ProposalVersionRow) : Prop where
  site : v.siteId = row.siteId
  draft : v.proposalId = row.id
  ordinal : v.versionOrdinal = ordinal
  payload : v.payload.proposalId = some row.id

/-- `t'` is `t` with one more row. -/
def Adds {Row : Type} [Constrained Row] (t t' : Table Row) (row : Row) : Prop :=
  ∀ r, r ∈ t' ↔ r ∈ t ∨ r = row

/-- A draft was created, with its first version. -/
structure DraftCreated (row : ProposalRow) (v : ProposalVersionRow) (db db' : Db) : Prop where
  drafts : Adds db.proposal db'.proposal row
  versions : Adds db.proposalVersion db'.proposalVersion v
  new : ∀ other ∈ db.proposal, other.id ≠ row.id
  active : row.state = .active
  first : row.resourceVersion = 1
  current : row.currentVersionId = some v.id
  version : VersionOf row 1 v

/-- A draft got a further version. -/
structure DraftRevised (row row' : ProposalRow) (v : ProposalVersionRow) (db db' : Db) : Prop where
  drafts : db.proposal.Replaced db'.proposal row row'
  versions : Adds db.proposalVersion db'.proposalVersion v
  active : row.state = .active
  revised : row' = { row with
    currentVersionId := some v.id
    resourceVersion := row.resourceVersion + 1 }
  version : VersionOf row (row.resourceVersion + 1) v

/-- A draft ended: it was rejected, or applied. -/
structure DraftEnded (row row' : ProposalRow) (db db' : Db) : Prop where
  drafts : db.proposal.Replaced db'.proposal row row'
  versions : db'.proposalVersion = db.proposalVersion
  active : row.state = .active
  ended : row'.state ≠ .active
  same : row'.id = row.id ∧ row'.siteId = row.siteId ∧ row'.conversationId = row.conversationId ∧
    row'.currentVersionId = row.currentVersionId
  counted : row'.resourceVersion = row.resourceVersion + 1

inductive DraftMove (db db' : Db) : Prop
  | kept (drafts : db'.proposal = db.proposal) (versions : db'.proposalVersion = db.proposalVersion)
  | created (row : ProposalRow) (v : ProposalVersionRow) (h : DraftCreated row v db db')
  | revised (row row' : ProposalRow) (v : ProposalVersionRow) (h : DraftRevised row row' v db db')
  | ended (row row' : ProposalRow) (h : DraftEnded row row' db db')

/-- Several moves, one after the other. -/
abbrev DraftMoves : Db → Db → Prop := ReflTransGen DraftMove

theorem DraftMoves.kept {db db' : Db} (drafts : db'.proposal = db.proposal)
    (versions : db'.proposalVersion = db.proposalVersion) : DraftMoves db db' :=
  .single (.kept drafts versions)

/-! ## Soundness is kept -/

/-- A draft whose row and versions both stay. -/
theorem DraftSound.congr {db db' : Db} {row : ProposalRow} (h : DraftSound db row)
    (hversions : ∀ v, v.proposalId = row.id → (v ∈ db'.proposalVersion ↔ v ∈ db.proposalVersion)) :
    DraftSound db' row := by
  refine ⟨fun k => ?_, ?_⟩
  · rw [← h.ordinals k]
    constructor
    · intro ⟨v, hv, hdraft, hk⟩
      exact ⟨v, (hversions v hdraft).mp hv, hdraft, hk⟩
    · intro ⟨v, hv, hdraft, hk⟩
      exact ⟨v, (hversions v hdraft).mpr hv, hdraft, hk⟩
  · obtain ⟨v, hv, hcurrent⟩ := h.current
    exact ⟨v, (hversions v hcurrent.draft).mpr hv, hcurrent⟩

/-- A version of another draft does not count. -/
theorem Adds.other {db db' : Db} {v : ProposalVersionRow} {id : Uuid}
    (h : Adds db.proposalVersion db'.proposalVersion v) (hother : v.proposalId ≠ id)
    (w : ProposalVersionRow) (hw : w.proposalId = id) :
    w ∈ db'.proposalVersion ↔ w ∈ db.proposalVersion := by
  rw [h w]
  constructor
  · intro hor
    cases hor with
    | inl hmem => exact hmem
    | inr heq => rw [heq] at hw; exact absurd hw hother
  · exact .inl

theorem DraftsSound.created {db db' : Db} {row : ProposalRow} {v : ProposalVersionRow}
    (hsound : DraftsSound db) (h : DraftCreated row v db db') : DraftsSound db' := by
  have hlatest : row.latestOrdinal = 1 := by
    unfold ProposalRow.latestOrdinal
    rw [if_pos h.active, h.first]
  -- a fresh identifier has no versions yet
  have hnone : ∀ w ∈ db.proposalVersion, w.proposalId ≠ row.id := by
    intro w hw hid
    obtain ⟨other, hother, heq⟩ := hsound.owned w hw
    exact h.new other hother (heq.trans hid)
  refine ⟨fun r hr => ?_, fun w hw => ?_⟩
  · cases (h.drafts r).mp hr with
    | inl hold =>
      refine (hsound.drafts r hold).congr (h.versions.other ?_)
      rw [h.version.draft]
      exact fun heq => h.new r hold heq.symm
    | inr heq =>
      subst heq
      refine ⟨fun k => ?_, v, (h.versions v).mpr (.inr rfl), ?_⟩
      · rw [hlatest]
        constructor
        · intro ⟨w, hw, hdraft, hk⟩
          cases (h.versions w).mp hw with
          | inl hold => exact absurd hdraft (hnone w hold)
          | inr heq =>
            rw [← hk, heq, h.version.ordinal]
            omega
        · intro hk
          have hone : k = 1 := by omega
          exact ⟨v, (h.versions v).mpr (.inr rfl), h.version.draft, by rw [h.version.ordinal, hone]⟩
      · exact ⟨h.current, h.version.site, h.version.draft, by rw [h.version.ordinal, hlatest],
          h.version.payload⟩
  · cases (h.versions w).mp hw with
    | inl hold =>
      obtain ⟨r, hr, hid⟩ := hsound.owned w hold
      exact ⟨r, (h.drafts r).mpr (.inl hr), hid⟩
    | inr heq =>
      exact ⟨row, (h.drafts row).mpr (.inr rfl), by rw [heq, h.version.draft]⟩

/-- The owner of a version is still there when its row was replaced. -/
theorem owned_of_replaced {t t' : Table ProposalRow} {row row' : ProposalRow}
    (h : t.Replaced t' row row') (hid : row'.id = row.id) {id : Uuid}
    (howned : ∃ r ∈ t, r.id = id) : ∃ r ∈ t', r.id = id := by
  obtain ⟨r, hr, hrid⟩ := howned
  by_cases heq : r = row
  · exact ⟨row', h.mem_new, by rw [hid, ← heq]; exact hrid⟩
  · exact ⟨r, (h.mem_iff r).mpr (.inr ⟨hr, heq⟩), hrid⟩

theorem DraftsSound.revised {db db' : Db} {row row' : ProposalRow} {v : ProposalVersionRow}
    (hsound : DraftsSound db) (h : DraftRevised row row' v db db') : DraftsSound db' := by
  have hold := hsound.drafts row h.drafts.mem_old
  have hrow : row.latestOrdinal = row.resourceVersion := if_pos h.active
  have hid : row'.id = row.id := by rw [h.revised]
  -- the draft stays active, so its latest ordinal is one further
  have hlatest : row'.latestOrdinal = row.resourceVersion + 1 := by
    rw [h.revised]
    exact if_pos h.active
  have hone := hold.one_le
  refine ⟨fun r hr => ?_, fun w hw => ?_⟩
  · cases (h.drafts.mem_iff r).mp hr with
    | inl heq =>
      subst heq
      refine ⟨fun k => ?_, v, (h.versions v).mpr (.inr rfl), ?_⟩
      · rw [hlatest, hid]
        constructor
        · intro ⟨w, hw, hdraft, hk⟩
          cases (h.versions w).mp hw with
          | inl hmem =>
            have := (hold.ordinals k).mp ⟨w, hmem, hdraft, hk⟩
            omega
          | inr heq =>
            rw [← hk, heq, h.version.ordinal]
            omega
        · intro ⟨hk₁, hk₂⟩
          -- the new ordinal is the new version's
          by_cases hk : k = row.resourceVersion + 1
          · exact ⟨v, (h.versions v).mpr (.inr rfl), h.version.draft,
              by rw [h.version.ordinal, hk]⟩
          · obtain ⟨w, hw, hdraft, hwk⟩ := (hold.ordinals k).mpr ⟨hk₁, by omega⟩
            exact ⟨w, (h.versions w).mpr (.inl hw), hdraft, hwk⟩
      · refine ⟨by rw [h.revised], ?_, ?_, by rw [h.version.ordinal, hlatest], ?_⟩
        · rw [h.revised]; exact h.version.site
        · rw [hid]; exact h.version.draft
        · rw [hid]; exact h.version.payload
    | inr hr =>
      refine (hsound.drafts r hr.1).congr (h.versions.other ?_)
      rw [h.version.draft]
      exact fun heq => hr.2 (eq_of_id hr.1 h.drafts.mem_old heq.symm)
  · refine owned_of_replaced h.drafts hid ?_
    cases (h.versions w).mp hw with
    | inl hmem => exact hsound.owned w hmem
    | inr heq => exact ⟨row, h.drafts.mem_old, by rw [heq, h.version.draft]⟩

theorem DraftsSound.ended {db db' : Db} {row row' : ProposalRow} (hsound : DraftsSound db)
    (h : DraftEnded row row' db db') : DraftsSound db' := by
  have hold := hsound.drafts row h.drafts.mem_old
  obtain ⟨hid, hsite, -, hcurrentId⟩ := h.same
  have hlatest : row'.latestOrdinal = row.latestOrdinal := by
    unfold ProposalRow.latestOrdinal
    rw [if_pos h.active, if_neg h.ended, h.counted]
    omega
  refine ⟨fun r hr => ?_, fun w hw => ?_⟩
  · cases (h.drafts.mem_iff r).mp hr with
    | inl heq =>
      subst heq
      refine ⟨fun k => ?_, ?_⟩
      · rw [hlatest, hid, h.versions]
        exact hold.ordinals k
      · obtain ⟨v, hv, hcurrent⟩ := hold.current
        refine ⟨v, by rw [h.versions]; exact hv, ?_⟩
        exact ⟨hcurrentId.trans hcurrent.id, hcurrent.site.trans hsite.symm,
          hcurrent.draft.trans hid.symm, hcurrent.ordinal.trans hlatest.symm,
          hid ▸ hcurrent.payload⟩
    | inr hr => exact (hsound.drafts r hr.1).congr fun v _ => by rw [h.versions]
  · rw [h.versions] at hw
    exact owned_of_replaced h.drafts hid (hsound.owned w hw)

/-- **Soundness is an invariant of the moves.** -/
theorem DraftsSound.move {db db' : Db} (hsound : DraftsSound db) (h : DraftMove db db') :
    DraftsSound db' := by
  cases h with
  | kept drafts versions =>
    refine ⟨fun row hrow => ?_, fun v hv => ?_⟩
    · rw [drafts] at hrow
      exact (hsound.drafts row hrow).congr fun v _ => by rw [versions]
    · rw [versions] at hv
      rw [drafts]
      exact hsound.owned v hv
  | created row v h => exact hsound.created h
  | revised row row' v h => exact hsound.revised h
  | ended row row' h => exact hsound.ended h

theorem DraftsSound.moves {db db' : Db} (hsound : DraftsSound db) (h : DraftMoves db db') :
    DraftsSound db' := by
  induction h with
  | refl => exact hsound
  | tail _ hlast ih => exact ih.move hlast

/-! ## Drafts evolve upwards -/

/-- The versions of a draft are the same in both states. -/
def SameVersions (db db' : Db) (proposalId : Uuid) : Prop :=
  ∀ v, v.proposalId = proposalId → (v ∈ db'.proposalVersion ↔ v ∈ db.proposalVersion)

/-- A draft stays as it is, versions included. -/
def DraftStays (db db' : Db) (row : ProposalRow) : Prop :=
  row ∈ db'.proposal ∧ SameVersions db db' row.id

/-- A draft was active and has moved on. -/
def DraftMovedOn (db' : Db) (row : ProposalRow) : Prop :=
  row.state = .active ∧ ∃ row' ∈ db'.proposal, row'.id = row.id ∧
    row.resourceVersion < row'.resourceVersion

/-- What happens to drafts between two states. -/
def DraftsEvolve (db db' : Db) : Prop :=
  ∀ row ∈ db.proposal, DraftStays db db' row ∨ DraftMovedOn db' row

theorem DraftsEvolve.refl (db : Db) : DraftsEvolve db db :=
  fun _ hrow => .inl ⟨hrow, fun _ _ => Iff.rfl⟩

theorem DraftsEvolve.trans (db db' db'' : Db) (h : DraftsEvolve db db')
    (h' : DraftsEvolve db' db'') : DraftsEvolve db db'' := by
  intro row hrow
  cases h row hrow with
  | inl hstays =>
    cases h' row hstays.1 with
    | inl hstays' =>
      exact .inl ⟨hstays'.1, fun v hv => (hstays'.2 v hv).trans (hstays.2 v hv)⟩
    | inr hmoved => exact .inr hmoved
  | inr hmoved =>
    obtain ⟨hactive, row', hrow', hid, hlt⟩ := hmoved
    refine .inr ⟨hactive, ?_⟩
    cases h' row' hrow' with
    | inl hstays => exact ⟨row', hstays.1, hid, hlt⟩
    | inr hmoved' =>
      obtain ⟨-, row'', hrow'', hid', hlt'⟩ := hmoved'
      exact ⟨row'', hrow'', hid'.trans hid, hlt.trans hlt'⟩

theorem DraftMove.evolve {db db' : Db} (h : DraftMove db db') : DraftsEvolve db db' := by
  intro row hrow
  cases h with
  | kept drafts versions =>
    exact .inl ⟨by rw [drafts]; exact hrow, fun v _ => by rw [versions]⟩
  | created new v h =>
    -- the version inserted is another draft's
    refine .inl ⟨(h.drafts row).mpr (.inl hrow), h.versions.other ?_⟩
    rw [h.version.draft]
    exact fun heq => h.new row hrow heq.symm
  | revised old new v h =>
    -- the draft revised goes on, the others stay
    by_cases heq : row = old
    · subst heq
      refine .inr ⟨h.active, new, h.drafts.mem_new, by rw [h.revised], ?_⟩
      rw [h.revised]
      exact Int.lt_succ _
    · refine .inl ⟨(h.drafts.mem_iff row).mpr (.inr ⟨hrow, heq⟩), h.versions.other ?_⟩
      rw [h.version.draft]
      exact fun hid => heq (eq_of_id hrow h.drafts.mem_old hid.symm)
  | ended old new h =>
    by_cases heq : row = old
    · subst heq
      refine .inr ⟨h.active, new, h.drafts.mem_new, h.same.1, ?_⟩
      rw [h.counted]
      exact Int.lt_succ _
    · exact .inl ⟨(h.drafts.mem_iff row).mpr (.inr ⟨hrow, heq⟩), fun v _ => by rw [h.versions]⟩

theorem DraftMoves.evolve {db db' : Db} (h : DraftMoves db db') : DraftsEvolve db db' := by
  induction h with
  | refl => exact .refl _
  | tail _ hlast ih => exact ih.trans _ _ _ hlast.evolve

/-- No draft is deleted, and none changes its site. -/
theorem DraftMoves.persists {db db' : Db} (h : DraftMoves db db') {row : ProposalRow}
    (hrow : row ∈ db.proposal) :
    ∃ row' ∈ db'.proposal, row'.id = row.id ∧ row'.siteId = row.siteId := by
  induction h with
  | refl => exact ⟨row, hrow, rfl, rfl⟩
  | tail _ hlast ih =>
    obtain ⟨row', hrow', hid, hsite⟩ := ih
    cases hlast with
    | kept drafts versions => exact ⟨row', by rw [drafts]; exact hrow', hid, hsite⟩
    | created new v h => exact ⟨row', (h.drafts row').mpr (.inl hrow'), hid, hsite⟩
    | revised old new v h =>
      by_cases heq : row' = old
      · have hsame : new.id = row'.id ∧ new.siteId = row'.siteId := by
          rw [h.revised, heq]
          exact ⟨rfl, rfl⟩
        exact ⟨new, h.drafts.mem_new, hsame.1.trans hid, hsame.2.trans hsite⟩
      · exact ⟨row', (h.drafts.mem_iff row').mpr (.inr ⟨hrow', heq⟩), hid, hsite⟩
    | ended old new h =>
      by_cases heq : row' = old
      · exact ⟨new, h.drafts.mem_new, by rw [h.same.1, ← heq, hid],
          by rw [h.same.2.1, ← heq, hsite]⟩
      · exact ⟨row', (h.drafts.mem_iff row').mpr (.inr ⟨hrow', heq⟩), hid, hsite⟩

/-- **An ended draft never changes.** -/
theorem DraftsEvolve.ended {db db' : Db} (h : DraftsEvolve db db') {row : ProposalRow}
    (hrow : row ∈ db.proposal) (hended : row.state ≠ .active) : DraftStays db db' row := by
  cases h row hrow with
  | inl hstays => exact hstays
  | inr hmoved => exact absurd hmoved.1 hended

/-- **A draft found at the resource version it was seen at is the draft that was seen.** -/
theorem DraftsEvolve.unchanged {db db' : Db} (h : DraftsEvolve db db') {row row' : ProposalRow}
    (hrow : row ∈ db.proposal) (hrow' : row' ∈ db'.proposal) (hid : row'.id = row.id)
    (hversion : row'.resourceVersion = row.resourceVersion) :
    row' = row ∧ SameVersions db db' row.id := by
  cases h row hrow with
  | inl hstays => exact ⟨eq_of_id hrow' hstays.1 hid, hstays.2⟩
  | inr hmoved =>
    obtain ⟨-, later, hlater, hlaterId, hlt⟩ := hmoved
    have heq : later = row' := eq_of_id hlater hrow' (hlaterId.trans hid.symm)
    rw [heq] at hlt
    omega

end ShiftMind
