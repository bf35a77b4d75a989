import ShiftMind.Streaming.ConversationStream

/-!
# ShiftMind — merging the live view into the timeline

`merged` of `hooks/useConversationStream.ts`: the activities of the last timeline read, then the
live ones, keyed by activity and cut to the window of the timeline. A keyed map lists its entries
in the order they were inserted, so the list is in sequence order only where the live activities
that are new to the timeline lie behind it.

* **`windowMachine`** — writers, timeline reads and the stream, interleaved.
* **`InWindow`** — no live activity is older than the timeline, or enough newer ones cut it off.
* **`merged_in_order_iff`** — the merged list is the newest window of what the client knows exactly
  there.
-/

namespace ShiftMind

open Relational Transition Log

/-! ## The client and its conversation -/

structure WindowSys where
  /-- the events of the conversation -/
  persisted : List PersistedEventRow
  /-- `timeline.data.items` -/
  base : List ActivityItem := []
  view : LiveView := {}
  /-- the cursor of the open connection -/
  server : Option Int := none

inductive WindowAction where
  | persist (e : PersistedEventRow)
  /-- the timeline is read again -/
  | refetch
  /-- a connection is opened; an earlier mount may have stored a cursor -/
  | connect (stored : Option Int)
  | deliver
  | disconnect
  /-- the hook is mounted again -/
  | remount

/-- `merged`. -/
def WindowSys.merged (limit : Nat) (s : WindowSys) : List ActivityItem :=
  newest limit ((Dict.indexBy ActivityItem.activityId (s.base ++ s.view.live)).map Prod.snd)

section Machine

variable (idOf : PersistedEventRow → Uuid) (limit : Nat)

/-- The events whose activities the client knows. -/
def WindowSys.known (s : WindowSys) : List PersistedEventRow :=
  s.persisted.filter fun e =>
    decide (activityItem idOf e ∈ s.base) || decide (activityItem idOf e ∈ s.view.live)

/-- A stream under increasing sequences and different identifiers. -/
structure Stream (events : List PersistedEventRow) : Prop where
  increasing : Increasing PersistedEventRow.sequence events
  distinct : events.Pairwise fun a b => idOf a ≠ idOf b

def WindowAction.Enabled (s : WindowSys) : WindowAction → Prop
  | .persist e => ConversationEvent e ∧ Stream idOf (s.persisted ++ [e])
  | .connect _ => s.server = none
  | _ => True

def WindowSys.perform (s : WindowSys) : WindowAction → WindowSys
  | .persist e => { s with persisted := s.persisted ++ [e] }
  | .refetch => { s with base := timelineItems idOf limit s.persisted }
  | .connect stored =>
    -- the cursor of this mount, else the stored one, else the newest activity of the timeline
    let cursor := s.view.cursor.or (stored.or (s.base.getLast?.map ActivityItem.sequence))
    { s with view := { s.view with cursor := cursor }, server := some (cursor.getD 0) }
  | .deliver =>
    match s.server with
    | none => s
    | some cursor =>
      match after PersistedEventRow.sequence cursor s.persisted with
      | [] => s
      | e :: _ => { s with view := s.view.deliver (frame idOf e), server := some e.sequence }
  | .disconnect => { s with server := none }
  | .remount => { s with view := {}, server := none }

/-- A client that has just been mounted, on a conversation with any history. -/
structure WindowSys.Initial (s : WindowSys) : Prop where
  written : ∀ e ∈ s.persisted, ConversationEvent e
  stream : Stream idOf s.persisted
  base : s.base = []
  view : s.view = {}
  server : s.server = none

def windowMachine : Machine WindowSys WindowAction where
  initial := WindowSys.Initial idOf
  enabled s a := a.Enabled idOf s
  perform s a := s.perform idOf limit a

/-! ## What the list should be -/

/-- The merged list is the newest window of the known activities, in sequence order. -/
structure MergedInOrder (s : WindowSys) : Prop where
  increasing : (s.merged limit).Pairwise fun a b => a.sequence < b.sequence
  once : ((s.merged limit).map ActivityItem.activityId).Nodup
  newest : ∀ i, i ∈ s.merged limit ↔ i ∈ timelineItems idOf limit (s.known idOf)

end Machine

/-- The live activities older than the timeline read. -/
def WindowSys.stale (s : WindowSys) : List ActivityItem :=
  match s.base.head? with
  | none => []
  | some first => s.view.live.filter fun i => decide (i.sequence < first.sequence)

/-- The live activities newer than it. -/
def WindowSys.fresh (s : WindowSys) : List ActivityItem :=
  match s.base.getLast? with
  | none => s.view.live
  | some last => s.view.live.filter fun i => decide (last.sequence < i.sequence)

/-- No live activity is older than the timeline, unless the newer ones fill the window. -/
def InWindow (limit : Nat) (s : WindowSys) : Prop :=
  s.stale = [] ∨ limit ≤ s.fresh.length

/-! ## The invariant of the client -/

section Window

variable {idOf : PersistedEventRow → Uuid} {limit : Nat} {s : WindowSys}

theorem activityItem_inj {events : List PersistedEventRow} (h : Stream idOf events)
    {a b : PersistedEventRow} (ha : a ∈ events) (hb : b ∈ events) (hid : idOf a = idOf b) :
    a = b := by
  by_contra hne
  have hsymm : Std.Symm (fun x y : PersistedEventRow => idOf x ≠ idOf y) :=
    ⟨fun _ _ hxy heq => hxy heq.symm⟩
  exact List.Pairwise.forall h.distinct ha hb hne hid

/-- The base is the window of the stream at some earlier time; the live activities are events of the
stream in order, none behind the cursors. -/
structure WindowSys.Inv (idOf : PersistedEventRow → Uuid) (limit : Nat) (s : WindowSys) : Prop where
  stream : Stream idOf s.persisted
  base : ∃ seen rest, s.persisted = seen ++ rest ∧ s.base = timelineItems idOf limit seen
  live : ∃ events, s.view.live = events.map (activityItem idOf) ∧
    Increasing PersistedEventRow.sequence events ∧
    (∀ e ∈ events, e ∈ s.persisted ∧ (∃ cursor, s.view.cursor = some cursor ∧
      e.sequence ≤ cursor) ∧ ∀ cursor, s.server = some cursor → e.sequence ≤ cursor)

theorem WindowSys.Inv.initial (h : s.Initial idOf) : s.Inv idOf limit := by
  refine ⟨h.stream, ⟨[], s.persisted, rfl, ?_⟩, ⟨[], ?_, List.Pairwise.nil, ?_⟩⟩
  · rw [h.base]
    simp [timelineItems, newest]
  · rw [h.view]
    rfl
  · intro e he
    cases he

/-- A delivered event lies behind the live ones. -/
theorem WindowSys.Inv.deliver (h : s.Inv idOf limit) :
    (s.perform idOf limit .deliver).Inv idOf limit := by
  show WindowSys.Inv idOf limit (match s.server with
    | none => s
    | some cursor =>
      match after PersistedEventRow.sequence cursor s.persisted with
      | [] => s
      | e :: _ => { s with view := s.view.deliver (frame idOf e), server := some e.sequence })
  cases hserver : s.server with
  | none => exact h
  | some cursor =>
    dsimp only
    cases hafter : after PersistedEventRow.sequence cursor s.persisted with
    | nil => exact h
    | cons e rest =>
      -- the event is behind the cursor, and every live event is not
      have hin : e ∈ after PersistedEventRow.sequence cursor s.persisted := by
        rw [hafter]
        exact List.mem_cons_self
      obtain ⟨hmem, hbehind⟩ := List.mem_filter.mp hin
      rw [decide_eq_true_eq] at hbehind
      obtain ⟨events, hlive, hincreasing, hevents⟩ := h.live
      have hlt : ∀ a ∈ events, a.sequence < e.sequence := fun a ha =>
        lt_of_le_of_lt ((hevents a ha).2.2 cursor hserver) hbehind
      refine ⟨h.stream, h.base, ?_⟩
      by_cases hstreamed : streamedActivityEvents.contains e.eventType = true
      · -- the window on the live events and the new one
        have hwindow : (newest windowCap (events ++ [e])).Sublist (events ++ [e]) :=
          (newest_suffix ..).sublist
        have happend : Increasing PersistedEventRow.sequence (events ++ [e]) :=
          hincreasing.append (List.pairwise_singleton ..) fun a ha b hb => by
            rw [List.mem_singleton] at hb
            rw [hb]
            exact hlt a ha
        refine ⟨newest windowCap (events ++ [e]), ?_, happend.sublist hwindow, fun a ha => ?_⟩
        · show (s.view.deliver (frame idOf e)).live = _
          rw [deliver_of_streamed hstreamed, hlive, ← newest_map, List.map_append,
            List.map_singleton]
        · have hle : a ∈ s.persisted ∧ a.sequence ≤ e.sequence := by
            have ha' := hwindow.subset ha
            rw [List.mem_append, List.mem_singleton] at ha'
            cases ha' with
            | inl hold => exact ⟨(hevents a hold).1, le_of_lt (hlt a hold)⟩
            | inr heq => rw [heq]; exact ⟨hmem, le_rfl⟩
          refine ⟨hle.1, ⟨e.sequence, ?_, hle.2⟩, fun c hc => ?_⟩
          · show (s.view.deliver (frame idOf e)).cursor = _
            rw [deliver_of_streamed hstreamed]
          · cases hc
            exact hle.2
      · -- an event without a listener moves nothing
        rw [Bool.not_eq_true] at hstreamed
        refine ⟨events, ?_, hincreasing, fun a ha => ⟨(hevents a ha).1, ?_, fun c hc => ?_⟩⟩
        · show (s.view.deliver (frame idOf e)).live = _
          rw [deliver_of_not_streamed hstreamed, hlive]
        · show ∃ c, (s.view.deliver (frame idOf e)).cursor = some c ∧ _
          rw [deliver_of_not_streamed hstreamed]
          exact (hevents a ha).2.1
        · cases hc
          exact le_of_lt (hlt a ha)

/-- **Each step keeps the invariant.** -/
theorem WindowSys.Inv.perform (h : s.Inv idOf limit) {a : WindowAction}
    (henabled : a.Enabled idOf s) : (s.perform idOf limit a).Inv idOf limit := by
  cases a with
  | deliver => exact h.deliver
  | persist e =>
    -- the new event goes behind what the base has seen
    obtain ⟨seen, rest, hsplit, hbase⟩ := h.base
    obtain ⟨events, hlive, hincreasing, hevents⟩ := h.live
    refine ⟨henabled.2, ⟨seen, rest ++ [e], ?_, hbase⟩,
      ⟨events, hlive, hincreasing, fun a ha => ?_⟩⟩
    · show s.persisted ++ [e] = seen ++ (rest ++ [e])
      rw [hsplit, List.append_assoc]
    · exact ⟨List.mem_append_left _ (hevents a ha).1, (hevents a ha).2⟩
  | refetch => exact ⟨h.stream, ⟨s.persisted, [], by simp [WindowSys.perform], rfl⟩, h.live⟩
  | connect stored =>
    obtain ⟨events, hlive, hincreasing, hevents⟩ := h.live
    refine ⟨h.stream, h.base, ⟨events, hlive, hincreasing, fun a ha => ?_⟩⟩
    obtain ⟨hmem, ⟨cursor, hcursor, hle⟩, -⟩ := hevents a ha
    refine ⟨hmem, ⟨cursor, ?_, hle⟩, fun c hc => ?_⟩
    · simp [WindowSys.perform, hcursor]
    · -- a reconnect keeps the cursor it has
      simp only [WindowSys.perform, hcursor, Option.some_or, Option.getD_some,
        Option.some.injEq] at hc
      rw [← hc]
      exact hle
  | disconnect =>
    obtain ⟨events, hlive, hincreasing, hevents⟩ := h.live
    refine ⟨h.stream, h.base, ⟨events, hlive, hincreasing, fun a ha => ?_⟩⟩
    exact ⟨(hevents a ha).1, (hevents a ha).2.1, fun c hc => by cases hc⟩
  | remount =>
    refine ⟨h.stream, h.base, ⟨[], rfl, List.Pairwise.nil, fun a ha => ?_⟩⟩
    cases ha

theorem WindowSys.Inv.of_reachable (hreach : Reachable (windowMachine idOf limit).system s) :
    s.Inv idOf limit :=
  Machine.reachable_invariant (WindowSys.Inv idOf limit) (fun _ => WindowSys.Inv.initial)
    (fun _ _ h henabled => h.perform henabled) hreach

/-! ## The layers of the two lists

The events of the conversation as the client has them: before its window, in it, behind it, and
live. -/

/-- The conversation as the client sees it: events before the window of its timeline, the window,
events behind it, and the events of the live items. -/
structure WindowSys.Layers (idOf : PersistedEventRow → Uuid) (limit : Nat) (s : WindowSys)
    (older window newer live : List PersistedEventRow) : Prop where
  persisted : s.persisted = older ++ (window ++ newer)
  base : s.base = window.map (activityItem idOf)
  full : older ≠ [] → window.length = limit
  items : s.view.live = live.map (activityItem idOf)
  increasing : Increasing PersistedEventRow.sequence live
  subset : ∀ e ∈ live, e ∈ s.persisted

theorem WindowSys.Inv.layers (h : s.Inv idOf limit) :
    ∃ older window newer live, s.Layers idOf limit older window newer live := by
  obtain ⟨seen, newer, hpersisted, hbase⟩ := h.base
  obtain ⟨live, hlive, hincreasing, hevents⟩ := h.live
  obtain ⟨older, holder⟩ := newest_suffix limit seen
  refine ⟨older, newest limit seen, newer, live, ?_, hbase, ?_, hlive, hincreasing,
    fun e he => (hevents e he).1⟩
  · rw [← List.append_assoc, holder, hpersisted]
  · intro hne
    have hpos : 0 < older.length := List.length_pos_iff.mpr hne
    have hlength := congrArg List.length holder
    rw [List.length_append] at hlength
    have hwindow := length_newest limit seen
    omega

section Layers

variable {older window newer live : List PersistedEventRow}

/-- The live events from before the window. -/
def behind (older live : List PersistedEventRow) : List PersistedEventRow :=
  live.filter (· ∈ older)

theorem WindowSys.Layers.stream_increasing (h : s.Layers idOf limit older window newer live)
    (hstream : Stream idOf s.persisted) :
    Increasing PersistedEventRow.sequence (older ++ (window ++ newer)) := by
  rw [← h.persisted]
  exact hstream.increasing

theorem mem_map_activityItem {events part : List PersistedEventRow} (hstream : Stream idOf events)
    (hpart : ∀ e ∈ part, e ∈ events) {e : PersistedEventRow} (he : e ∈ events) :
    activityItem idOf e ∈ part.map (activityItem idOf) ↔ e ∈ part := by
  rw [List.mem_map]
  constructor
  · rintro ⟨a, ha, hsame⟩
    have hid : idOf a = idOf e := congrArg ActivityItem.activityId hsame
    rw [← activityItem_inj hstream (hpart a ha) he hid]
    exact ha
  · exact fun hmem => ⟨e, hmem, rfl⟩

theorem WindowSys.Layers.window_subset (h : s.Layers idOf limit older window newer live) :
    ∀ e ∈ window, e ∈ s.persisted := by
  intro e he
  rw [h.persisted]
  simp [he]

/-- What the client knows, in the order of the stream. -/
theorem WindowSys.Layers.known_eq (h : s.Layers idOf limit older window newer live)
    (hstream : Stream idOf s.persisted) :
    s.known idOf = behind older live ++ (window ++ behind newer live) := by
  have hincreasing := h.stream_increasing hstream
  have holder : ∀ a ∈ behind older live, a ∈ older := fun a ha => by
    simpa using (List.mem_filter.mp ha).2
  have hnewer : ∀ a ∈ behind newer live, a ∈ newer := fun a ha => by
    simpa using (List.mem_filter.mp ha).2
  -- both sides increase, so it is enough that they have the same events
  have hright : Increasing PersistedEventRow.sequence
      (behind older live ++ (window ++ behind newer live)) := by
    have htail : Increasing PersistedEventRow.sequence (window ++ newer) :=
      hincreasing.sublist (List.sublist_append_right ..)
    refine (h.increasing.sublist List.filter_sublist).append ?_ fun a ha b hb => ?_
    · exact htail.append_left.append (h.increasing.sublist List.filter_sublist) fun a ha b hb =>
        htail.lt_of_append ha (hnewer b hb)
    · refine hincreasing.lt_of_append (holder a ha) ?_
      rw [List.mem_append] at hb ⊢
      exact hb.imp_right (hnewer b)
  refine (hstream.increasing.sublist List.filter_sublist).ext hright fun e => ?_
  have hwindow : activityItem idOf e ∈ s.base ∧ e ∈ s.persisted ↔ e ∈ window := by
    rw [h.base]
    exact ⟨fun hand => (mem_map_activityItem hstream h.window_subset hand.2).mp hand.1,
      fun he => ⟨List.mem_map_of_mem he, h.window_subset e he⟩⟩
  have hlive : activityItem idOf e ∈ s.view.live ∧ e ∈ s.persisted ↔ e ∈ live := by
    rw [h.items]
    exact ⟨fun hand => (mem_map_activityItem hstream h.subset hand.2).mp hand.1,
      fun he => ⟨List.mem_map_of_mem he, h.subset e he⟩⟩
  -- a live event is somewhere in the conversation
  have hplace : e ∈ live → e ∈ older ∨ e ∈ window ∨ e ∈ newer := fun he => by
    have hmem := h.subset e he
    rw [h.persisted] at hmem
    simpa using hmem
  simp only [behind, List.mem_filter, List.mem_append, decide_eq_true_eq, Bool.or_eq_true]
  constructor
  · rintro ⟨hmem, hin⟩
    cases hin with
    | inl hbase => exact Or.inr (Or.inl (hwindow.mp ⟨hbase, hmem⟩))
    | inr hitem =>
      have he := hlive.mp ⟨hitem, hmem⟩
      have hwhere := hplace he
      tauto
  · intro hin
    cases hin with
    | inl hold => exact ⟨h.subset e hold.1, Or.inr (hlive.mpr hold.1).1⟩
    | inr hin =>
      cases hin with
      | inl hwin => exact ⟨h.window_subset e hwin, Or.inl (hwindow.mpr hwin).1⟩
      | inr hnew => exact ⟨h.subset e hnew.1, Or.inr (hlive.mpr hnew.1).1⟩

/-- **What the client lists**: the window, then the live events outside it as they came. -/
theorem WindowSys.Layers.merged_eq (h : s.Layers idOf limit older window newer live)
    (hstream : Stream idOf s.persisted) :
    s.merged limit =
      (newest limit (window ++ (behind older live ++ behind newer live))).map
        (activityItem idOf) := by
  have hincreasing := h.stream_increasing hstream
  -- an activity is determined by its identifier
  have hkey : ∀ a ∈ window.map (activityItem idOf) ++ live.map (activityItem idOf),
      ∀ b ∈ window.map (activityItem idOf) ++ live.map (activityItem idOf),
      a.activityId = b.activityId → a = b := by
    intro a ha b hb hid
    rw [← List.map_append] at ha hb
    obtain ⟨x, hx, rfl⟩ := List.mem_map.mp ha
    obtain ⟨y, hy, rfl⟩ := List.mem_map.mp hb
    have hin : ∀ e ∈ window ++ live, e ∈ s.persisted := fun e he =>
      (List.mem_append.mp he).elim (h.window_subset e) (h.subset e)
    rw [activityItem_inj hstream (hin x hx) (hin y hy) hid]
  have hinjective : ∀ part : List PersistedEventRow, (∀ e ∈ part, e ∈ s.persisted) → part.Nodup →
      (part.map (activityItem idOf)).Nodup := fun part hpart hnodup =>
    hnodup.map_on fun a ha b hb hsame => activityItem_inj hstream (hpart a ha) (hpart b hb)
      (congrArg ActivityItem.activityId hsame)
  have hwindowNodup : window.Nodup := by
    have hsub : window.Sublist (older ++ (window ++ newer)) :=
      (List.sublist_append_left ..).trans (List.sublist_append_right ..)
    exact (hincreasing.sublist hsub).nodup
  have hfirst : Dict.indexBy ActivityItem.activityId (window.map (activityItem idOf)) =
      (window.map (activityItem idOf)).map fun a => (a.activityId, a) :=
    Dict.indexBy_of_nodup
      (fun a ha b hb => hkey a (List.mem_append_left _ ha) b (List.mem_append_left _ hb))
      (hinjective window h.window_subset hwindowNodup)
  have hindex := Dict.indexBy_append hfirst hkey (hinjective live h.subset h.increasing.nodup)
  have houtside : (live.map (activityItem idOf)).filter (· ∉ window.map (activityItem idOf)) =
      (behind older live ++ behind newer live).map (activityItem idOf) := by
    rw [List.filter_map]
    congr 1
    have hsorted : Increasing PersistedEventRow.sequence
        (behind older live ++ behind newer live) := by
      have hknown := (hstream.increasing.sublist List.filter_sublist :
        Increasing PersistedEventRow.sequence (s.known idOf))
      rw [h.known_eq hstream] at hknown
      exact hknown.sublist (List.Sublist.append_left (List.sublist_append_right ..) _)
    refine (h.increasing.sublist List.filter_sublist).ext hsorted fun e => ?_
    have hwin : e ∈ live → (activityItem idOf e ∈ window.map (activityItem idOf) ↔ e ∈ window) :=
      fun he => mem_map_activityItem hstream h.window_subset (h.subset e he)
    have hplace : e ∈ live → e ∈ older ∨ e ∈ window ∨ e ∈ newer := fun he => by
      have hmem := h.subset e he
      rw [h.persisted] at hmem
      simpa using hmem
    have holder : e ∈ older → e ∉ window := fun ho hw =>
      absurd rfl (hincreasing.lt_of_append ho (List.mem_append_left _ hw)).ne
    have hnewer : e ∈ newer → e ∉ window := fun hn hw =>
      absurd rfl ((hincreasing.sublist (List.sublist_append_right ..)).lt_of_append hw hn).ne
    simp only [behind, List.mem_filter, List.mem_append, Function.comp_apply, decide_eq_true_eq]
    by_cases he : e ∈ live
    · have hwhere := hplace he
      simp only [he, hwin he, true_and]
      tauto
    · simp only [he, false_and, or_self]
  unfold WindowSys.merged
  rw [h.base, h.items, hindex, houtside, ← List.map_append, List.map_map, List.map_map,
    ← newest_map]
  rfl

/-- A live event lies before the window exactly when it is older than the window's first. -/
theorem WindowSys.Layers.stale_eq (h : s.Layers idOf limit older window newer live)
    (hstream : Stream idOf s.persisted) (hwindow : window ≠ []) :
    s.stale = (behind older live).map (activityItem idOf) := by
  -- the layers stand in the order of their sequences
  have hincreasing := h.stream_increasing hstream
  cases window with
  | nil => exact absurd rfl hwindow
  | cons first window =>
    unfold WindowSys.stale behind
    rw [h.base, List.map_cons, List.head?_cons, h.items]
    dsimp only
    rw [List.filter_map]
    congr 1
    refine List.filter_congr fun e he => ?_
    rw [Function.comp_apply, decide_eq_decide]
    show e.sequence < first.sequence ↔ e ∈ older
    constructor
    · intro hlt
      have hmem := h.subset e he
      rw [h.persisted, List.mem_append] at hmem
      -- an event at or behind the first is not before it
      refine hmem.resolve_right fun hin => ?_
      have htail := hincreasing.sublist (List.sublist_append_right ..)
      rw [List.cons_append, List.mem_cons] at hin
      cases hin with
      | inl heq => exact absurd hlt (heq ▸ lt_irrefl _)
      | inr hrest => exact absurd hlt (lt_asymm ((List.pairwise_cons.mp htail).1 e hrest))
    · exact fun hold => hincreasing.lt_of_append hold (by simp)

theorem WindowSys.Layers.fresh_eq (h : s.Layers idOf limit older window newer live)
    (hstream : Stream idOf s.persisted) (hwindow : window ≠ []) :
    s.fresh = (behind newer live).map (activityItem idOf) := by
  -- the layers stand in the order of their sequences
  have hincreasing := h.stream_increasing hstream
  cases List.eq_nil_or_concat window with
  | inl hnil => exact absurd hnil hwindow
  | inr hconcat =>
    obtain ⟨init, last, rfl⟩ := hconcat
    unfold WindowSys.fresh behind
    rw [h.base, List.concat_eq_append, List.map_append, List.map_singleton, List.getLast?_concat,
      h.items]
    dsimp only
    rw [List.filter_map]
    congr 1
    refine List.filter_congr fun e he => ?_
    rw [Function.comp_apply, decide_eq_decide]
    show last.sequence < e.sequence ↔ e ∈ newer
    -- so an event has a later sequence than the window's last exactly if it is newer
    have hsplit : Increasing PersistedEventRow.sequence ((older ++ init) ++ ([last] ++ newer)) := by
      simpa using hincreasing
    constructor
    · intro hlt
      have hmem := h.subset e he
      rw [h.persisted, List.concat_append, ← List.append_assoc, List.mem_append,
        List.mem_cons] at hmem
      cases hmem with
      | inl hold => exact absurd hlt (lt_asymm (hsplit.lt_of_append hold (by simp)))
      | inr hin =>
        cases hin with
        | inl heq => exact absurd hlt (heq ▸ lt_irrefl _)
        | inr hnew => exact hnew
    · exact fun hnew => (hsplit.sublist (List.sublist_append_right ..)).lt_of_append (by simp) hnew

theorem WindowSys.Layers.inWindow_iff (h : s.Layers idOf limit older window newer live)
    (hstream : Stream idOf s.persisted) (hwindow : window ≠ []) :
    InWindow limit s ↔ behind older live = [] ∨ limit ≤ (behind newer live).length := by
  unfold InWindow
  rw [h.stale_eq hstream hwindow, h.fresh_eq hstream hwindow, List.map_eq_nil_iff, List.length_map]

/-- Where the list is the window of what is known, it is in order. -/
theorem MergedInOrder.of_eq (hstream : Stream idOf s.persisted)
    (heq : s.merged limit = timelineItems idOf limit (s.known idOf)) :
    MergedInOrder idOf limit s := by
  have hpart : (Log.newest limit (s.known idOf)).Sublist s.persisted :=
    (newest_suffix ..).sublist.trans List.filter_sublist
  have hincreasing := hstream.increasing.sublist hpart
  constructor
  · rw [heq, timelineItems, List.pairwise_map]
    exact hincreasing
  · rw [heq, timelineItems, List.map_map]
    exact hincreasing.nodup.map_on fun a ha b hb hsame =>
      activityItem_inj hstream (hpart.subset ha) (hpart.subset hb) hsame
  · intro i
    rw [heq]

/-- Behind a full window, an older live activity is listed in place of a newer one. -/
theorem WindowSys.Layers.not_inOrder (h : s.Layers idOf limit older window newer live)
    (hstream : Stream idOf s.persisted) (hbehind : behind older live ≠ [])
    (hroom : (behind newer live).length < limit) : ¬ MergedInOrder idOf limit s := by
  intro horder
  have hincreasing := h.stream_increasing hstream
  have holder : ∀ a ∈ behind older live, a ∈ older := fun a ha => by
    simpa using (List.mem_filter.mp ha).2
  have hfull : window.length = limit := h.full fun hnil => by
    rw [hnil] at hbehind
    exact hbehind (by simp [behind])
  cases List.eq_nil_or_concat (behind older live) with
  | inl hnil => exact hbehind hnil
  | inr hconcat =>
    obtain ⟨init, e, hinit⟩ := hconcat
    rw [List.concat_eq_append] at hinit
    have he : e ∈ older := holder e (by rw [hinit]; simp)
    have hpersisted : e ∈ s.persisted := by
      rw [h.persisted]
      exact List.mem_append_left _ he
    -- it is in the list: fewer than `limit` activities come after it
    have hlisted : activityItem idOf e ∈ s.merged limit := by
      rw [h.merged_eq hstream, hinit, List.append_assoc, ← List.append_assoc]
      have hshort : ([e] ++ behind newer live).length ≤ limit := by
        rw [List.length_append, List.length_singleton]
        omega
      rw [newest_append_of_le hshort]
      exact List.mem_map_of_mem (by simp)
    -- but it is not in the window of what is known, which the timeline read fills
    rw [horder.newest, timelineItems, h.known_eq hstream,
      newest_append _ (by rw [List.length_append]; omega)] at hlisted
    have hlater : ∀ a ∈ newest limit (window ++ behind newer live), a ∈ window ++ newer := by
      intro a ha
      have ha' := (newest_suffix ..).subset ha
      rw [List.mem_append] at ha' ⊢
      exact ha'.imp_right fun hn => by simpa using (List.mem_filter.mp hn).2
    have hin := (mem_map_activityItem hstream (fun a ha => by
      rw [h.persisted]
      exact List.mem_append_right _ (hlater a ha)) hpersisted).mp hlisted
    exact absurd rfl (hincreasing.lt_of_append he (hlater e hin)).ne

end Layers

/-- **When the merged list is right.** In every state a mounted client can reach — timeline reads,
stored cursors, reconnects and frames in any order — the list is the newest window of what the
client knows, in order and without repetition, exactly when no live activity is older than the
timeline or the newer live ones fill the window. -/
theorem merged_in_order_iff (hreach : Reachable (windowMachine idOf limit).system s) :
    MergedInOrder idOf limit s ↔ InWindow limit s := by
  have hinv := WindowSys.Inv.of_reachable hreach
  have hstream := hinv.stream
  obtain ⟨older, window, newer, live, hlayers⟩ := hinv.layers
  have hsame : behind older live = [] ∨ limit ≤ (behind newer live).length →
      MergedInOrder idOf limit s := by
    intro hcase
    refine MergedInOrder.of_eq hstream ?_
    rw [hlayers.merged_eq hstream, timelineItems, hlayers.known_eq hstream]
    cases hcase with
    | inl hnil => rw [hnil, List.nil_append, List.nil_append]
    | inr hfilled =>
      rw [← List.append_assoc, ← List.append_assoc, newest_append _ hfilled,
        newest_append _ hfilled]
  by_cases hwindow : window = []
  · -- nothing was read yet, or the window is empty
    have hbase : s.base = [] := by rw [hlayers.base, hwindow, List.map_nil]
    have hinWindow : InWindow limit s := by
      left
      rw [WindowSys.stale, hbase, List.head?_nil]
    refine iff_of_true (hsame ?_) hinWindow
    by_cases holder : older = []
    · left
      rw [holder]
      simp [behind]
    · right
      have hfull := hlayers.full holder
      rw [hwindow, List.length_nil] at hfull
      omega
  · rw [hlayers.inWindow_iff hstream hwindow]
    constructor
    · intro horder
      by_contra hneither
      rw [not_or, not_le] at hneither
      exact hlayers.not_inOrder hstream hneither.1 hneither.2 horder
    · exact hsame

end Window

namespace Card

/-- A planner's message, by its sequence. -/
def messageAt (sequence : Int) : PersistedEventRow :=
  ConversationRepository.messageEvent (env 1) conversation 3 50 "plan" sequence

/-- A conversation of 202 messages, and a client that was just mounted. -/
def longConversation : WindowSys where
  persisted := (List.range 202).map fun n => messageAt (Int.ofNat (n + 1))

def sequenceId (e : PersistedEventRow) : Uuid := e.sequence.toNat

theorem longConversation_initial : longConversation.Initial sequenceId := by
  have hrange : (List.range 202).Pairwise fun a b => a < b := List.pairwise_lt_range
  refine ⟨fun e he => ?_, ⟨?_, ?_⟩, rfl, rfl, rfl⟩
  · obtain ⟨n, -, rfl⟩ := List.mem_map.mp he
    exact .message ..
  · refine List.pairwise_map.mpr (hrange.imp fun {a b} hlt => ?_)
    show Int.ofNat (a + 1) < Int.ofNat (b + 1)
    rw [Int.ofNat_eq_natCast, Int.ofNat_eq_natCast]
    omega
  · refine List.pairwise_map.mpr (hrange.imp fun {a b} hlt => ?_)
    show a + 1 ≠ b + 1
    omega

/-- The timeline is read and the stream resumed behind a cursor; one frame arrives. -/
def resumedBehind (stored : Option Int) : WindowSys :=
  (windowMachine sequenceId windowCap).performAll longConversation
    [.refetch, .connect stored, .deliver]

theorem resumedBehind_reachable (stored : Option Int) :
    Reachable (windowMachine sequenceId windowCap).system (resumedBehind stored) :=
  Machine.reachable_of_schedule longConversation_initial ⟨trivial, rfl, trivial, trivial⟩

end Card

/-- A client that had read the first message lists the second one last, behind message 202. -/
theorem older_listed_last :
    Reachable (windowMachine Card.sequenceId windowCap).system (Card.resumedBehind (some 1)) ∧
      ((Card.resumedBehind (some 1)).merged windowCap).getLast?.map ActivityItem.sequence = some 2 ∧
      ¬ MergedInOrder Card.sequenceId windowCap (Card.resumedBehind (some 1)) := by
  refine ⟨Card.resumedBehind_reachable _, by decide +kernel, fun horder => ?_⟩
  have hincreasing := horder.increasing
  revert hincreasing
  decide +kernel

/-- A client that had read 150 messages sees them in order. -/
theorem merged_in_order_iff_card :
    MergedInOrder Card.sequenceId windowCap (Card.resumedBehind (some 150)) :=
  (merged_in_order_iff (Card.resumedBehind_reachable (some 150))).mpr
    (Or.inl (by decide +kernel))

end ShiftMind
