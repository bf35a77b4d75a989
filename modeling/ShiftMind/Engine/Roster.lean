import ShiftMind.Engine.Coverage

/-!
# ShiftMind — rosters, and the solutions of the model

The abstract reading of the built model. A roster is a choice of shifts and tasks that keeps the
hard rules; everything else a solution assigns is a slack, and the least slack a roster needs is
its shortfall. The model and the rosters say the same:

* **`admissible_of_solves`** — the shifts and tasks of a solution are an admissible roster, and its
  slacks are at least the roster's shortfalls;
* **`solves_extend`** — an admissible roster extends to a solution whose slacks are exactly its
  shortfalls, whatever the overrides ask for.
-/

namespace ShiftMind.Engine

open Rounding Constants LinearModel

/-- A variable that chooses a shift or a task. -/
def Var.isChoice : Var → Bool
  | .shift _ | .task _ _ => true
  | _ => false

namespace CpSatBuilder

variable (b : CpSatBuilder)

/-! ## Rosters -/

/-- A choice of shifts and tasks that keeps the hard rules of the builder. -/
structure Admissible (a : Var → Int) : Prop where
  shifts : ∀ c ∈ b.indexed, 0 ≤ a (.shift c.2) ∧ a (.shift c.2) ≤ 1
  tasks : ∀ c ∈ b.indexed, ∀ task ∈ taskVarsOf c, 0 ≤ a task.2 ∧ a task.2 ≤ 1
  linked : ∀ c ∈ b.indexed, ∀ rule ∈ linkConstraints c, rule.Holds a
  windows : ∀ entry ∈ b.seenWindows, ((b.windowVars entry.1).map a).sum ≤ 1
  members : ∀ entry ∈ b.shiftsByMember, ∀ rule ∈ b.memberConstraints entry.2, rule.Holds a
  /-- no task is supplied a negative volume, as members with negative rates could -/
  supplied : ∀ need ∈ b.unmetVol, 0 ≤ eval a (b.volSupply need.1.1 need.1.2)
  /-- no override asks for a negative number of workers -/
  requests : ∀ taskId n, .setMinWorkersPerTask taskId n ∈ b.overrides →
    b.demandHours taskId ≠ [] → 0 ≤ n

/-- `ref`: the reference rate an objective weight divides by. -/
def reference (taskId : String) : ℚ := max (b.refRate taskId) epsilon

/-- What a supply leaves of a requirement. -/
def shortfall (required supplied : Int) : Int := max 0 (required - supplied)

/-- The labour-hours a roster leaves unmet: volume over the reference rate, plus headcount-hours. -/
def unmetHours (a : Var → Int) : ℚ :=
  (b.unmetVol.map fun ((taskId, hour), required) =>
      (shortfall required (eval a (b.volSupply taskId hour)) : ℚ) / volScale /
        b.reference taskId).sum +
    (b.unmetHc.map fun ((taskId, hour), required) =>
      (shortfall required (eval a (b.hcSupply taskId hour)) : ℚ)).sum

/-- Whether a roster leaves a window without a shift: one, or zero. -/
def unfilled (a : Var → Int) (windowId : String) : Int := 1 - ((b.windowVars windowId).map a).sum

/-- The hours of the roster windows that a roster leaves unfilled, as the objective weighs them. -/
def unfilledHours (a : Var → Int) : ℚ :=
  (b.rosterWindows.map fun windowId =>
    (b.rosterWeight windowId : ℚ) / hourScale * b.unfilled a windowId).sum

/-- The unmet labour-hours that a solution of the model reports. -/
def labourHours (x : Var → Int) : ℚ :=
  (b.unmetVol.map fun ((taskId, hour), _) =>
      (x (.unmetVol taskId hour) : ℚ) / volScale / b.reference taskId).sum +
    (b.unmetHc.map fun ((taskId, hour), _) => (x (.unmetHc taskId hour) : ℚ)).sum

/-- The solution of a roster: each slack at its shortfall, those of the overrides at their
bounds. -/
def extend (a : Var → Int) : Var → Int
  | .shift index => a (.shift index)
  | .task index position => a (.task index position)
  | .unfilled windowId => b.unfilled a windowId
  | .unmetVol taskId hour =>
    shortfall (roundHalfEven (b.volumeAt taskId hour * volScale)) (eval a (b.volSupply taskId hour))
  | .unmetHc taskId hour =>
    shortfall (roundHalfEven (b.headcountAt taskId hour)) (eval a (b.hcSupply taskId hour))
  | .short i _ =>
    match b.overrides[i]? with
    | some (.setMinWorkersPerTask _ n) => n
    | _ => 0
  | .absent _ => 1
  | .over i =>
    match b.overrides[i]? with
    | some (.setMaxHours memberId maxHours) => b.maxHoursSlack memberId maxHours
    | _ => 0

variable {b}

/-! ## Expressions over shifts and tasks -/

theorem extend_choice (a : Var → Int) {v : Var} (hv : v.isChoice = true) : b.extend a v = a v := by
  cases v with
  | shift index => rfl
  | task index position => rfl
  | _ => cases hv

/-- An expression over shifts and tasks alone. -/
def Choices (e : LinExpr Var) : Prop := ∀ term ∈ e, term.2.isChoice = true

theorem Choices.eval_extend {e : LinExpr Var} (h : Choices e) (a : Var → Int) :
    eval (b.extend a) e = eval a e :=
  eval_congr fun term hterm => extend_choice a (h term hterm)

theorem Choices.append {e e' : LinExpr Var} (h : Choices e) (h' : Choices e') :
    Choices (e ++ e') := by
  intro term hterm
  rcases List.mem_append.mp hterm with hterm | hterm
  · exact h term hterm
  · exact h' term hterm

theorem choices_sumOf {vars : List Var} (h : ∀ v ∈ vars, v.isChoice = true) :
    Choices (sumOf vars) := by
  intro term hterm
  obtain ⟨v, hv, rfl⟩ := List.mem_map.mp hterm
  exact h v hv

theorem choices_shifts (svs : List (Candidate × Nat)) (weight : Candidate × Nat → Int) :
    Choices (svs.map fun c => (weight c, Var.shift c.2)) := by
  intro term hterm
  obtain ⟨c, -, rfl⟩ := List.mem_map.mp hterm
  rfl

theorem isChoice_taskVarsOf {c : Candidate × Nat} {task : TaskVar × Var}
    (h : task ∈ taskVarsOf c) : task.2.isChoice = true := by
  obtain ⟨entry, -, rfl⟩ := List.mem_map.mp h
  rfl

theorem choices_linkConstraints {c : Candidate × Nat} {rule : LinearConstraint Var}
    (h : rule ∈ linkConstraints c) : Choices rule.terms := by
  have hshift : Choices [(-1, Var.shift c.2)] := by
    intro term hterm
    rw [List.mem_singleton.mp hterm]
    rfl
  have htasks : ∀ group : List (TaskVar × Var), (∀ task ∈ group, task ∈ taskVarsOf c) →
      Choices (sumOf (group.map Prod.snd)) := by
    intro group hgroup
    refine choices_sumOf fun v hv => ?_
    obtain ⟨task, htask, rfl⟩ := List.mem_map.mp hv
    exact isChoice_taskVarsOf (hgroup task htask)
  unfold linkConstraints at h
  simp only [List.mem_append, List.mem_map, List.mem_singleton] at h
  rcases h with (⟨task, htask, rfl⟩ | ⟨⟨slot, group⟩, hgroup, rfl⟩) | rfl
  · refine Choices.append (e := [(1, task.2)]) ?_ hshift
    intro term hterm
    rw [List.mem_singleton.mp hterm]
    exact isChoice_taskVarsOf htask
  · refine (htasks group fun task htask => ?_).append hshift
    rw [(Dict.mem_groupBy.mp hgroup).1] at htask
    exact (List.mem_filter.mp htask).1
  · exact (htasks _ fun _ htask => htask).append hshift

theorem choices_memberConstraints {svs : List (Candidate × Nat)} {rule : LinearConstraint Var}
    (h : rule ∈ b.memberConstraints svs) : Choices rule.terms := by
  unfold memberConstraints at h
  simp only [List.mem_append, List.mem_map, List.mem_singleton] at h
  rcases h with (⟨⟨day, group⟩, -, rfl⟩ | rfl) | ⟨pair, -, rfl⟩
  · refine choices_sumOf fun v hv => ?_
    obtain ⟨c, -, rfl⟩ := List.mem_map.mp hv
    rfl
  · exact choices_shifts svs _
  · intro term hterm
    rcases List.mem_cons.mp hterm with rfl | hterm
    · rfl
    · rw [List.mem_singleton.mp hterm]
      rfl

theorem isChoice_coverageTerms {taskId : String} {hour : Int} {term : Var × ℚ}
    (h : term ∈ b.coverageTerms taskId hour) : term.1.isChoice = true := by
  obtain ⟨c, -, hterm⟩ := List.mem_flatMap.mp h
  obtain ⟨task, -, hsome⟩ := List.mem_filterMap.mp hterm
  simp only [Option.ite_none_right_eq_some, Option.map_eq_some_iff] at hsome
  obtain ⟨-, ov, -, hterm⟩ := hsome
  split at hterm <;> rw [← hterm] <;> rfl

theorem choices_volSupply (taskId : String) (hour : Int) : Choices (b.volSupply taskId hour) := by
  intro term hterm
  obtain ⟨entry, hentry, rfl⟩ := List.mem_map.mp hterm
  exact isChoice_coverageTerms hentry

theorem choices_hcSupply (taskId : String) (hour : Int) : Choices (b.hcSupply taskId hour) := by
  refine choices_sumOf fun v hv => ?_
  obtain ⟨entry, hentry, rfl⟩ := List.mem_map.mp hv
  exact isChoice_coverageTerms hentry

theorem windowVars_extend (a : Var → Int) (windowId : String) :
    (b.windowVars windowId).map (b.extend a) = (b.windowVars windowId).map a := by
  refine List.map_congr_left fun v hv => extend_choice a ?_
  obtain ⟨c, -, rfl⟩ := List.mem_map.mp hv
  rfl

/-- What supplies a task are task variables of the candidates. -/
theorem task_of_coverageTerms {taskId : String} {hour : Int} {term : Var × ℚ}
    (h : term ∈ b.coverageTerms taskId hour) :
    ∃ c ∈ b.indexed, ∃ task ∈ taskVarsOf c, task.2 = term.1 := by
  obtain ⟨⟨c, i⟩, hc, hterm⟩ := List.mem_flatMap.mp h
  obtain ⟨⟨task, k⟩, htask, hsome⟩ := List.mem_filterMap.mp hterm
  refine ⟨(c, i), hc, (task, .task i k), List.mem_map.mpr ⟨(task, k), htask, rfl⟩, ?_⟩
  simp only [Option.ite_none_right_eq_some, Option.map_eq_some_iff] at hsome
  obtain ⟨-, ov, -, hterm⟩ := hsome
  split at hterm <;> rw [← hterm]

theorem le_shortfall (required supplied : Int) :
    required - supplied ≤ shortfall required supplied :=
  le_max_right _ _

theorem shortfall_nonneg (required supplied : Int) : 0 ≤ shortfall required supplied :=
  le_max_left _ _

theorem shortfall_le {required supplied : Int} (hrequired : 0 ≤ required)
    (hsupplied : 0 ≤ supplied) : shortfall required supplied ≤ required := by
  unfold shortfall
  omega

theorem unmetVol_required {taskId : String} {hour required : Int}
    (hmem : ((taskId, hour), required) ∈ b.unmetVol) :
    required = roundHalfEven (b.volumeAt taskId hour * volScale) ∧ 0 ≤ required := by
  obtain ⟨volume, hmem', -, hpos, rfl⟩ := mem_unmetVol.mp hmem
  unfold volumeAt
  rw [volDemand_get hmem', Option.getD_some]
  refine ⟨rfl, ?_⟩
  have hzero : roundHalfEven (0 : ℚ) ≤ roundHalfEven (volume * volScale) := by
    refine roundHalfEven_mono (mul_nonneg ?_ (by norm_num [volScale]))
    have : (0 : ℚ) < epsilon := by norm_num [epsilon]
    linarith
  rwa [roundHalfEven_zero] at hzero

theorem unmetHc_pos {key : String × Int} {required : Int} (hmem : (key, required) ∈ b.unmetHc) :
    0 < required := by
  obtain ⟨headcount, -, hpos, -⟩ := mem_unmetHc.mp hmem
  exact hpos

/-! ## A solution is a roster with slacks

What the solver chooses is a roster; the rest of a solution is forced up to the size of its slacks.
-/

section Solution

variable {x : Var → Int}

/-- The shifts and tasks of a solution are an admissible roster. -/
theorem admissible_of_solves (hx : b.model.Solves x) : b.Admissible x where
  shifts c hc := hx.bounds (boolVar (.shift c.2)) (by
    simp only [model, List.mem_append, List.mem_map]
    exact .inl (.inl (.inl (.inl (.inl ⟨c, hc, rfl⟩)))))
  tasks c hc task htask := hx.bounds (boolVar task.2) (by
    simp only [model, List.mem_append, List.mem_map, List.mem_flatMap]
    exact .inl (.inl (.inl (.inl (.inr ⟨c, hc, task, htask, rfl⟩)))))
  linked c hc rule hrule := hx.constraints rule (by
    simp only [model, List.mem_append, List.mem_flatMap]
    exact .inl (.inl (.inl (.inl ⟨c, hc, hrule⟩))))
  windows entry hentry := by
    have hrule := fun rule (hrule : rule ∈ b.windowConstraints) => hx.constraints rule (by
      simp only [model, List.mem_append]
      exact .inl (.inl (.inl (.inr hrule))))
    have hmem := hrule _ (List.mem_map.mpr ⟨entry, hentry, rfl⟩)
    by_cases hroster : entry.2.kind = .roster
    · -- a roster window: the shifts and its slack make one
      simp only [hroster, if_true, holds_eq, eval_append, eval_sumOf, eval_cons, eval_nil] at hmem
      have hslack := hx.bounds (boolVar (.unfilled entry.1)) (by
        simp only [model, List.mem_append, List.mem_map]
        refine .inl (.inl (.inl (.inr ⟨entry.1, ?_, rfl⟩)))
        exact List.mem_map.mpr ⟨entry, List.mem_filter.mpr ⟨hentry, by simp [hroster]⟩, rfl⟩)
      simp only [boolVar] at hslack
      omega
    · simpa only [hroster, if_false, holds_le, eval_sumOf] using hmem
  members entry hentry rule hrule := hx.constraints rule (by
    simp only [model, List.mem_append, List.mem_flatMap]
    exact .inl (.inl (.inr ⟨entry, hentry, hrule⟩)))
  supplied := by
    rintro ⟨⟨taskId, hour⟩, required⟩ hneed
    have hbound := hx.bounds ⟨.unmetVol taskId hour, 0, required⟩ (by
      simp only [model, List.mem_append, List.mem_map]
      exact .inl (.inl (.inr ⟨_, hneed, rfl⟩)))
    have hcover := (covers_unmetVol hneed hx).2
    simp only at hbound ⊢
    omega
  requests taskId n hoverride hhours := by
    obtain ⟨hour, hhour⟩ := List.exists_mem_of_ne_nil _ hhours
    obtain ⟨i, hi, hget⟩ := List.getElem_of_mem hoverride
    have hbound := hx.bounds ⟨.short i hour, 0, n⟩ (by
      simp only [model, List.mem_append, List.mem_flatMap]
      refine .inr ⟨(.setMinWorkersPerTask taskId n, i), ?_, ?_⟩
      · exact List.mem_zipIdx_iff_getElem?.mpr (by rw [List.getElem?_eq_getElem hi, hget])
      · exact List.mem_map.mpr ⟨hour, hhour, rfl⟩)
    exact hbound.1.trans hbound.2

/-- The slacks of a solution are at least the shortfalls of its roster. -/
theorem unmetHours_le_labourHours (hx : b.model.Solves x) : b.unmetHours x ≤ b.labourHours x := by
  refine add_le_add (List.sum_le_sum ?_) (List.sum_le_sum ?_)
  · rintro ⟨⟨taskId, hour⟩, required⟩ hmem
    have hcover := covers_unmetVol hmem hx
    have hle : shortfall required (eval x (b.volSupply taskId hour)) ≤ x (.unmetVol taskId hour) :=
      max_le hcover.1 hcover.2
    have href : (0 : ℚ) < b.reference taskId :=
      lt_max_of_lt_right (by norm_num [epsilon])
    simp only
    gcongr
    norm_num [volScale]
  · rintro ⟨⟨taskId, hour⟩, required⟩ hmem
    have hcover := covers_unmetHc hmem hx
    have hle : shortfall required (eval x (b.hcSupply taskId hour)) ≤ x (.unmetHc taskId hour) :=
      max_le hcover.1 hcover.2
    exact Int.cast_le.mpr hle

/-- The slack of a roster window says whether the window is left unfilled. -/
theorem unfilled_of_solves (hx : b.model.Solves x) {windowId : String}
    (hmem : windowId ∈ b.rosterWindows) : x (.unfilled windowId) = b.unfilled x windowId := by
  obtain ⟨⟨windowId', window⟩, hentry, rfl⟩ := List.mem_map.mp hmem
  obtain ⟨hseen, hroster⟩ := List.mem_filter.mp hentry
  rw [decide_eq_true_eq] at hroster
  have hrule := hx.constraints ⟨sumOf (b.windowVars windowId') ++ [(1, .unfilled windowId')], .eq,
    1⟩ (by
    simp only [model, List.mem_append]
    refine .inl (.inl (.inl (.inr (List.mem_map.mpr ⟨(windowId', window), hseen, ?_⟩))))
    simp only at hroster ⊢
    rw [if_pos hroster])
  simp only [holds_eq, eval_append, eval_sumOf, eval_cons, eval_nil] at hrule
  unfold unfilled
  simp only
  omega

end Solution

/-! ## A roster extends to a solution -/

section Extend

variable {a : Var → Int}

theorem hcSupply_nonneg (ha : b.Admissible a) (taskId : String) (hour : Int) :
    0 ≤ eval a (b.hcSupply taskId hour) := by
  unfold hcSupply
  rw [eval_sumOf]
  refine List.sum_nonneg fun value hvalue => ?_
  obtain ⟨v, hv, rfl⟩ := List.mem_map.mp hvalue
  obtain ⟨term, hterm, rfl⟩ := List.mem_map.mp hv
  obtain ⟨c, hc, task, htask, hsame⟩ := task_of_coverageTerms hterm
  rw [← hsame]
  exact (ha.tasks c hc task htask).1

theorem unfilled_bounds (ha : b.Admissible a) {windowId : String}
    (hmem : windowId ∈ b.rosterWindows) :
    0 ≤ b.unfilled a windowId ∧ b.unfilled a windowId ≤ 1 := by
  obtain ⟨entry, hentry, rfl⟩ := List.mem_map.mp hmem
  have hle := ha.windows entry (List.mem_filter.mp hentry).1
  have hnonneg : 0 ≤ ((b.windowVars entry.1).map a).sum := by
    refine List.sum_nonneg fun value hvalue => ?_
    obtain ⟨v, hv, rfl⟩ := List.mem_map.mp hvalue
    obtain ⟨c, hc, rfl⟩ := List.mem_map.mp hv
    exact (ha.shifts c (List.mem_filter.mp hc).1).1
  unfold unfilled
  omega

/-- The bounds and constraints of every override hold with its slacks at their bounds. -/
theorem extend_override (ha : b.Admissible a) {o : OverrideCall} {i : Nat}
    (ho : (o, i) ∈ b.overrides.zipIdx) :
    (∀ v ∈ b.overrideVars i o, v.lower ≤ b.extend a v.var ∧ b.extend a v.var ≤ v.upper) ∧
      ∀ rule ∈ b.overrideConstraints i o, rule.Holds (b.extend a) := by
  have hget : b.overrides[i]? = some o := List.mem_zipIdx_iff_getElem?.mp ho
  cases o with
  | setMinWorkersPerTask taskId n =>
    have hmem : .setMinWorkersPerTask taskId n ∈ b.overrides := List.mem_of_getElem? hget
    constructor
    · intro v hv
      obtain ⟨hour, hhour, rfl⟩ := List.mem_map.mp hv
      have hn := ha.requests taskId n hmem (List.ne_nil_of_mem hhour)
      simp only [extend, hget]
      exact ⟨hn, le_refl n⟩
    · intro rule hrule
      obtain ⟨hour, hhour, rfl⟩ := List.mem_map.mp hrule
      have hsupply := hcSupply_nonneg ha taskId hour
      rw [holds_ge, eval_append, (choices_hcSupply taskId hour).eval_extend]
      simp only [eval_cons, eval_nil, extend, hget]
      omega
  | scaleDemand taskId factor => exact ⟨by simp [overrideVars], by simp [overrideConstraints]⟩
  | lockWorkerShift memberId day =>
    constructor
    · intro v hv
      rw [List.mem_singleton.mp hv]
      exact ⟨zero_le_one, le_refl 1⟩
    · intro rule hrule
      rw [List.mem_singleton.mp hrule, holds_ge, eval_append, eval_sumOf]
      have hnonneg : 0 ≤ (((b.indexed.filter fun c => c.1.shift.member.contactId = memberId &&
          decide (c.1.shift.day = day)).map fun c => Var.shift c.2).map (b.extend a)).sum := by
        refine List.sum_nonneg fun value hvalue => ?_
        obtain ⟨v, hv, rfl⟩ := List.mem_map.mp hvalue
        obtain ⟨c, hc, rfl⟩ := List.mem_map.mp hv
        exact (ha.shifts c (List.mem_filter.mp hc).1).1
      simp only [eval_cons, eval_nil, extend]
      omega
  | excludeWorkerFromTask memberId taskId =>
    exact ⟨by simp [overrideVars], by simp [overrideConstraints]⟩
  | setMaxHours memberId maxHours =>
    by_cases hnone : b.memberShifts memberId = []
    · exact ⟨by simp [overrideVars, hnone], by simp [overrideConstraints, hnone]⟩
    simp only [overrideVars, overrideConstraints, if_neg hnone]
    constructor
    · intro v hv
      rw [List.mem_singleton.mp hv]
      simp only [extend, hget]
      exact ⟨le_max_left _ _, le_refl _⟩
    · intro rule hrule
      rw [List.mem_singleton.mp hrule, holds_le, eval_append,
        (choices_shifts _ _).eval_extend]
      -- the member's hard cap leaves the slack enough room
      have hentry : (memberId, b.memberShifts memberId) ∈ b.shiftsByMember :=
        Dict.mem_groupBy.mpr ⟨rfl, hnone⟩
      have hcap := ha.members _ hentry
        ⟨(b.memberShifts memberId).map fun c => (scaledHours c.1.shift.effH, .shift c.2), .le,
          scaledHours (b.maxHoursOf (groupEmpType (b.memberShifts memberId)))⟩ (by
          simp [memberConstraints])
      rw [holds_le] at hcap
      simp only [eval_cons, eval_nil, extend, hget, maxHoursSlack]
      omega

/-- **An admissible roster extends to a solution of the model.** -/
theorem solves_extend (ha : b.Admissible a) : b.model.Solves (b.extend a) where
  bounds v hv := by
    simp only [model, List.mem_append, List.mem_map, List.mem_flatMap] at hv
    -- the choices are the roster's own, and each slack is a shortfall within its bounds
    rcases hv with ((((⟨c, hc, rfl⟩ | ⟨c, hc, task, htask, rfl⟩) | ⟨windowId, hwindow, rfl⟩) |
      ⟨⟨⟨taskId, hour⟩, required⟩, hneed, rfl⟩) | ⟨⟨⟨taskId, hour⟩, required⟩, hneed, rfl⟩) |
      ⟨⟨o, i⟩, ho, hv⟩
    · exact ha.shifts c hc
    · rw [boolVar, extend_choice a (isChoice_taskVarsOf htask)]
      exact ha.tasks c hc task htask
    · exact unfilled_bounds ha hwindow
    · obtain ⟨hrequired, hnonneg⟩ := unmetVol_required hneed
      simp only [extend]
      rw [← hrequired]
      exact ⟨shortfall_nonneg .., shortfall_le hnonneg (ha.supplied _ hneed)⟩
    · simp only [extend]
      rw [← unmetHc_required hneed]
      exact ⟨shortfall_nonneg .., shortfall_le (unmetHc_pos hneed).le (hcSupply_nonneg ha ..)⟩
    · exact (extend_override ha ho).1 v hv
  constraints rule hrule := by
    simp only [model, List.mem_append, List.mem_flatMap] at hrule
    -- links, windows and members read choices only; coverage reads the slacks
    rcases hrule with (((⟨c, hc, hrule⟩ | hrule) | ⟨entry, hentry, hrule⟩) | hrule) |
      ⟨⟨o, i⟩, ho, hrule⟩
    · refine (LinearConstraint.holds_congr fun term hterm => ?_).mpr (ha.linked c hc rule hrule)
      exact extend_choice a (choices_linkConstraints hrule term hterm)
    · obtain ⟨entry, hentry, rfl⟩ := List.mem_map.mp hrule
      have hle := ha.windows entry hentry
      simp only
      split
      · rw [holds_eq, eval_append, eval_sumOf, windowVars_extend]
        simp only [eval_cons, eval_nil, extend, unfilled]
        omega
      · rw [holds_le, eval_sumOf, windowVars_extend]
        exact hle
    · refine (LinearConstraint.holds_congr fun term hterm => ?_).mpr
        (ha.members entry hentry rule hrule)
      exact extend_choice a (choices_memberConstraints hrule term hterm)
    · rcases List.mem_append.mp hrule with hrule | hrule
      · obtain ⟨⟨⟨taskId, hour⟩, required⟩, hneed, rfl⟩ := List.mem_map.mp hrule
        rw [holds_ge, eval_append, (choices_volSupply taskId hour).eval_extend]
        have hle := le_shortfall required (eval a (b.volSupply taskId hour))
        simp only [eval_cons, eval_nil, extend, ← (unmetVol_required hneed).1]
        omega
      · obtain ⟨⟨⟨taskId, hour⟩, required⟩, hneed, rfl⟩ := List.mem_map.mp hrule
        rw [holds_ge, eval_append, (choices_hcSupply taskId hour).eval_extend]
        have hle := le_shortfall required (eval a (b.hcSupply taskId hour))
        simp only [eval_cons, eval_nil, extend, ← unmetHc_required hneed]
        omega
    · exact (extend_override ha ho).2 rule hrule

/-- The slacks of the extension are the shortfalls of the roster. -/
theorem labourHours_extend (a : Var → Int) : b.labourHours (b.extend a) = b.unmetHours a := by
  unfold labourHours unmetHours
  congr 1
  · refine congrArg List.sum (List.map_congr_left ?_)
    rintro ⟨⟨taskId, hour⟩, required⟩ hneed
    simp only [extend, ← (unmetVol_required hneed).1]
  · refine congrArg List.sum (List.map_congr_left ?_)
    rintro ⟨⟨taskId, hour⟩, required⟩ hneed
    simp only [extend, ← unmetHc_required hneed]

end Extend

end CpSatBuilder

end ShiftMind.Engine
