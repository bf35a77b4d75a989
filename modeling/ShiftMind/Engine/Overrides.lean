import ShiftMind.Engine.RosterFill

/-!
# ShiftMind — soft overrides never cost coverage

An override other than `scale_demand` adds slack variables and constraints that only bound the
slacks from below. So a solution of the model with overrides is, on the base variables, a solution
of the model without them; and a solution without them extends, each slack at its bound.

* **`SameDemand`** — two builders that aggregate one demand build the same base model.
* **`soft_overrides_conservative`** — the feasible base assignments, the objective and its optimal
  value are those of the model without overrides.
-/

namespace ShiftMind

/-- What a validated draft promises of an override: a positive number of workers, a positive
factor, a day of the horizon, and hours within the flat weekly bound. -/
def OverrideCall.DraftValidated : OverrideCall → Prop
  | .setMinWorkersPerTask _ n => 0 < n
  | .scaleDemand _ factor => 0 < factor
  | .lockWorkerShift _ day => 0 ≤ day
  | .excludeWorkerFromTask _ _ => True
  | .setMaxHours _ maxHours => 0 < maxHours ∧ maxHours ≤ 56

instance (o : OverrideCall) : Decidable o.DraftValidated :=
  match o with
  | .setMinWorkersPerTask _ n => inferInstanceAs (Decidable (0 < n))
  | .scaleDemand _ factor => inferInstanceAs (Decidable (0 < factor))
  | .lockWorkerShift _ day => inferInstanceAs (Decidable (0 ≤ day))
  | .excludeWorkerFromTask _ _ => inferInstanceAs (Decidable True)
  | .setMaxHours _ maxHours => inferInstanceAs (Decidable (0 < maxHours ∧ maxHours ≤ 56))

/-- The override scales demand rather than adding a penalty. -/
def OverrideCall.isScale : OverrideCall → Bool
  | .scaleDemand _ _ => true
  | _ => false

namespace Engine

open LinearModel

/-- The variables of the model without overrides. -/
def Var.isBase : Var → Bool
  | .short _ _ | .absent _ | .over _ => false
  | _ => true

namespace CpSatBuilder

/-! ## Builders of one base model -/

/-- Two builders of one problem that aggregate the same demand. -/
structure SameDemand (b b' : CpSatBuilder) : Prop where
  problem : b.p = b'.p
  volume : b.volDemand = b'.volDemand
  headcount : b.hcDemand = b'.hcDemand

section SameDemand

variable {b b' : CpSatBuilder}

theorem SameDemand.isDemanded (h : SameDemand b b') : b.isDemanded = b'.isDemanded := by
  funext taskId
  simp only [CpSatBuilder.isDemanded, h.volume, h.headcount]

theorem SameDemand.hasDemand (h : SameDemand b b') : b.hasDemand = b'.hasDemand := by
  funext taskId hour
  simp only [CpSatBuilder.hasDemand, h.volume, h.headcount]

theorem SameDemand.candidates (h : SameDemand b b') : b.candidates = b'.candidates := by
  simp only [CpSatBuilder.candidates, taskVars, qualIds, h.isDemanded, h.hasDemand, h.problem]

theorem SameDemand.indexed (h : SameDemand b b') : b.indexed = b'.indexed := by
  simp only [CpSatBuilder.indexed, h.candidates]

theorem SameDemand.isInd (h : SameDemand b b') (taskId : String) :
    b.isInd taskId = b'.isInd taskId := by
  simp only [CpSatBuilder.isInd, h.problem]

theorem SameDemand.coverageTerms (h : SameDemand b b') (taskId : String) (hour : Int) :
    b.coverageTerms taskId hour = b'.coverageTerms taskId hour := by
  simp only [CpSatBuilder.coverageTerms, h.indexed, h.isInd]

theorem SameDemand.seenWindows (h : SameDemand b b') : b.seenWindows = b'.seenWindows := by
  simp only [CpSatBuilder.seenWindows, h.candidates]

theorem SameDemand.windowVars (h : SameDemand b b') (windowId : String) :
    b.windowVars windowId = b'.windowVars windowId := by
  simp only [CpSatBuilder.windowVars, h.indexed]

theorem SameDemand.rosterWindows (h : SameDemand b b') : b.rosterWindows = b'.rosterWindows := by
  simp only [CpSatBuilder.rosterWindows, h.seenWindows]

theorem SameDemand.windowConstraints (h : SameDemand b b') :
    b.windowConstraints = b'.windowConstraints := by
  simp only [CpSatBuilder.windowConstraints, h.seenWindows, h.windowVars]

theorem SameDemand.shiftsByMember (h : SameDemand b b') :
    b.shiftsByMember = b'.shiftsByMember := by
  simp only [CpSatBuilder.shiftsByMember, h.indexed]

theorem SameDemand.memberConstraints (h : SameDemand b b') (svs : List (Candidate × Nat)) :
    b.memberConstraints svs = b'.memberConstraints svs := by
  simp only [CpSatBuilder.memberConstraints, maxShiftsOf, maxHoursOf, h.problem]

theorem SameDemand.unmetVol (h : SameDemand b b') : b.unmetVol = b'.unmetVol := by
  simp only [CpSatBuilder.unmetVol, h.volume, h.isInd]

theorem SameDemand.unmetHc (h : SameDemand b b') : b.unmetHc = b'.unmetHc := by
  simp only [CpSatBuilder.unmetHc, h.headcount]

theorem SameDemand.coverageConstraints (h : SameDemand b b') :
    b.coverageConstraints = b'.coverageConstraints := by
  simp only [CpSatBuilder.coverageConstraints, volSupply, hcSupply, h.unmetVol, h.unmetHc,
    h.coverageTerms]

theorem SameDemand.round1Unmet (h : SameDemand b b') : b.round1Unmet = b'.round1Unmet := by
  simp only [CpSatBuilder.round1Unmet, volWeight, refRate, rosterWeight, firstWindow, h.unmetVol,
    h.unmetHc, h.rosterWindows, h.candidates, h.problem]

end SameDemand

/-- Overrides that do not scale demand leave it as it is. -/
theorem sameDemand_of_no_scale {p : SchedulingProblem} {overrides : List OverrideCall}
    (hnone : ∀ o ∈ overrides, o.isScale = false) : SameDemand ⟨p, overrides⟩ ⟨p, []⟩ := by
  have hscale : (⟨p, overrides⟩ : CpSatBuilder).scale = (⟨p, []⟩ : CpSatBuilder).scale := by
    unfold scale
    congr 1
    refine List.filterMap_eq_nil_iff.mpr fun o ho => ?_
    have := hnone o ho
    cases o <;> first | rfl | cases this
  refine ⟨rfl, ?_, ?_⟩
  · simp only [volDemand, factorOf, hscale]
  · simp only [hcDemand, factorOf, hscale]

/-! ## The base model and the overrides

The base constraints are about base variables only, so they hold or fail whatever becomes of the
overrides. -/

variable (b : CpSatBuilder)

/-- The bounds of the base variables. -/
def baseDomains : List (Bounded Var) :=
  b.indexed.map (fun c => boolVar (.shift c.2)) ++
    (b.indexed.flatMap fun c => (taskVarsOf c).map fun task => boolVar task.2) ++
    b.rosterWindows.map (fun windowId => boolVar (.unfilled windowId)) ++
    b.unmetVol.map (fun ((taskId, hour), required) => ⟨.unmetVol taskId hour, 0, required⟩) ++
    b.unmetHc.map (fun ((taskId, hour), required) => ⟨.unmetHc taskId hour, 0, required⟩)

/-- The constraints on the base variables. -/
def baseConstraints : List (LinearConstraint Var) :=
  b.indexed.flatMap linkConstraints ++ b.windowConstraints ++
    (b.shiftsByMember.flatMap fun entry => b.memberConstraints entry.2) ++
    b.coverageConstraints

variable {b}

theorem solves_iff {x : Var → Int} :
    b.model.Solves x ↔
      ((∀ v ∈ b.baseDomains, v.lower ≤ x v.var ∧ x v.var ≤ v.upper) ∧
        ∀ rule ∈ b.baseConstraints, rule.Holds x) ∧
      ∀ entry ∈ b.overrides.zipIdx,
        (∀ v ∈ b.overrideVars entry.2 entry.1, v.lower ≤ x v.var ∧ x v.var ≤ v.upper) ∧
        ∀ rule ∈ b.overrideConstraints entry.2 entry.1, rule.Holds x := by
  constructor
  · intro hx
    refine ⟨⟨fun v hv => hx.bounds v (List.mem_append_left _ hv),
      fun rule hrule => hx.constraints rule (List.mem_append_left _ hrule)⟩,
      fun entry hentry => ⟨fun v hv => ?_, fun rule hrule => ?_⟩⟩
    · exact hx.bounds v (List.mem_append_right _ (List.mem_flatMap.mpr ⟨entry, hentry, hv⟩))
    · exact hx.constraints rule
        (List.mem_append_right _ (List.mem_flatMap.mpr ⟨entry, hentry, hrule⟩))
  · rintro ⟨⟨hbounds, hrules⟩, hoverrides⟩
    refine ⟨fun v hv => ?_, fun rule hrule => ?_⟩
    · rcases List.mem_append.mp hv with hv | hv
      · exact hbounds v hv
      · obtain ⟨entry, hentry, hv⟩ := List.mem_flatMap.mp hv
        exact (hoverrides entry hentry).1 v hv
    · rcases List.mem_append.mp hrule with hrule | hrule
      · exact hrules rule hrule
      · obtain ⟨entry, hentry, hrule⟩ := List.mem_flatMap.mp hrule
        exact (hoverrides entry hentry).2 rule hrule

/-! ## What the two parts mention -/

/-- The two assignments agree on the variables of the model without overrides. -/
def AgreeOnBase (x y : Var → Int) : Prop := ∀ v : Var, v.isBase = true → y v = x v

theorem isBase_of_isChoice {v : Var} (h : v.isChoice = true) : v.isBase = true := by
  cases v <;> first | rfl | cases h

/-- An expression over choices and one more base variable only reads the base. -/
theorem base_of_choices {e : LinExpr Var} (he : Choices e) {term : Int × Var}
    (hterm : term.2.isBase = true) : ∀ t ∈ e ++ [term], t.2.isBase = true := by
  intro t ht
  rcases List.mem_append.mp ht with ht | ht
  · exact isBase_of_isChoice (he t ht)
  · rw [List.mem_singleton.mp ht]
    exact hterm

theorem choices_windowVars (windowId : String) : Choices (sumOf (b.windowVars windowId)) := by
  refine choices_sumOf fun v hv => ?_
  obtain ⟨c, -, rfl⟩ := List.mem_map.mp hv
  rfl

theorem base_of_baseConstraints {rule : LinearConstraint Var} (h : rule ∈ b.baseConstraints) :
    ∀ term ∈ rule.terms, term.2.isBase = true := by
  simp only [baseConstraints, List.mem_append, List.mem_flatMap] at h
  rcases h with ((⟨c, -, h⟩ | h) | ⟨entry, -, h⟩) | h
  · exact fun term hterm => isBase_of_isChoice (choices_linkConstraints h term hterm)
  · obtain ⟨⟨windowId, window⟩, -, rfl⟩ := List.mem_map.mp h
    simp only
    split
    · exact base_of_choices (choices_windowVars windowId) rfl
    · exact fun term hterm => isBase_of_isChoice (choices_windowVars windowId term hterm)
  · exact fun term hterm => isBase_of_isChoice (choices_memberConstraints h term hterm)
  · rcases List.mem_append.mp h with h | h
    · obtain ⟨⟨⟨taskId, hour⟩, required⟩, -, rfl⟩ := List.mem_map.mp h
      exact base_of_choices (choices_volSupply taskId hour) rfl
    · obtain ⟨⟨⟨taskId, hour⟩, required⟩, -, rfl⟩ := List.mem_map.mp h
      exact base_of_choices (choices_hcSupply taskId hour) rfl

theorem base_of_baseDomains {v : Bounded Var} (h : v ∈ b.baseDomains) : v.var.isBase = true := by
  simp only [baseDomains, List.mem_append, List.mem_map, List.mem_flatMap] at h
  rcases h with (((⟨c, -, rfl⟩ | ⟨c, -, task, htask, rfl⟩) | ⟨windowId, -, rfl⟩) |
    ⟨need, -, rfl⟩) | ⟨need, -, rfl⟩
  · rfl
  · exact isBase_of_isChoice (isChoice_taskVarsOf htask)
  · rfl
  · rfl
  · rfl

theorem base_of_round1Unmet {term : Int × Var} (h : term ∈ b.round1Unmet) :
    term.2.isBase = true := by
  simp only [round1Unmet, List.mem_append, List.mem_map] at h
  rcases h with (⟨need, -, rfl⟩ | ⟨need, -, rfl⟩) | ⟨windowId, -, rfl⟩ <;> rfl

/-- The base part of the model reads the base variables alone. -/
theorem base_part_congr {x y : Var → Int} (h : AgreeOnBase x y) :
    ((∀ v ∈ b.baseDomains, v.lower ≤ y v.var ∧ y v.var ≤ v.upper) ∧
        ∀ rule ∈ b.baseConstraints, rule.Holds y) ↔
      ((∀ v ∈ b.baseDomains, v.lower ≤ x v.var ∧ x v.var ≤ v.upper) ∧
        ∀ rule ∈ b.baseConstraints, rule.Holds x) := by
  refine and_congr (forall₂_congr fun v hv => ?_) (forall₂_congr fun rule hrule => ?_)
  · rw [h v.var (base_of_baseDomains hv)]
  · exact LinearConstraint.holds_congr fun term hterm =>
      h term.2 (base_of_baseConstraints hrule term hterm)

/-- An override reads choices of shifts and tasks and slacks of its own. -/
theorem override_reads {o : OverrideCall} {i : Nat} :
    (∀ v ∈ b.overrideVars i o, v.var.isBase = false) ∧
      ∀ rule ∈ b.overrideConstraints i o, ∀ term ∈ rule.terms,
        term.2.isChoice = true ∨ term.2.isBase = false := by
  have hslack : ∀ {e : LinExpr Var}, Choices e → ∀ {term : Int × Var}, term.2.isBase = false →
      ∀ t ∈ e ++ [term], t.2.isChoice = true ∨ t.2.isBase = false := by
    intro e he term hterm t ht
    rcases List.mem_append.mp ht with ht | ht
    · exact .inl (he t ht)
    · rw [List.mem_singleton.mp ht]
      exact .inr hterm
  -- each override adds a slack of its own to a sum of choices, or nothing at all
  cases o with
  | setMinWorkersPerTask taskId n =>
    refine ⟨fun v hv => ?_, fun rule hrule => ?_⟩
    · obtain ⟨hour, -, rfl⟩ := List.mem_map.mp hv
      rfl
    · obtain ⟨hour, -, rfl⟩ := List.mem_map.mp hrule
      exact hslack (choices_hcSupply taskId hour) rfl
  | scaleDemand taskId factor => exact ⟨by simp [overrideVars], by simp [overrideConstraints]⟩
  | lockWorkerShift memberId day =>
    refine ⟨fun v hv => ?_, fun rule hrule => ?_⟩
    · rw [List.mem_singleton.mp hv]
      rfl
    · rw [List.mem_singleton.mp hrule]
      refine hslack (choices_sumOf fun v hv => ?_) rfl
      obtain ⟨c, -, rfl⟩ := List.mem_map.mp hv
      rfl
  | excludeWorkerFromTask memberId taskId =>
    exact ⟨by simp [overrideVars], by simp [overrideConstraints]⟩
  | setMaxHours memberId maxHours =>
    by_cases hnone : b.memberShifts memberId = []
    · exact ⟨by simp [overrideVars, hnone], by simp [overrideConstraints, hnone]⟩
    simp only [overrideVars, overrideConstraints, if_neg hnone]
    refine ⟨fun v hv => ?_, fun rule hrule => ?_⟩
    · rw [List.mem_singleton.mp hv]
      rfl
    · rw [List.mem_singleton.mp hrule]
      exact hslack (choices_shifts _ _) rfl

/-! ## The two models have one base

Solutions of one model are carried to the other by changing only the slacks of the overrides. -/

section Conservative

variable {p : SchedulingProblem} {overrides : List OverrideCall}

theorem baseDomains_of_sameDemand {b b' : CpSatBuilder} (h : SameDemand b b') :
    b.baseDomains = b'.baseDomains := by
  simp only [baseDomains, h.indexed, h.rosterWindows, h.unmetVol, h.unmetHc]

theorem baseConstraints_of_sameDemand {b b' : CpSatBuilder} (h : SameDemand b b') :
    b.baseConstraints = b'.baseConstraints := by
  have hmembers : (fun entry : String × List (Candidate × Nat) => b.memberConstraints entry.2) =
      fun entry => b'.memberConstraints entry.2 := by
    funext entry
    exact h.memberConstraints entry.2
  simp only [baseConstraints, h.indexed, h.windowConstraints, h.shiftsByMember, hmembers,
    h.coverageConstraints]

/-- A solution of the base model is an admissible roster of the model with the overrides. -/
theorem admissible_of_base (hvalid : ∀ o ∈ overrides, o.DraftValidated)
    (hsoft : ∀ o ∈ overrides, o.isScale = false) {x : Var → Int}
    (hx : (⟨p, []⟩ : CpSatBuilder).model.Solves x) :
    (⟨p, overrides⟩ : CpSatBuilder).Admissible x := by
  -- without a scaling override the demand is that of the base model
  have hsame := sameDemand_of_no_scale (p := p) hsoft
  have hbase := admissible_of_solves hx
  refine ⟨?_, ?_, ?_, ?_, ?_, ?_, ?_⟩
  · rw [hsame.indexed]
    exact hbase.shifts
  · rw [hsame.indexed]
    exact hbase.tasks
  · rw [hsame.indexed]
    exact hbase.linked
  · intro entry hentry
    rw [hsame.seenWindows] at hentry
    rw [hsame.windowVars]
    exact hbase.windows entry hentry
  · intro entry hentry rule hrule
    rw [hsame.shiftsByMember] at hentry
    rw [hsame.memberConstraints] at hrule
    exact hbase.members entry hentry rule hrule
  · intro need hneed
    rw [hsame.unmetVol] at hneed
    have hsupplied := hbase.supplied need hneed
    unfold volSupply at *
    rwa [hsame.coverageTerms]
  · intro taskId n hmem _
    -- a validated request asks for at least one
    have hn : 0 < n := hvalid _ hmem
    exact hn.le

/-- The base variables of an assignment, with the slacks of the overrides at their bounds. -/
def withSlacks (b : CpSatBuilder) (x : Var → Int) (v : Var) : Int :=
  if v.isBase then x v else b.extend x v

theorem agree_withSlacks (b : CpSatBuilder) (x : Var → Int) : AgreeOnBase x (b.withSlacks x) :=
  fun _ hv => if_pos hv

/-- Where an override looks, slacks at their bounds are those of an extended roster. -/
theorem withSlacks_reads (b : CpSatBuilder) (x : Var → Int) {v : Var}
    (hv : v.isChoice = true ∨ v.isBase = false) : b.withSlacks x v = b.extend x v := by
  unfold withSlacks
  rcases hv with hv | hv
  · rw [if_pos (isBase_of_isChoice hv), extend_choice x hv]
  · rw [if_neg (by simp [hv])]

theorem solves_withSlacks (hvalid : ∀ o ∈ overrides, o.DraftValidated)
    (hsoft : ∀ o ∈ overrides, o.isScale = false) {x : Var → Int}
    (hx : (⟨p, []⟩ : CpSatBuilder).model.Solves x) :
    (⟨p, overrides⟩ : CpSatBuilder).model.Solves
      ((⟨p, overrides⟩ : CpSatBuilder).withSlacks x) := by
  have hsame := sameDemand_of_no_scale (p := p) hsoft
  have hadmissible := admissible_of_base hvalid hsoft hx
  refine solves_iff.mpr ⟨?_, fun entry hentry => ?_⟩
  · rw [baseDomains_of_sameDemand hsame, baseConstraints_of_sameDemand hsame]
    exact (base_part_congr (agree_withSlacks _ x)).mpr (solves_iff.mp hx).1
  · obtain ⟨hbounds, hrules⟩ := extend_override hadmissible hentry
    refine ⟨fun v hv => ?_, fun rule hrule => ?_⟩
    · rw [withSlacks_reads _ x (.inr (override_reads.1 v hv))]
      exact hbounds v hv
    · refine (LinearConstraint.holds_congr fun term hterm => ?_).mpr (hrules rule hrule)
      exact withSlacks_reads _ x (override_reads.2 rule hrule term hterm)

/-- The base variables of a solution with overrides solve the model without them. -/
theorem solves_base (hsoft : ∀ o ∈ overrides, o.isScale = false) {x y : Var → Int}
    (hagree : AgreeOnBase x y) (hy : (⟨p, overrides⟩ : CpSatBuilder).model.Solves y) :
    (⟨p, []⟩ : CpSatBuilder).model.Solves x := by
  have hsame := sameDemand_of_no_scale (p := p) hsoft
  refine solves_iff.mpr ⟨?_, by simp⟩
  have hbase := (base_part_congr hagree).mp (solves_iff.mp hy).1
  rwa [baseDomains_of_sameDemand hsame, baseConstraints_of_sameDemand hsame] at hbase

theorem round1_of_agree (hsoft : ∀ o ∈ overrides, o.isScale = false) {x y : Var → Int}
    (hagree : AgreeOnBase x y) :
    eval y (⟨p, overrides⟩ : CpSatBuilder).round1Unmet =
      eval x (⟨p, []⟩ : CpSatBuilder).round1Unmet := by
  rw [(sameDemand_of_no_scale hsoft).round1Unmet]
  exact eval_congr fun term hterm => hagree term.2 (base_of_round1Unmet hterm)

/-- **Soft overrides never cost coverage.** The base assignments that extend to a solution with the
overrides are the solutions without them, at the same round-1 objective; so the overrides neither
make the model infeasible nor move the optimal round-1 value. -/
theorem soft_overrides_conservative (p : SchedulingProblem) {overrides : List OverrideCall}
    (hvalid : ∀ o ∈ overrides, o.DraftValidated) (hsoft : ∀ o ∈ overrides, o.isScale = false) :
    (∀ x, (∃ y, AgreeOnBase x y ∧ (⟨p, overrides⟩ : CpSatBuilder).model.Solves y) ↔
      (⟨p, []⟩ : CpSatBuilder).model.Solves x) ∧
    (∀ x y, AgreeOnBase x y → eval y (⟨p, overrides⟩ : CpSatBuilder).round1Unmet =
      eval x (⟨p, []⟩ : CpSatBuilder).round1Unmet) ∧
    ((∃ y, (⟨p, overrides⟩ : CpSatBuilder).model.Solves y) ↔
      ∃ x, (⟨p, []⟩ : CpSatBuilder).model.Solves x) ∧
    ∀ x y, (⟨p, []⟩ : CpSatBuilder).model.Minimises (⟨p, []⟩ : CpSatBuilder).round1Unmet x →
      (⟨p, overrides⟩ : CpSatBuilder).model.Minimises (⟨p, overrides⟩ : CpSatBuilder).round1Unmet
        y →
      eval y (⟨p, overrides⟩ : CpSatBuilder).round1Unmet =
        eval x (⟨p, []⟩ : CpSatBuilder).round1Unmet := by
  have hrefl : ∀ y, AgreeOnBase y y := fun _ _ _ => rfl
  refine ⟨fun x => ⟨?_, fun hx => ?_⟩, fun x y => round1_of_agree hsoft, ⟨?_, ?_⟩, ?_⟩
  · rintro ⟨y, hagree, hy⟩
    exact solves_base hsoft hagree hy
  · exact ⟨_, agree_withSlacks _ x, solves_withSlacks hvalid hsoft hx⟩
  · rintro ⟨y, hy⟩
    exact ⟨y, solves_base hsoft (hrefl y) hy⟩
  · rintro ⟨x, hx⟩
    exact ⟨_, solves_withSlacks hvalid hsoft hx⟩
  · intro x y hx hy
    refine le_antisymm ?_ ?_
    · -- the extended minimiser is a competitor of `y`
      rw [← round1_of_agree (p := p) hsoft (agree_withSlacks ⟨p, overrides⟩ x)]
      exact hy.least _ (solves_withSlacks hvalid hsoft hx.solves)
    · rw [round1_of_agree hsoft (hrefl y)]
      exact hx.least y (solves_base hsoft (hrefl y) hy.solves)

end Conservative

end CpSatBuilder

namespace Floor

/-- A hundred units arrive within the hour. -/
def receiving : CpSatBuilder := ⟨problem [⟨"receive", .inbound, 0, 1, 100, "IB0"⟩], []⟩

/-- Two heads on receiving, Ana there on the first day, but not on receiving, for half an hour. -/
def wishes : List OverrideCall :=
  [.setMinWorkersPerTask "receive" 2, .lockWorkerShift "ana" 0,
    .excludeWorkerFromTask "ana" "receive", .setMaxHours "ana" (1 / 2)]

/-- Ana receives for the hour, and the volume she does not get through stays unmet. -/
def receives : Var → Int
  | .shift 0 | .task 0 0 => 1
  | .unmetVol "receive" 0 => 5455
  | _ => 0

end Floor

open CpSatBuilder in
theorem soft_overrides_conservative_wishes :
    ∃ y, AgreeOnBase Floor.receives y ∧
      (⟨Floor.receiving.p, Floor.wishes⟩ : CpSatBuilder).model.Solves y := by
  refine ((soft_overrides_conservative Floor.receiving.p ?_ ?_).1 Floor.receives).mpr ?_
  · decide +kernel
  · decide +kernel
  · decide +kernel

end Engine

end ShiftMind
