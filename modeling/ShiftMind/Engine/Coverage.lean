import ShiftMind.Engine.Builder

/-!
# ShiftMind — the slacks of the model

Round 1 counts unmet demand through slack variables: one for each task and hour whose requirement
the builder turns into a coverage constraint.

* **`Counted`** — a shortfall enters the objective through a slack that the model forces above it.
* **`covers_unmetVol`**, **`covers_unmetHc`** — a slack covers what the supply leaves of the rounded
  requirement.
* **`unmetVol_of_positive`**, **`unmetHc_of_positive`** — which demand has a slack.
-/

namespace ShiftMind.Engine

open Rounding Constants LinearModel

/-! ## What it means to count a shortfall -/

namespace CpSatBuilder

variable (b : CpSatBuilder)

/-- The aggregated volume demand of a task in an hour. -/
def volumeAt (taskId : String) (hour : Int) : ℚ := (Dict.get? b.volDemand (taskId, hour)).getD 0

/-- The aggregated headcount demand of a task in an hour. -/
def headcountAt (taskId : String) (hour : Int) : ℚ := (Dict.get? b.hcDemand (taskId, hour)).getD 0

/-- A slack counts the shortfall of a supply: it weighs in the round-1 objective, and in every
solution of the model it covers what the supply leaves of the demand. -/
structure Counted (slack : Var) (demand : ℚ) (supply : LinExpr Var) : Prop where
  weighted : ∃ weight, 0 < weight ∧ (weight, slack) ∈ b.round1Unmet
  covers : ∀ x, b.model.Solves x → 0 ≤ x slack ∧ demand - eval x supply ≤ x slack

/-! ## The slacks of the model -/

variable {b}

theorem mem_unmetVol {taskId : String} {hour required : Int} :
    ((taskId, hour), required) ∈ b.unmetVol ↔
      ∃ volume, ((taskId, hour), volume) ∈ b.volDemand ∧ b.isInd taskId = false ∧
        epsilon < volume ∧ required = roundHalfEven (volume * volScale) := by
  unfold unmetVol
  rw [List.mem_filterMap]
  constructor
  · rintro ⟨⟨⟨taskId', hour'⟩, volume⟩, hmem, hsome⟩
    cases hind : b.isInd taskId' with
    | true => simp [hind] at hsome
    | false =>
      simp only [hind, Bool.false_eq_true, if_false, Option.ite_none_left_eq_some, not_le,
        Option.some.injEq, Prod.mk.injEq] at hsome
      obtain ⟨hvolume, ⟨rfl, rfl⟩, rfl⟩ := hsome
      exact ⟨volume, hmem, hind, hvolume, rfl⟩
  · rintro ⟨volume, hmem, hind, hvolume, rfl⟩
    exact ⟨((taskId, hour), volume), hmem, by simp [hind, not_le.mpr hvolume]⟩

theorem mem_unmetHc {key : String × Int} {required : Int} :
    (key, required) ∈ b.unmetHc ↔
      ∃ headcount, (key, headcount) ∈ b.hcDemand ∧ 0 < required ∧
        required = roundHalfEven headcount := by
  unfold unmetHc
  rw [List.mem_filterMap]
  constructor
  · rintro ⟨⟨key', headcount⟩, hmem, hsome⟩
    simp only [Option.ite_none_left_eq_some, not_le, Option.some.injEq, Prod.mk.injEq] at hsome
    obtain ⟨hpos, rfl, rfl⟩ := hsome
    exact ⟨headcount, hmem, hpos, rfl⟩
  · rintro ⟨headcount, hmem, hpos, rfl⟩
    exact ⟨(key, headcount), hmem, by simp [not_le.mpr hpos]⟩

theorem volDemand_get {key : String × Int} {volume : ℚ} (h : (key, volume) ∈ b.volDemand) :
    Dict.get? b.volDemand key = some volume :=
  Dict.get?_of_mem (Dict.nodup_keys_accumulate ..) h

theorem hcDemand_get {key : String × Int} {headcount : ℚ} (h : (key, headcount) ∈ b.hcDemand) :
    Dict.get? b.hcDemand key = some headcount :=
  Dict.get?_of_mem (Dict.nodup_keys_accumulate ..) h

theorem volWeight_pos (b : CpSatBuilder) (taskId : String) : 0 < b.volWeight taskId := by
  unfold volWeight
  omega

/-- A weighted volume slack is one of `unmet_vol`. -/
theorem weighted_unmetVol {weight : Int} {taskId : String} {hour : Int} :
    (weight, Var.unmetVol taskId hour) ∈ b.round1Unmet ↔
      weight = b.volWeight taskId ∧ ∃ required, ((taskId, hour), required) ∈ b.unmetVol := by
  simp only [round1Unmet, List.mem_append, List.mem_map, Prod.mk.injEq, reduceCtorEq, and_false,
    exists_false, or_false, Prod.exists, Var.unmetVol.injEq]
  constructor
  · rintro ⟨taskId', hour', required, hmem, rfl, rfl, rfl⟩
    exact ⟨rfl, required, hmem⟩
  · rintro ⟨rfl, required, hmem⟩
    exact ⟨taskId, hour, required, hmem, rfl, rfl, rfl⟩

/-- A weighted headcount slack is one of `unmet_hc`. -/
theorem weighted_unmetHc {weight : Int} {taskId : String} {hour : Int} :
    (weight, Var.unmetHc taskId hour) ∈ b.round1Unmet ↔
      weight = hourScale ∧ ∃ required, ((taskId, hour), required) ∈ b.unmetHc := by
  simp only [round1Unmet, List.mem_append, List.mem_map, Prod.mk.injEq, reduceCtorEq, and_false,
    exists_false, or_false, false_or, Prod.exists, Var.unmetHc.injEq]
  constructor
  · rintro ⟨taskId', hour', required, hmem, rfl, rfl, rfl⟩
    exact ⟨rfl, required, hmem⟩
  · rintro ⟨rfl, required, hmem⟩
    exact ⟨taskId, hour, required, hmem, rfl, rfl, rfl⟩

/-- The slack of a volume requirement covers its shortfall in every solution. -/
theorem covers_unmetVol {taskId : String} {hour required : Int}
    (hmem : ((taskId, hour), required) ∈ b.unmetVol) {x : Var → Int} (hx : b.model.Solves x) :
    0 ≤ x (.unmetVol taskId hour) ∧
      required - eval x (b.volSupply taskId hour) ≤ x (.unmetVol taskId hour) := by
  have hbound := hx.bounds ⟨.unmetVol taskId hour, 0, required⟩ (by
    simp only [model, List.mem_append, List.mem_map]
    exact .inl (.inl (.inr ⟨_, hmem, rfl⟩)))
  have hcover := hx.constraints ⟨b.volSupply taskId hour ++ [(1, .unmetVol taskId hour)], .ge,
    required⟩ (by
    simp only [model, coverageConstraints, List.mem_append, List.mem_map]
    exact .inl (.inr (.inl ⟨_, hmem, rfl⟩)))
  simp only [holds_ge, eval_append, eval_cons, eval_nil] at hcover
  refine ⟨hbound.1, ?_⟩
  omega

/-- The slack of a headcount requirement covers its shortfall in every solution. -/
theorem covers_unmetHc {taskId : String} {hour required : Int}
    (hmem : ((taskId, hour), required) ∈ b.unmetHc) {x : Var → Int} (hx : b.model.Solves x) :
    0 ≤ x (.unmetHc taskId hour) ∧
      required - eval x (b.hcSupply taskId hour) ≤ x (.unmetHc taskId hour) := by
  have hbound := hx.bounds ⟨.unmetHc taskId hour, 0, required⟩ (by
    simp only [model, List.mem_append, List.mem_map]
    exact .inl (.inr ⟨_, hmem, rfl⟩))
  have hcover := hx.constraints ⟨b.hcSupply taskId hour ++ [(1, .unmetHc taskId hour)], .ge,
    required⟩ (by
    simp only [model, coverageConstraints, List.mem_append, List.mem_map]
    exact .inl (.inr (.inr ⟨_, hmem, rfl⟩)))
  simp only [holds_ge, eval_append, eval_cons, eval_nil] at hcover
  refine ⟨hbound.1, ?_⟩
  omega

/-- A volume that rounds to a positive integer has a slack exactly if its task has no indirect
row. -/
theorem unmetVol_of_positive {taskId : String} {hour : Int}
    (hpos : 0 < roundHalfEven (b.volumeAt taskId hour * volScale)) :
    ((taskId, hour), roundHalfEven (b.volumeAt taskId hour * volScale)) ∈ b.unmetVol ↔
      b.isInd taskId = false := by
  rw [mem_unmetVol]
  refine ⟨fun ⟨_, _, hind, _⟩ => hind, fun hind => ?_⟩
  have hhalf := roundHalfEven_pos_iff.mp hpos
  unfold volumeAt at *
  cases hget : Dict.get? b.volDemand (taskId, hour) with
  | none =>
    rw [hget] at hhalf
    norm_num at hhalf
  | some volume =>
    rw [hget, Option.getD_some] at hhalf
    refine ⟨volume, Dict.mem_of_get? hget, hind, ?_, rfl⟩
    norm_num [volScale, epsilon] at hhalf ⊢
    linarith

/-- A headcount has a slack exactly if it rounds to a positive integer. -/
theorem unmetHc_of_positive {taskId : String} {hour : Int}
    (hpos : 0 < b.headcountAt taskId hour) :
    (∃ required, ((taskId, hour), required) ∈ b.unmetHc) ↔ 1 / 2 < b.headcountAt taskId hour := by
  rw [← roundHalfEven_pos_iff]
  unfold headcountAt at *
  cases hget : Dict.get? b.hcDemand (taskId, hour) with
  | none =>
    rw [hget] at hpos
    exact absurd hpos (lt_irrefl 0)
  | some headcount =>
    rw [Option.getD_some]
    constructor
    · rintro ⟨required, hmem⟩
      obtain ⟨headcount', hmem', hrequired, rfl⟩ := mem_unmetHc.mp hmem
      have hsame : some headcount' = some headcount := (hcDemand_get hmem').symm.trans hget
      cases hsame
      exact hrequired
    · intro hround
      exact ⟨_, mem_unmetHc.mpr ⟨headcount, Dict.mem_of_get? hget, hround, rfl⟩⟩

theorem unmetHc_required {taskId : String} {hour required : Int}
    (hmem : ((taskId, hour), required) ∈ b.unmetHc) :
    required = roundHalfEven (b.headcountAt taskId hour) := by
  obtain ⟨headcount, hmem', -, rfl⟩ := mem_unmetHc.mp hmem
  unfold headcountAt
  rw [hcDemand_get hmem', Option.getD_some]

end CpSatBuilder

end ShiftMind.Engine
