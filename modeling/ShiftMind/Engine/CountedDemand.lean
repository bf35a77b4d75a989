import ShiftMind.Engine.Roster

/-!
# ShiftMind — which demand the model counts

Three branches of the builder drop a positive demand or a part of one. A task with any indirect row
is treated as a headcount task throughout, and its volume is skipped; a headcount is rounded before
it is compared with zero, so that half a head or less is none; and a headcount that is rounded down
is asked for without its fraction.

* **`DemandCounted`** — no demand is dropped, nor any part of a headcount.
* **`Nonnegative.idle`** — where no cap is negative, nobody working is a roster.
* **`demand_counted_iff`** — every demand is counted exactly where none of the branches is taken.
-/

namespace ShiftMind.Engine

open Rounding Constants LinearModel

namespace CpSatBuilder

variable (b : CpSatBuilder)

/-- **No demand is dropped**: the volume of each task and hour that rounds to a positive integer at
`VOL_SCALE`, and each positive headcount with its fraction, has its shortfall counted. Volume is
counted in hundredths, as `VOL_SCALE` has it. -/
structure DemandCounted : Prop where
  volume : ∀ taskId hour, 0 < roundHalfEven (b.volumeAt taskId hour * volScale) →
    b.Counted (.unmetVol taskId hour) (roundHalfEven (b.volumeAt taskId hour * volScale))
      (b.volSupply taskId hour)
  headcount : ∀ taskId hour, 0 < b.headcountAt taskId hour →
    b.Counted (.unmetHc taskId hour) (b.headcountAt taskId hour) (b.hcSupply taskId hour)

/-- A headcount that no roster leaves short: nobody could miss its fraction. -/
def AlwaysMet (taskId : String) (hour : Int) : Prop :=
  ∀ a, b.Admissible a → b.headcountAt taskId hour ≤ eval a (b.hcSupply taskId hour)

/-- No cap is negative, and no override asks for a negative number of workers. -/
structure Nonnegative : Prop where
  hours : ∀ entry ∈ b.p.maxHoursPerWeek, 0 ≤ entry.2
  shifts : ∀ entry ∈ b.p.maxShiftsPerDay, 0 ≤ entry.2
  requests : ∀ taskId n, .setMinWorkersPerTask taskId n ∈ b.overrides → 0 ≤ n

variable {b}

/-! ## Nobody works

Without a shift nothing is supplied, and the slacks are all of what the rows were counted as. -/

/-- Nobody supplies anything. -/
theorem eval_idle (e : LinExpr Var) : eval (fun _ => 0) e = 0 := by
  induction e with
  | nil => rfl
  | cons term e ih =>
    rw [eval_cons, ih]
    omega

theorem Nonnegative.maxShiftsOf (h : b.Nonnegative) (empType : String) :
    0 ≤ b.maxShiftsOf empType := by
  unfold CpSatBuilder.maxShiftsOf
  cases hget : Dict.get? b.p.maxShiftsPerDay empType with
  | none => decide
  | some cap => exact h.shifts _ (Dict.mem_of_get? hget)

theorem Nonnegative.maxHoursOf (h : b.Nonnegative) (empType : String) :
    0 ≤ scaledHours (b.maxHoursOf empType) := by
  have hhours : 0 ≤ b.maxHoursOf empType := by
    unfold CpSatBuilder.maxHoursOf
    cases hget : Dict.get? b.p.maxHoursPerWeek empType with
    | none => decide
    | some cap => exact h.hours _ (Dict.mem_of_get? hget)
  have hscaled : 0 ≤ b.maxHoursOf empType * volScale :=
    mul_nonneg hhours (by norm_num [volScale])
  have hround := roundHalfEven_mono hscaled
  rwa [roundHalfEven_zero] at hround

/-- **Nobody working is a roster** wherever no cap is negative, so the model has a solution. -/
theorem Nonnegative.idle (h : b.Nonnegative) : b.Admissible fun _ => 0 where
  shifts _ _ := by omega
  tasks _ _ _ _ := by omega
  -- every rule compares a sum, which is zero, with a bound that is not negative
  linked c _ rule hrule := by
    unfold linkConstraints at hrule
    simp only [List.mem_append, List.mem_map, List.mem_singleton] at hrule
    rcases hrule with (⟨task, -, rfl⟩ | ⟨group, -, rfl⟩) | rfl
    · rw [holds_le, eval_idle]
    · rw [holds_le, eval_idle]
    · rw [holds_ge, eval_idle]
  windows entry _ := by
    rw [← eval_sumOf, eval_idle]
    omega
  members entry _ rule hrule := by
    unfold memberConstraints at hrule
    simp only [List.mem_append, List.mem_map, List.mem_singleton] at hrule
    rcases hrule with (⟨group, -, rfl⟩ | rfl) | ⟨pair, -, rfl⟩
    · rw [holds_le, eval_idle]
      exact h.maxShiftsOf _
    · rw [holds_le, eval_idle]
      exact h.maxHoursOf _
    · rw [holds_le, eval_idle]
      omega
  supplied need _ := by rw [eval_idle]
  requests taskId n hmem _ := h.requests taskId n hmem

/-- Where nobody working is a roster, no positive headcount is always met. -/
theorem not_alwaysMet (hidle : b.Admissible fun _ => 0) {taskId : String} {hour : Int}
    (hpos : 0 < b.headcountAt taskId hour) : ¬ b.AlwaysMet taskId hour := by
  intro hmet
  have hle := hmet _ hidle
  rw [eval_idle] at hle
  exact absurd hpos (not_lt.mpr hle)

/-! ## Exactly which demand is counted

Two branches decide: the volume of a task with an indirect row is skipped, and a headcount is
rounded. -/

/-- A volume has its shortfall counted exactly if its task has no indirect row. -/
theorem volume_counted_iff {taskId : String} {hour : Int}
    (hpos : 0 < roundHalfEven (b.volumeAt taskId hour * volScale)) :
    b.Counted (.unmetVol taskId hour) (roundHalfEven (b.volumeAt taskId hour * volScale))
      (b.volSupply taskId hour) ↔ b.isInd taskId = false := by
  constructor
  · intro h
    -- the weighted slack only exists for a task without indirect rows
    obtain ⟨weight, -, hweight⟩ := h.weighted
    obtain ⟨-, required, hmem⟩ := weighted_unmetVol.mp hweight
    obtain ⟨-, -, hind, -⟩ := mem_unmetVol.mp hmem
    exact hind
  · intro hind
    have hmem := (unmetVol_of_positive hpos).mpr hind
    refine ⟨⟨_, b.volWeight_pos taskId, weighted_unmetVol.mpr ⟨rfl, _, hmem⟩⟩, fun x hx => ?_⟩
    have hcovers := covers_unmetVol hmem hx
    exact ⟨hcovers.1, by exact_mod_cast hcovers.2⟩

/-- A headcount has its shortfall counted exactly if it is more than one half, and not rounded down
unless every roster meets it. -/
theorem headcount_counted_iff {taskId : String} {hour : Int}
    (hpos : 0 < b.headcountAt taskId hour) :
    b.Counted (.unmetHc taskId hour) (b.headcountAt taskId hour) (b.hcSupply taskId hour) ↔
      1 / 2 < b.headcountAt taskId hour ∧
        (b.headcountAt taskId hour ≤ roundHalfEven (b.headcountAt taskId hour) ∨
          b.AlwaysMet taskId hour) := by
  constructor
  · intro h
    obtain ⟨weight, -, hweight⟩ := h.weighted
    refine ⟨(unmetHc_of_positive hpos).mp (weighted_unmetHc.mp hweight).2, ?_⟩
    by_contra hnot
    rw [not_or, not_le] at hnot
    obtain ⟨hdown, hshort⟩ := hnot
    refine hshort fun a ha => ?_
    -- the solution of the roster has no more slack than the rounded requirement leaves
    have hcovers := (h.covers _ (solves_extend ha)).2
    rw [(choices_hcSupply taskId hour).eval_extend] at hcovers
    simp only [extend, shortfall] at hcovers
    by_contra hless
    rw [not_le] at hless
    rcases max_choice 0 (roundHalfEven (b.headcountAt taskId hour) -
        eval a (b.hcSupply taskId hour)) with hmax | hmax
    · rw [hmax] at hcovers
      push_cast at hcovers
      linarith
    · rw [hmax] at hcovers
      push_cast at hcovers
      linarith
  · rintro ⟨hhalf, hwhole⟩
    obtain ⟨required, hmem⟩ := (unmetHc_of_positive hpos).mpr hhalf
    refine ⟨⟨hourScale, by decide, weighted_unmetHc.mpr ⟨rfl, _, hmem⟩⟩, fun x hx => ?_⟩
    have hcovers := covers_unmetHc hmem hx
    rw [unmetHc_required hmem] at hcovers
    refine ⟨hcovers.1, ?_⟩
    rcases hwhole with hwhole | hmet
    · have hslack : ((roundHalfEven (b.headcountAt taskId hour) -
          eval x (b.hcSupply taskId hour) : Int) : ℚ) ≤ x (.unmetHc taskId hour) :=
        Int.cast_le.mpr hcovers.2
      push_cast at hslack
      linarith
    · have hle := hmet x (admissible_of_solves hx)
      have hnonneg : (0 : ℚ) ≤ x (.unmetHc taskId hour) := by exact_mod_cast hcovers.1
      linarith

/-- **No demand is dropped, exactly when** no task with an indirect row has a volume that rounds to
a positive integer, and no headcount is positive but at most one half, or rounded down while some
roster leaves it short. Where no cap is negative, this says of the headcounts that none is rounded
down. -/
theorem demand_counted_iff (b : CpSatBuilder) :
    (b.DemandCounted ↔
      (∀ taskId hour, 0 < roundHalfEven (b.volumeAt taskId hour * volScale) →
        b.isInd taskId = false) ∧
      ∀ taskId hour, 0 < b.headcountAt taskId hour →
        1 / 2 < b.headcountAt taskId hour ∧
          (b.headcountAt taskId hour ≤ roundHalfEven (b.headcountAt taskId hour) ∨
            b.AlwaysMet taskId hour)) ∧
    (b.Nonnegative → (b.DemandCounted ↔
      (∀ taskId hour, 0 < roundHalfEven (b.volumeAt taskId hour * volScale) →
        b.isInd taskId = false) ∧
      ∀ taskId hour, 0 < b.headcountAt taskId hour →
        b.headcountAt taskId hour ≤ roundHalfEven (b.headcountAt taskId hour))) := by
  have hsplit : b.DemandCounted ↔
      (∀ taskId hour, 0 < roundHalfEven (b.volumeAt taskId hour * volScale) →
        b.isInd taskId = false) ∧
      ∀ taskId hour, 0 < b.headcountAt taskId hour →
        1 / 2 < b.headcountAt taskId hour ∧
          (b.headcountAt taskId hour ≤ roundHalfEven (b.headcountAt taskId hour) ∨
            b.AlwaysMet taskId hour) := by
    constructor
    · intro h
      exact ⟨fun taskId hour hpos => (volume_counted_iff hpos).mp (h.volume taskId hour hpos),
        fun taskId hour hpos => (headcount_counted_iff hpos).mp (h.headcount taskId hour hpos)⟩
    · rintro ⟨hvolume, hheadcount⟩
      exact ⟨fun taskId hour hpos => (volume_counted_iff hpos).mpr (hvolume taskId hour hpos),
        fun taskId hour hpos => (headcount_counted_iff hpos).mpr (hheadcount taskId hour hpos)⟩
  refine ⟨hsplit, fun hnonnegative => hsplit.trans (and_congr_right fun _ => ?_)⟩
  refine forall_congr' fun taskId => forall_congr' fun hour => forall_congr' fun hpos => ?_
  constructor
  · rintro ⟨-, hwhole | hmet⟩
    · exact hwhole
    · exact absurd hmet (not_alwaysMet hnonnegative.idle hpos)
  · intro hwhole
    -- a positive headcount that is not rounded down rounds to a positive integer
    have hround : 0 < roundHalfEven (b.headcountAt taskId hour) :=
      Int.cast_pos.mp (hpos.trans_le hwhole)
    exact ⟨roundHalfEven_pos_iff.mp hround, .inl hwhole⟩

end CpSatBuilder

/-! ## Dropped demand -/

namespace Floor

/-- Ana receives for one hour: 100 units arrive, and the same task asks for a head. -/
def ana : Member where
  contactId := "ana"
  name := "Ana"
  empType := "Casual"
  gradeId := "G1"
  ebaId := "E1"
  contractedHours := 38
  wagePerHour := 30
  windows := [⟨"ava0", 0, 1, .availability⟩]
  qualifications := [⟨"receive", 50⟩]

def problem (demand : List DemandBand) : SchedulingProblem where
  horizonH := 24
  members := [ana]
  tasks := [⟨"receive", "Receiving", "Receiving", "dock", none⟩]
  templates := [⟨"hour", "One hour", 1, []⟩]
  demand := demand

def mixed : CpSatBuilder :=
  ⟨problem [⟨"receive", .inbound, 0, 1, 100, "IB0"⟩, ⟨"receive", .indirect, 0, 1, 1, "IND0"⟩], []⟩

/-- One row of some heads. -/
def heads (amount : ℚ) : CpSatBuilder :=
  ⟨problem [⟨"receive", .indirect, 0, 1, amount, "IND0"⟩], []⟩

end Floor

theorem Floor.nonnegative (amount : ℚ) : (Floor.heads amount).Nonnegative :=
  ⟨fun _ hmem => absurd hmem List.not_mem_nil, fun _ hmem => absurd hmem List.not_mem_nil,
    fun _ _ hmem => absurd hmem List.not_mem_nil⟩

open CpSatBuilder in
/-- Of 1.4 heads 0.4 are dropped; two heads are counted. -/
theorem demand_counted_heads :
    ¬ (Floor.heads (7 / 5)).DemandCounted ∧ (Floor.heads 2).DemandCounted := by
  constructor
  · intro h
    have hwhole := (((demand_counted_iff (Floor.heads (7 / 5))).2 (Floor.nonnegative _)).mp h).2
      "receive" 0 (by decide +kernel)
    exact absurd hwhole (by decide +kernel)
  · refine ((demand_counted_iff (Floor.heads 2)).2 (Floor.nonnegative _)).mpr ⟨?_, ?_⟩
    · intro taskId hour hpos
      -- there is no volume
      have hnone : (Floor.heads 2).volDemand = [] := by decide +kernel
      have hzero : (Floor.heads 2).volumeAt taskId hour = 0 := by
        unfold volumeAt
        rw [hnone]
        rfl
      rw [hzero, zero_mul, roundHalfEven_zero] at hpos
      exact absurd hpos (lt_irrefl 0)
    · intro taskId hour hpos
      -- and one headcount, of two
      have hone : (Floor.heads 2).hcDemand = [(("receive", 0), 2)] := by decide +kernel
      have hheads : (Floor.heads 2).headcountAt taskId hour = 2 := by
        unfold headcountAt at hpos ⊢
        rw [hone] at hpos ⊢
        by_cases hkey : (taskId, hour) = ("receive", 0)
        · rw [hkey]
          rfl
        · simp [Dict.get?, Ne.symm hkey] at hpos
      rw [hheads]
      decide +kernel

open CpSatBuilder in
/-- The volume of a mixed task is dropped, so is half a head, and 1.4 heads are counted as one. -/
theorem mixed_volume_dropped :
    (0 < roundHalfEven (Floor.mixed.volumeAt "receive" 0 * volScale) ∧
      ¬ Floor.mixed.DemandCounted) ∧
    (0 < (Floor.heads (1 / 2)).headcountAt "receive" 0 ∧
      ¬ (Floor.heads (1 / 2)).DemandCounted) ∧
    (0 < (Floor.heads (7 / 5)).headcountAt "receive" 0 ∧
      ¬ (Floor.heads (7 / 5)).DemandCounted) := by
  have hmixed : 0 < roundHalfEven (Floor.mixed.volumeAt "receive" 0 * volScale) := by
    decide +kernel
  have hhalf : 0 < (Floor.heads (1 / 2)).headcountAt "receive" 0 := by decide +kernel
  have hmore : 0 < (Floor.heads (7 / 5)).headcountAt "receive" 0 := by decide +kernel
  refine ⟨⟨hmixed, fun h => ?_⟩, ⟨hhalf, fun h => ?_⟩, ⟨hmore, fun h => ?_⟩⟩
  · obtain ⟨weight, -, hmem⟩ := (h.volume "receive" 0 hmixed).weighted
    have hnone : ∀ term ∈ Floor.mixed.round1Unmet, term.2 ≠ .unmetVol "receive" 0 := by
      decide +kernel
    exact hnone _ hmem rfl
  · obtain ⟨weight, -, hmem⟩ := (h.headcount "receive" 0 hhalf).weighted
    have hnone : ∀ term ∈ (Floor.heads (1 / 2)).round1Unmet, term.2 ≠ .unmetHc "receive" 0 := by
      decide +kernel
    exact hnone _ hmem rfl
  · -- nobody works, and one head is reported missing of 1.4
    have hcovers := ((h.headcount "receive" 0 hmore).covers
      (fun v => if v = .unmetHc "receive" 0 then 1 else 0) (by decide +kernel)).2
    exact absurd hcovers (by decide +kernel)

end ShiftMind.Engine
