/-
Scoring without rounding. Over the rationals a run is never divided by zero,
and each number that scoring makes of it grows with the one before: more
records in no more time are no fewer events a second, these on no more
processor no lower a rate, and a rate that is no lower has no smaller index and
no lower a tier (`scoring_monotone`). For the tiers the bounds need not be in
any order: the tier of a rate is the best one whose bound the rate reaches.
-/
import Mathlib.Data.Rat.Cast.Order
import Mathlib.Tactic.GCongr
import Mathlib.Tactic.Linarith
import Mathlib.Tactic.NormNum
import Mathlib.Tactic.Positivity
import Mathlib.Tactic.Ring
import RemapSynth.Score.Measurement

namespace RemapSynth.Score

variable {rate rate' : Rat} {b : Breakpoints Rat} {t : Tier}

/-! ## Numbers -/

theorem larger_eq_max (x y : Rat) : Scalar.larger x y = max x y := by
  show (if y < x then x else y) = max x y
  rcases lt_or_ge y x with h | h
  · rw [if_pos h, max_eq_left h.le]
  · rw [if_neg (not_lt.2 h), max_eq_right h]

theorem leastCpu_pos : (0 : Rat) < leastCpu := by
  show (0 : Rat) < 0.1
  norm_num

theorem ofDuration_eq (d : Duration) : (Scalar.ofDuration d : Rat) = d.nanos / 1000000000 := by
  have hnanos : (d.nanos : Rat) = 1000000000 * (d.seconds : Rat) + (d.subsecond : Rat) := by
    exact_mod_cast (Nat.div_add_mod d.nanos Duration.perSecond).symm
  show (d.seconds : Rat) + (d.subsecond : Rat) / 1000000000 = d.nanos / 1000000000
  rw [hnanos]
  ring

theorem roundRat_mono (h : rate ≤ rate') : roundRat rate ≤ roundRat rate' := by
  rw [roundRat, roundRat]
  rcases lt_or_ge rate 0 with hneg | hpos
  · rw [if_pos hneg]
    rcases lt_or_ge rate' 0 with hneg' | hpos'
    · rw [if_pos hneg']
      exact neg_le_neg (Rat.floor_monotone (by linarith))
    · -- from a negative number to one that is not
      rw [if_neg (not_lt.2 hpos')]
      have hleft : 0 ≤ (-rate + 1 / 2).floor := Rat.le_floor_iff.2 (by push_cast; linarith)
      have hright : 0 ≤ (rate' + 1 / 2).floor := Rat.le_floor_iff.2 (by push_cast; linarith)
      omega
  · rw [if_neg (not_lt.2 hpos), if_neg (not_lt.2 (hpos.trans h))]
    exact Rat.floor_monotone (by linarith)

/-! ## Indices -/

/-- The index is the rounded product, held between zero and the largest word. -/
theorem performanceIndex_eq (rate multiplier : Rat) : performanceIndex rate multiplier =
    min (roundRat (rate * multiplier)).toNat Width.maxWord := by
  have hzero : (0.0 : Rat) = 0 := by norm_num
  show (if (true && decide ((0.0 : Rat) < (roundRat (rate * multiplier) : Rat))) = true then
    min ((roundRat (rate * multiplier) : Rat)).floor.toNat Width.maxWord else 0) = _
  generalize roundRat (rate * multiplier) = index
  simp only [Bool.true_and, decide_eq_true_eq, Rat.floor_intCast, hzero]
  split
  next => rfl
  next h =>
    have hle : index ≤ 0 := by exact_mod_cast not_lt.1 h
    rw [Int.toNat_of_nonpos hle, Nat.zero_min]

theorem performanceIndex_mono {multiplier : Rat} (hmultiplier : 0 ≤ multiplier)
    (h : rate ≤ rate') : performanceIndex rate multiplier ≤ performanceIndex rate' multiplier := by
  have hround : roundRat (rate * multiplier) ≤ roundRat (rate' * multiplier) :=
    roundRat_mono (mul_le_mul_of_nonneg_right h hmultiplier)
  rw [performanceIndex_eq, performanceIndex_eq]
  exact min_le_min_right _ (Int.toNat_le_toNat hround)

/-! ## Tiers -/

/-- The bound of a tier; the worst one has none. -/
def Breakpoints.bound? (b : Breakpoints Rat) : Tier → Option Rat
  | .critical => none
  | .verySlow => some b.verySlow
  | .slow => some b.slow
  | .moderate => some b.moderate
  | .fast => some b.fast
  | .exceptional => some b.exceptional
  | .top => some b.top

theorem bound?_eq_none_iff : b.bound? t = none ↔ t = .critical := by
  cases t <;> simp [Breakpoints.bound?]

theorem classify_eq (rate : Rat) (b : Breakpoints Rat) : Tier.classify rate b =
    if b.top ≤ rate then .top
    else if b.exceptional ≤ rate then .exceptional
    else if b.fast ≤ rate then .fast
    else if b.moderate ≤ rate then .moderate
    else if b.slow ≤ rate then .slow
    else if b.verySlow ≤ rate then .verySlow
    else .critical := rfl

/-- A rate reaches the bound of its tier. -/
theorem reaches_classify (rate : Rat) (b : Breakpoints Rat) :
    ∀ bound ∈ b.bound? (Tier.classify rate b), bound ≤ rate := by
  rw [classify_eq]
  split_ifs <;> simp [Breakpoints.bound?, *]

/-- A rate is in no lower a tier than any whose bound it reaches. -/
theorem rank_le_classify (h : ∃ bound ∈ b.bound? t, bound ≤ rate) :
    t.rank ≤ (Tier.classify rate b).rank := by
  obtain ⟨bound, hbound, hle⟩ := h
  rw [classify_eq]
  cases t <;> cases hbound <;> split_ifs <;> simp [Tier.rank]

theorem rank_classify_mono (h : rate ≤ rate') (b : Breakpoints Rat) :
    (Tier.classify rate b).rank ≤ (Tier.classify rate' b).rank := by
  have hreaches := reaches_classify rate b
  cases hbound : b.bound? (Tier.classify rate b) with
  | none =>
    rw [bound?_eq_none_iff.1 hbound]
    exact Nat.zero_le _
  | some bound => exact rank_le_classify ⟨bound, hbound, (hreaches bound hbound).trans h⟩

/-! ## Runs -/

/-- A calibration whose multiplier is within its bounds. -/
def Calibration.Clamped (c : Calibration Rat) : Prop :=
  leastMultiplier ≤ c.multiplier ∧ c.multiplier ≤ largestMultiplier

theorem Calibration.Clamped.nonneg {c : Calibration Rat} (hc : c.Clamped) : 0 ≤ c.multiplier := by
  have hleast : (0 : Rat) ≤ leastMultiplier := by
    show (0 : Rat) ≤ 0.1
    norm_num
  exact hleast.trans hc.1

/-- Given constants are clamped. -/
theorem clamped_fixed (multiplier : Rat) (startup : Duration) :
    (Calibration.fixed multiplier startup).Clamped := by
  have hbounds : (leastMultiplier : Rat) ≤ largestMultiplier := by
    show (0.1 : Rat) ≤ 10.0
    norm_num
  show leastMultiplier ≤ clampMultiplier multiplier ∧ clampMultiplier multiplier ≤ largestMultiplier
  have hclamp : clampMultiplier multiplier = if multiplier < leastMultiplier then leastMultiplier
      else if largestMultiplier < multiplier then largestMultiplier else multiplier := rfl
  rw [hclamp]
  split_ifs with hlow hhigh
  · exact ⟨le_rfl, hbounds⟩
  · exact ⟨hbounds, le_rfl⟩
  · exact ⟨not_lt.1 hlow, not_lt.1 hhigh⟩

/-- The time that the events of a run took, in seconds. -/
def processingSeconds (run : MeasuredRun Rat) (c : Calibration Rat) : Rat :=
  Scalar.ofDuration (processingTime run.elapsed c.startup)

/-- The processor share that the events of a run are divided by. -/
def chargedCpu (run : MeasuredRun Rat) : Rat := Scalar.larger (mean run.cpuSamples) leastCpu

theorem processingSeconds_pos (run : MeasuredRun Rat) (c : Calibration Rat) :
    0 < processingSeconds run c := by
  have hnanos : leastProcessing.nanos ≤ (processingTime run.elapsed c.startup).nanos :=
    Nat.le_max_right _ _
  have hpos : 0 < (processingTime run.elapsed c.startup).nanos :=
    Nat.lt_of_lt_of_le (by decide) hnanos
  rw [processingSeconds, ofDuration_eq]
  positivity

theorem chargedCpu_pos (run : MeasuredRun Rat) : 0 < chargedCpu run := by
  rw [chargedCpu, larger_eq_max]
  exact lt_max_of_lt_right leastCpu_pos

theorem processingSeconds_mono {run run' : MeasuredRun Rat} (c : Calibration Rat)
    (h : run'.elapsed.nanos ≤ run.elapsed.nanos) :
    processingSeconds run' c ≤ processingSeconds run c := by
  have hnanos : (processingTime run'.elapsed c.startup).nanos ≤
      (processingTime run.elapsed c.startup).nanos :=
    max_le_max_right _ (Nat.sub_le_sub_right h _)
  rw [processingSeconds, processingSeconds, ofDuration_eq, ofDuration_eq]
  gcongr

theorem chargedCpu_mono {run run' : MeasuredRun Rat}
    (h : mean run'.cpuSamples ≤ mean run.cpuSamples) : chargedCpu run' ≤ chargedCpu run := by
  rw [chargedCpu, chargedCpu, larger_eq_max, larger_eq_max]
  exact max_le_max_right _ h

theorem eventsPerSecond_eq (run : MeasuredRun Rat) (c : Calibration Rat) (b : Breakpoints Rat) :
    (Measurement.ofRun run c b).eventsPerSecond = run.recordsOut / processingSeconds run c := rfl

theorem rate_eq (run : MeasuredRun Rat) (c : Calibration Rat) (b : Breakpoints Rat) :
    (Measurement.ofRun run c b).rate =
      (Measurement.ofRun run c b).eventsPerSecond / chargedCpu run := rfl

/-- A measurement that is nowhere worse than another. -/
structure Measurement.NoWorse (m m' : Measurement Rat) : Prop where
  eventsPerSecond_le : m.eventsPerSecond ≤ m'.eventsPerSecond
  rate_le : m.rate ≤ m'.rate
  index_le : m.index ≤ m'.index
  rank_le : m.tier.rank ≤ m'.tier.rank

/-- A rate that is no lower has no smaller index and no lower a tier. -/
theorem index_rank_mono {c : Calibration Rat} (hc : c.Clamped) (b : Breakpoints Rat)
    (h : rate ≤ rate') : performanceIndex rate c.multiplier ≤ performanceIndex rate' c.multiplier ∧
      (Tier.classify rate b).rank ≤ (Tier.classify rate' b).rank :=
  ⟨performanceIndex_mono hc.nonneg h, rank_classify_mono h b⟩

theorem noWorse_of_run {c : Calibration Rat} (hc : c.Clamped) (b : Breakpoints Rat)
    {run run' : MeasuredRun Rat} (hrecords : run.recordsOut ≤ run'.recordsOut)
    (helapsed : run'.elapsed.nanos ≤ run.elapsed.nanos)
    (hcpu : mean run'.cpuSamples ≤ mean run.cpuSamples) :
    (Measurement.ofRun run c b).NoWorse (Measurement.ofRun run' c b) := by
  have hseconds := processingSeconds_pos run' c
  have hevents : (Measurement.ofRun run c b).eventsPerSecond ≤
      (Measurement.ofRun run' c b).eventsPerSecond := by
    have hout : (run.recordsOut : Rat) ≤ run'.recordsOut := by exact_mod_cast hrecords
    rw [eventsPerSecond_eq, eventsPerSecond_eq]
    exact div_le_div₀ (Nat.cast_nonneg _) hout hseconds (processingSeconds_mono c helapsed)
  have hrate : (Measurement.ofRun run c b).rate ≤ (Measurement.ofRun run' c b).rate := by
    have hnonneg : 0 ≤ (Measurement.ofRun run' c b).eventsPerSecond := by
      rw [eventsPerSecond_eq]
      positivity
    rw [rate_eq, rate_eq]
    exact div_le_div₀ hnonneg hevents (chargedCpu_pos run') (chargedCpu_mono hcpu)
  obtain ⟨hindex, hrank⟩ := index_rank_mono hc b hrate
  exact ⟨hevents, hrate, hindex, hrank⟩

/-- **Scoring is monotone and never divides by zero.** What a run is divided by is positive, so
its throughput and its rate are true quotients. A run with at least as many records, in at most the
time and on at most the processor share, is nowhere worse; and a rate that is no lower has no
smaller index and no lower a tier. -/
theorem scoring_monotone {c : Calibration Rat} (hc : c.Clamped) (b : Breakpoints Rat) :
    (∀ run : MeasuredRun Rat, 0 < processingSeconds run c ∧ 0 < chargedCpu run ∧
      (Measurement.ofRun run c b).eventsPerSecond * processingSeconds run c = run.recordsOut ∧
      (Measurement.ofRun run c b).rate * chargedCpu run =
        (Measurement.ofRun run c b).eventsPerSecond) ∧
    (∀ run run' : MeasuredRun Rat, run.recordsOut ≤ run'.recordsOut →
      run'.elapsed.nanos ≤ run.elapsed.nanos → mean run'.cpuSamples ≤ mean run.cpuSamples →
        (Measurement.ofRun run c b).NoWorse (Measurement.ofRun run' c b)) ∧
    ∀ rate rate' : Rat, rate ≤ rate' →
      performanceIndex rate c.multiplier ≤ performanceIndex rate' c.multiplier ∧
        (Tier.classify rate b).rank ≤ (Tier.classify rate' b).rank := by
  refine ⟨fun run => ?_, fun _ _ => noWorse_of_run hc b, fun _ _ => index_rank_mono hc b⟩
  have hseconds := processingSeconds_pos run c
  have hcpu := chargedCpu_pos run
  refine ⟨hseconds, hcpu, ?_, ?_⟩
  · rw [eventsPerSecond_eq, div_mul_cancel₀ _ hseconds.ne']
  · rw [rate_eq, div_mul_cancel₀ _ hcpu.ne']

/-- A run that is over before an engine of the calibration has started, without samples. -/
def shortRun : MeasuredRun Rat := { recordsIn := 100, recordsOut := 50, elapsed := .ofMillis 500 }

/-- A longer run with fewer records. -/
def busyRun : MeasuredRun Rat :=
  { recordsIn := 100, recordsOut := 40, elapsed := .ofSeconds 3, cpuSamples := [30, 50] }

/-- The multiplier is held at ten, and the bounds of the tiers are in no order. -/
theorem scoring_monotone_shortRun :
    let c := Calibration.fixed (50 : Rat) (.ofSeconds 1)
    let b : Breakpoints Rat := { top := 10, fast := 9000 }
    c.Clamped ∧ (0 < processingSeconds shortRun c ∧ 0 < chargedCpu shortRun) ∧
    (Measurement.ofRun busyRun c b).NoWorse (Measurement.ofRun shortRun c b) ∧
    (Measurement.ofRun shortRun c b).index = 50000 ∧ (Measurement.ofRun busyRun c b).index = 5 := by
  intro c b
  have hc : c.Clamped := clamped_fixed 50 (.ofSeconds 1)
  obtain ⟨hdivisors, hruns, -⟩ := scoring_monotone hc b
  obtain ⟨hseconds, hcpu, -, -⟩ := hdivisors shortRun
  have hmean : mean shortRun.cpuSamples ≤ mean busyRun.cpuSamples := by decide +kernel
  exact ⟨hc, ⟨hseconds, hcpu⟩, hruns busyRun shortRun (by decide) (by decide) hmean,
    by decide +kernel, by decide +kernel⟩

end RemapSynth.Score
