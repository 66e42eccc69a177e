/-
The waits between a request and its retries. A wait is reckoned in words, with
a power of two in 32 bits and a multiple of a span in two words, and each of the
two is held at its largest value. Together they come to the exact number held
at those two bounds, for every attempt number and every hint, and no step
overflows (`delay_saturating`).
-/
import Mathlib.Algebra.Order.Ring.Nat
import RemapSynth.Chat.Retry
import RemapSynth.Proofs.Duration

namespace RemapSynth.Chat

/-! ## Exact waits -/

namespace RetryRule

variable (r : RetryRule) {attempt later : Nat} {hint : Option Nat}

theorem factor_eq (n : Nat) : min (1 <<< min n 32) Width.maxHalfWord = min (2 ^ n) (2 ^ 32 - 1) := by
  rw [Nat.one_shiftLeft]
  rcases Nat.le_total n 32 with h | h
  · rw [Nat.min_eq_left h]
    rfl
  · have hpow : 2 ^ 32 ≤ 2 ^ n := Nat.pow_le_pow_right (by decide) h
    rw [Nat.min_eq_right h, Nat.min_eq_right ((Nat.sub_le _ _).trans hpow)]
    rfl

theorem delay_of_zero (h : r.baseDelay = .zero) : r.delay attempt hint = .zero :=
  if_pos (congrArg Duration.nanos h)

theorem delay_of_hint (hbase : r.baseDelay ≠ .zero) {seconds : Nat} (h : seconds ∈ hint)
    (hpos : 0 < seconds) : r.delay attempt hint = .ofSeconds (min seconds maxHint) := by
  have hnanos : ¬ r.baseDelay.nanos = 0 := fun hzero => hbase (congrArg Duration.mk hzero)
  have hfilter : hint.filter (0 < ·) = some seconds :=
    Option.filter_eq_some_iff.2 ⟨h, decide_eq_true hpos⟩
  rw [delay, if_neg hnanos, hfilter]

/-- Without a positive hint the wait is the rule's own, also that of a rule that never waits. -/
theorem delay_of_no_hint (h : ∀ seconds ∈ hint, seconds = 0) :
    r.delay attempt hint =
      if r.exponential then r.baseDelay.times (min (2 ^ (attempt - 1)) (2 ^ 32 - 1))
      else r.baseDelay := by
  have hfilter : hint.filter (0 < ·) = none :=
    Option.filter_eq_none_iff.2 fun seconds hseconds => by simp [h seconds hseconds]
  rw [delay, hfilter, factor_eq]
  split
  · next hzero =>
    have hbase : r.baseDelay = .zero := congrArg Duration.mk hzero
    have htimes : Duration.zero.times (min (2 ^ (attempt - 1)) (2 ^ 32 - 1)) = .zero := by
      rw [Duration.times, Duration.zero, Nat.zero_mul, Nat.min_zero]
    rw [hbase, htimes, ite_self]
  · rfl

/-- A later retry waits no less: both bounds keep the order. -/
theorem delay_mono (hhint : ∀ seconds ∈ hint, seconds = 0) (h : attempt ≤ later) :
    (r.delay attempt hint).nanos ≤ (r.delay later hint).nanos := by
  rw [r.delay_of_no_hint hhint, r.delay_of_no_hint hhint]
  split
  · have hpow : 2 ^ (attempt - 1) ≤ 2 ^ (later - 1) :=
      Nat.pow_le_pow_right (by decide) (Nat.sub_le_sub_right h 1)
    exact min_le_min_left _ (Nat.mul_le_mul_left _ (min_le_min_right _ hpow))
  · exact le_rfl

end RetryRule

/-! ## Waits in words -/

/-- A rule for retries in words. Its delay is any span up to the longest one
(`Span.exists_time_eq_iff`). -/
structure RuleWords where
  maxRetries : BitVec 32
  base : Span
  exponential : Bool

namespace RuleWords

open Width

variable (r : RuleWords) (attempt : BitVec 32) (hint : Option (BitVec 64))

/-- The rule that is meant. -/
def rule : RetryRule := ⟨r.maxRetries.toNat, r.base.time, r.exponential⟩

/-- The wait before retry number `attempt`, reckoned in words. None stands for an overflow in a step
that is not tested for one. -/
def delay? : Option Span :=
  if r.base.isZero then some .zero
  else
    match hint.filter (0#64 < ·) with
    | some seconds => some (.ofSeconds (smaller seconds (.ofNat 64 maxHint)))
    | none =>
      if r.exponential then r.base.times? (power 2#32 (minus attempt 1#32).toNat) else some r.base

theorem filter_map_toNat :
    (hint.map BitVec.toNat).filter (0 < ·) = (hint.filter (0#64 < ·)).map BitVec.toNat := by
  cases hint with
  | none => rfl
  | some seconds =>
    rw [Option.map_some, Option.filter_some, Option.filter_some, apply_ite (Option.map _)]
    simp only [decide_eq_true_eq, BitVec.lt_def]
    rfl

theorem toNat_factor :
    (power 2#32 (minus attempt 1#32).toNat).toNat =
      min (1 <<< min (attempt.toNat - 1) 32) maxHalfWord := by
  rw [toNat_power (by decide) (by decide), toNat_minus, RetryRule.factor_eq]
  rfl

/-- **The wait in words is the exact one**, and no step overflows. -/
theorem map_time_delay? : (r.delay? attempt hint).map Span.time =
    some (r.rule.delay attempt.toNat (hint.map BitVec.toNat)) := by
  rw [delay?, RetryRule.delay, filter_map_toNat]
  by_cases hzero : r.base.isZero = true
  · rw [if_pos hzero, if_pos (show r.rule.baseDelay.nanos = 0 from r.base.isZero_iff.1 hzero),
      Option.map_some, Span.time_zero]
  · rw [if_neg hzero, if_neg (show ¬ r.rule.baseDelay.nanos = 0 from mt r.base.isZero_iff.2 hzero)]
    cases hint.filter (0#64 < ·) with
    | some seconds =>
      have hmin : (smaller seconds (.ofNat 64 maxHint)).toNat = min seconds.toNat maxHint :=
        toNat_smaller ..
      rw [Option.map_some, Option.map_some, Span.time_ofSeconds, hmin]
    | none =>
      show Option.map Span.time (if r.exponential then _ else _) =
        some (if r.exponential then _ else _)
      split
      · rw [Span.map_time_times?, toNat_factor]
        rfl
      · rfl

/-- **A wait is the exact number held at the bounds of its words.** For every rule, attempt number
and hint the words come to a wait, so no step overflows, and it is that of the rule in exact
numbers: none for a rule that never waits, then what a positive hint asks for, up to 300 seconds,
then the rule's own delay. That one doubles up to the largest factor and the longest span if the
rule says so, and never gets shorter from one retry to a later one. -/
theorem delay_saturating : ∃ wait : Span,
    r.delay? attempt hint = some wait ∧
    r.rule.delay attempt.toNat (hint.map BitVec.toNat) = wait.time ∧
    (r.base.time = .zero → wait.time = .zero) ∧
    (r.base.time ≠ .zero → ∀ seconds ∈ hint, 0 < seconds.toNat →
      wait.time = .ofSeconds (min seconds.toNat 300)) ∧
    ((∀ seconds ∈ hint, seconds.toNat = 0) →
      (r.exponential = true → wait.time.nanos =
        min Duration.longest.nanos
          (r.base.time.nanos * min (2 ^ (attempt.toNat - 1)) (2 ^ 32 - 1))) ∧
      (r.exponential = false → wait.time = r.base.time) ∧
      ∀ later : BitVec 32, attempt ≤ later →
        wait.time.nanos ≤ (r.rule.delay later.toNat (hint.map BitVec.toNat)).nanos) := by
  obtain ⟨wait, hwait, htime⟩ := Option.map_eq_some_iff.1 (r.map_time_delay? attempt hint)
  refine ⟨wait, hwait, htime.symm, fun hzero => ?_, fun hbase seconds hseconds hpos => ?_,
    fun hnone => ?_⟩
  · rw [htime, r.rule.delay_of_zero hzero]
  · rw [htime, r.rule.delay_of_hint hbase (Option.mem_map_of_mem _ hseconds) hpos]
    rfl
  · have hhint : ∀ n ∈ hint.map BitVec.toNat, n = 0 := by
      rw [Option.forall_mem_map]
      exact hnone
    have hdelay := htime.trans (r.rule.delay_of_no_hint hhint)
    refine ⟨fun hexp => ?_, fun hfixed => ?_, fun later hle => ?_⟩
    · rw [hdelay, if_pos (show r.rule.exponential = true from hexp)]
      rfl
    · rw [hdelay, if_neg (show ¬ r.rule.exponential = true from Bool.eq_false_iff.1 hfixed)]
      rfl
    · rw [htime]
      exact r.rule.delay_mono hhint (BitVec.le_def.1 hle)

end RuleWords

/-- Two seconds are doubled up to the largest factor; a long span reaches the longest one first. -/
example :
    RetryRule.delay ⟨3, .ofSeconds 2, true⟩ 3 none = .ofSeconds 8 ∧
    RetryRule.delay ⟨3, .ofSeconds 2, true⟩ 4294967295 none = .ofSeconds 8589934590 ∧
    RetryRule.delay ⟨3, .ofSeconds 9223372036854775808, true⟩ 2 none = .longest := by
  decide

end RemapSynth.Chat
