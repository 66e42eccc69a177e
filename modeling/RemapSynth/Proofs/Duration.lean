/-
Spans of time in words: 64 bits of whole seconds, and 32 bits of nanoseconds
that do not fill another one. A multiple is reckoned in two products. The one
of the nanoseconds is not tested, and cannot overflow; what it has in whole
seconds is carried over to the other, which is tested together with the carry.
This comes to the exact multiple, held at the longest span (`map_time_times?`).
-/
import Mathlib.Algebra.Order.Ring.Nat
import RemapSynth.Duration
import RemapSynth.Proofs.Width

namespace RemapSynth

/-- A span of time in two words. -/
structure Span where
  seconds : BitVec 64
  /-- The nanoseconds beyond the whole seconds. -/
  nanos : BitVec 32
  nanos_lt : nanos.toNat < Duration.perSecond

namespace Span

open Width

variable (s : Span) (factor : BitVec 32) (part : BitVec 64)

/-- The time that is meant. -/
def time : Duration := ⟨s.seconds.toNat * Duration.perSecond + s.nanos.toNat⟩

def zero : Span := ⟨0#64, 0#32, by decide⟩

def longest : Span := ⟨.allOnes 64, 999999999#32, by decide⟩

def ofSeconds (seconds : BitVec 64) : Span := ⟨seconds, 0#32, by decide⟩

/-- Whether there is no time between start and end. -/
def isZero : Bool := s.seconds == 0#64 && s.nanos == 0#32

theorem time_zero : zero.time = .zero := rfl

theorem time_longest : longest.time = .longest := by decide

theorem time_ofSeconds (seconds : BitVec 64) :
    (ofSeconds seconds).time = .ofSeconds seconds.toNat := by
  simp [ofSeconds, time, Duration.ofSeconds]

theorem isZero_iff : s.isZero = true ↔ s.time.nanos = 0 := by
  simp only [isZero, time, Bool.and_eq_true, beq_iff_eq, ← BitVec.toNat_inj, BitVec.toNat_ofNat,
    Duration.perSecond]
  omega

theorem perSecond_pos : 0 < Duration.perSecond := by decide

theorem div_perSecond : s.time.nanos / Duration.perSecond = s.seconds.toNat := by
  rw [time, Nat.mul_comm, Nat.mul_add_div perSecond_pos, Nat.div_eq_of_lt s.nanos_lt, Nat.add_zero]

/-- A time is no longer than the longest span when 64 bits hold its seconds. -/
theorem le_longest_iff {n : Nat} :
    n ≤ Duration.longest.nanos ↔ n / Duration.perSecond < 2 ^ 64 := by
  simp only [Duration.longest, Duration.perSecond, maxWord]
  omega

/-- Two words hold the spans up to the longest one. -/
theorem exists_time_eq_iff {d : Duration} :
    (∃ s : Span, s.time = d) ↔ d.nanos ≤ Duration.longest.nanos := by
  rw [le_longest_iff]
  constructor
  · rintro ⟨s, rfl⟩
    rw [div_perSecond]
    exact s.seconds.isLt
  · intro hseconds
    have hnanos : d.nanos % Duration.perSecond < Duration.perSecond := Nat.mod_lt _ perSecond_pos
    have hword := toNat_ofNat_of_lt (hnanos.trans (show Duration.perSecond < 2 ^ 32 by decide))
    refine ⟨⟨.ofNat 64 (d.nanos / Duration.perSecond), .ofNat 32 (d.nanos % Duration.perSecond),
      hword.trans_lt hnanos⟩, congrArg Duration.mk ?_⟩
    show (BitVec.ofNat 64 _).toNat * _ + (BitVec.ofNat 32 _).toNat = _
    rw [hword, toNat_ofNat_of_lt hseconds, Nat.div_add_mod']

/-! ## Multiples -/

/-- The nanoseconds of a second. -/
def second : BitVec 64 := BitVec.ofNat 64 Duration.perSecond

/-- The nanoseconds that do not fill another second. -/
def rest : BitVec 32 := (part % second).setWidth 32

theorem toNat_second : second.toNat = Duration.perSecond := by decide

theorem toNat_rest : (rest part).toNat = part.toNat % Duration.perSecond := by
  have hlt : part.toNat % Duration.perSecond < Duration.perSecond := Nat.mod_lt _ perSecond_pos
  rw [rest, BitVec.toNat_setWidth, BitVec.toNat_umod, toNat_second,
    Nat.mod_eq_of_lt (hlt.trans (by decide))]

theorem rest_lt : (rest part).toNat < Duration.perSecond :=
  toNat_rest part ▸ Nat.mod_lt _ perSecond_pos

/-- The nanoseconds of a multiple, from those beyond the whole seconds; none on an overflow. -/
def part? : Option (BitVec 64) := product? (s.nanos.setWidth 64) (factor.setWidth 64)

/-- The whole seconds of a multiple with those that are carried; none on an overflow. -/
def seconds? : Option (BitVec 64) :=
  (product? s.seconds (factor.setWidth 64)).bind fun seconds => sum? seconds (part / second)

/-- The span taken `factor` times; the longest one where the seconds overflow. None stands for an
overflow in the nanoseconds, which are multiplied without a test. -/
def times? : Option Span :=
  (s.part? factor).map fun part =>
    (s.seconds? factor part).elim longest fun seconds => ⟨seconds, rest part, rest_lt part⟩

/-- The product without a test fits its word. -/
theorem part?_eq :
    ∃ part, s.part? factor = some part ∧ part.toNat = s.nanos.toNat * factor.toNat := by
  have hlt : s.nanos.toNat * factor.toNat < 2 ^ 64 :=
    (Nat.mul_lt_mul'' s.nanos_lt factor.isLt).trans (by decide)
  refine ⟨_, ?_, toNat_ofNat_of_lt hlt⟩
  rw [part?, product?_eq, BitVec.toNat_setWidth_of_le (by decide),
    BitVec.toNat_setWidth_of_le (by decide), held?_of_lt hlt]

theorem seconds?_eq : s.seconds? factor part =
    held? 64 (s.seconds.toNat * factor.toNat + part.toNat / Duration.perSecond) := by
  rw [seconds?, product?_eq, BitVec.toNat_setWidth_of_le (by decide)]
  refine held?_bind (Nat.le_add_right _ _) fun seconds hseconds => ?_
  rw [sum?_eq, hseconds, BitVec.toNat_udiv, toNat_second]

/-- The exact multiple, with its nanoseconds apart. -/
theorem nanos_time_mul (h : part.toNat = s.nanos.toNat * factor.toNat) :
    s.time.nanos * factor.toNat =
      part.toNat + s.seconds.toNat * factor.toNat * Duration.perSecond := by
  rw [time, Nat.add_mul, Nat.mul_right_comm, ← h, Nat.add_comm]

/-- **A multiple in words is the exact one**, held at the longest span, and no step overflows. -/
theorem map_time_times? : (s.times? factor).map time = some (s.time.times factor.toNat) := by
  obtain ⟨part, hpart, htotal⟩ := s.part?_eq factor
  have hexact := s.nanos_time_mul factor part htotal
  have hseconds : s.seconds.toNat * factor.toNat + part.toNat / Duration.perSecond =
      s.time.nanos * factor.toNat / Duration.perSecond := by
    rw [hexact, Nat.add_mul_div_right _ _ perSecond_pos, Nat.add_comm]
  have hrest : part.toNat % Duration.perSecond =
      s.time.nanos * factor.toNat % Duration.perSecond := by
    rw [hexact, Nat.add_mul_mod_self_right]
  rw [times?, hpart, Option.map_some, Option.map_some, seconds?_eq, hseconds, Duration.times]
  -- the seconds overflow just when the multiple is longer than the longest span
  by_cases hfits : s.time.nanos * factor.toNat / Duration.perSecond < 2 ^ 64
  · rw [held?_of_lt hfits, Option.elim_some, Nat.min_eq_right (le_longest_iff.2 hfits), time,
      toNat_rest, hrest, toNat_ofNat_of_lt hfits, Nat.div_add_mod']
  · have hlong := Nat.le_of_not_le (mt le_longest_iff.1 hfits)
    rw [held?_of_le (Nat.not_lt.1 hfits), Option.elim_none, Nat.min_eq_left hlong, time_longest]

end Span
end RemapSynth
