/-
Whole numbers in words of a fixed width. Sums and products that are tested for
overflow come to the exact number, or to none when it takes more bits than a
word has (`sum?_eq`, `product?_eq`). So does a power by repeated squaring
(`powerFrom?_eq`): as no factor is zero, nothing on the way is larger than the
power itself, and a square is only taken where it is still needed.
-/
import Mathlib.Algebra.Order.Ring.Nat
import RemapSynth.Width

namespace RemapSynth.Width

variable {w : Nat} {acc base : BitVec w} {m n exponent : Nat}

/-! ## Tested sums and products -/

/-- The sum of two words; none on an overflow. -/
def sum? (a b : BitVec w) : Option (BitVec w) := if a.uaddOverflow b then none else some (a + b)

/-- The product of two words; none on an overflow. -/
def product? (a b : BitVec w) : Option (BitVec w) := if a.umulOverflow b then none else some (a * b)

/-- What is left of `a` after `b`; nothing when `b` is larger. -/
def minus (a b : BitVec w) : BitVec w := if a < b then 0#w else a - b

/-- The smaller of two words. -/
def smaller (a b : BitVec w) : BitVec w := if a ≤ b then a else b

/-- An exact number as a word; none when it takes more bits. -/
def held? (w n : Nat) : Option (BitVec w) := if n < 2 ^ w then some (BitVec.ofNat w n) else none

theorem held?_of_lt (h : n < 2 ^ w) : held? w n = some (BitVec.ofNat w n) := if_pos h

theorem held?_of_le (h : 2 ^ w ≤ n) : held? w n = none := if_neg (Nat.not_lt.2 h)

theorem toNat_ofNat_of_lt (h : n < 2 ^ w) : (BitVec.ofNat w n).toNat = n := by
  rw [BitVec.toNat_ofNat, Nat.mod_eq_of_lt h]

theorem held?_toNat (a : BitVec w) : held? w a.toNat = some a := by
  rw [held?_of_lt a.isLt, BitVec.ofNat_toNat, BitVec.setWidth_eq]

theorem sum?_eq (a b : BitVec w) : sum? a b = held? w (a.toNat + b.toNat) := by
  by_cases h : a.toNat + b.toNat < 2 ^ w
  · have hfits : ¬ a.uaddOverflow b = true := by simpa [BitVec.uaddOverflow] using h
    rw [sum?, if_neg hfits, ← held?_toNat (a + b), BitVec.toNat_add_of_not_uaddOverflow hfits]
  · rw [sum?, held?_of_le (Nat.not_lt.1 h), if_pos (by simpa [BitVec.uaddOverflow] using h)]

theorem product?_eq (a b : BitVec w) : product? a b = held? w (a.toNat * b.toNat) := by
  by_cases h : a.toNat * b.toNat < 2 ^ w
  · have hfits : ¬ a.umulOverflow b = true := by simpa [BitVec.umulOverflow] using h
    rw [product?, if_neg hfits, ← held?_toNat (a * b), BitVec.toNat_mul_of_not_umulOverflow hfits]
  · rw [product?, held?_of_le (Nat.not_lt.1 h), if_pos (by simpa [BitVec.umulOverflow] using h)]

theorem toNat_minus (a b : BitVec w) : (minus a b).toNat = a.toNat - b.toNat := by
  rw [minus]
  split
  · next h => rw [BitVec.toNat_zero, Nat.sub_eq_zero_of_le (BitVec.lt_def.1 h).le]
  · next h => rw [BitVec.toNat_sub_of_le (BitVec.not_lt.1 h)]

theorem toNat_smaller (a b : BitVec w) : (smaller a b).toNat = min a.toNat b.toNat := by
  rw [smaller]
  split
  · next h => rw [Nat.min_eq_left (BitVec.le_def.1 h)]
  · next h => rw [Nat.min_eq_right (BitVec.lt_def.1 (BitVec.not_le.1 h)).le]

/-- The largest word stands in for a number that takes more bits. -/
theorem toNat_getD_held? (w n : Nat) :
    ((held? w n).getD (.allOnes w)).toNat = min n (2 ^ w - 1) := by
  by_cases h : n < 2 ^ w
  · rw [held?_of_lt h, Option.getD_some, toNat_ofNat_of_lt h, Nat.min_eq_left (Nat.le_sub_one_of_lt h)]
  · have hle : 2 ^ w - 1 ≤ n := (Nat.sub_le _ _).trans (Nat.not_lt.1 h)
    rw [held?_of_le (Nat.not_lt.1 h), Option.getD_none, BitVec.toNat_allOnes, Nat.min_eq_right hle]

/-- A number that is no larger than the one to come may be tested before it. -/
theorem held?_bind {f : BitVec w → Option (BitVec w)} (hle : m ≤ n)
    (hf : ∀ a, a.toNat = m → f a = held? w n) : (held? w m).bind f = held? w n := by
  by_cases h : m < 2 ^ w
  · rw [held?_of_lt h, Option.bind_some, hf _ (toNat_ofNat_of_lt h)]
  · have hm := Nat.not_lt.1 h
    rw [held?_of_le hm, held?_of_le (hm.trans hle), Option.bind_none]

/-! ## Powers -/

/-- `acc` times `base` to the power of `exponent` by repeated squaring; none as soon as a product
overflows. -/
def powerFrom? (acc base : BitVec w) (exponent : Nat) : Option (BitVec w) :=
  if exponent = 0 then some acc
  else if exponent = 1 then product? acc base
  else
    (if exponent % 2 = 1 then product? acc base else some acc).bind fun acc =>
      (product? base base).bind fun base => powerFrom? acc base (exponent / 2)
termination_by exponent

/-- A power, held at the largest word. -/
def power (base : BitVec w) (exponent : Nat) : BitVec w :=
  (powerFrom? 1#w base exponent).getD (.allOnes w)

theorem odd_factor_eq (acc base : BitVec w) (exponent : Nat) :
    (if exponent % 2 = 1 then product? acc base else some acc) =
      held? w (acc.toNat * base.toNat ^ (exponent % 2)) := by
  rcases Nat.mod_two_eq_zero_or_one exponent with h | h
  · rw [h, if_neg (by decide), pow_zero, Nat.mul_one, held?_toNat]
  · rw [h, if_pos rfl, pow_one, product?_eq]

/-- The invariant of repeated squaring: one step keeps the product that is to come. -/
theorem square_step (acc base exponent : Nat) :
    acc * base ^ (exponent % 2) * (base * base) ^ (exponent / 2) = acc * base ^ exponent := by
  rw [← pow_two, ← pow_mul, Nat.mul_assoc, ← pow_add, Nat.mod_add_div]

theorem powerFrom?_eq (hacc : 0 < acc.toNat) (hbase : 0 < base.toNat) :
    powerFrom? acc base exponent = held? w (acc.toNat * base.toNat ^ exponent) := by
  fun_induction powerFrom? acc base exponent with
  | case1 acc base => rw [pow_zero, Nat.mul_one, held?_toNat]
  | case2 acc base => rw [pow_one, product?_eq]
  | case3 acc base exponent hzero hone ih =>
    have hfactor : 0 < acc.toNat * base.toNat ^ (exponent % 2) :=
      Nat.mul_pos hacc (Nat.pow_pos hbase)
    have hsquare : 0 < base.toNat * base.toNat := Nat.mul_pos hbase hbase
    have hhalf : exponent / 2 ≠ 0 := by omega
    -- neither the factor nor the square is larger than the power they are needed for
    rw [← square_step, odd_factor_eq, product?_eq]
    refine held?_bind (Nat.le_mul_of_pos_right _ (Nat.pow_pos hsquare)) fun acc' hacc' => ?_
    refine held?_bind ?_ fun base' hbase' => ?_
    · exact (Nat.le_self_pow hhalf _).trans (Nat.le_mul_of_pos_left _ hfactor)
    · rw [ih acc' base' (hacc' ▸ hfactor) (hbase' ▸ hsquare), hacc', hbase']

/-- A power is the exact one, held at the largest word. -/
theorem toNat_power (hw : 0 < w) (hbase : 0 < base.toNat) (exponent : Nat) :
    (power base exponent).toNat = min (base.toNat ^ exponent) (2 ^ w - 1) := by
  have hone := BitVec.toNat_one hw
  rw [power, powerFrom?_eq hone.ge hbase, hone, Nat.one_mul, toNat_getD_held?]

end RemapSynth.Width
