/-
The order of doubles. What is no number compares with nothing, but all the
others stand in a row: by their side of zero, then by exponent, then by
significand, infinities at both ends and the two zeros at one place. Doubles
that are numbers compare just as their places in that row do, so an argument
about the order of numbers is made with places.
-/
import Mathlib.Algebra.Ring.Int.Defs
import Mathlib.Data.Prod.Lex

namespace RemapSynth.Score

open Float.Model (UnpackedFloat)

/-- A place in the row: the side of zero, then the exponent, then the significand. -/
abbrev Place : Type := ℤ ×ₗ ℤ ×ₗ ℤ

/-- The place of a double taken apart; what is no number is put at zero. -/
def placeOf : UnpackedFloat → Place
  | .infinity .negative => toLex (-2, toLex (0, 0))
  | .finite .negative m e _ => toLex (-1, toLex (-e, -(m : ℤ)))
  | .zero _ | .notANumber => toLex (0, toLex (0, 0))
  | .finite .positive m e _ => toLex (1, toLex (e, (m : ℤ)))
  | .infinity .positive => toLex (2, toLex (0, 0))

/-- The place of a double. -/
def place (x : Float) : Place := placeOf x.toModel.unpack

theorem lt_iff_placeOf {a b : UnpackedFloat} (ha : a.isNaN = false) (hb : b.isNaN = false) :
    a.lt b = true ↔ placeOf a < placeOf b := by
  rcases a with (_ | _) | _ | _ | ⟨_ | _, m, e, _⟩
  case notANumber => cases ha
  all_goals
    rcases b with (_ | _) | _ | _ | ⟨_ | _, m', e', _⟩
    case notANumber => cases hb
    all_goals
      dsimp only [UnpackedFloat.lt, UnpackedFloat.compare, placeOf]
      simp [Prod.Lex.toLex_lt_toLex, Ordering.then_eq_lt, Ordering.then_eq_gt, compare_lt_iff_lt,
        compare_gt_iff_gt]
  -- two infinities compare as their signs do
  all_goals rfl

theorem beq_iff_placeOf {a b : UnpackedFloat} (ha : a.isNaN = false) (hb : b.isNaN = false) :
    a.beq b = true ↔ placeOf a = placeOf b := by
  change (a.compare b == some .eq) = true ↔ _
  rcases a with (_ | _) | _ | _ | ⟨_ | _, m, e, _⟩
  case notANumber => cases ha
  all_goals
    rcases b with (_ | _) | _ | _ | ⟨_ | _, m', e', _⟩
    case notANumber => cases hb
    all_goals
      dsimp only [UnpackedFloat.compare, placeOf]
      simp [Ordering.then_eq_eq]
  all_goals rfl

variable {a b : Float}

/-- **Numbers compare as their places do.** -/
theorem lt_iff_place (ha : a.isNaN = false) (hb : b.isNaN = false) :
    a < b ↔ place a < place b := by
  have hlt : a < b ↔ a.toModel.unpack.lt b.toModel.unpack = true := by
    show decide (a.toModel < b.toModel) = true ↔ _
    rw [decide_eq_true_iff]
    rfl
  rw [hlt]
  exact lt_iff_placeOf ha hb

theorem beq_iff_place (ha : a.isNaN = false) (hb : b.isNaN = false) :
    (a == b) = true ↔ place a = place b :=
  beq_iff_placeOf ha hb

end RemapSynth.Score
