/-
What lines put into a program do to its estimate, without rounding of
intermediate results. Each call site adds the inverse of its rate to a sum, so
once a known function is called, more lines never make the estimate faster. A
program that calls none is put at the plain rate, which is not scaled as the
others are: lines that call known functions then make it faster, unless they
are so many or so slow that the scaled rate falls below the plain one
(`noFaster_iff`).
-/
import Mathlib.Algebra.Order.BigOperators.Group.List
import RemapSynth.Proofs.Score.Monotone

namespace RemapSynth.Score

open Policy (codeLines)

variable {program program' : List Char} {total total' : Rat}

/-! ## The sum of inverse rates -/

/-- The inverse rates of all call sites of a program, added. -/
def inverseTotal (program : List Char) : Rat :=
  ((callSites program).map fun site => 1 / (site.2 : Rat)).sum

theorem inverse_pos {x : Rat} (h : x ∈ (callSites program).map fun site => 1 / (site.2 : Rat)) :
    0 < x := by
  have hrates : ∀ site ∈ functionRates, 0 < site.2 := by decide
  obtain ⟨site, hsite, rfl⟩ := List.mem_map.1 h
  obtain ⟨line, -, hcall⟩ := List.mem_flatMap.1 hsite
  have hpos : 0 < site.2 := hrates site (List.mem_filter.1 hcall).1
  positivity

theorem inverseTotal_of_nil (h : callSites program = []) : inverseTotal program = 0 := by
  rw [inverseTotal, h]
  rfl

theorem inverseTotal_pos (h : callSites program ≠ []) : 0 < inverseTotal program :=
  List.sum_pos _ (fun _ => inverse_pos) (by simpa using h)

/-- Lines that are put in only add call sites. -/
theorem callSites_sublist (h : (Chars.lines program).Sublist (Chars.lines program')) :
    (callSites program).Sublist (callSites program') := by
  rw [callSites, callSites, codeLines, codeLines]
  exact (h.map _).flatMap _

theorem inverseTotal_mono (h : (Chars.lines program).Sublist (Chars.lines program')) :
    inverseTotal program ≤ inverseTotal program' :=
  ((callSites_sublist h).map _).sum_le_sum fun _ hx => (inverse_pos hx).le

/-! ## The rate of a sum -/

/-- The rate that is estimated for a sum of inverse rates. -/
def rateOf (total : Rat) : Rat :=
  if 0 < total then max (roundRat (estimateScale / total)) 1 else plainRate

theorem foldl_inverses (rates : List Nat) (total : Rat) :
    rates.foldl (fun (total : Rat) (rate : Nat) => total + 1.0 / (rate : Rat)) total =
      total + (rates.map fun (rate : Nat) => 1 / (rate : Rat)).sum := by
  have hone : (1.0 : Rat) = 1 := by norm_num
  induction rates generalizing total with
  | nil => simp
  | cons rate rates ih => rw [List.foldl_cons, ih, List.map_cons, List.sum_cons, hone, add_assoc]

theorem combinedRate_eq (rates : List Nat) :
    (combinedRate rates : Rat) = rateOf (rates.map fun (rate : Nat) => 1 / (rate : Rat)).sum := by
  have hzero : (0.0 : Rat) = 0 := by norm_num
  have hone : (1.0 : Rat) = 1 := by norm_num
  show (let total := rates.foldl (fun (total : Rat) (rate : Nat) => total + 1.0 / (rate : Rat)) 0.0
    if 0.0 < total then Scalar.larger (roundRat (estimateScale / total) : Rat) 1.0
    else (plainRate : Rat)) = _
  rw [foldl_inverses]
  simp only [hzero, hone, zero_add, larger_eq_max, rateOf]

theorem rate_estimate (program : String) (b : Breakpoints Rat) :
    (estimate program b).rate = rateOf (inverseTotal program.toList) := by
  show (combinedRate ((callSites program.toList).map (·.2)) : Rat) = _
  rw [combinedRate_eq, List.map_map]
  rfl

theorem rateOf_antitone (hpos : 0 < total) (h : total ≤ total') : rateOf total' ≤ rateOf total := by
  have hscale : (estimateScale : Rat) / total' ≤ estimateScale / total := by gcongr
  have hround : (roundRat (estimateScale / total') : Rat) ≤ roundRat (estimateScale / total) := by
    exact_mod_cast roundRat_mono hscale
  rw [rateOf, rateOf, if_pos hpos, if_pos (hpos.trans_le h)]
  exact max_le_max_right 1 hround

/-- A program with known calls is put no higher than one without just when its scaled rate is
rounded to no more than the plain rate. -/
theorem rateOf_le_plain_iff (hpos : 0 < total) :
    rateOf total ≤ plainRate ↔ (estimateScale : Rat) / total < plainRate + 1 / 2 := by
  have hnonneg : ¬ (estimateScale : Rat) / total < 0 := not_lt.2 (by positivity)
  have hone : (1 : Rat) ≤ plainRate := by norm_num [plainRate]
  have hround : (roundRat (estimateScale / total) : Rat) ≤ plainRate ↔
      (estimateScale : Rat) / total < plainRate + 1 / 2 := by
    have hcast : (roundRat (estimateScale / total) : Rat) ≤ plainRate ↔
        roundRat (estimateScale / total) < (plainRate : Int) + 1 := by
      rw [Int.lt_add_one_iff]
      norm_cast
    rw [hcast, roundRat, if_neg hnonneg, Rat.floor_lt_iff]
    push_cast
    constructor <;> intro h <;> linarith
  rw [rateOf, if_pos hpos, max_le_iff, and_iff_left hone, hround]

/-- The estimates of a program and of one with more lines go together: both programs call known
functions or neither does, or the scaled rate of the longer one is rounded to no more than the plain
rate. -/
def GoTogether (program program' : List Char) : Prop :=
  callSites program ≠ [] ∨ callSites program' = [] ∨
    (estimateScale : Rat) / inverseTotal program' < plainRate + 1 / 2

theorem rate_le_iff {program program' : String}
    (h : (Chars.lines program.toList).Sublist (Chars.lines program'.toList)) (b : Breakpoints Rat) :
    (estimate program' b).rate ≤ (estimate program b).rate ↔
      GoTogether program.toList program'.toList := by
  rw [rate_estimate, rate_estimate, GoTogether]
  by_cases hcalls : callSites program.toList = []
  · have hplain : rateOf (inverseTotal program.toList) = plainRate := by
      rw [inverseTotal_of_nil hcalls, rateOf, if_neg (lt_irrefl 0)]
    by_cases hcalls' : callSites program'.toList = []
    · rw [inverseTotal_of_nil hcalls, inverseTotal_of_nil hcalls']
      simp [hcalls']
    · rw [hplain, rateOf_le_plain_iff (inverseTotal_pos hcalls')]
      simp [hcalls, hcalls']
  · have hle := rateOf_antitone (inverseTotal_pos hcalls) (inverseTotal_mono h)
    simp [hcalls, hle]

/-- **More lines make an estimate no faster, but for one case.** When lines are put into a program,
the rate does not rise just when the estimates go together, and then neither the tier nor the index
rises, whatever the bounds of the tiers and the machine. What is left are lines that call known
functions in a program that called none: there the rate rises unless they are slow enough. -/
theorem noFaster_iff {program program' : String}
    (h : (Chars.lines program.toList).Sublist (Chars.lines program'.toList)) :
    (∀ b : Breakpoints Rat, (estimate program' b).rate ≤ (estimate program b).rate ↔
      GoTogether program.toList program'.toList) ∧
    (GoTogether program.toList program'.toList → ∀ (b : Breakpoints Rat) (c : Calibration Rat),
      c.Clamped → (estimate program' b).tier.rank ≤ (estimate program b).tier.rank ∧
        (Measurement.ofEstimate (estimate program' b) c).index ≤
          (Measurement.ofEstimate (estimate program b) c).index) := by
  refine ⟨rate_le_iff h, fun htogether b c hc => ?_⟩
  obtain ⟨hindex, htier⟩ := index_rank_mono hc b ((rate_le_iff h b).2 htogether)
  exact ⟨htier, hindex⟩

/-- A program that calls no known function. -/
def plainProgram : String := ".a = 1"

/-- The same with a line that calls the slowest function. -/
def searchingProgram : String := ".a = 1\n. |= parse_regex_all!(.message, r'x')"

/-- The same with one more line in between, which calls a fast function. -/
def splittingProgram : String :=
  ".a = 1\n.b = split(.c, \"#\")\n. |= parse_regex_all!(.message, r'x')"

theorem noFaster_iff_searching :
    ((Chars.lines plainProgram.toList).Sublist (Chars.lines searchingProgram.toList) ∧
      ∀ b : Breakpoints Rat, (estimate plainProgram b).rate < (estimate searchingProgram b).rate) ∧
    ((Chars.lines searchingProgram.toList).Sublist (Chars.lines splittingProgram.toList) ∧
      ∀ (b : Breakpoints Rat) (c : Calibration Rat), c.Clamped →
        (estimate splittingProgram b).rate ≤ (estimate searchingProgram b).rate ∧
        (Measurement.ofEstimate (estimate splittingProgram b) c).index ≤
          (Measurement.ofEstimate (estimate searchingProgram b) c).index) := by
  have hplain : callSites plainProgram.toList = [] := by decide +kernel
  have hsearching : callSites searchingProgram.toList = [("parse_regex_all", 5)] := by
    decide +kernel
  have hapart : ¬ GoTogether plainProgram.toList searchingProgram.toList := by
    rw [GoTogether, inverseTotal, hplain, hsearching]
    norm_num [estimateScale, plainRate]
  have htogether : GoTogether searchingProgram.toList splittingProgram.toList :=
    .inl (by rw [hsearching]; exact List.cons_ne_nil _ _)
  have hfirst :
      (Chars.lines plainProgram.toList).Sublist (Chars.lines searchingProgram.toList) := by
    decide
  have hsecond :
      (Chars.lines searchingProgram.toList).Sublist (Chars.lines splittingProgram.toList) := by
    decide
  refine ⟨⟨hfirst, fun b => ?_⟩, hsecond, fun b c hc => ⟨?_, ?_⟩⟩
  · exact not_le.1 (mt ((noFaster_iff hfirst).1 b).1 hapart)
  · exact ((noFaster_iff hsecond).1 b).2 htogether
  · exact ((noFaster_iff hsecond).2 htogether b c hc).2

end RemapSynth.Score
