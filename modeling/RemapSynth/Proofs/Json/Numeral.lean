/-
Numerals among other text. A numeral ends where a comma or a closing bracket
stands, so it is read alike whatever follows that (`Reads.scanNumeral`), and
the digits of a whole number of 64 bits are read as that number
(`scanNumeral_toDigits`).
-/
import Mathlib.Data.List.TakeWhile
import RemapSynth.Json.Value
import RemapSynth.Proofs.Json.Written

namespace RemapSynth.Json

variable {s t r : List Char}

theorem map_eq_ok_iff {ε α β : Type} {f : α → β} {x : Except ε α} {b : β} :
    x.map f = .ok b ↔ ∃ a, x = .ok a ∧ f a = b := by
  cases x <;> simp [Except.map]

/-- A text that goes on with no value: it is empty, or begins with a comma or a closing bracket. -/
def Ends (t : List Char) : Prop := ∀ c ∈ t.head?, c = ',' ∨ c = ']' ∨ c = '\x7d'

theorem Ends.cases (h : Ends t) :
    t = [] ∨ ∃ c rest, t = c :: rest ∧ (c = ',' ∨ c = ']' ∨ c = '\x7d') := by
  cases t with
  | nil => exact .inl rfl
  | cons c rest => exact .inr ⟨c, rest, rfl, h c rfl⟩

/-- `scan` reads `a` from `s` and leaves `r`, whatever stands behind that ends a value. -/
structure Reads {α : Type} (scan : List Char → Scanned α) (s : List Char) (a : α)
    (r : List Char) : Prop where
  suffix : r <:+ s
  append : ∀ t, Ends t → scan (s ++ t) = .ok (a, r ++ t)

/-! ## Parts of a numeral -/

theorem spanDigits_append (ht : Ends t) (s : List Char) :
    spanDigits (s ++ t) = ((spanDigits s).1, (spanDigits s).2 ++ t) := by
  induction s with
  | nil =>
    rcases ht.cases with rfl | ⟨c, rest, rfl, rfl | rfl | rfl⟩ <;> rfl
  | cons c s ih =>
    simp only [spanDigits, Prod.mk.injEq] at ih
    by_cases hc : Text.isAsciiDigit c = true
    · simp [spanDigits, hc, ih]
    · simp [spanDigits, hc]

theorem suffix_spanDigits (s : List Char) : (spanDigits s).2 <:+ s := List.dropWhile_suffix _

theorem scanFraction_point (s : List Char) :
    scanFraction ('.' :: s) =
      if (spanDigits s).1 = [] then .error (missingDigit (spanDigits s).2)
      else .ok (spanDigits s) := by
  simp only [scanFraction]
  rcases hs : spanDigits s with ⟨_ | ⟨d, digits⟩, rest⟩ <;> rfl

theorem scanFraction_of_ne {c : Char} (hc : c ≠ '.') (s : List Char) :
    scanFraction (c :: s) = .ok ([], c :: s) := by
  simp [scanFraction, hc]

theorem Reads.scanFraction {digits : List Char} (h : scanFraction s = .ok (digits, r)) :
    Reads Json.scanFraction s digits r := by
  cases s with
  | nil =>
    cases h
    refine ⟨List.suffix_refl _, fun t ht => ?_⟩
    rcases ht.cases with rfl | ⟨c, rest, rfl, rfl | rfl | rfl⟩ <;> rfl
  | cons c s =>
    by_cases hc : c = '.'
    · subst hc
      rw [scanFraction_point] at h
      split at h
      · cases h
      · next hne =>
        rw [Except.ok.injEq] at h
        have hsuffix := suffix_spanDigits s
        rw [h] at hne hsuffix
        refine ⟨hsuffix.trans (List.suffix_cons _ _), fun t ht => ?_⟩
        rw [List.cons_append, scanFraction_point, spanDigits_append ht, h, if_neg hne]
    · rw [scanFraction_of_ne hc] at h
      cases h
      exact ⟨List.suffix_refl _, fun t _ => scanFraction_of_ne hc (s ++ t)⟩

/-- Whether a minus stands in front, and what follows a sign. -/
def spanSign (s : List Char) : Bool × List Char :=
  match s with
  | '-' :: s => (true, s)
  | '+' :: s => (false, s)
  | s => (false, s)

theorem suffix_spanSign (s : List Char) : (spanSign s).2 <:+ s := by
  rw [spanSign.eq_def]
  split
  · exact List.suffix_cons _ _
  · exact List.suffix_cons _ _
  · exact List.suffix_refl _

theorem spanSign_append (ht : Ends t) (s : List Char) :
    spanSign (s ++ t) = ((spanSign s).1, (spanSign s).2 ++ t) := by
  cases s with
  | nil => rcases ht.cases with rfl | ⟨c, rest, rfl, rfl | rfl | rfl⟩ <;> rfl
  | cons c s =>
    by_cases hminus : c = '-'
    · rw [hminus]
      rfl
    · by_cases hplus : c = '+'
      · rw [hplus]
        rfl
      · simp [spanSign, hminus, hplus]

/-- An exponent of its sign and of the digits read behind the sign, which must be there. -/
def exponentOf (negative : Bool) : List Char × List Char → Scanned (Option (Bool × List Char))
  | ([], s) => .error (missingDigit s)
  | (digits, s) => .ok (some (negative, digits), s)

theorem scanExponent_mark {c : Char} (hc : c = 'e' ∨ c = 'E') (s : List Char) :
    scanExponent (c :: s) =
      if (spanDigits (spanSign s).2).1 = [] then
        .error (missingDigit (spanDigits (spanSign s).2).2)
      else
        .ok (some ((spanSign s).1, (spanDigits (spanSign s).2).1),
          (spanDigits (spanSign s).2).2) := by
  have hmark : scanExponent (c :: s) =
      exponentOf (spanSign s).1 (spanDigits (spanSign s).2) := by
    rcases hc with rfl | rfl <;> rfl
  rw [hmark]
  rcases spanDigits (spanSign s).2 with ⟨_ | ⟨d, digits⟩, rest⟩ <;> rfl

theorem scanExponent_of_ne {c : Char} (he : c ≠ 'e') (hE : c ≠ 'E') (s : List Char) :
    scanExponent (c :: s) = .ok (none, c :: s) := by
  simp [scanExponent, he, hE]

theorem Reads.scanExponent {exponent : Option (Bool × List Char)}
    (h : scanExponent s = .ok (exponent, r)) : Reads Json.scanExponent s exponent r := by
  cases s with
  | nil =>
    cases h
    refine ⟨List.suffix_refl _, fun t ht => ?_⟩
    rcases ht.cases with rfl | ⟨c, rest, rfl, rfl | rfl | rfl⟩ <;> rfl
  | cons c s =>
    by_cases hc : c = 'e' ∨ c = 'E'
    · rw [scanExponent_mark hc] at h
      split at h
      · cases h
      · next hne =>
        cases h
        refine ⟨((suffix_spanDigits _).trans (suffix_spanSign s)).trans (List.suffix_cons _ _),
          fun t ht => ?_⟩
        rw [List.cons_append, scanExponent_mark hc, spanSign_append ht, spanDigits_append ht,
          if_neg hne]
    · rw [not_or] at hc
      rw [scanExponent_of_ne hc.1 hc.2] at h
      cases h
      exact ⟨List.suffix_refl _, fun t _ => scanExponent_of_ne hc.1 hc.2 (s ++ t)⟩

/-! ## Whole numerals -/

/-- The digits before the point of a numeral: there are some, and more than one do not begin with
a zero. -/
def IsWhole (digits : List Char) : Prop :=
  digits ≠ [] ∧ ∀ d more, digits ≠ '0' :: d :: more

theorem scanNumeral_eq_ok_iff {negative : Bool} {tree : Tree} :
    scanNumeral negative s = .ok (tree, r) ↔
      IsWhole (spanDigits s).1 ∧ ∃ fraction rest exponent,
        scanFraction (spanDigits s).2 = .ok (fraction, rest) ∧
        scanExponent rest = .ok (exponent, r) ∧
        tree = .number ⟨negative, (spanDigits s).1, fraction, exponent⟩ := by
  rw [scanNumeral.eq_def]
  rcases spanDigits s with ⟨whole, rest⟩
  dsimp only
  split
  case h_1 heq =>
    obtain ⟨rfl, -⟩ := Prod.mk.inj heq
    simp [IsWhole]
  case h_2 heq =>
    obtain ⟨rfl, -⟩ := Prod.mk.inj heq
    simp [IsWhole]
  case h_3 hnil hzero heq =>
    obtain ⟨rfl, rfl⟩ := Prod.mk.inj heq
    have hwhole : IsWhole whole := ⟨hnil, hzero⟩
    rcases hf : scanFraction rest with e | ⟨fraction, rest'⟩
    · simp
    · simp only [map_eq_ok_iff, Prod.exists, Prod.mk.injEq, Except.ok.injEq]
      constructor
      · rintro ⟨exponent, r', hexponent, rfl, rfl⟩
        exact ⟨hwhole, fraction, rest', exponent, ⟨rfl, rfl⟩, hexponent, rfl⟩
      · rintro ⟨-, _, _, exponent, ⟨rfl, rfl⟩, hexponent, rfl⟩
        exact ⟨exponent, r, hexponent, rfl, rfl⟩

/-- **A numeral is read alike before whatever ends a value.** -/
theorem Reads.scanNumeral {negative : Bool} {tree : Tree}
    (h : scanNumeral negative s = .ok (tree, r)) : Reads (Json.scanNumeral negative) s tree r := by
  obtain ⟨hwhole, fraction, rest, exponent, hfraction, hexponent, rfl⟩ := scanNumeral_eq_ok_iff.1 h
  have hf := Reads.scanFraction hfraction
  have he := Reads.scanExponent hexponent
  refine ⟨(he.suffix.trans hf.suffix).trans (suffix_spanDigits s), fun t ht => ?_⟩
  rw [scanNumeral_eq_ok_iff, spanDigits_append ht]
  exact ⟨hwhole, fraction, rest ++ t, exponent, hf.append t ht, he.append t ht, rfl⟩

/-! ## Whole numbers -/

theorem isAsciiDigit_of_mem_toDigits {n : Nat} {c : Char} (h : c ∈ Nat.toDigits 10 n) :
    Text.isAsciiDigit c = true :=
  Text.isAsciiDigit_of_isDigit (Nat.isDigit_of_mem_toDigits (by decide) (by decide) h)

/-- The digits of a number do not begin with a zero, unless it is zero. -/
theorem isWhole_toDigits (n : Nat) : IsWhole (Nat.toDigits 10 n) := by
  refine ⟨Nat.toDigits_ne_nil, ?_⟩
  have hhead : ∀ n, 0 < n → (Nat.toDigits 10 n).head? ≠ some '0' := by
    intro n
    induction n using Nat.strongRecOn with
    | ind n ih =>
      intro hn
      by_cases hlt : n < 10
      · rw [Nat.toDigits_of_lt_base hlt]
        simp
        omega
      · have hfirst := ih (n / 10) (by omega) (by omega)
        rw [Nat.toDigits_of_base_le (by decide) (by omega)]
        cases hdigits : Nat.toDigits 10 (n / 10) with
        | nil => exact absurd hdigits Nat.toDigits_ne_nil
        | cons c rest => simpa [hdigits] using hfirst
  intro d more hdigits
  rcases Nat.eq_zero_or_pos n with rfl | hn
  · simp at hdigits
  · exact hhead n hn (by rw [hdigits]; rfl)

theorem le_ofDigitChars (digits : List Char) (start : Nat) :
    start ≤ Nat.ofDigitChars 10 digits start := by
  induction digits generalizing start with
  | nil => simp
  | cons c digits ih =>
    have hnext := ih (10 * start + (c.toNat - '0'.toNat))
    rw [Nat.ofDigitChars_cons]
    omega

/-- Digits that make a number of 64 bits are all read. -/
theorem readDigits_eq {digits : List Char} {start : Nat}
    (h : Nat.ofDigitChars 10 digits start ≤ Width.maxWord) :
    readDigits start digits = (Nat.ofDigitChars 10 digits start, []) := by
  induction digits generalizing start with
  | nil => rfl
  | cons c digits ih =>
    have hnext : Nat.ofDigitChars 10 (c :: digits) start =
        Nat.ofDigitChars 10 digits (start * 10 + (c.toNat - 48)) := by
      rw [Nat.ofDigitChars_cons, Nat.mul_comm]
      rfl
    rw [hnext] at h ⊢
    have hle := Nat.le_trans (le_ofDigitChars digits _) h
    rw [readDigits, if_pos hle, ih h]

theorem readDigits_toDigits {n : Nat} (h : n ≤ Width.maxWord) :
    readDigits 0 (Nat.toDigits 10 n) = (n, []) := by
  rw [readDigits_eq (by rwa [Nat.ofDigitChars_ten_toDigits]), Nat.ofDigitChars_ten_toDigits]

/-- What is read of a number's digits is no larger than 64 bits hold. -/
theorem readDigits_le {digits : List Char} {start : Nat} (h : start ≤ Width.maxWord) :
    (readDigits start digits).1 ≤ Width.maxWord := by
  induction digits generalizing start with
  | nil => exact h
  | cons c digits ih =>
    rw [readDigits]
    split
    · next hle => exact ih hle
    · exact h

/-- The whole numbers that a JSON text can hold as such. -/
def InWord (n : Int) : Prop := -(Width.signBound : Int) ≤ n ∧ n ≤ Width.maxWord

/-- A numeral stands for a whole number of 64 bits or for a double. -/
theorem toJson?_cases {n : Numeral} {v : Json} (h : n.toJson? = some v) :
    (∃ value, v = .int value ∧ InWord value) ∨ ∃ x, v = .float x := by
  have hle : (readDigits 0 n.whole).1 ≤ Width.maxWord := readDigits_le (by decide)
  have hsign : Width.signBound ≤ Width.maxWord := by decide
  have hfloat : n.toFloat?.map Json.float = some v → ∃ x, v = .float x := by
    intro hmap
    obtain ⟨x, -, rfl⟩ := Option.map_eq_some_iff.1 hmap
    exact ⟨x, rfl⟩
  rw [Numeral.toJson?] at h
  split at h
  · rcases hread : readDigits 0 n.whole with ⟨number, left⟩
    simp only [hread] at h hle
    split at h
    · exact .inr (hfloat h)
    split at h
    · rw [Option.some.injEq] at h
      exact .inl ⟨number, h.symm, by constructor <;> omega⟩
    split at h
    · rw [Option.some.injEq] at h
      exact .inr ⟨_, h.symm⟩
    split at h
    · rw [Option.some.injEq] at h
      exact .inl ⟨-number, h.symm, by constructor <;> omega⟩
    · rw [Option.some.injEq] at h
      exact .inr ⟨_, h.symm⟩
  · exact .inr (hfloat h)

/-- The digits of a whole number are read as that number. -/
theorem toJson?_toDigits {n : Int} (h : InWord n) :
    Numeral.toJson? ⟨decide (n < 0), Nat.toDigits 10 n.natAbs, [], none⟩ = some (.int n) := by
  obtain ⟨hlow, hhigh⟩ := h
  have hsign : Width.signBound ≤ Width.maxWord := by decide
  have hread : readDigits 0 (Nat.toDigits 10 n.natAbs) = (n.natAbs, []) :=
    readDigits_toDigits (by omega)
  simp only [Numeral.toJson?, hread]
  by_cases hn : n < 0
  · have hne : n.natAbs ≠ 0 := by omega
    have hle : n.natAbs ≤ Width.signBound := by omega
    have hvalue : -(n.natAbs : Int) = n := by omega
    rw [decide_eq_true hn]
    simp only [List.isEmpty_nil, Option.isNone_none, Bool.and_self, if_true, Bool.not_true,
      Bool.false_eq_true, if_false, hne, hle, hvalue]
  · have hvalue : (n.natAbs : Int) = n := by omega
    rw [decide_eq_false hn]
    simp only [List.isEmpty_nil, Option.isNone_none, Bool.and_self, if_true, Bool.not_true,
      Bool.not_false, Bool.false_eq_true, if_false, hvalue]

/-- **The digits of a number are read up to what ends a value.** -/
theorem scanNumeral_toDigits (negative : Bool) (n : Nat) (ht : Ends t) :
    scanNumeral negative (Nat.toDigits 10 n ++ t) =
      .ok (.number ⟨negative, Nat.toDigits 10 n, [], none⟩, t) := by
  have hspan : spanDigits (Nat.toDigits 10 n) = (Nat.toDigits 10 n, []) := by
    have hall : ∀ c ∈ Nat.toDigits 10 n, Text.isAsciiDigit c = true :=
      fun _ => isAsciiDigit_of_mem_toDigits
    rw [spanDigits, List.takeWhile_eq_self_iff.2 hall, List.dropWhile_eq_nil_iff.2 hall]
  have hdigits : scanNumeral negative (Nat.toDigits 10 n) =
      .ok (.number ⟨negative, Nat.toDigits 10 n, [], none⟩, []) := by
    rw [scanNumeral_eq_ok_iff, hspan]
    exact ⟨isWhole_toDigits n, [], [], none, rfl, rfl, rfl⟩
  simpa using (Reads.scanNumeral hdigits).append t ht

end RemapSynth.Json
