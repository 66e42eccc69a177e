/-
Texts weighed character by character. A weight may be negative, so a text
may become lighter by becoming longer.
-/
import RemapSynth.Proofs.Text.Pieces

namespace RemapSynth.Chars

/-- The weights of a text's characters together. -/
def weigh (weight : Char → Int) : List Char → Int
  | [] => 0
  | c :: s => weight c + weigh weight s

variable {weight : Char → Int}

@[simp] theorem weigh_nil : weigh weight [] = 0 := rfl

@[simp] theorem weigh_cons (c : Char) (s : List Char) :
    weigh weight (c :: s) = weight c + weigh weight s := rfl

@[simp] theorem weigh_append (s t : List Char) :
    weigh weight (s ++ t) = weigh weight s + weigh weight t := by
  induction s with
  | nil => simp
  | cons c s ih => rw [List.cons_append, weigh_cons, weigh_cons, ih, Int.add_assoc]

theorem weigh_nonneg {s : List Char} (h : ∀ c ∈ s, 0 ≤ weight c) : 0 ≤ weigh weight s := by
  induction s with
  | nil => simp
  | cons c s ih =>
    have hc : 0 ≤ weight c := h c List.mem_cons_self
    have hs : 0 ≤ weigh weight s := ih fun d hd => h d (List.mem_cons_of_mem c hd)
    rw [weigh_cons]
    omega

theorem weigh_eq_zero {s : List Char} (h : ∀ c ∈ s, weight c = 0) : weigh weight s = 0 := by
  induction s with
  | nil => simp
  | cons c s ih =>
    rw [weigh_cons, h c List.mem_cons_self, ih fun d hd => h d (List.mem_cons_of_mem c hd)]
    rfl

/-- The weights of several texts together. -/
def weighAll (weight : Char → Int) : List (List Char) → Int
  | [] => 0
  | line :: lines => weigh weight line + weighAll weight lines

@[simp] theorem weighAll_nil : weighAll weight [] = 0 := rfl

@[simp] theorem weighAll_cons (line : List Char) (lines : List (List Char)) :
    weighAll weight (line :: lines) = weigh weight line + weighAll weight lines := rfl

@[simp] theorem weighAll_append (lines more : List (List Char)) :
    weighAll weight (lines ++ more) = weighAll weight lines + weighAll weight more := by
  induction lines with
  | nil => simp
  | cons line lines ih => rw [List.cons_append, weighAll_cons, weighAll_cons, ih, Int.add_assoc]

/-- A separator of no weight does not show. -/
theorem weigh_joinWith {sep : Char} (hsep : weight sep = 0) (lines : List (List Char)) :
    weigh weight (joinWith [sep] lines) = weighAll weight lines := by
  induction lines with
  | nil => rfl
  | cons line lines ih =>
    by_cases hlast : lines = []
    · simp [hlast, joinWith]
    · rw [joinWith_cons hlast, weigh_append, weigh_append, ih, weigh_cons, hsep]
      simp

end RemapSynth.Chars
