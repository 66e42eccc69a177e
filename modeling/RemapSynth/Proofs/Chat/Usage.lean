/-
Usages add up in any order. A missing usage is neutral, and so is an unknown
cost beside a known one; with exact amounts the sum is associative and
commutative, so that a sum of usages depends neither on how they are grouped
nor on which came first.
-/
import Mathlib.Algebra.Group.Defs
import Mathlib.Data.List.Perm.Basic
import RemapSynth.Chat.Usage

namespace RemapSynth.Chat.Usage

variable {Cost : Type}

/-- The sum of usages of which any may be missing, added up one after another. -/
def mergeAll [Add Cost] (us : List (Option (Usage Cost))) : Option (Usage Cost) :=
  us.foldl merge none

section
variable [Add Cost]

@[simp] theorem merge_none (u : Option (Usage Cost)) : merge u none = u := by
  cases u <;> rfl

@[simp] theorem none_merge (u : Option (Usage Cost)) : merge none u = u := rfl

@[simp] theorem mergeAll_nil : mergeAll ([] : List (Option (Usage Cost))) = none := rfl

theorem mergeAll_concat (us : List (Option (Usage Cost))) (u : Option (Usage Cost)) :
    mergeAll (us ++ [u]) = merge (mergeAll us) u := List.foldl_concat ..

/-- Where every usage is missing, so is the sum. -/
theorem mergeAll_eq_none {us : List (Option (Usage Cost))} (h : ∀ u ∈ us, u = none) :
    mergeAll us = none := by
  induction us with
  | nil => rfl
  | cons u us ih =>
    obtain rfl : u = none := h u (by simp)
    exact ih fun u hu => h u (by simp [hu])

end

section
variable [AddSemigroup Cost]

theorem addKnown_assoc (a b c : Option Cost) :
    addKnown (addKnown a b) c = addKnown a (addKnown b c) := by
  cases a <;> cases b <;> cases c <;> simp [addKnown, add_assoc]

protected theorem add_assoc (a b c : Usage Cost) : (a.add b).add c = a.add (b.add c) := by
  simp only [add, addKnown_assoc, Nat.add_assoc]

theorem merge_assoc (a b c : Option (Usage Cost)) :
    merge (merge a b) c = merge a (merge b c) := by
  cases a <;> cases b <;> cases c <;> simp [merge, Usage.add_assoc]

instance : Std.Associative (@merge Cost _) := ⟨merge_assoc⟩

/-- A sum that begins with some usage is that usage and the sum of the rest. -/
theorem foldl_merge (u : Option (Usage Cost)) (us : List (Option (Usage Cost))) :
    us.foldl merge u = merge u (mergeAll us) := by
  have hassoc : us.foldl merge (merge u none) = merge u (us.foldl merge none) := List.foldl_assoc
  rwa [merge_none] at hassoc

@[simp] theorem mergeAll_append (us vs : List (Option (Usage Cost))) :
    mergeAll (us ++ vs) = merge (mergeAll us) (mergeAll vs) := by
  rw [mergeAll, List.foldl_append, foldl_merge]
  rfl

end

section
variable [AddCommSemigroup Cost]

theorem addKnown_comm (a b : Option Cost) : addKnown a b = addKnown b a := by
  cases a <;> cases b <;> simp [addKnown, add_comm]

theorem merge_comm (a b : Option (Usage Cost)) : merge a b = merge b a := by
  cases a <;> cases b <;> simp [merge, add, addKnown_comm, Nat.add_comm]

instance : Std.Commutative (@merge Cost _) := ⟨merge_comm⟩

/-- **A sum of usages does not depend on their order.** -/
theorem mergeAll_perm {us vs : List (Option (Usage Cost))} (h : us.Perm vs) :
    mergeAll us = mergeAll vs := h.foldl_op_eq

end
end RemapSynth.Chat.Usage
