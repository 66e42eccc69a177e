/-
What a completion cost: tokens and money. Usages add up field by field; a
cost that is not known adds nothing, and stays unknown only beside another
unknown one.
-/
import RemapSynth.Json.Shape
import RemapSynth.Width

namespace RemapSynth.Chat

/-- Tokens and cost of completions; costs are amounts of type `Cost`. -/
structure Usage (Cost : Type := Float) where
  promptTokens : Nat := 0
  completionTokens : Nat := 0
  totalTokens : Nat := 0
  cost : Option Cost := none
  deriving Repr

namespace Usage

variable {Cost : Type}

/-- A usage of which only the cost is known. -/
def ofCost (cost : Cost) : Usage Cost := { cost := some cost }

/-- The cost, nothing where it is not known. -/
def knownCost [Zero Cost] (u : Usage Cost) : Cost := u.cost.getD 0

/-- The sum of two amounts of which either may be unknown. -/
def addKnown [Add Cost] : Option Cost → Option Cost → Option Cost
  | some a, some b => some (a + b)
  | some a, none => some a
  | none, b => b

/-- The sum of two usages. Tokens add up exactly; that a sum may take more than 32 bits is left
out. -/
def add [Add Cost] (a b : Usage Cost) : Usage Cost where
  promptTokens := a.promptTokens + b.promptTokens
  completionTokens := a.completionTokens + b.completionTokens
  totalTokens := a.totalTokens + b.totalTokens
  cost := addKnown a.cost b.cost

/-- The sum of two usages of which either may be missing. -/
def merge [Add Cost] : Option (Usage Cost) → Option (Usage Cost) → Option (Usage Cost)
  | some a, some b => some (a.add b)
  | some a, none => some a
  | none, b => b

/-- The cost of a usage that may be missing. -/
def costOf [Zero Cost] (u : Option (Usage Cost)) : Cost :=
  match u with
  | some u => u.knownCost
  | none => 0

/-- The usage in a provider's answer; the cost goes by either of two names. -/
def ofTree? (tree : Json.Tree) : Option Usage :=
  let fields :=
    [["prompt_tokens"], ["completion_tokens"], ["total_tokens"], ["cost", "total_cost"]]
  match tree.record? 0 fields with
  | some [prompt, completion, total, cost] => do
    let tokens := Json.Tree.orElse 0 (Json.Tree.natUpTo? Width.maxHalfWord)
    return {
      promptTokens := ← tokens prompt
      completionTokens := ← tokens completion
      totalTokens := ← tokens total
      cost := ← Json.Tree.orElse none (Json.Tree.nullable? Json.Tree.float?) cost }
  | _ => none

def parse? (s : String) : Option Usage :=
  match Json.Tree.scan s.toList with
  | .ok tree => ofTree? tree
  | .error _ => none

end Usage

/-- The usage that several repair loops have spent together. -/
structure Ledger (Cost : Type := Float) where
  total : Option (Usage Cost) := none
  deriving Repr

namespace Ledger

variable {Cost : Type}

/-- One more usage spent; a completion without one changes nothing. -/
def record [Add Cost] (ledger : Ledger Cost) (u : Option (Usage Cost)) : Ledger Cost :=
  ⟨Usage.merge ledger.total u⟩

def totalCost [Zero Cost] (ledger : Ledger Cost) : Cost := Usage.costOf ledger.total

end Ledger

/-- The place in a chain of models after `current`. -/
def nextModel? (models : List String) (current : Nat) : Option Nat :=
  if current + 1 < models.length then some (current + 1) else none

end RemapSynth.Chat
