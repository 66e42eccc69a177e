/-
Failures that end a repair loop or a whole run. A program that does not
validate is no failure: it is an ordinary verdict.
-/
namespace RemapSynth

/-- Why something could not be done at all. -/
inductive Failure
  /-- The provider or the engine cannot be used: no key, no network, no engine. -/
  | infrastructure (detail : String)
  /-- The model answered, but with nothing that can be used. -/
  | generation (detail : String)
  | configuration (detail : String)
  deriving Repr, DecidableEq

namespace Failure

def message : Failure → String
  | infrastructure detail => "infrastructure failure: " ++ detail
  | generation detail => "generation failed: " ++ detail
  | configuration detail => "configuration error: " ++ detail

/-- Whether the failure ends a repair loop, since trying again cannot help. -/
def isFatal : Failure → Bool
  | generation _ => false
  | infrastructure _ | configuration _ => true

end Failure
end RemapSynth
