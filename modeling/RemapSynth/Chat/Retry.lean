/-
How often a failed request is made again, and how long to wait before it.
-/
import RemapSynth.Chat.Error
import RemapSynth.Duration
import RemapSynth.Width

namespace RemapSynth.Chat

/-- The retries of one category of error. -/
structure RetryRule where
  maxRetries : Nat
  baseDelay : Duration
  /-- Whether the wait doubles from one retry to the next. -/
  exponential : Bool
  deriving Repr, DecidableEq

/-- The longest wait a provider may ask for, in seconds. -/
def maxHint : Nat := 300

/-- The wait before retry number `attempt`, counted from one. A rule without a base delay never
waits; a provider's wish comes before the rule's own delay. -/
def RetryRule.delay (r : RetryRule) (attempt : Nat) (hint : Option Nat) : Duration :=
  if r.baseDelay.nanos = 0 then .zero
  else
    match hint.filter (0 < ·) with
    | some seconds => .ofSeconds (min seconds maxHint)
    | none =>
      if r.exponential then r.baseDelay.times (min (1 <<< min (attempt - 1) 32) Width.maxHalfWord)
      else r.baseDelay

/-- The retries of each category that is tried again. -/
structure RetryPolicy where
  network : RetryRule := ⟨3, .ofSeconds 2, true⟩
  api : RetryRule := ⟨2, .ofSeconds 5, true⟩
  emptyResponse : RetryRule := ⟨1, .ofSeconds 1, false⟩
  deriving Repr, DecidableEq

namespace RetryPolicy

/-- The usual retries without any wait. -/
def immediate : RetryPolicy where
  network := { ({} : RetryPolicy).network with baseDelay := .zero }
  api := { ({} : RetryPolicy).api with baseDelay := .zero }
  emptyResponse := { ({} : RetryPolicy).emptyResponse with baseDelay := .zero }

/-- The rule of a category; none for one that is never tried again. -/
def ruleFor (p : RetryPolicy) : Category → Option RetryRule
  | .network => some p.network
  | .api => some p.api
  | .emptyResponse => some p.emptyResponse
  | .generation | .infrastructure => none

end RetryPolicy
end RemapSynth.Chat
