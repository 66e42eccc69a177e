/-
Spans of time with a resolution of one nanosecond.
-/
import RemapSynth.Width

namespace RemapSynth

/-- A span of time in nanoseconds. -/
structure Duration where
  nanos : Nat
  deriving Repr, DecidableEq

namespace Duration

def zero : Duration := ⟨0⟩

/-- Nanoseconds in a second. -/
def perSecond : Nat := 1000000000

def ofSeconds (n : Nat) : Duration := ⟨n * perSecond⟩

def ofMillis (n : Nat) : Duration := ⟨n * 1000000⟩

/-- The longest span there is: 64 bits of seconds and all but one nanosecond of the next. -/
def longest : Duration := ⟨(Width.maxWord + 1) * perSecond - 1⟩

def seconds (d : Duration) : Nat := d.nanos / perSecond

def millis (d : Duration) : Nat := d.nanos / 1000000

/-- The nanoseconds beyond the last whole second. -/
def subsecond (d : Duration) : Nat := d.nanos % perSecond

/-- The span in seconds, as a double. -/
def toFloat (d : Duration) : Float := Float.ofNat d.seconds + Float.ofNat d.subsecond / 1e9

/-- The longer of two spans. -/
def max (a b : Duration) : Duration := ⟨Nat.max a.nanos b.nanos⟩

/-- What is left of `a` after `b`; nothing when `b` is longer. -/
def minus (a b : Duration) : Duration := ⟨a.nanos - b.nanos⟩

/-- Two spans one after the other. -/
def plus (a b : Duration) : Duration := ⟨a.nanos + b.nanos⟩

/-- `d` taken `factor` times, held at the longest span. -/
def times (d : Duration) (factor : Nat) : Duration := ⟨min longest.nanos (d.nanos * factor)⟩

end Duration
end RemapSynth
