/-
The bounds of whole numbers that are kept in words of a fixed width.
-/
namespace RemapSynth.Width

/-- The largest number of 64 bits. -/
def maxWord : Nat := 0xffffffffffffffff

/-- The largest number of 32 bits. -/
def maxHalfWord : Nat := 0xffffffff

/-- The magnitude of the least number of 64 bits one of which is a sign; the largest such number
is one less. -/
def signBound : Nat := 0x8000000000000000

end RemapSynth.Width
