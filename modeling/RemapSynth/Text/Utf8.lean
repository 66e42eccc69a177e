/-
Bytes read as UTF-8 when some of them may not be: each longest start of a
sequence that cannot go on, and each byte that starts none, becomes one
replacement character.
-/
namespace RemapSynth.Utf8

/-- Stands for bytes that are no text. -/
def replacement : Char := Char.ofNat 0xfffd

/-- The six bits of a byte that goes on a sequence. -/
def tailBits (b : UInt8) : Nat := b.toNat % 64

/-- Whether a byte lies between two others. -/
def within (low high : Nat) (b : UInt8) : Bool := low ≤ b.toNat && b.toNat ≤ high

/-- The bytes that may follow a first byte, as bounds for the second, and how many follow in all;
none for a byte that starts no sequence. -/
def sequence? (first : UInt8) : Option (Nat × Nat × Nat) :=
  let n := first.toNat
  if 0xc2 ≤ n ∧ n ≤ 0xdf then some (0x80, 0xbf, 1)
  else if n = 0xe0 then some (0xa0, 0xbf, 2)
  else if n = 0xed then some (0x80, 0x9f, 2)
  else if 0xe1 ≤ n ∧ n ≤ 0xef then some (0x80, 0xbf, 2)
  else if n = 0xf0 then some (0x90, 0xbf, 3)
  else if 0xf1 ≤ n ∧ n ≤ 0xf3 then some (0x80, 0xbf, 3)
  else if n = 0xf4 then some (0x80, 0x8f, 3)
  else none

/-- The bits of a first byte of a sequence with `tail` bytes after it. -/
def firstBits (first : UInt8) (tail : Nat) : Nat := first.toNat % (1 <<< (6 - tail))

/-- The character in front of which `first` stands, and how many bytes after it belong to it. -/
def decodeOne (first : UInt8) (rest : List UInt8) : Char × Nat :=
  if first.toNat < 0x80 then (Char.ofNat first.toNat, 0)
  else
    match sequence? first with
    | none => (replacement, 0)
    | some (low, high, tail) =>
      match rest with
      | [] => (replacement, 0)
      | second :: more =>
        if !within low high second then (replacement, 0)
        else
          let others := (more.take (tail - 1)).takeWhile (within 0x80 0xbf)
          if others.length + 1 < tail then (replacement, others.length + 1)
          else
            let start := firstBits first tail * 64 + tailBits second
            (Char.ofNat (others.foldl (fun n b => n * 64 + tailBits b) start), tail)

/-- The text that bytes stand for. -/
def lossy : List UInt8 → List Char
  | [] => []
  | first :: rest =>
    let (c, used) := decodeOne first rest
    c :: lossy (rest.drop used)
termination_by bytes => bytes.length
decreasing_by simp only [List.length_drop, List.length_cons]; omega

end RemapSynth.Utf8
