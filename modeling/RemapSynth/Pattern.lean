/-
Patterns of one line of program text, and replacing what they match.

Matching starts at the leftmost place where it can succeed; there,
repetitions take as much as they can and alternatives are tried in order,
both giving way only when what follows cannot match.
-/
import RemapSynth.Text.Blank
import RemapSynth.Text.Word

namespace RemapSynth

inductive Pattern
  /-- Exactly these characters. -/
  | text (chars : String)
  /-- One character of a class. -/
  | one (inClass : Char → Bool)
  /-- As many characters of a class as possible, at least `least`. -/
  | many (inClass : Char → Bool) (least : Nat)
  /-- One pattern after the other. -/
  | andThen (first second : Pattern)
  /-- The first pattern, else the second. -/
  | orElse (first second : Pattern)
  /-- The pattern, else nothing. -/
  | maybe (inner : Pattern)
  /-- Remembers what the pattern matched under a number. -/
  | group (number : Nat) (inner : Pattern)
  | lineStart
  | lineEnd
  | wordEdge

namespace Pattern

/-- A place in a line: what lies before it, nearest first, and what follows. -/
structure Place where
  before : List Char
  rest : List Char

/-- What the groups matched, the latest first. -/
abbrev Groups := List (Nat × List Char)

/-- The place after `n` characters. -/
def Place.advance : Nat → Place → Place
  | n + 1, ⟨before, c :: rest⟩ => advance n ⟨c :: before, rest⟩
  | _, place => place

/-- Takes as many characters of a class as `k` can go on from, at least `least`. -/
def takeMany {β : Type} (inClass : Char → Bool) (k : Place → Option β) :
    Nat → List Char → List Char → Option β
  | least, before, c :: rest =>
    let stop := if least = 0 then k ⟨before, c :: rest⟩ else none
    if inClass c then
      match takeMany inClass k (least - 1) (c :: before) rest with
      | some b => some b
      | none => stop
    else stop
  | least, before, [] => if least = 0 then k ⟨before, []⟩ else none

/-- Matches a pattern at a place and goes on with `k`; the first way in which both succeed. -/
def matchAt {β : Type} : Pattern → Place → Groups → (Place → Groups → Option β) → Option β
  | text chars, place, groups, k =>
    if chars.toList.isPrefixOf place.rest then k (place.advance chars.length) groups else none
  | one inClass, place, groups, k =>
    match place.rest with
    | c :: rest => if inClass c then k ⟨c :: place.before, rest⟩ groups else none
    | [] => none
  | many inClass least, place, groups, k =>
    takeMany inClass (fun place => k place groups) least place.before place.rest
  | andThen first second, place, groups, k =>
    first.matchAt place groups fun place groups => second.matchAt place groups k
  | orElse first second, place, groups, k =>
    match first.matchAt place groups k with
    | some b => some b
    | none => second.matchAt place groups k
  | maybe inner, place, groups, k =>
    match inner.matchAt place groups k with
    | some b => some b
    | none => k place groups
  | group number inner, place, groups, k =>
    inner.matchAt place groups fun after groups =>
      k after ((number, place.rest.take (place.rest.length - after.rest.length)) :: groups)
  | lineStart, place, groups, k => if place.before.isEmpty then k place groups else none
  | lineEnd, place, groups, k => if place.rest.isEmpty then k place groups else none
  | wordEdge, place, groups, k =>
    if Text.isWordBoundary place.before.head? place.rest.head? then k place groups else none

/-- A match: the text before it, the groups, and the text after it. -/
structure Match where
  before : List Char
  groups : Groups
  after : List Char

/-- The leftmost match that starts in `rest`, `before` lying before it. -/
def searchFrom (p : Pattern) (before : List Char) : List Char → Option Match
  | [] => p.matchAt ⟨before, []⟩ [] fun after groups => some ⟨before.reverse, groups, after.rest⟩
  | c :: rest =>
    match p.matchAt ⟨before, c :: rest⟩ [] fun after groups =>
        some ⟨before.reverse, groups, after.rest⟩ with
    | some m => some m
    | none => searchFrom p (c :: before) rest

/-- The leftmost match in a line. -/
def search (p : Pattern) (line : List Char) : Option Match := searchFrom p [] line

/-- Whether the pattern matches anywhere in a line. -/
def occursIn (p : Pattern) (line : List Char) : Bool := (p.search line).isSome

/-- The patterns one after the other. -/
def sequence : List Pattern → Pattern
  | [] => text ""
  | [p] => p
  | p :: ps => andThen p (sequence ps)

/-- One of several texts, tried in order. -/
def oneOf : List String → Pattern
  | [] => one fun _ => false
  | [s] => text s
  | s :: ss => orElse (text s) (oneOf ss)

/-- A part of a replacement: given text, or what a group matched. -/
inductive Part
  | text (chars : String)
  | group (number : Nat)
  deriving Repr, DecidableEq

/-- What a replacement comes to for the groups of a match; a group that took no part is empty. -/
def expand (groups : Groups) (parts : List Part) : List Char :=
  parts.flatMap fun part =>
    match part with
    | .text chars => chars.toList
    | .group number => ((groups.find? (·.1 == number)).map (·.2)).getD []

/-- The line with the first match replaced. -/
def replaceFirst (p : Pattern) (parts : List Part) (line : List Char) : List Char :=
  match p.search line with
  | some m => m.before ++ expand m.groups parts ++ m.after
  | none => line

end Pattern
end RemapSynth
