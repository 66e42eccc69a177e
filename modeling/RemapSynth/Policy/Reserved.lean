/-
Reserved output fields: the set of their names, and how an assigned path
can collide with one.
-/
import RemapSynth.Text.Line

namespace RemapSynth.Policy

/-- A set of names as an increasing list, `name` added. -/
def insertName (name : String) : List String → List String
  | [] => [name]
  | n :: names =>
    if name = n then n :: names
    else if name < n then name :: n :: names
    else n :: insertName name names

/-- The set of reserved names from a configured list: trimmed, blank entries left out. -/
def reservedSet (names : List String) : List String :=
  ((names.map Text.trim).filter fun name => !name.isEmpty).foldl
    (fun set name => insertName name set) []

/-- How a path collides with the reserved fields. -/
inductive Collision
  /-- The path is reserved itself. -/
  | exact
  /-- A reserved field lies inside the path. -/
  | parentOf (reserved : String)
  /-- The path lies in a reserved field. -/
  | inside (reserved : String)
  deriving Repr, DecidableEq

/-- The segments of a dotted name. -/
def nameSegments (name : String) : List (List Char) := Chars.splitAt '.' name.toList

/-- How a path collides with one dotted reserved name. -/
def collisionWith? (path : List (List Char)) (reserved : String) : Option Collision :=
  let names := nameSegments reserved
  if path.length = 1 ∧ path.head? = names.head? then some (.parentOf reserved)
  else if names.isPrefixOf path then some (.inside reserved)
  else none

/-- A path as it is written. -/
def pathText (path : List (List Char)) : String := .ofList (Chars.joinWith ['.'] path)

/-- How a path collides with a reserved set; with the whole of a reserved name first, then with
the dotted names in order. -/
def collision? (reserved : List String) (path : List (List Char)) : Option Collision :=
  if pathText path ∈ reserved then some .exact
  else (reserved.filter fun name => name.toList.contains '.').findSome? (collisionWith? path)

/-- An assigned path that collides. -/
structure Conflict where
  path : String
  collision : Collision
  deriving Repr, DecidableEq

def Conflict.message (c : Conflict) : String :=
  match c.collision with
  | .exact => c.path ++ " (reserved)"
  | .parentOf reserved => c.path ++ " (conflicts with nested reserved field: " ++ reserved ++ ")"
  | .inside reserved => c.path ++ " (inside reserved field: " ++ reserved ++ ")"

/-- Why a list of reserved fields could not be read from a file. -/
inductive ListFault
  | unreadable
  | noColumn
  deriving Repr, DecidableEq

def ListFault.message (path : String) : ListFault → String
  | .unreadable => "Failed to read reserved fields from " ++ path
  | .noColumn => path ++ " has no 'column' header"

def isQuote (c : Char) : Bool := c == '"'

/-- A cell of a table: blanks around it and quotes inside those are taken off. -/
def cellText (cell : List Char) : List Char := Chars.trimMatches isQuote (Chars.trim cell)

/-- Whether a cell of the header names the column of field names. A byte-order mark before the
name does not matter. -/
def isNameHeader (cell : List Char) : Bool :=
  (cellText cell).dropWhile (·.toNat == 0xfeff) == "column".toList

/-- The field names in a table of comma-separated cells whose header names their column. -/
def readTable (content : String) : Except ListFault (List String) :=
  let lines := Chars.lines content.toList
  let header := lines.head?.getD []
  match (Chars.splitAt ',' header).findIdx? isNameHeader with
  | none => .error .noColumn
  | some column =>
    let cells := lines.tail.filterMap fun line => (Chars.splitAt ',' line)[column]?
    .ok (((cells.map cellText).filter fun cell => !cell.isEmpty).map String.ofList)

end RemapSynth.Policy
