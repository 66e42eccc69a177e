/-
A tree of files kept in memory, which refuses what a file system would
refuse, in the same words.
-/
import RemapSynth.Text.Line
import RemapSynth.Text.Search

namespace RemapSynth.Rehearsal

/-- What stands at a path. -/
inductive Entry
  | text (content : String)
  /-- A file that holds no text. -/
  | binary
  | directory
  deriving Repr, DecidableEq

/-- Files and directories by their paths, each a list of names from the root; what lies above an
entry is a directory. -/
structure Files where
  entries : List (List String × Entry) := []
  deriving Repr

namespace Files

/-- There is nothing at a path. -/
def noEntry : String := "No such file or directory (os error 2)"

/-- A part of a path that has to be a directory is a file. -/
def notDirectory : String := "Not a directory (os error 20)"

/-- A directory stands where a file is wanted. -/
def isDirectory : String := "Is a directory (os error 21)"

/-- A file stands where a directory is wanted. -/
def alreadyThere : String := "File exists (os error 17)"

/-- A file that is to be read as text is none. -/
def notText : String := "stream did not contain valid UTF-8"

/-- One more name of a path; a point stays where it is, two go up. -/
def stepTo (path : List String) (name : String) : List String :=
  if name = "" ∨ name = "." then path else if name = ".." then path.dropLast else path ++ [name]

/-- The names of a path, taken from a working directory when it is relative. -/
def resolve (work : List String) (path : String) : List String :=
  let names := (Chars.splitAt '/' path.toList).map String.ofList
  names.foldl stepTo (if Text.startsWith path "/" then [] else work)

def get? (f : Files) (path : List String) : Option Entry :=
  match f.entries.find? (·.1 == path) with
  | some (_, entry) => some entry
  | none =>
    if path.isEmpty || f.entries.any (fun (p, _) => path.isPrefixOf p) then some .directory
    else none

def set (f : Files) (path : List String) (entry : Entry) : Files :=
  ⟨f.entries.filter (fun (p, _) => p != path) ++ [(path, entry)]⟩

/-- Whether a file stands where a directory of the path should be. -/
def hasFileAbove (f : Files) (path : List String) : Bool :=
  (List.range path.length).any fun n =>
    match f.get? (path.take n) with
    | some (.text _) | some .binary => true
    | some .directory | none => false

def read (f : Files) (path : List String) : Except String String :=
  match f.get? path with
  | some (.text content) => .ok content
  | some .binary => .error notText
  | some .directory => .error isDirectory
  | none => .error (if f.hasFileAbove path then notDirectory else noEntry)

/-- Writes a file into a directory that is there. -/
def write (f : Files) (path : List String) (content : String) : Except String Files :=
  match f.get? path with
  | some .directory => .error isDirectory
  | some (.text _) | some .binary => .ok (f.set path (.text content))
  | none =>
    if f.hasFileAbove path then .error notDirectory
    else
      match f.get? path.dropLast with
      | some _ => .ok (f.set path (.text content))
      | none => .error noEntry

/-- Makes a directory and those above it. -/
def makeDirectory (f : Files) (path : List String) : Except String Files :=
  match f.get? path with
  | some .directory => .ok f
  | some (.text _) | some .binary => .error alreadyThere
  | none => if f.hasFileAbove path then .error notDirectory else .ok (f.set path .directory)

/-- Gives a file another path; a file that stands there is lost. -/
def rename (f : Files) (source target : List String) : Except String Files :=
  match f.get? source, f.get? target with
  | none, _ => .error noEntry
  | some _, some .directory => .error isDirectory
  | some entry, _ =>
    let others : Files := ⟨f.entries.filter fun (p, _) => p != source⟩
    .ok (others.set target entry)

/-- The names in a directory, sorted, each once. -/
def names (f : Files) (path : List String) : List String :=
  let inside := f.entries.filterMap fun (p, _) =>
    if path.isPrefixOf p then (p.drop path.length).head? else none
  (inside.foldl (fun names n => if names.contains n then names else names ++ [n]) []).mergeSort
    (fun a b => decide (a ≤ b))

end Files
end RemapSynth.Rehearsal
