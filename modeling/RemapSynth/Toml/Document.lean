/-
Reading a TOML document: sections, keys joined by dots, arrays and inline
tables. No key is ever set twice, and a table that was closed, by standing
in one place as a whole, is not added to from another.
-/
import RemapSynth.Toml.Scalar

namespace RemapSynth.Toml

/-- A document while it is read. -/
inductive Node
  /-- A value that nothing can be added to. -/
  | value (value : Toml)
  /-- A table; `implied` when only longer keys or sections named it so far, `dotted` when those
  were keys. -/
  | table (implied dotted : Bool) (entries : List (String × Node))
  /-- Tables written one section each; sections below add to the last. -/
  | tables (items : List (List (String × Node)))

mutual

/-- A node as a value. -/
def Node.freeze : Node → Toml
  | .value v => v
  | .table _ _ entries => .table (freezeEntries entries)
  | .tables items => .arr (freezeItems items)

/-- Entries as values. -/
def freezeEntries : List (String × Node) → List (String × Toml)
  | [] => []
  | (key, node) :: entries => (key, node.freeze) :: freezeEntries entries

/-- Tables as values. -/
def freezeItems : List (List (String × Node)) → List Toml
  | [] => []
  | item :: items => .table (freezeEntries item) :: freezeItems items

end

abbrev Entries := List (String × Node)

def lookup (key : String) (entries : Entries) : Option Node :=
  (entries.find? (·.1 == key)).map (·.2)

/-- Entries with `key` set, at its place when it was there, else at the end. -/
def put (key : String) (node : Node) (entries : Entries) : Entries :=
  if entries.any (·.1 == key) then
    entries.map fun (k, n) => if k == key then (k, node) else (k, n)
  else entries ++ [(key, node)]

/-- Sets `key` below `path`, the tables on the way being named by a dotted key. None when the key
is there already, or when a table on the way is closed to dotted keys: one with a section of its
own, or one that only sections imply and that the path ends in. -/
def setDotted (key : String) (value : Toml) : List String → Entries → Option Entries
  | [], entries =>
    if (lookup key entries).isSome then none else some (put key (.value value) entries)
  | step :: path, entries =>
    match lookup step entries with
    | none =>
      (setDotted key value path []).map fun inner => put step (.table true true inner) entries
    | some (.table true dotted inner) =>
      if path.isEmpty && !dotted then none
      else
        (setDotted key value path inner).map fun inner =>
          put step (.table true dotted inner) entries
    | some (.tables items) =>
      match items.getLast? with
      | none => none
      | some last =>
        if path.isEmpty then none
        else
          (setDotted key value path last).map fun last =>
            put step (.tables (items.dropLast ++ [last])) entries
    | some _ => none

/-- Changes the entries that `path` leads to, through the last of several tables of one name, and
through tables that are only implied where there is nothing. -/
def modifyAt (change : Entries → Option Entries) : List String → Entries → Option Entries
  | [], entries => change entries
  | step :: path, entries =>
    match lookup step entries with
    | none =>
      (modifyAt change path []).map fun inner => put step (.table true false inner) entries
    | some (.table implied dotted inner) =>
      (modifyAt change path inner).map fun inner => put step (.table implied dotted inner) entries
    | some (.tables items) =>
      match items.getLast? with
      | none => none
      | some last =>
        (modifyAt change path last).map fun last =>
          put step (.tables (items.dropLast ++ [last])) entries
    | some (.value _) => none

/-- Opens the section of a table: a new one, or one that was only implied by sections. -/
def openTable (key : String) (entries : Entries) : Option Entries :=
  match lookup key entries with
  | none => some (put key (.table false false []) entries)
  | some (.table true false inner) => some (put key (.table false false inner) entries)
  | some _ => none

/-- Opens the section of one more table of several. -/
def openTables (key : String) (entries : Entries) : Option Entries :=
  match lookup key entries with
  | none => some (put key (.tables [[]]) entries)
  | some (.tables items) => some (put key (.tables (items ++ [[]])) entries)
  | some _ => none

/-- A character of a key without quotes. -/
def isKeyChar (c : Char) : Bool :=
  Text.isAsciiLetter c || Text.isAsciiDigit c || c == '_' || c == '-'

/-- One key, with or without quotes. -/
def simpleKey? (s : List Char) : Reading String :=
  match s with
  | '"' :: _ | '\'' :: _ => (lineString? s).map fun (key, s) => (.ofList key, s)
  | s =>
    let key := s.takeWhile isKeyChar
    if key.isEmpty then none else some (.ofList key, s.dropWhile isKeyChar)

/-- Keys joined by dots, spaces around the dots allowed. -/
def keyPath? : Nat → List Char → Reading (List String)
  | 0, _ => none
  | fuel + 1, s =>
    (simpleKey? (skipSpace s)).bind fun (key, s) =>
      match skipSpace s with
      | '.' :: s => (keyPath? fuel s).map fun (keys, s) => (key :: keys, s)
      | s => some ([key], s)

/-- How deep values and dotted keys may nest. -/
def maxDepth : Nat := 79

/-- The text behind spaces, comments and line breaks. -/
def skipVoid : Nat → List Char → Option (List Char)
  | 0, s => some s
  | fuel + 1, s =>
    match skipSpace s with
    | '#' :: s => skipVoid fuel (s.dropWhile isPrintableOrDelete)
    | s =>
      match lineBreak? s with
      | some s => skipVoid fuel s
      | none => some s
where
  /-- A character that a comment may hold. -/
  isPrintableOrDelete (c : Char) : Bool := isPrintable c || c.toNat == 127

mutual

/-- A value; `depth` containers may still be opened. -/
def value? : Nat → Nat → List Char → Reading Toml
  | 0, _, _ => none
  | fuel + 1, depth, s =>
    match s with
    | '"' :: _ | '\'' :: _ => (string? s).map fun (text, s) => (.str (.ofList text), s)
    | '[' :: s =>
      if depth = 0 then none
      else (items? fuel (depth - 1) s).map fun (items, s) => (.arr items, s)
    | '\x7b' :: s =>
      if depth = 0 then none
      else
        match skipSpace s with
        | '\x7d' :: s => some (.table [], s)
        | s => (pairs? fuel (depth - 1) [] s).map fun (entries, s) =>
          (.table (freezeEntries entries), s)
    | 't' :: 'r' :: 'u' :: 'e' :: s => some (.bool true, s)
    | 'f' :: 'a' :: 'l' :: 's' :: 'e' :: s => some (.bool false, s)
    | 'i' :: _ | 'n' :: _ => special? false s
    | s => number? s

/-- The items of an array up to its closing bracket; a comma may follow the last. -/
def items? : Nat → Nat → List Char → Reading (List Toml)
  | 0, _, _ => none
  | fuel + 1, depth, s =>
    match skipVoid s.length s with
    | none => none
    | some (']' :: s) => some ([], s)
    | some s =>
      match value? fuel depth s with
      | none => none
      | some (item, s) =>
        match skipVoid s.length s with
        | some (',' :: s) => (items? fuel depth s).map fun (items, s) => (item :: items, s)
        | some (']' :: s) => some ([item], s)
        | _ => none

/-- The entries of an inline table up to its closing brace; at least one. -/
def pairs? : Nat → Nat → Entries → List Char → Reading Entries
  | 0, _, _, _ => none
  | fuel + 1, depth, entries, s =>
    match keyPath? s.length s with
    | none => none
    | some (keys, s) =>
      match s with
      | '=' :: s =>
        match value? fuel depth (skipSpace s) with
        | none => none
        | some (value, s) =>
          match keys.getLast?.bind fun key => setDotted key value keys.dropLast entries with
          | none => none
          | some entries =>
            match skipSpace s with
            | ',' :: s => pairs? fuel depth entries s
            | '\x7d' :: s => some (entries, s)
            | _ => none
      | _ => none

end

/-- The text behind the end of a line: spaces, an optional comment, and a line break or the end of
the document. -/
def lineEnd? (s : List Char) : Option (List Char) :=
  let s :=
    match skipSpace s with
    | '#' :: s => s.dropWhile skipVoid.isPrintableOrDelete
    | s => s
  match s with
  | [] => some []
  | s => lineBreak? s

/-- One line of a document, given the path of the section it stands in: the path and the entries
after it, and the rest of the text. -/
def line? (here : List String) (root : Entries) (s : List Char) :
    Option (List String × Entries × List Char) := do
  match skipSpace s with
  | '[' :: '[' :: s =>
    let (path, s) ← keyPath? (s.length + 1) s
    let s ← expect? ']' s
    let s ← expect? ']' s
    let key ← path.getLast?
    let root ← modifyAt (openTables key) path.dropLast root
    return (path, root, ← lineEnd? s)
  | '[' :: s =>
    let (path, s) ← keyPath? (s.length + 1) s
    let s ← expect? ']' s
    let key ← path.getLast?
    let root ← modifyAt (openTable key) path.dropLast root
    return (path, root, ← lineEnd? s)
  | c :: s =>
    if c = '#' ∨ c = '\n' ∨ c = '\r' then return (here, root, ← lineEnd? (c :: s))
    else
      let (path, s) ← keyPath? (s.length + 1) (c :: s)
      let s ← expect? '=' s
      let (value, s) ← value? (2 * s.length + 2) maxDepth (skipSpace s)
      let key ← path.getLast?
      if maxDepth < path.length then none
      else
        let root ← modifyAt (setDotted key value path.dropLast) here root
        return (here, root, ← lineEnd? s)
  | [] => return (here, root, [])

/-- The lines of a document from one section on. -/
def lines? : Nat → List String → Entries → List Char → Option Entries
  | 0, _, root, s => if s.isEmpty then some root else none
  | fuel + 1, here, root, s =>
    if s.isEmpty then some root
    else (line? here root s).bind fun (here, root, s) => lines? fuel here root s

/-- The entries of a document; a byte-order mark at its front does not matter. -/
def parse? (text : String) : Option (List (String × Toml)) :=
  let s := text.toList
  let s := if s.head?.map (·.toNat) = some 0xfeff then s.tail else s
  (lines? (s.length + 1) [] [] s).map freezeEntries

end RemapSynth.Toml
