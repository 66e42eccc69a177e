/-
Sample events: the records a program is written for. Every sample is a JSON
object; a line that is none becomes an object with the line as its message.
-/
import RemapSynth.Json.Printer
import RemapSynth.Text.Line
import RemapSynth.Text.Search

namespace RemapSynth

/-- A sample event: the fields of one JSON object. -/
structure Sample where
  fields : List (String × Json)
  deriving Inhabited, Repr

namespace Sample

/-- The event that carries a raw line. -/
def ofMessage (text : String) : Sample := ⟨[("message", .str text)]⟩

/-- An event from a JSON value; whatever is no object becomes a message. -/
def ofJson : Json → Sample
  | .obj fields => ⟨fields⟩
  | .str s => ofMessage s
  | value => ofMessage value.write

/-- An event from one line of input. -/
def ofLine (line : String) : Sample :=
  match Json.parse? line with
  | some (.obj fields) => ⟨fields⟩
  | _ => ofMessage line

def toJson (s : Sample) : Json := .obj s.fields

/-- The event as one line of JSON. -/
def line (s : Sample) : String := s.toJson.write

/-- One event from each line that is not blank, trimmed. -/
def ofLines (content : String) : List Sample :=
  (((Text.lines content).map Text.trim).filter fun line => !line.isEmpty).map ofLine

/-- The events of a file: the items of a JSON array, or one event a line. -/
def ofContent (content : String) : List Sample :=
  let body := Text.trimStart content
  if Text.startsWith body "[" then
    match Json.parse? body with
    | some (.arr items) => items.map ofJson
    | _ => ofLines content
  else ofLines content

/-- Lines of events until the next would take the text beyond `budget` bytes, `used` bytes being
spent; the first line is written whatever its size. -/
def renderFrom (budget : Nat) : Nat → List Sample → String
  | _, [] => ""
  | used, sample :: samples =>
    let size := used + sample.line.utf8ByteSize + 1
    if used ≠ 0 ∧ budget < size then ""
    else sample.line ++ "\n" ++ renderFrom budget size samples

/-- As many lines of events as fit into `budget` bytes, and at least one. -/
def render (samples : List Sample) (budget : Nat) : String := renderFrom budget 0 samples

/-- One line for each event. -/
def renderAll (samples : List Sample) : String :=
  String.join (samples.map fun sample => sample.line ++ "\n")

/-- `size` events by going round the pool `left`, then `pool` again and again. -/
def cycleFrom (pool : List Sample) : Nat → List Sample → List Sample
  | 0, _ => []
  | size + 1, sample :: left => sample :: cycleFrom pool size left
  | size + 1, [] =>
    match pool with
    | [] => []
    | sample :: left => sample :: cycleFrom pool size left

/-- `size` events by going round the pool; none from an empty pool. -/
def batch (pool : List Sample) (size : Nat) : List Sample := cycleFrom pool size pool

end Sample
end RemapSynth
