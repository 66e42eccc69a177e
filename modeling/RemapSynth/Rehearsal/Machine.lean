/-
A machine kept in memory: files, an environment, what was printed, a
provider that follows a script, and scripted engines.
-/
import RemapSynth.Command.Run
import RemapSynth.Rehearsal.Files
import RemapSynth.Rehearsal.Process
import RemapSynth.Rehearsal.Script

namespace RemapSynth.Rehearsal

open Command (Ask Answer)

/-- A reply of a provider's script; a request may never reach the provider. -/
structure ScriptedReply where
  reply : Chat.Reply
  arrives : Bool := true
  deriving Repr

/-- A machine kept in memory. -/
structure Machine where
  files : Files := {}
  work : List String := []
  environment : List (String × String) := []
  stdout : String := ""
  stderr : String := ""
  /-- Replies to requests that hold a text, before those in line. -/
  cues : List (Cue ScriptedReply) := []
  replies : List ScriptedReply := []
  /-- The requests that reached the provider. -/
  requests : List (Chat.Client × String) := []
  /-- Engines by their paths. -/
  engines : List (String × EngineProgram) := []
  /-- Operations a second of the machine. -/
  rate : Float := 1000000.0
  time : String := "1970-01-01T00:00:00Z"

namespace Machine

/-- The reply of a provider whose script is at its end. -/
def lastReply : ScriptedReply := { reply := .answered 200 "" }

def replyTo (m : Machine) (body : String) : ScriptedReply × Machine :=
  match cueFor? m.cues body, m.replies with
  | some reply, _ => (reply, m)
  | none, reply :: replies => (reply, { m with replies })
  | none, [] => (lastReply, m)

def send (m : Machine) (client : Chat.Client) (body : String) : Chat.Reply × Machine :=
  let (reply, m) := m.replyTo body
  (reply.reply,
    if reply.arrives then { m with requests := m.requests ++ [(client, body)] } else m)

/-- Programs that every machine has. -/
def commonPrograms : List (String × EngineProgram) :=
  [("true", {}), ("false", { exitCode := 1 })]

/-- Starts the engine of a name: a path, or one of the common programs. -/
def start {α : Type} (m : Machine) (name : String) (result : EngineProgram → α) :
    Engine.Started α :=
  if let some (_, p) := (m.engines ++ commonPrograms).find? (·.1 == name) then .ran (result p)
  else if !name.toList.contains '/' then .missing
  else
    let path := Files.resolve m.work name
    match m.files.get? path with
    | some _ => .refused notPermitted
    | none =>
      if path.head? = some "dev" then .refused notPermitted
      else if m.files.hasFileAbove path then .refused Files.notDirectory
      else .missing

/-- The machine after a change of its files, or as it was. -/
def update (m : Machine) : Except String Files → Except String Unit × Machine
  | .ok files => (.ok (), { m with files })
  | .error cause => (.error cause, m)

/-- The answer to a question, and the machine after it. -/
def answer : (q : Ask) → Machine → Answer q × Machine
  | .readFile path, m => (m.files.read (Files.resolve m.work path), m)
  | .writeFile path text, m => m.update (m.files.write (Files.resolve m.work path) text)
  | .rename source target, m =>
    m.update (m.files.rename (Files.resolve m.work source) (Files.resolve m.work target))
  | .createDirectory path, m => m.update (m.files.makeDirectory (Files.resolve m.work path))
  | .environment name, m => ((m.environment.find? (·.1 == name)).map (·.2), m)
  | .say text, m => ((), { m with stdout := m.stdout ++ text })
  | .complain text, m => ((), { m with stderr := m.stderr ++ text })
  | .rate _, m => (m.rate, m)
  | .now, m => (m.time, m)
  | .wait _, m => ((), m)
  | .send client body _, m => m.send client body
  | .compile launch timeout, m => (m.start launch.binary (·.output timeout), m)
  | .observe launch expected budget _, m =>
    (m.start launch.binary (·.observe expected budget), m)

/-- What a command comes to on a machine, and the machine after it. -/
def perform {α : Type} (m : Machine) (c : Command.Course α) : α × Machine :=
  let (result, _, m) := c.run answer m
  (result, m)

end Machine
end RemapSynth.Rehearsal
