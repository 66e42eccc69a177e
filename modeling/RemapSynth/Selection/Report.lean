/-
The outcome of a run as data, and the files it leaves behind.
-/
import RemapSynth.Selection.Candidate
import RemapSynth.Json.Printer

namespace RemapSynth.Selection

/-- The outcome of a run; without a winner when no candidate was valid and measured. -/
structure Outcome (Cost : Type := Float) where
  winner : Option (Candidate Cost)
  rows : List (Row Cost)
  totalCost : Cost
  deriving Repr

/-- A text or null. -/
def jsonText (s : Option String) : Json := s.elim .null .str

/-- A double; what is no ordinary number has no JSON form. -/
def jsonFloat (x : Float) : Json := if x.isFinite then .float x else .null

def recordJson (r : Repair.Record) : Json :=
  .obj
    [("iteration_number", .int r.number), ("error_code", jsonText (r.diagnosis.map (·.name))),
      ("fix_applied", .bool r.fixApplied), ("reason", jsonText (r.reason.map (·.name)))]

def strategyJson (s : Strategy) : Json :=
  .obj
    [("name", .str s.name), ("description", .str s.description), ("approach", .str s.approach)]

def measurementJson (m : Score.Measurement) : Json :=
  .obj
    [("events_per_second", jsonFloat m.eventsPerSecond), ("cpu_percent", jsonFloat m.cpuPercent),
      ("memory_mb", jsonFloat m.memoryMegabytes), ("events_per_cpu_percent", jsonFloat m.rate),
      ("p99_latency_ms", jsonFloat m.latencyMillis), ("error_count", .int m.errorCount),
      ("performance_index", .int m.index), ("tier", .str m.tier.name),
      ("source", .str m.source.name),
      ("estimated_events_per_cpu_percent", jsonFloat m.estimatedRate)]

def candidateJson (c : Candidate) : Json :=
  .obj
    [("strategy", strategyJson c.strategy), ("code", .str c.code), ("is_valid", .bool c.isValid),
      ("unavailable", .bool c.unavailable), ("history", .arr (c.records.map recordJson)),
      ("measurement", c.measurement.elim .null measurementJson),
      ("total_cost", jsonFloat c.totalCost), ("iterations", .int c.iterations),
      ("last_error", jsonText c.lastError)]

def rowJson (r : Row) : Json :=
  .obj
    [("strategy", .str r.strategy), ("valid", .bool r.valid), ("unavailable", .bool r.unavailable),
      ("iterations", .int r.iterations), ("cost", jsonFloat r.cost),
      ("performance_index", r.index.elim .null fun n => .int n),
      ("events_per_cpu_percent", r.rate.elim .null jsonFloat),
      ("tier", jsonText (r.tier.map (·.name))), ("failure_reason", jsonText r.failureReason)]

/-- An outcome as data, with the time at which it was written. -/
def reportJson (time : String) (o : Outcome) : Json :=
  .obj
    [("generated_at", .str time), ("winner", o.winner.elim .null candidateJson),
      ("candidates", .arr (o.rows.map rowJson)), ("total_cost", jsonFloat o.totalCost)]

/-- A text that ends with a line feed. -/
def endLine (s : String) : String := if Text.endsWith s "\n" then s else s ++ "\n"

def programFile : String := "parser.vrl"

def reportFile : String := "report.json"

/-- The files of an outcome, by name, in the order in which they are written. -/
def files (time : String) (o : Outcome) : List (String × String) :=
  (o.winner.map fun c => (programFile, endLine c.code)).toList ++
    [(reportFile, (reportJson time o).pretty)]

end RemapSynth.Selection
