/-
A provider of models that follows a script. It keeps what it was asked, and
adds up the time that was waited between two questions without waiting it.
-/
import RemapSynth.Generation.Session
import RemapSynth.Rehearsal.Script

namespace RemapSynth.Rehearsal

open Chat Generation

/-- A line of a provider's script: an answer with its usage, or an error. -/
abbrev ProviderLine : Type := Except Error (String × Option Usage)

/-- A provider in the middle of its script. -/
structure Provider where
  script : List ProviderLine
  requests : List Request := []
  waited : Duration := .zero

/-- What a provider says once its script is at its end. -/
def scriptEnd : Error := { category := .generation, message := "script exhausted" }

/-- The answer of a provider, and the provider after it. -/
def Provider.answer : (q : Ask) → Provider → Answer Float q × Provider
  | .complete request, p =>
    let p := { p with requests := p.requests ++ [request] }
    match p.script with
    | [] => (.error scriptEnd, p)
    | .error e :: script => (.error e, { p with script })
    | .ok (text, usage) :: script => (.ok ⟨text, usage, request.model⟩, { p with script })
  | .wait time, p => ((), { p with waited := p.waited.plus time })

end RemapSynth.Rehearsal
