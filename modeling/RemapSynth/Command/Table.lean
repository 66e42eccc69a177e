/-
The table of candidates as it is printed, and the line about the winner.
-/
import RemapSynth.Selection.Report
import RemapSynth.Decimal.Fixed
import RemapSynth.Text.Line

namespace RemapSynth.Command

def padRight (width : Nat) (s : String) : String :=
  s ++ .ofList (List.replicate (width - s.length) ' ')

def padLeft (width : Nat) (s : String) : String :=
  .ofList (List.replicate (width - s.length) ' ') ++ s

def tableLine (strategy valid iterations cost index tier : String) : String :=
  padRight 28 strategy ++ " " ++ padLeft 6 valid ++ " " ++ padLeft 6 iterations ++ " " ++
    padLeft 9 cost ++ " " ++ padLeft 10 index ++ " " ++ padRight 12 tier ++ "\n"

/-- Whether a candidate was valid, in a word. -/
def standing (valid unavailable : Bool) : String :=
  if unavailable then "n/a" else if valid then "yes" else "no"

/-- The lines of one candidate: its row, and the first line of what went wrong. -/
def rowText (r : Selection.Row) : String :=
  tableLine r.strategy (standing r.valid r.unavailable) (Nat.repr r.iterations)
      (Decimal.fixed 4 r.cost) (r.index.elim "-" Nat.repr) (r.tier.elim "-" Score.Tier.name) ++
    r.failureReason.elim "" fun reason =>
      "    " ++ (Text.lines reason).head?.getD "" ++ "\n"

/-- The table of candidates and the line about the winner. -/
def outcomeText (o : Selection.Outcome) : String :=
  tableLine "strategy" "valid" "iters" "cost" "index" "tier" ++
    String.join (o.rows.map rowText) ++ "\n" ++
    (o.winner.elim "No candidate validated" fun c => "Winner: " ++ c.strategy.name) ++
    " (total cost $" ++ Decimal.fixed 4 o.totalCost ++ ")\n"

end RemapSynth.Command
