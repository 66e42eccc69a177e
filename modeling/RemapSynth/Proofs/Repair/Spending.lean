/-
What a repair loop spends, and where it says so. Every program that a loop
receives is paid for once in the shared ledger, right after it came and
before anything else is asked (`history_produce`), and once in the loop's own
notes. So the two agree however the loop ends, also when it is aborted; and
a report tells the usage of just the programs that its own loop has received.
-/
import RemapSynth.Proofs.Chat.Usage
import RemapSynth.Proofs.Repair.Turn

namespace RemapSynth.Repair

open Chat Generation Dialogue

variable {Cost : Type}

/-! ## What can be seen of calls -/

/-- The usage of a program that a generator has delivered. -/
def Call.delivered? : Call Cost → Option (Option (Usage Cost))
  | ⟨.produce _, .ok generated⟩ => some generated.usage
  | _ => none

/-- The usage that is noted in the ledger. -/
def Call.recorded? : Call Cost → Option (Option (Usage Cost))
  | ⟨.record usage, _⟩ => some usage
  | _ => none

/-- The usages of all programs that generators have delivered, in order. -/
def delivered (calls : List (Call Cost)) : List (Option (Usage Cost)) :=
  calls.filterMap Call.delivered?

/-- The usages noted in the ledger, in order. -/
def recorded (calls : List (Call Cost)) : List (Option (Usage Cost)) :=
  calls.filterMap Call.recorded?

@[simp] theorem delivered_append (xs ys : List (Call Cost)) :
    delivered (xs ++ ys) = delivered xs ++ delivered ys := List.filterMap_append

@[simp] theorem recorded_append (xs ys : List (Call Cost)) :
    recorded (xs ++ ys) = recorded xs ++ recorded ys := List.filterMap_append

theorem delivered_perm {xs ys : List (Call Cost)} (h : xs.Perm ys) :
    (delivered xs).Perm (delivered ys) := h.filterMap _

theorem recorded_perm {xs ys : List (Call Cost)} (h : xs.Perm ys) :
    (recorded xs).Perm (recorded ys) := h.filterMap _

/-! ## One iteration -/

/-- The usage noted by a loop once an iteration has ended. -/
def Step.usage? : Step Cost → Option (Option (Usage Cost))
  | .abort _ => none
  | .stop report => some report.usage
  | .next _ notes => some notes.usage

/-- `Pays calls before after`: every delivery in `calls` is recorded, and takes the usage noted by
the loop from `before` to `after`, unless the loop is aborted. -/
structure Pays [Add Cost] (calls : List (Call Cost)) (before : Option (Usage Cost))
    (after : Option (Option (Usage Cost))) : Prop where
  recorded : recorded calls = delivered calls
  usage : ∀ u ∈ after, u = (delivered calls).foldl Usage.merge before

section
variable [Add Cost] {a : Assignment} {number : Nat} {isLast : Bool} {notes : Notes Cost}
  {pending : Pending} {calls first rest : List (Call Cost)} {step : Step Cost}
  {before u : Option (Usage Cost)} {after : Option (Option (Usage Cost))}

theorem Pays.append (hfirst : Pays first before (some u)) (hrest : Pays rest u after) :
    Pays (first ++ rest) before after := by
  have hu := hfirst.usage u rfl
  refine ⟨?_, fun v hv => ?_⟩
  · rw [recorded_append, delivered_append, hfirst.recorded, hrest.recorded]
  · rw [delivered_append, List.foldl_append, ← hu, hrest.usage v hv]

/-- A delivery that is recorded at once. -/
theorem Pays.deliver {task : Task} {g : Generated Cost}
    (h : Pays calls (Usage.merge before g.usage) after) :
    Pays (⟨.produce task, .ok g⟩ :: ⟨.record g.usage, ()⟩ :: calls) before after :=
  ⟨congrArg (g.usage :: ·) h.recorded, h.usage⟩

theorem Judged.pays {code : String} {r : Option Record}
    (h : Judged a number isLast code notes calls r step) :
    Pays calls notes.usage step.usage? := by
  cases h with
  | broken | aborted => exact ⟨rfl, by rintro _ ⟨⟩⟩
  | _ => exact ⟨rfl, by rintro _ ⟨⟩; rfl⟩

theorem Turn.pays {r : Option Record} (h : Turn a number isLast notes pending calls r step) :
    Pays calls notes.usage step.usage? := by
  cases h with
  | given h => exact h.pays
  | simplified g h => exact h.pays.deliver
  | missed failure hn => exact ⟨rfl, by rintro _ ⟨⟩; rfl⟩
  | aborted failure hn => exact ⟨rfl, by rintro _ ⟨⟩⟩

/-! ## All iterations -/

/-- The usage that a loop reports; none when it was aborted. -/
def reported? (result : Except Failure (Report Cost)) : Option (Option (Usage Cost)) :=
  result.toOption.map (·.usage)

/-- What follows a step pays for itself, if going on does. -/
theorem Pays.andThen {goOn : Pending → Notes Cost → Course Cost (Except Failure (Report Cost))}
    {result : Except Failure (Report Cost)} (hstep : Pays first before step.usage?)
    (hgoOn : ∀ pending notes, History (goOn pending notes) rest result →
      Pays rest notes.usage (reported? result))
    (h : History (step.andThen goOn) rest result) :
    Pays (first ++ rest) before (reported? result) := by
  cases step with
  | abort failure =>
    obtain ⟨rfl, rfl⟩ := history_done.1 h
    rw [List.append_nil]
    exact ⟨hstep.recorded, by rintro _ ⟨⟩⟩
  | stop report =>
    obtain ⟨rfl, rfl⟩ := history_done.1 h
    rw [List.append_nil]
    exact hstep
  | next pending notes => exact hstep.append (hgoOn pending notes h)

theorem pays_iterations {left : Nat} {result : Except Failure (Report Cost)}
    (h : History (iterations a left number pending notes) calls result) :
    Pays calls notes.usage (reported? result) := by
  induction left generalizing number pending notes calls with
  | zero =>
    rw [iterations, history_bind] at h
    obtain ⟨step, first, rest, rfl, hs, h⟩ := h
    obtain ⟨r, hturn⟩ := history_iterate hs
    refine Pays.andThen hturn.pays (fun pending notes h => ?_) h
    obtain ⟨rfl, rfl⟩ := history_done.1 h
    exact ⟨rfl, by rintro _ ⟨⟩; rfl⟩
  | succ left ih =>
    rw [iterations, history_bind] at h
    obtain ⟨step, first, rest, rfl, hs, h⟩ := h
    obtain ⟨r, hturn⟩ := history_iterate hs
    exact Pays.andThen hturn.pays (fun pending notes h => ih h) h

theorem pays_seed (h : History (seed a) calls step) : Pays calls none step.usage? := by
  rw [seed, history_produce] at h
  obtain ⟨g, rest, rfl, h⟩ | ⟨failure, rfl, rfl⟩ := h
  · obtain ⟨rfl, rfl⟩ := history_done.1 h
    exact ⟨rfl, by rintro _ ⟨⟩; rfl⟩
  · split
    · exact ⟨rfl, by rintro _ ⟨⟩⟩
    · exact ⟨rfl, by rintro _ ⟨⟩; rfl⟩

/-- **A loop pays for what it was delivered, and for nothing else.** However it ends, the ledger is
told the usage of every program it has received, and a report tells the sum of these usages. -/
theorem pays_run {result : Except Failure (Report Cost)} (h : History (run a) calls result) :
    recorded calls = delivered calls ∧
      ∀ report, result = .ok report → report.usage = Usage.mergeAll (delivered calls) := by
  rw [run, history_bind] at h
  obtain ⟨step, first, rest, rfl, hs, h⟩ := h
  obtain ⟨hrecorded, husage⟩ :=
    Pays.andThen (pays_seed hs) (fun _ _ h => pays_iterations h) h
  exact ⟨hrecorded, by rintro report rfl; exact husage _ rfl⟩

end

end RemapSynth.Repair
