/-
What is known of a selection from what has happened in it. However loops take
turns, the calls made at one place are those of that place's loop alone, in
the loop's own order (`Job.Follows`); the ledger holds what was recorded, in
the order in which it was (`Tracks`); and what is asked once all loops have
ended is the conclusion drawn from their results (`Stands`). Each of these is
kept by every step, and so holds at every moment.
-/
import Mathlib.Algebra.GroupWithZero.Nat
import RemapSynth.Proofs.Repair.Spending
import RemapSynth.Selection.Pool

namespace RemapSynth.Selection

open Chat Dialogue

variable {Cost : Type}

/-- A question of a selection together with the answer it got. -/
abbrev Call (Cost : Type) : Type := Exchange (Ask Cost) (Answer Cost)

/-- A call of a repair loop together with the place of the loop. -/
abbrev LoopCall (Cost : Type) : Type := Nat × Repair.Call Cost

/-! ## What can be seen of events -/

/-- The call of a repair loop. -/
def Event.loopCall? : Event Cost → Option (LoopCall Cost)
  | called place call => some (place, call)
  | _ => none

/-- The question that a selection itself asks. -/
def Event.question? : Event Cost → Option (Ask Cost)
  | asked question => some question
  | _ => none

/-- The question that a selection itself has asked, with the answer. -/
def Event.answer? : Event Cost → Option (Call Cost)
  | answered call => some call
  | _ => none

/-- The calls of all repair loops, in the order in which they were made. -/
def loopCalls (events : List (Event Cost)) : List (LoopCall Cost) :=
  events.filterMap Event.loopCall?

/-- What a selection itself has asked, in order. -/
def questions (events : List (Event Cost)) : List (Ask Cost) := events.filterMap Event.question?

/-- What a selection itself has asked and was told, in order. -/
def answers (events : List (Event Cost)) : List (Call Cost) := events.filterMap Event.answer?

def callsAt (calls : List (LoopCall Cost)) (place : Nat) : List (Repair.Call Cost) :=
  (calls.filter (·.1 = place)).map (·.2)

theorem filterMap_cons_toList {α β : Type} (f : α → Option β) (x : α) (xs : List α) :
    (x :: xs).filterMap f = (f x).toList ++ xs.filterMap f := by
  rw [List.filterMap_cons]
  cases f x <;> rfl

theorem callsAt_concat_self (calls : List (LoopCall Cost)) (place : Nat) (call : Repair.Call Cost) :
    callsAt (calls ++ [(place, call)]) place = callsAt calls place ++ [call] := by
  simp [callsAt]

theorem callsAt_concat_of_ne (calls : List (LoopCall Cost)) {place i : Nat} (h : place ≠ i)
    (call : Repair.Call Cost) : callsAt (calls ++ [(place, call)]) i = callsAt calls i := by
  simp [callsAt, h]

/-! ## Jobs -/

section
variable [Add Cost]

/-- Where the job of a strategy stands when its loop has made `calls`. -/
inductive Job.Follows (a : Assignment) (strategy : Strategy) (calls : List (Repair.Call Cost)) :
    Job Cost → Prop
  | waiting (hcalls : calls = []) : Follows a strategy calls (.waiting strategy)
  | running {course} (h : Reaches (Repair.run (a.loop strategy)) calls course) :
    Follows a strategy calls (.running course)
  | ended {result} (h : History (Repair.run (a.loop strategy)) calls result) :
    Follows a strategy calls (.ended result)

/-- Every job stands where the calls at its place have brought it. -/
def Follow (a : Assignment) (calls : List (LoopCall Cost)) (jobs : List (Job Cost)) : Prop :=
  ∀ (place : Nat) strategy job, a.strategies[place]? = some strategy → jobs[place]? = some job →
    job.Follows a strategy (callsAt calls place)

/-- What happens at one place changes the job there, and no other one. -/
theorem Follow.set {a : Assignment} {calls calls' : List (LoopCall Cost)} {jobs : List (Job Cost)}
    {place : Nat} {job job' : Job Cost} (h : Follow a calls jobs) (hjob : jobs[place]? = some job)
    (hothers : ∀ i, place ≠ i → callsAt calls' i = callsAt calls i)
    (hfollows : ∀ strategy, job.Follows a strategy (callsAt calls place) →
      job'.Follows a strategy (callsAt calls' place)) :
    Follow a calls' (jobs.set place job') := by
  intro i strategy job'' hstrategy hi
  rcases eq_or_ne place i with rfl | hne
  · rw [List.getElem?_set_self (List.getElem?_eq_some_iff.1 hjob).1] at hi
    cases hi
    exact hfollows strategy (h place strategy job hstrategy hjob)
  · rw [List.getElem?_set_ne hne] at hi
    rw [hothers i hne]
    exact h i strategy job'' hstrategy hi

end

/-! ## Jobs and ledger at every moment -/

section
variable [Add Cost]

/-- The jobs and the ledger of a selection whose loops have made `calls`. -/
structure Tracks (a : Assignment) (before : Ledger Cost) (calls : List (LoopCall Cost))
    (s : State Cost) : Prop where
  length : s.jobs.length = a.strategies.length
  follow : Follow a calls s.jobs
  places : ∀ c ∈ calls, c.1 < a.strategies.length
  ledger : s.ledger.total = (Repair.recorded (calls.map (·.2))).foldl Usage.merge before.total

theorem ledgerAfter_total (ledger : Ledger Cost) (question : Repair.Ask Cost)
    (reply : Repair.Answer Cost question) :
    (ledgerAfter ledger question).total =
      (Repair.recorded [⟨question, reply⟩]).foldl Usage.merge ledger.total := by
  cases question <;> rfl

variable [Zero Cost] [LT Cost] [DecidableLT Cost] {a : Assignment} {workers : Nat}
  {before : Ledger Cost} {calls : List (LoopCall Cost)} {event : Event Cost}
  {events : List (Event Cost)} {s s' : State Cost}

theorem Step.tracks (h : Step a s event s') (ht : Tracks a before calls s) :
    Tracks a before (calls ++ event.loopCall?.toList) s' := by
  obtain ⟨hlength, hfollow, hplaces, hledger⟩ := ht
  cases h with
  | begun hjob hbefore =>
    simp only [Event.loopCall?, Option.toList_none, List.append_nil]
    refine ⟨by rw [List.length_set, hlength], hfollow.set hjob (fun _ _ => rfl) ?_, hplaces,
      hledger⟩
    rintro strategy (hcalls | _)
    rw [hcalls]
    exact .running .refl
  | @called _ _ _ place question _ reply hjob =>
    simp only [Event.loopCall?, Option.toList_some]
    refine ⟨by rw [List.length_set, hlength],
      hfollow.set hjob (fun _ hne => callsAt_concat_of_ne calls hne _) ?_, ?_, ?_⟩
    · rintro strategy (_ | hreaches)
      rw [callsAt_concat_self]
      exact .running (hreaches.ask reply)
    · have hplace : place < a.strategies.length := hlength ▸ (List.getElem?_eq_some_iff.1 hjob).1
      intro c hc
      rcases List.mem_append.1 hc with hc | hc
      · exact hplaces c hc
      · rwa [List.mem_singleton.1 hc]
    · rw [ledgerAfter_total _ question reply, hledger, ← List.foldl_append,
        ← Repair.recorded_append, List.map_append]
      rfl
  | ended hjob =>
    simp only [Event.loopCall?, Option.toList_none, List.append_nil]
    refine ⟨by rw [List.length_set, hlength], hfollow.set hjob (fun _ _ => rfl) ?_, hplaces,
      hledger⟩
    rintro strategy (_ | hreaches)
    exact .ended hreaches.history_of_done
  | joined | asked | answered =>
    simp only [Event.loopCall?, Option.toList_none, List.append_nil]
    exact ⟨hlength, hfollow, hplaces, hledger⟩

omit [Zero Cost] [LT Cost] [DecidableLT Cost] in
theorem Tracks.opening : Tracks a before [] (State.opening a workers before) := by
  refine ⟨by simp [State.opening], ?_, by simp, rfl⟩
  intro place strategy job hstrategy hjob
  rw [State.opening, List.getElem?_map, hstrategy] at hjob
  cases hjob
  exact .waiting rfl

theorem Run.tracks (h : Run a s events s') (ht : Tracks a before calls s) :
    Tracks a before (calls ++ loopCalls events) s' := by
  induction h generalizing calls with
  | nil => simpa [loopCalls] using ht
  | cons h more ih =>
    rw [loopCalls, filterMap_cons_toList, ← List.append_assoc]
    exact ih (h.tracks ht)

theorem Run.append {s'' : State Cost} {events' : List (Event Cost)} (h : Run a s events s')
    (h' : Run a s' events' s'') : Run a s (events ++ events') s'' := by
  induction h with
  | nil => exact h'
  | cons h more ih => exact .cons h (ih h')

theorem Run.tracks_opening (h : Run a (.opening a workers before) events s) :
    Tracks a before (loopCalls events) s := by
  simpa using h.tracks Tracks.opening

/-! ## What is asked once all loops have ended -/

/-- How far a selection is that has asked `qs` and was told `as`. -/
inductive Stands (a : Assignment) (qs : List (Ask Cost)) (as : List (Call Cost)) :
    State Cost → Prop
  | looping {free jobs ledger} (hq : qs = []) (ha : as = []) :
    Stands a qs as ⟨free, jobs, ledger, .looping⟩
  | concluding {free results ledger course}
      (h : Reaches (conclude a (List.zipWith .ofResult a.strategies results)) as course)
      (hq : qs = as.map (·.1)) (htrue : ∀ c ∈ as, IsTrue ledger c.1 c.2) :
    Stands a qs as ⟨free, results.map .ended, ledger, .concluding course⟩
  | awaiting {free results ledger question next}
      (h : Reaches (conclude a (List.zipWith .ofResult a.strategies results)) as
        (.ask question next))
      (hq : qs = as.map (·.1) ++ [question]) (htrue : ∀ c ∈ as, IsTrue ledger c.1 c.2) :
    Stands a qs as ⟨free, results.map .ended, ledger, .awaiting question next⟩

variable {qs : List (Ask Cost)} {as : List (Call Cost)}

theorem Step.stands (h : Step a s event s') (hs : Stands a qs as s) :
    Stands a (qs ++ event.question?.toList) (as ++ event.answer?.toList) s' := by
  cases h with
  | begun | called | ended =>
    simp only [Event.question?, Event.answer?, Option.toList_none, List.append_nil]
    cases hs with
    | looping hq ha => exact .looping hq ha
  | joined hjobs =>
    simp only [Event.question?, Event.answer?, Option.toList_none, List.append_nil]
    cases hs with
    | looping hq ha =>
      subst hq ha hjobs
      exact .concluding .refl rfl (by simp)
  | asked =>
    simp only [Event.question?, Event.answer?, Option.toList_none, Option.toList_some,
      List.append_nil]
    cases hs with
    | concluding h hq htrue => exact .awaiting h (by rw [hq]) htrue
  | answered reply hreply =>
    simp only [Event.question?, Event.answer?, Option.toList_none, Option.toList_some,
      List.append_nil]
    cases hs with
    | awaiting h hq htrue =>
      refine .concluding (h.ask reply) (by rw [hq, List.map_append]; rfl) fun c hc => ?_
      rcases List.mem_append.1 hc with hc | hc
      · exact htrue c hc
      · rw [List.mem_singleton.1 hc]
        exact hreply

theorem Run.stands (h : Run a s events s') (hs : Stands a qs as s) :
    Stands a (qs ++ questions events) (as ++ answers events) s' := by
  induction h generalizing qs as with
  | nil => simpa [questions, answers] using hs
  | cons h more ih =>
    rw [questions, answers, filterMap_cons_toList, filterMap_cons_toList, ← List.append_assoc,
      ← List.append_assoc]
    exact ih (h.stands hs)

/-! ## Selections that cannot begin -/

section
omit [Add Cost] [Zero Cost] [LT Cost] [DecidableLT Cost]

theorem fault?_of_samples_eq_nil (h : a.samples = []) :
    a.fault? = some (.configuration "no samples to generate from") := by
  simp [Assignment.fault?, h]

theorem fault?_eq_none (h : a.samples ≠ []) : a.fault? = none := by
  simp [Assignment.fault?, h]

theorem result?_opening {failure : Failure} (hfault : a.fault? = some failure) :
    (State.opening a workers before).result? = some (.error failure) := by
  rw [State.opening, State.result?, hfault]

end

theorem Step.result?_eq_none (h : Step a s event s') : s.result? = none := by
  cases h <;> rfl

theorem Run.eq_opening {failure : Failure} (h : Run a (.opening a workers before) events s)
    (hfault : a.fault? = some failure) : events = [] ∧ s = .opening a workers before := by
  cases h with
  | nil => exact ⟨rfl, rfl⟩
  | cons h more =>
    have hresult := h.result?_eq_none
    rw [result?_opening hfault] at hresult
    cases hresult

theorem Run.fault?_eq_none {outcome : Outcome Cost} (h : Run a (.opening a workers before) events s)
    (hresult : s.result? = some (.ok outcome)) : a.fault? = none := by
  cases hfault : a.fault? with
  | none => rfl
  | some failure =>
    obtain ⟨-, rfl⟩ := h.eq_opening hfault
    rw [result?_opening hfault] at hresult
    cases hresult

theorem Run.stands_opening (h : Run a (.opening a workers before) events s)
    (hfault : a.fault? = none) : Stands a (questions events) (answers events) s := by
  have hopening : Stands a [] [] (.opening a workers before) := by
    simp only [State.opening, hfault]
    exact .looping rfl rfl
  simpa using h.stands hopening

/-! ## Selections that have come to an end -/

/-- A selection that has come to `result`, its loops having come to `results`. -/
structure Concludes (a : Assignment) (events : List (Event Cost)) (s : State Cost)
    (results : List (Except Failure (Repair.Report Cost)))
    (result : Except Failure (Outcome Cost)) : Prop where
  jobs : s.jobs = results.map .ended
  length : results.length = a.strategies.length
  loops : ∀ (place : Nat) strategy r, a.strategies[place]? = some strategy →
    results[place]? = some r →
    History (Repair.run (a.loop strategy)) (callsAt (loopCalls events) place) r
  conclusion :
    History (conclude a (List.zipWith .ofResult a.strategies results)) (answers events) result
  asked : questions events = (answers events).map (·.1)
  isTrue : ∀ c ∈ answers events, IsTrue s.ledger c.1 c.2

/-- **However loops take turns, each comes to a result of its own,** and the selection to what is
concluded from these. -/
theorem Run.concludes {result : Except Failure (Outcome Cost)}
    (h : Run a (.opening a workers before) events s) (hfault : a.fault? = none)
    (hresult : s.result? = some result) : ∃ results, Concludes a events s results result := by
  obtain ⟨hlength, hfollow, -, -⟩ := h.tracks_opening
  have hstands := h.stands_opening hfault
  -- a result is there only once nothing is left of the conclusion
  cases hstands with
  | looping hq ha => cases hresult
  | awaiting hreaches hq htrue => cases hresult
  | @concluding _ results _ course hreaches hq htrue =>
    cases course with
    | ask question next => cases hresult
    | done r =>
      cases hresult
      refine ⟨results, rfl, by simpa using hlength, ?_, hreaches.history_of_done, hq, htrue⟩
      intro place strategy r hstrategy hr
      have hjob : (results.map Job.ended)[place]? = some (.ended r) := by simp [hr]
      cases hfollow place strategy _ hstrategy hjob with
      | ended h => exact h

end

/-! ## Four strategies and two workers -/

/-- A strategy of which only the name matters. -/
def named (name : String) : Strategy := ⟨name, "", ""⟩

/-- Four strategies, named for what becomes of them, with one iteration each. -/
def quartet : Assignment where
  generation := { maxIterations := 1 }
  goal := .balanced
  strategies := [named "scored", named "unmeasured", named "failed", named "aborted"]
  samples := [.ofMessage "line"]
  baseline := none

def priced (cost : Nat) : Option (Usage Nat) := some (.ofCost cost)

def quartetLedger : Ledger Nat := ⟨priced 16⟩

/-- The loop at a place is delivered its first program, which is named like its strategy. -/
def delivery (place : Nat) (name : String) (cost : Nat) : Event Nat :=
  .called place ⟨.produce (quartet.loop (named name)).first, .ok ⟨name, priced cost⟩⟩

def noting (place cost : Nat) : Event Nat := .called place ⟨.record (priced cost), ()⟩

def judgement (place : Nat) (name : String) (answer : Except Failure Verdict) : Event Nat :=
  .called place ⟨.validate name quartet.samples, answer⟩

def noEngine {α : Type} : Except Failure α := .error (.infrastructure "no engine")

def faulty : Verdict := ⟨false, some "fault", none⟩

def speed : Score.Measurement := ⟨1, 0, 0, 1, 0, 0, 7, .slow, .engine, 0⟩

/-- Two workers take turns; the last loop pays before it is aborted. -/
def quartetEvents : List (Event Nat) :=
  [.begun 0 (named "scored"), .begun 1 (named "unmeasured"), delivery 0 "scored" 1,
    delivery 1 "unmeasured" 2, noting 1 2, noting 0 1, judgement 0 "scored" (.ok .pass), .ended 0,
    .begun 2 (named "failed"), delivery 2 "failed" 4, judgement 1 "unmeasured" (.ok .pass), .ended 1,
    .begun 3 (named "aborted"), delivery 3 "aborted" 8, noting 3 8, noting 2 4,
    judgement 3 "aborted" noEngine, .ended 3, judgement 2 "failed" (.ok faulty), .ended 2, .joined, .asked (.score "scored" quartet.samples),
    .answered ⟨.score "scored" quartet.samples, .ok speed⟩,
    .asked (.score "unmeasured" quartet.samples),
    .answered ⟨.score "unmeasured" quartet.samples, noEngine⟩, .asked .spent,
    .answered ⟨.spent, 31⟩]

def quartetResults : List (Except Failure (Repair.Report Nat)) :=
  [.ok ⟨"scored", true, 1, [⟨1, none, false, some .validated⟩], [], none, none, priced 1⟩,
    .ok ⟨"unmeasured", true, 1, [⟨1, none, false, some .validated⟩], [], none, none, priced 2⟩,
    .ok ⟨"failed", false, 1, [⟨1, some .unknown, false, some .exhausted⟩], [], some "fault",
      some .unknown, priced 4⟩,
    noEngine]

def quartetOutcome : Outcome Nat :=
  match List.zipWith Candidate.ofResult quartet.strategies quartetResults with
  | [scored, unmeasured, failed, aborted] =>
    outcome .balanced [scored.scored (.ok speed), unmeasured.scored noEngine, failed, aborted] 31
  | _ => ⟨none, [], 0⟩

def quartetEnd : State Nat :=
  ⟨2, quartetResults.map .ended, ⟨priced 31⟩, .concluding (.done (.ok quartetOutcome))⟩

theorem run_quartet : Run quartet (.opening quartet 2 quartetLedger) quartetEvents quartetEnd := by
  iterate 2 refine .cons (.begun rfl (by decide)) ?_
  iterate 5 refine .cons (.called _ rfl) ?_
  refine .cons (.ended rfl) ?_
  refine .cons (.begun rfl (by decide)) ?_
  iterate 2 refine .cons (.called _ rfl) ?_
  refine .cons (.ended rfl) ?_
  refine .cons (.begun rfl (by decide)) ?_
  iterate 4 refine .cons (.called _ rfl) ?_
  refine .cons (.ended rfl) ?_
  refine .cons (.called _ rfl) ?_
  refine .cons (.ended rfl) ?_
  refine .cons (.joined (show _ = quartetResults.map Job.ended from rfl)) ?_
  iterate 2 refine .cons .asked (.cons (.answered _ trivial) ?_)
  exact .cons .asked (.cons (.answered _ rfl) .nil)

end RemapSynth.Selection
