/-
Loops side by side and loops in a row. With the same answers to each loop,
loops that run one after another, as they do in `run`, come to just what loops
side by side come to (`Concludes.history_run`); and whatever `run` does, a
selection with one worker does as well (`exists_run_of_history`).
-/
import RemapSynth.Proofs.Dialogue
import RemapSynth.Proofs.Selection.Scoring

namespace RemapSynth.Selection

open Chat Dialogue

variable {Cost : Type}

/-- A call of the loop at a place, as a call of the selection. -/
def placed (place : Nat) (call : Repair.Call Cost) : Call Cost := ⟨.loop place call.1, call.2⟩

/-- The calls of loops in order of their places, the calls of each loop together. -/
def serial (calls : List (LoopCall Cost)) (places : List Nat) : List (Call Cost) :=
  places.flatMap fun place => (callsAt calls place).map (placed place)

theorem history_via_loop {α : Type} {place : Nat} {d : Repair.Course Cost α}
    {calls : List (Call Cost)} {x : α} :
    History (d.via (Ask.loop place) fun _ answer => answer : Course Cost α) calls x ↔
      ∃ loopCalls, calls = loopCalls.map (placed place) ∧ History d loopCalls x :=
  history_via.trans (by simp only [List.map_id']; rfl)

section
variable [Add Cost] [Zero Cost] {a : Assignment}

theorem history_runLoops {calls : List (LoopCall Cost)} {place : Nat} {strategies : List Strategy}
    {results : List (Except Failure (Repair.Report Cost))}
    (hlength : results.length = strategies.length)
    (h : ∀ (i : Nat) strategy r, strategies[i]? = some strategy → results[i]? = some r →
      History (Repair.run (a.loop strategy)) (callsAt calls (place + i)) r) :
    History (runLoops a place strategies) (serial calls (List.range' place strategies.length))
      (List.zipWith .ofResult strategies results) := by
  induction strategies generalizing place results with
  | nil => exact .done _
  | cons strategy strategies ih =>
    match results, hlength with
    | r :: results, hlength =>
      have hfirst := h 0 strategy r rfl rfl
      have hrest : History (runLoops a (place + 1) strategies) _ _ :=
        ih (Nat.succ.inj hlength) fun i strategy r hs hr => by
          have hi := h (i + 1) strategy r hs hr
          rwa [Nat.add_comm i, ← Nat.add_assoc] at hi
      rw [List.length_cons, List.range'_succ, serial, List.flatMap_cons, runLoops]
      exact history_bind.2
        ⟨r, _, _, rfl, history_via_loop.2 ⟨_, rfl, hfirst⟩, history_map.2 ⟨_, hrest, rfl⟩⟩

end

/-- **A selection with loops side by side is one with loops in a row**: given to `run`, the answers
make it ask the same of each loop and come to the same result. -/
theorem Concludes.history_run [Add Cost] [Zero Cost] [LT Cost] [DecidableLT Cost] {a : Assignment}
    {events : List (Event Cost)} {s : State Cost}
    {results : List (Except Failure (Repair.Report Cost))} {result : Except Failure (Outcome Cost)}
    (h : Concludes a events s results result) (hfault : a.fault? = none) :
    History (run a)
      (serial (loopCalls events) (List.range a.strategies.length) ++ answers events) result := by
  rw [run, hfault, List.range_eq_range']
  refine history_bind.2 ⟨_, _, _, rfl, history_runLoops h.length fun i strategy r hs hr => ?_,
    h.conclusion⟩
  rw [Nat.zero_add]
  exact h.loops i strategy r hs hr

/-! ## Loops in a row are loops side by side -/

/-- The call that an event is, as a call of the selection. -/
def Event.call? : Event Cost → Option (Call Cost)
  | called place call => some (placed place call)
  | answered call => some call
  | _ => none

/-- The ledger once calls were made. -/
def ledgerAfterAll [Add Cost] (ledger : Ledger Cost) (calls : List (Call Cost)) : Ledger Cost :=
  calls.foldl
    (fun ledger call =>
      match call with
      | ⟨.loop _ question, _⟩ => ledgerAfter ledger question
      | _ => ledger)
    ledger

theorem ledgerAfterAll_append [Add Cost] (ledger : Ledger Cost) (xs ys : List (Call Cost)) :
    ledgerAfterAll ledger (xs ++ ys) = ledgerAfterAll (ledgerAfterAll ledger xs) ys :=
  List.foldl_append

theorem ledgerAfterAll_of_ne_loop [Add Cost] {ledger : Ledger Cost} {calls : List (Call Cost)}
    (h : ∀ q ∈ calls.map (·.1), ∀ place question, q ≠ .loop place question) :
    ledgerAfterAll ledger calls = ledger := by
  induction calls with
  | nil => rfl
  | cons call calls ih =>
    have hrest := ih fun q hq => h q (List.mem_cons_of_mem _ hq)
    match call with
    | ⟨.loop place question, _⟩ => exact absurd rfl (h _ List.mem_cons_self place question)
    | ⟨.score _ _, _⟩ | ⟨.spent, _⟩ => exact hrest

theorem filterMap_call?_called (place : Nat) (calls : List (Repair.Call Cost)) :
    (calls.map (Event.called place)).filterMap Event.call? = calls.map (placed place) := by
  rw [List.filterMap_map]
  exact congrFun List.filterMap_eq_map calls

section
variable [Add Cost] [Zero Cost] [LT Cost] [DecidableLT Cost] {a : Assignment} {free : Nat}
  {jobs : List (Job Cost)} {ledger : Ledger Cost} {calls : List (Call Cost)}

theorem run_course (ledger : Ledger Cost) {place : Nat}
    {course : Repair.Course Cost (Except Failure (Repair.Report Cost))}
    {calls : List (Repair.Call Cost)} {r : Except Failure (Repair.Report Cost)}
    (h : History course calls r) (hjob : jobs[place]? = some (.running course)) :
    Run a ⟨free, jobs, ledger, .looping⟩ (calls.map (.called place) ++ [.ended place])
      ⟨free + 1, jobs.set place (.ended r), ledgerAfterAll ledger (calls.map (placed place)),
        .looping⟩ := by
  induction h generalizing jobs ledger with
  | done a => exact .cons (.ended hjob) .nil
  | ask q next reply h ih =>
    have hlt := (List.getElem?_eq_some_iff.1 hjob).1
    have hrest := ih (ledgerAfter ledger q) (List.getElem?_set_self hlt)
    rw [List.set_set] at hrest
    exact .cons (.called reply hjob) hrest

/-- A whole loop, with a worker of its own. -/
theorem run_loop {results : List (Except Failure (Repair.Report Cost))} {strategy : Strategy}
    {waiting : List (Job Cost)} {calls : List (Repair.Call Cost)}
    {r : Except Failure (Repair.Report Cost)}
    (h : History (Repair.run (a.loop strategy)) calls r) :
    Run a ⟨1, results.map .ended ++ .waiting strategy :: waiting, ledger, .looping⟩
      (.begun results.length strategy ::
        (calls.map (.called results.length) ++ [.ended results.length]))
      ⟨1, (results ++ [r]).map .ended ++ waiting,
        ledgerAfterAll ledger (calls.map (placed results.length)), .looping⟩ := by
  have hget (job : Job Cost) :
      (results.map Job.ended ++ job :: waiting)[results.length]? = some job := by simp
  have hset (job job' : Job Cost) :
      (results.map Job.ended ++ job :: waiting).set results.length job' =
        results.map Job.ended ++ job' :: waiting := by simp
  have hbegun : Step a
      ⟨1, results.map Job.ended ++ .waiting strategy :: waiting, ledger, .looping⟩
      (.begun results.length strategy)
      ⟨0, results.map Job.ended ++ .running (Repair.run (a.loop strategy)) :: waiting, ledger,
        .looping⟩ := by
    rw [← hset (.waiting strategy) (.running (Repair.run (a.loop strategy)))]
    exact .begun (hget _) (by simp [Job.isWaiting])
  have hcourse : Run a
      ⟨0, results.map Job.ended ++ .running (Repair.run (a.loop strategy)) :: waiting, ledger,
        .looping⟩
      (calls.map (.called results.length) ++ [.ended results.length])
      ⟨1, results.map Job.ended ++ .ended r :: waiting,
        ledgerAfterAll ledger (calls.map (placed results.length)), .looping⟩ := by
    rw [← hset (.running (Repair.run (a.loop strategy))) (.ended r)]
    exact run_course ledger h (hget _)
  simpa using Run.cons hbegun hcourse

theorem exists_run_loops (ledger : Ledger Cost) {strategies : List Strategy}
    {candidates : List (Candidate Cost)} (results : List (Except Failure (Repair.Report Cost)))
    (h : History (runLoops a results.length strategies) calls candidates) :
    ∃ more events, candidates = List.zipWith .ofResult strategies more ∧
      events.filterMap Event.call? = calls ∧
      Run a ⟨1, results.map .ended ++ strategies.map .waiting, ledger, .looping⟩ events
        ⟨1, (results ++ more).map .ended, ledgerAfterAll ledger calls, .looping⟩ := by
  induction strategies generalizing results ledger calls candidates with
  | nil =>
    obtain ⟨rfl, rfl⟩ := history_done.1 h
    exact ⟨[], [], rfl, rfl, by simpa using .nil⟩
  | cons strategy strategies ih =>
    rw [runLoops] at h
    obtain ⟨r, first, rest, rfl, hfirst, hrest⟩ := history_bind.1 h
    obtain ⟨candidates, hmore, rfl⟩ := history_map.1 hrest
    obtain ⟨loopCalls, rfl, hloop⟩ := history_via_loop.1 hfirst
    have hmore : History (runLoops a (results ++ [r]).length strategies) rest candidates := by
      rwa [List.length_append]
    obtain ⟨more, events, rfl, rfl, hrun⟩ :=
      ih (ledgerAfterAll ledger (loopCalls.map (placed results.length))) _ hmore
    rw [← ledgerAfterAll_append, List.append_assoc] at hrun
    refine ⟨r :: more, _, rfl, ?_, (run_loop hloop).append hrun⟩
    rw [List.filterMap_append, List.filterMap_cons_none rfl, List.filterMap_append,
      filterMap_call?_called]
    simp [Event.call?]

theorem exists_run_conclusion {course : Course Cost (Except Failure (Outcome Cost))}
    {result : Except Failure (Outcome Cost)} (h : History course calls result)
    (htrue : ∀ c ∈ calls, IsTrue ledger c.1 c.2) :
    ∃ events, events.filterMap Event.call? = calls ∧
      Run a ⟨free, jobs, ledger, .concluding course⟩ events
        ⟨free, jobs, ledger, .concluding (.done result)⟩ := by
  induction h with
  | done a => exact ⟨[], rfl, .nil⟩
  | ask q next reply h ih =>
    obtain ⟨events, rfl, hrun⟩ := ih fun c hc => htrue c (List.mem_cons_of_mem _ hc)
    exact ⟨.asked q :: .answered ⟨q, reply⟩ :: events, rfl,
      .cons .asked (.cons (.answered reply (htrue _ List.mem_cons_self)) hrun)⟩

/-- **What `run` does, one worker does**: a history of `run` in which the total is the ledger's is
how a selection with one worker may go, call by call. -/
theorem exists_run_of_history {before : Ledger Cost} {result : Except Failure (Outcome Cost)}
    (h : History (run a) calls result) (hfault : a.fault? = none)
    (htrue : ∀ c ∈ calls, IsTrue (ledgerAfterAll before calls) c.1 c.2) :
    ∃ events s, events.filterMap Event.call? = calls ∧
      Run a (.opening a 1 before) events s ∧ s.result? = some result := by
  rw [run, hfault] at h
  obtain ⟨candidates, first, rest, rfl, hloops, hconclusion⟩ := history_bind.1 h
  obtain ⟨results, events, rfl, rfl, hrun⟩ := exists_run_loops before [] hloops
  -- the conclusion asks nothing of loops, so the ledger is the one that they have left
  have hrest : ledgerAfterAll before (events.filterMap Event.call? ++ rest) =
      ledgerAfterAll before (events.filterMap Event.call?) := by
    obtain ⟨_, _, -, hasked, -, -⟩ := history_conclude hconclusion
    rw [ledgerAfterAll_append, ledgerAfterAll_of_ne_loop]
    intro q hq
    rw [hasked, List.mem_append, List.mem_map, List.mem_singleton] at hq
    obtain ⟨_, -, rfl⟩ | rfl := hq <;> exact nofun
  rw [hrest] at htrue
  obtain ⟨more, hmore, hconcluding⟩ :=
    exists_run_conclusion hconclusion fun c hc => htrue c (List.mem_append_right _ hc)
  have hopening : State.opening a 1 before =
      ⟨1, a.strategies.map .waiting, before, .looping⟩ := by simp [State.opening, hfault]
  rw [hopening]
  refine ⟨events ++ .joined :: more, _, ?_, hrun.append (.cons (.joined rfl) hconcluding), rfl⟩
  rw [List.filterMap_append, List.filterMap_cons_none rfl, hmore]

end
end RemapSynth.Selection
