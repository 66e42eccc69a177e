/-
The order that a selection keeps at every moment. Loops begin in the order of
their strategies, each once and with a generator of its own; free workers and
loops in flight are together all the workers there are (`Paced`). The
selection itself asks nothing before all loops have ended, and no question
before the last one is answered, so programs are scored one at a time and in
the order of their strategies (`Stands.plan`).
-/
import RemapSynth.Proofs.Selection.Scoring

namespace RemapSynth.Selection

open Chat Dialogue

variable {Cost : Type}

/-! ## Beginnings and ends -/

/-- The place of a loop that begins. -/
def Event.begins? : Event Cost → Option Nat
  | begun place _ => some place
  | _ => none

/-- The place of a loop that ends. -/
def Event.ends? : Event Cost → Option Nat
  | ended place => some place
  | _ => none

/-- The places of the loops that have begun, in the order in which they did. -/
def begunPlaces (events : List (Event Cost)) : List Nat := events.filterMap Event.begins?

/-- The places of the loops that have ended, in the order in which they did. -/
def endedPlaces (events : List (Event Cost)) : List Nat := events.filterMap Event.ends?

/-- The places of the loops that have begun and not ended. -/
def inFlight (events : List (Event Cost)) : List Nat :=
  (begunPlaces events).filter (· ∉ endedPlaces events)

/-- The generator that is made for a loop as it begins: the strategy it is made for, and the place
where it is used. -/
def Event.made? : Event Cost → Option (Strategy × Nat)
  | begun place strategy => some (strategy, place)
  | _ => none

/-- The generators that have been made, in the order in which they were. -/
def generatorsMade (events : List (Event Cost)) : List (Strategy × Nat) :=
  events.filterMap Event.made?

theorem map_generatorsMade (events : List (Event Cost)) :
    (generatorsMade events).map (·.2) = begunPlaces events := by
  rw [generatorsMade, begunPlaces, List.map_filterMap]
  refine List.filterMap_congr fun event _ => ?_
  cases event <;> rfl

theorem filterMap_range_zipIdx {α : Type} (xs : List α) (n : Nat) :
    ((List.range n).filterMap fun i => xs[i]?.map fun x => (x, i)) = xs.zipIdx.take n := by
  induction n with
  | zero => rfl
  | succ n ih =>
    rw [List.range_succ, List.filterMap_append, ih, List.take_add_one, List.getElem?_zipIdx,
      filterMap_cons_toList, List.filterMap_nil, List.append_nil, Nat.zero_add]

/-! ## Jobs -/

section
variable {jobs : List (Job Cost)} {place i : Nat} {job job' job'' : Job Cost}
  {begun ended : List Nat}

/-- What stands at a place once one job has changed. -/
theorem getElem?_set_iff (hjob : jobs[place]? = some job) :
    (jobs.set place job')[i]? = some job'' ↔
      (i = place ∧ job'' = job') ∨ (i ≠ place ∧ jobs[i]? = some job'') := by
  rcases eq_or_ne i place with rfl | hne
  · rw [List.getElem?_set_self (List.getElem?_eq_some_iff.1 hjob).1]
    simp [eq_comm]
  · rw [List.getElem?_set_ne (Ne.symm hne)]
    simp [hne]

/-- The loops at `begun` are those that have begun, and they did so in order. -/
structure Started (begun : List Nat) (jobs : List (Job Cost)) : Prop where
  eq_range : begun = List.range begun.length
  length_le : begun.length ≤ jobs.length
  waiting_iff : ∀ (place : Nat) job, jobs[place]? = some job →
    (job.isWaiting = true ↔ begun.length ≤ place)

/-- The loops at `ended` are those that have ended. -/
structure Finished (ended : List Nat) (jobs : List (Job Cost)) : Prop where
  nodup : ended.Nodup
  mem_iff : ∀ place, place ∈ ended ↔ ∃ job, jobs[place]? = some job ∧ job.isEnded = true

theorem Started.mem_iff (h : Started begun jobs) : place ∈ begun ↔ place < begun.length := by
  rw [h.eq_range, List.mem_range, List.length_range]

/-- A loop that goes on or ends begins no other. -/
theorem Started.set (h : Started begun jobs) (hjob : jobs[place]? = some job)
    (hwaiting : job'.isWaiting = job.isWaiting) : Started begun (jobs.set place job') := by
  refine ⟨h.eq_range, by simpa using h.length_le, fun i job'' hi => ?_⟩
  obtain ⟨rfl, rfl⟩ | ⟨-, hi⟩ := (getElem?_set_iff hjob).1 hi
  · rw [hwaiting]
    exact h.waiting_iff i job hjob
  · exact h.waiting_iff i job'' hi

/-- The loop that begins is the next one: all before it have begun, and it has not. -/
theorem Started.next {strategy : Strategy} (h : Started begun jobs)
    (hjob : jobs[place]? = some (.waiting strategy))
    (hbefore : ∀ job ∈ jobs.take place, job.isWaiting = false) : place = begun.length := by
  refine Nat.le_antisymm (Nat.le_of_not_lt fun hlater => ?_) ((h.waiting_iff _ _ hjob).1 rfl)
  have hlt : place < jobs.length := (List.getElem?_eq_some_iff.1 hjob).1
  have hnext : jobs[begun.length]? = some jobs[begun.length] := by simp
  have hstill : jobs[begun.length].isWaiting = true := (h.waiting_iff _ _ hnext).2 (Nat.le_refl _)
  have hmem : jobs[begun.length] ∈ jobs.take place :=
    List.mem_take_iff_getElem.2 ⟨begun.length, by omega, rfl⟩
  rw [hbefore _ hmem] at hstill
  cases hstill

theorem Started.begins {strategy : Strategy} (h : Started begun jobs)
    (hjob : jobs[place]? = some (.waiting strategy))
    (hbefore : ∀ job ∈ jobs.take place, job.isWaiting = false)
    (hwaiting : job'.isWaiting = false) : Started (begun ++ [place]) (jobs.set place job') := by
  have hlt : place < jobs.length := (List.getElem?_eq_some_iff.1 hjob).1
  have hplace := h.next hjob hbefore
  refine ⟨?_, ?_, fun i job'' hi => ?_⟩
  · rw [List.length_append, List.length_singleton, List.range_succ, ← h.eq_range, hplace]
  · rw [List.length_append, List.length_singleton, List.length_set]
    omega
  · rw [List.length_append, List.length_singleton]
    obtain ⟨rfl, rfl⟩ | ⟨hne, hi⟩ := (getElem?_set_iff hjob).1 hi
    · rw [hwaiting, hplace]
      simp
    · rw [h.waiting_iff i job'' hi]
      omega

/-- A loop that begins or goes on has not ended, and ends no other. -/
theorem Finished.set (h : Finished ended jobs) (hjob : jobs[place]? = some job)
    (hended : job.isEnded = false) (hended' : job'.isEnded = false) :
    Finished ended (jobs.set place job') := by
  refine ⟨h.nodup, fun i => ?_⟩
  rw [h.mem_iff]
  refine exists_congr fun job'' => and_congr_left fun hjob'' => ?_
  rw [getElem?_set_iff hjob]
  constructor
  · intro hi
    refine .inr ⟨?_, hi⟩
    rintro rfl
    rw [hjob] at hi
    cases hi
    rw [hended] at hjob''
    cases hjob''
  · rintro (⟨-, rfl⟩ | ⟨-, hi⟩)
    · rw [hended'] at hjob''
      cases hjob''
    · exact hi

theorem Finished.ends (h : Finished ended jobs) (hjob : jobs[place]? = some job)
    (hended : job.isEnded = false) (hended' : job'.isEnded = true) :
    Finished (ended ++ [place]) (jobs.set place job') := by
  have hnot : place ∉ ended := by
    rw [h.mem_iff]
    rintro ⟨job'', hjob'', hmem⟩
    rw [hjob] at hjob''
    cases hjob''
    rw [hended] at hmem
    cases hmem
  refine ⟨List.nodup_append.2 ⟨h.nodup, by simp, ?_⟩, fun i => ?_⟩
  · intro i hi j hj
    rw [List.mem_singleton.1 hj]
    rintro rfl
    exact hnot hi
  · rw [List.mem_append, List.mem_singleton]
    simp only [getElem?_set_iff hjob]
    rcases eq_or_ne i place with rfl | hne
    · simp [hended']
    · simp [hne, h.mem_iff]

/-- Once all loops have ended, every one of them has begun and ended. -/
theorem Started.of_ended {results : List (Except Failure (Repair.Report Cost))}
    (h : Started begun (results.map Job.ended)) : begun = List.range results.length := by
  have hlength : begun.length = results.length := by
    refine Nat.le_antisymm (by simpa using h.length_le) (Nat.le_of_not_lt fun hlt => ?_)
    have hjob : (results.map Job.ended)[begun.length]? = some (.ended results[begun.length]) := by
      simp [hlt]
    cases (h.waiting_iff _ _ hjob).2 (Nat.le_refl _)
  rw [← hlength, ← h.eq_range]

theorem Finished.of_ended {results : List (Except Failure (Repair.Report Cost))}
    (h : Finished ended (results.map Job.ended)) : ended.Perm (List.range results.length) := by
  rw [List.perm_ext_iff_of_nodup h.nodup List.nodup_range]
  intro place
  rw [h.mem_iff, List.mem_range]
  constructor
  · rintro ⟨job, hjob, -⟩
    simpa using (List.getElem?_eq_some_iff.1 hjob).1
  · intro hlt
    exact ⟨.ended results[place], by simp [hlt], rfl⟩

end

/-! ## Workers -/

/-- How far a selection with `w` workers is when the loops at `begun` have begun and those at
`ended` have ended. -/
structure Paced (w : Nat) (begun ended : List Nat) (s : State Cost) : Prop where
  started : Started begun s.jobs
  finished : Finished ended s.jobs
  free : s.free + begun.length = w + ended.length

section
variable {w : Nat} {begun ended : List Nat} {s s' : State Cost} {place : Nat}

theorem Paced.mem_begun_of_mem_ended (hp : Paced w begun ended s) (h : place ∈ ended) :
    place ∈ begun := by
  obtain ⟨job, hjob, hended⟩ := (hp.finished.mem_iff place).1 h
  have hwaiting : job.isWaiting = false := by cases job <;> simp_all [Job.isEnded, Job.isWaiting]
  rw [hp.started.mem_iff, ← Nat.not_le, ← hp.started.waiting_iff place job hjob, hwaiting]
  exact Bool.false_ne_true

/-- **Free workers and loops in flight are all the workers.** -/
theorem Paced.free_add_inFlight (hp : Paced w begun ended s) :
    s.free + (begun.filter (· ∉ ended)).length = w := by
  have hbegun : begun.Nodup := by
    rw [hp.started.eq_range]
    exact List.nodup_range
  have hperm : (begun.filter (· ∈ ended)).Perm ended := by
    rw [List.perm_ext_iff_of_nodup (hbegun.filter _) hp.finished.nodup]
    intro place
    rw [List.mem_filter, decide_eq_true_eq]
    exact ⟨And.right, fun h => ⟨hp.mem_begun_of_mem_ended h, h⟩⟩
  have hsplit : begun.length = ended.length + (begun.filter (· ∉ ended)).length := by
    rw [← hperm.length_eq, List.length_eq_countP_add_countP (· ∈ ended),
      List.countP_eq_length_filter, List.countP_eq_length_filter]
    simp
  have hfree := hp.free
  omega

end

section
variable [Add Cost] [Zero Cost] [LT Cost] [DecidableLT Cost] {a : Assignment} {workers w : Nat}
  {before : Ledger Cost} {event : Event Cost} {events : List (Event Cost)} {begun ended : List Nat}
  {s s' : State Cost}

theorem Step.paced (h : Step a s event s') (hp : Paced w begun ended s) :
    Paced w (begun ++ event.begins?.toList) (ended ++ event.ends?.toList) s' := by
  obtain ⟨hstarted, hfinished, hfree⟩ := hp
  cases h with
  | begun hjob hbefore =>
    simp only [Event.begins?, Event.ends?, Option.toList_some, Option.toList_none, List.append_nil]
    refine ⟨hstarted.begins hjob hbefore rfl, hfinished.set hjob rfl rfl, ?_⟩
    rw [List.length_append, List.length_singleton]
    dsimp only at hfree ⊢
    omega
  | called reply hjob =>
    simp only [Event.begins?, Event.ends?, Option.toList_none, List.append_nil]
    exact ⟨hstarted.set hjob rfl, hfinished.set hjob rfl rfl, hfree⟩
  | ended hjob =>
    simp only [Event.begins?, Event.ends?, Option.toList_some, Option.toList_none, List.append_nil]
    refine ⟨hstarted.set hjob rfl, hfinished.ends hjob rfl rfl, ?_⟩
    rw [List.length_append, List.length_singleton]
    dsimp only at hfree ⊢
    omega
  | joined | asked | answered =>
    simp only [Event.begins?, Event.ends?, Option.toList_none, List.append_nil]
    exact ⟨hstarted, hfinished, hfree⟩

theorem Run.paced (h : Run a s events s') (hp : Paced w begun ended s) :
    Paced w (begun ++ begunPlaces events) (ended ++ endedPlaces events) s' := by
  induction h generalizing begun ended with
  | nil => simpa [begunPlaces, endedPlaces] using hp
  | cons h more ih =>
    rw [begunPlaces, endedPlaces, filterMap_cons_toList, filterMap_cons_toList,
      ← List.append_assoc, ← List.append_assoc]
    exact ih (h.paced hp)

omit [Add Cost] [Zero Cost] [LT Cost] [DecidableLT Cost] in
theorem Paced.opening : Paced (max workers 1) [] [] (State.opening a workers before) := by
  have hwaits (place : Nat) (job : Job Cost)
      (hjob : (State.opening a workers before).jobs[place]? = some job) :
      ∃ strategy, job = .waiting strategy := by
    rw [State.opening, List.getElem?_map, Option.map_eq_some_iff] at hjob
    obtain ⟨strategy, -, rfl⟩ := hjob
    exact ⟨strategy, rfl⟩
  refine ⟨⟨rfl, Nat.zero_le _, fun place job hjob => ?_⟩, ⟨List.nodup_nil, fun place => ?_⟩, rfl⟩
  · obtain ⟨strategy, rfl⟩ := hwaits place job hjob
    simp [Job.isWaiting]
  · refine iff_of_false List.not_mem_nil ?_
    rintro ⟨job, hjob, hended⟩
    obtain ⟨strategy, rfl⟩ := hwaits place job hjob
    cases hended

theorem Run.paced_opening (h : Run a (.opening a workers before) events s) :
    Paced (max workers 1) (begunPlaces events) (endedPlaces events) s := by
  simpa using h.paced Paced.opening

/-! ## Scoring -/

/-- What a selection asks once its loops have come to where `jobs` stand: a score for each program,
in the order of the strategies, then the cost of everything. -/
def plan (a : Assignment) (jobs : List (Job Cost)) : List (Ask Cost) :=
  ((jobs.filterMap Job.program?).map fun code => .score code a.samples) ++ [.spent]

omit [Add Cost] [LT Cost] [DecidableLT Cost] in
theorem exists_history {α : Type} (course : Course Cost α) :
    ∃ calls result, History course calls result := by
  induction course with
  | done result => exact ⟨[], result, .done result⟩
  | ask question next ih =>
    obtain ⟨reply, -⟩ := exists_isTrue ⟨none⟩ question
    obtain ⟨calls, result, h⟩ := ih reply
    exact ⟨_, result, .ask question next reply h⟩

omit [Add Cost] in
/-- However far the conclusion is, what it has asked is the front of what it asks in all. -/
theorem plan_of_reaches {results : List (Except Failure (Repair.Report Cost))}
    {calls : List (Call Cost)} {course : Course Cost (Except Failure (Outcome Cost))}
    (hlength : results.length = a.strategies.length)
    (h : Reaches (conclude a (List.zipWith .ofResult a.strategies results)) calls course) :
    calls.map (·.1) <+: plan a (results.map Job.ended) := by
  obtain ⟨rest, result, hrest⟩ := exists_history course
  obtain ⟨_, _, -, hasked, -, -⟩ := history_conclude (h.history hrest)
  refine ⟨rest.map (·.1), ?_⟩
  rw [← List.map_append, hasked, plan, ← map_code_ofResult hlength, List.map_map]
  rfl

omit [Add Cost] in
/-- What has been asked is the front of the plan, and no question but the last is open. -/
theorem Stands.plan {qs : List (Ask Cost)} {as : List (Call Cost)} (h : Stands a qs as s)
    (hlength : s.jobs.length = a.strategies.length) :
    qs <+: Selection.plan a s.jobs ∧ ∃ pending : Option (Ask Cost),
      qs = as.map (·.1) ++ pending.toList := by
  cases h with
  | looping hq ha =>
    subst hq ha
    refine ⟨?_, none, rfl⟩
    exact List.nil_prefix
  | concluding h hq htrue =>
    subst hq
    exact ⟨plan_of_reaches (by simpa using hlength) h, none, by simp⟩
  | @awaiting _ _ ledger question _ h hq htrue =>
    subst hq
    obtain ⟨reply, -⟩ := exists_isTrue ledger question
    refine ⟨?_, some question, rfl⟩
    simpa using plan_of_reaches (by simpa using hlength) (h.ask reply)

/-! ## Every moment -/

theorem Run.of_append {events' : List (Event Cost)} (h : Run a s (events ++ events') s') :
    ∃ s'', Run a s events s'' ∧ Run a s'' events' s' := by
  induction events generalizing s with
  | nil => exact ⟨s, .nil, h⟩
  | cons event events ih =>
    cases h with
    | cons h more =>
      obtain ⟨s'', hfirst, hrest⟩ := ih more
      exact ⟨s'', .cons h hfirst, hrest⟩

/-- What a selection is like just before something happens in it. -/
theorem Run.before_event {later : List (Event Cost)}
    (h : Run a s (events ++ event :: later) s') :
    ∃ s₁ s₂, Run a s events s₁ ∧ Step a s₁ event s₂ := by
  obtain ⟨s₁, hfirst, hrest⟩ := h.of_append
  cases hrest with
  | cons hstep more => exact ⟨s₁, _, hfirst, hstep⟩

/-- A loop is given a generator for the strategy at its place. -/
theorem Run.strategy_of_made {made : Strategy × Nat}
    (h : Run a (.opening a workers before) events s) (hmade : made ∈ generatorsMade events) :
    a.strategies[made.2]? = some made.1 := by
  obtain ⟨event, hevent, heq⟩ := List.mem_filterMap.1 hmade
  obtain ⟨earlier, later, rfl⟩ := List.append_of_mem hevent
  obtain ⟨s₁, s₂, hrun, hstep⟩ := h.before_event
  have htracks := hrun.tracks_opening
  cases hstep with
  | @begun _ jobs _ place strategy hjob hbefore =>
    cases heq
    have hlt : place < a.strategies.length :=
      htracks.length ▸ (List.getElem?_eq_some_iff.1 hjob).1
    have hstrategy := List.getElem?_eq_getElem hlt
    -- A job that waits has the strategy of its place.
    cases htracks.follow place _ _ hstrategy hjob with
    | waiting hcalls => exact hstrategy
  | called | ended | joined | asked | answered => cases heq

/-- **Generators are made for the strategies,** in their order and one for each loop. -/
theorem Run.generatorsMade_eq (h : Run a (.opening a workers before) events s) :
    generatorsMade events = a.strategies.zipIdx.take (begunPlaces events).length := by
  have hplaces : begunPlaces events = List.range (begunPlaces events).length :=
    h.paced_opening.started.eq_range
  calc generatorsMade events
      = (generatorsMade events).filterMap fun made =>
          a.strategies[made.2]?.map fun strategy => (strategy, made.2) := by
        refine List.filterMap_some.symm.trans (List.filterMap_congr fun made hmade => ?_)
        rw [h.strategy_of_made hmade]
        rfl
    _ = (begunPlaces events).filterMap fun place =>
          a.strategies[place]?.map fun strategy => (strategy, place) := by
        rw [← map_generatorsMade, List.filterMap_map]
        rfl
    _ = a.strategies.zipIdx.take (begunPlaces events).length := by
        rw [hplaces, List.length_range, filterMap_range_zipIdx]

/-- A call is made by a loop that has begun and has not ended. -/
theorem Run.mem_inFlight {place : Nat} {call : Repair.Call Cost} {later : List (Event Cost)}
    (h : Run a (.opening a workers before) (events ++ .called place call :: later) s) :
    place ∈ inFlight events := by
  obtain ⟨s₁, s₂, hrun, hstep⟩ := h.before_event
  have hp := hrun.paced_opening
  cases hstep with
  | called reply hjob =>
    rw [inFlight, List.mem_filter, decide_eq_true_eq, hp.started.mem_iff, hp.finished.mem_iff,
      ← Nat.not_le, ← hp.started.waiting_iff _ _ hjob]
    refine ⟨Bool.false_ne_true, ?_⟩
    rintro ⟨job, hjob', hended⟩
    rw [hjob] at hjob'
    cases hjob'
    cases hended

/-- A question is asked once all loops have ended and all questions before it are answered. -/
theorem Run.of_asked {question : Ask Cost} {later : List (Event Cost)}
    (h : Run a (.opening a workers before) (events ++ .asked question :: later) s) :
    (endedPlaces events).Perm (List.range a.strategies.length) ∧
      questions events = (answers events).map (·.1) := by
  have hfault : a.fault? = none := by
    cases hfault : a.fault? with
    | none => rfl
    | some failure =>
      obtain ⟨hnil, -⟩ := h.eq_opening hfault
      simp at hnil
  obtain ⟨s₁, s₂, hrun, hstep⟩ := h.before_event
  have hp := hrun.paced_opening
  have hlength := hrun.tracks_opening.length
  have hstands := hrun.stands_opening hfault
  cases hstep with
  | asked =>
    generalize hqs : questions events = qs at hstands
    cases hstands with
    | concluding hreaches hq htrue =>
      rw [List.length_map] at hlength
      rw [← hlength]
      exact ⟨hp.finished.of_ended, hq⟩

/-- The order that a selection with `workers` workers has kept in `events`. -/
structure Disciplined (a : Assignment) (workers : Nat) (events : List (Event Cost))
    (s : State Cost) : Prop where
  /-- Loops begin in the order of their strategies, each once. -/
  begun : ∃ n ≤ a.strategies.length, begunPlaces events = List.range n
  /-- Each is given a generator that was made for its strategy and for it alone. -/
  made : generatorsMade events = a.strategies.zipIdx.take (begunPlaces events).length
  /-- The job at each place stands where the calls made there have brought the loop of the strategy
  at that place. -/
  follow : s.jobs.length = a.strategies.length ∧ Follow a (loopCalls events) s.jobs
  /-- Only loops in flight make calls. -/
  called : ∀ earlier place call later, events = earlier ++ .called place call :: later →
    place ∈ inFlight earlier
  /-- Free workers and loops in flight are together all workers, of which there is one at least. -/
  workers : s.free + (inFlight events).length = max workers 1
  /-- Nothing is asked before every loop has ended, nor while another question is open. -/
  asked : ∀ earlier question later, events = earlier ++ .asked question :: later →
    (endedPlaces earlier).Perm (List.range a.strategies.length) ∧
      questions earlier = (answers earlier).map (·.1)
  /-- One question at most is open. -/
  pending : ∃ pending : Option (Ask Cost),
    questions events = (answers events).map (·.1) ++ pending.toList
  /-- Programs are scored in the order of their strategies. -/
  scored : questions events <+: Selection.plan a s.jobs
  /-- By the time there is an outcome every loop has begun and ended, once. -/
  complete : ∀ outcome, s.result? = some (.ok outcome) →
    begunPlaces events = List.range a.strategies.length ∧
      (endedPlaces events).Perm (List.range a.strategies.length)

theorem Run.disciplined (h : Run a (.opening a workers before) events s) :
    Disciplined a workers events s := by
  have hp := h.paced_opening
  have ht := h.tracks_opening
  have hplan : questions events <+: Selection.plan a s.jobs ∧
      ∃ pending : Option (Ask Cost),
        questions events = (answers events).map (·.1) ++ pending.toList := by
    cases hfault : a.fault? with
    | none => exact (h.stands_opening hfault).plan ht.length
    | some failure =>
      obtain ⟨rfl, -⟩ := h.eq_opening hfault
      exact ⟨⟨_, rfl⟩, none, rfl⟩
  refine ⟨⟨_, ht.length ▸ hp.started.length_le, hp.started.eq_range⟩, h.generatorsMade_eq,
    ⟨ht.length, ht.follow⟩, ?_, hp.free_add_inFlight, ?_, hplan.2, hplan.1,
    fun outcome hresult => ?_⟩
  · rintro earlier place call later rfl
    exact h.mem_inFlight
  · rintro earlier question later rfl
    exact h.of_asked
  · obtain ⟨results, hconcludes⟩ := h.concludes (h.fault?_eq_none hresult) hresult
    have hstarted := hp.started
    have hfinished := hp.finished
    rw [hconcludes.jobs] at hstarted hfinished
    rw [← hconcludes.length]
    exact ⟨hstarted.of_ended, hfinished.of_ended⟩

/-- **Selections keep order.** Whatever the strategies and the number of workers, whichever loop
goes on at any moment and whatever is answered, the order is kept at every moment; and with samples
every selection comes to an outcome, by which time each loop has begun once. -/
theorem pool_discipline (a : Assignment) (workers : Nat) (before : Ledger Cost) :
    (∀ events s, Run a (.opening a workers before) events s → Disciplined a workers events s) ∧
    (a.samples ≠ [] → ComesTo a (fun result => ∃ outcome, result = .ok outcome)
      (.opening a workers before)) :=
  ⟨fun _ _ h => h.disciplined, comesTo_outcome⟩

/-- Two workers and four loops: the third begins as the first ends. -/
theorem pool_discipline_quartet :
    Run quartet (.opening quartet 2 quartetLedger) quartetEvents quartetEnd ∧
    (∃ s, Run quartet (.opening quartet 2 quartetLedger) (quartetEvents.take 9) s ∧
      inFlight (quartetEvents.take 9) = [1, 2] ∧ s.free = 0) ∧
    begunPlaces quartetEvents = [0, 1, 2, 3] ∧ (endedPlaces quartetEvents).Perm [0, 1, 2, 3] ∧
    generatorsMade quartetEvents =
      [(named "scored", 0), (named "unmeasured", 1), (named "failed", 2), (named "aborted", 3)] ∧
    quartet.samples ≠ [] ∧ ComesTo quartet (fun result => ∃ outcome, result = .ok outcome)
      (.opening quartet 2 quartetLedger) := by
  obtain ⟨hevery, hends⟩ := pool_discipline quartet 2 quartetLedger
  have hall := hevery _ _ run_quartet
  obtain ⟨hbegun, hended⟩ := hall.complete _ rfl
  have hsplit : Run quartet (.opening quartet 2 quartetLedger)
      (quartetEvents.take 9 ++ quartetEvents.drop 9) quartetEnd := by
    rw [List.take_append_drop]
    exact run_quartet
  obtain ⟨s, hfirst, -⟩ := hsplit.of_append
  have hworkers := (hevery _ _ hfirst).workers
  have hflight : inFlight (quartetEvents.take 9) = [1, 2] := by decide
  rw [hflight] at hworkers
  exact ⟨run_quartet, ⟨s, hfirst, hflight, by simpa using hworkers⟩, hbegun, hended, hall.made,
    nofun, hends nofun⟩

end

end RemapSynth.Selection
