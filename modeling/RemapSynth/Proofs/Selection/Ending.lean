/-
A selection comes to an end, whichever job goes on at any moment and whatever
the answers are. It never gets stuck: as long as jobs are left, one of them
has a worker or a worker is free (`Step.free_add_running`). And it does not go on for
ever: every step of a job takes it to a later stand, and no job has an endless
course of them (`acc_later`), hence no list of jobs has (`acc_moves`).
-/
import RemapSynth.Proofs.Selection.Pool

namespace RemapSynth.Selection

open Chat Dialogue

variable {Cost : Type}

/-! ## No step is the last but at the end -/

theorem nonempty_answer (question : Repair.Ask Cost) : Nonempty (Repair.Answer Cost question) := by
  cases question with
  | produce task => exact ⟨.error (.generation "")⟩
  | validate code samples => exact ⟨.ok .pass⟩
  | fix code message => exact ⟨none⟩
  | record usage => exact ⟨()⟩

theorem exists_isTrue [Zero Cost] (ledger : Ledger Cost) (question : Ask Cost) :
    ∃ reply, IsTrue ledger question reply := by
  cases question with
  | loop place question =>
    obtain ⟨reply⟩ := nonempty_answer question
    exact ⟨reply, trivial⟩
  | score code samples => exact ⟨.error (.generation ""), trivial⟩
  | spent => exact ⟨ledger.totalCost, rfl⟩

/-- Jobs that neither wait nor run have ended. -/
theorem exists_results {jobs : List (Job Cost)}
    (h : ∀ job ∈ jobs, job.isWaiting = false ∧ job.isRunning = false) :
    ∃ results : List (Except Failure (Repair.Report Cost)), jobs = results.map .ended := by
  induction jobs with
  | nil => exact ⟨[], rfl⟩
  | cons job jobs ih =>
    obtain ⟨results, rfl⟩ := ih fun job hjob => h job (by simp [hjob])
    obtain ⟨hwaiting, hrunning⟩ := h job (by simp)
    cases job with
    | waiting strategy => cases hwaiting
    | running course => cases hrunning
    | ended result => exact ⟨result :: results, rfl⟩

variable [Add Cost] [Zero Cost] [LT Cost] [DecidableLT Cost] {a : Assignment} {workers : Nat}
  {before : Ledger Cost} {event : Event Cost} {events : List (Event Cost)} {s s' s'' : State Cost}

/-- Where there is a worker, there is something to do. -/
theorem exists_step (hworkers : 0 < s.free + s.jobs.countP (·.isRunning))
    (hresult : s.result? = none) : ∃ event s', Step a s event s' := by
  obtain ⟨free, jobs, ledger, stage⟩ := s
  cases stage with
  | looping =>
    by_cases hrunning : ∃ job ∈ jobs, job.isRunning = true
    · obtain ⟨job, hmem, hrunning⟩ := hrunning
      obtain ⟨place, hjob⟩ := List.getElem?_of_mem hmem
      cases job with
      | waiting strategy => cases hrunning
      | ended result => cases hrunning
      | running course =>
        cases course with
        | done result => exact ⟨_, _, .ended hjob⟩
        | ask question next =>
          obtain ⟨reply⟩ := nonempty_answer question
          exact ⟨_, _, .called reply hjob⟩
    · -- all workers are free, so the first job that waits may begin
      have hnone : ∀ job ∈ jobs, job.isRunning = false := by simpa using hrunning
      have hzero : jobs.countP (·.isRunning) = 0 := by simpa using hnone
      cases hfind : jobs.findIdx? (·.isWaiting) with
      | none =>
        rw [List.findIdx?_eq_none_iff] at hfind
        obtain ⟨results, hjobs⟩ := exists_results fun job hjob => ⟨hfind job hjob, hnone job hjob⟩
        exact ⟨_, _, .joined hjobs⟩
      | some place =>
        obtain ⟨hlt, hwaiting, hbefore⟩ := List.findIdx?_eq_some_iff_getElem.1 hfind
        obtain ⟨free, rfl⟩ : ∃ n, free = n + 1 :=
          Nat.exists_eq_add_one.2 (by simpa [hzero] using hworkers)
        cases hjob : jobs[place] with
        | running course => simp [hjob, Job.isWaiting] at hwaiting
        | ended result => simp [hjob, Job.isWaiting] at hwaiting
        | waiting strategy =>
          refine ⟨_, _, .begun (List.getElem?_eq_some_iff.2 ⟨hlt, hjob⟩) fun job hmem => ?_⟩
          obtain ⟨i, hi, rfl⟩ := List.mem_take_iff_getElem.1 hmem
          simpa using hbefore i (by omega)
  | concluding course =>
    cases course with
    | done result => cases hresult
    | ask question next => exact ⟨_, _, .asked⟩
  | awaiting question next =>
    obtain ⟨reply, htrue⟩ := exists_isTrue ledger question
    exact ⟨_, _, .answered reply htrue⟩

omit [Add Cost] [Zero Cost] [LT Cost] [DecidableLT Cost] in
theorem free_add_running_set {free free' : Nat} {jobs : List (Job Cost)} {place : Nat}
    {job job' : Job Cost} (hjob : jobs[place]? = some job)
    (hfree : free' + (if job'.isRunning then 1 else 0) = free + if job.isRunning then 1 else 0) :
    free' + (jobs.set place job').countP (·.isRunning) = free + jobs.countP (·.isRunning) := by
  obtain ⟨hlt, rfl⟩ := List.getElem?_eq_some_iff.1 hjob
  have hle : (if jobs[place].isRunning then 1 else 0) ≤ jobs.countP (·.isRunning) := by
    split
    next hrunning => exact List.countP_pos_iff.2 ⟨_, List.getElem_mem hlt, hrunning⟩
    next => exact Nat.zero_le _
  rw [List.countP_set hlt]
  omega

/-- **Workers are neither lost nor gained.** -/
theorem Step.free_add_running (h : Step a s event s') :
    s'.free + s'.jobs.countP (·.isRunning) = s.free + s.jobs.countP (·.isRunning) := by
  cases h with
  | begun hjob | called _ hjob | ended hjob => exact free_add_running_set hjob rfl
  | joined | asked | answered => rfl

theorem Run.free_add_running (h : Run a s events s') :
    s'.free + s'.jobs.countP (·.isRunning) = s.free + s.jobs.countP (·.isRunning) := by
  induction h with
  | nil => rfl
  | cons h more ih => rw [ih, h.free_add_running]

/-! ## No course is endless -/

/-- Where a job can stand after where it stands. -/
inductive Job.Later (a : Assignment) : Job Cost → Job Cost → Prop
  | begun (strategy : Strategy) :
    Later a (.running (Repair.run (a.loop strategy))) (.waiting strategy)
  | called (question : Repair.Ask Cost) (next) (reply : Repair.Answer Cost question) :
    Later a (.running (next reply)) (.running (.ask question next))
  | ended (result : Except Failure (Repair.Report Cost)) :
    Later a (.ended result) (.running (.done result))

omit [Zero Cost] [LT Cost] [DecidableLT Cost] in
theorem acc_later (job : Job Cost) : Acc (Job.Later a) job := by
  have hended (result) : Acc (Job.Later a) (Job.ended result : Job Cost) := .intro _ nofun
  have hrunning (course) : Acc (Job.Later a) (Job.running course : Job Cost) := by
    induction course with
    | done result =>
      refine .intro _ fun _ h => ?_
      cases h
      exact hended result
    | ask question next ih =>
      refine .intro _ fun _ h => ?_
      cases h with
      | called _ _ reply => exact ih reply
  cases job with
  | ended result => exact hended result
  | running course => exact hrunning course
  | waiting strategy =>
    refine .intro _ fun _ h => ?_
    cases h
    exact hrunning _

/-- One of the jobs goes on. -/
def Moves (a : Assignment) (jobs' jobs : List (Job Cost)) : Prop :=
  ∃ (place : Nat) (job job' : Job Cost),
    jobs[place]? = some job ∧ jobs' = jobs.set place job' ∧ job'.Later a job

omit [Zero Cost] [LT Cost] [DecidableLT Cost] in
theorem acc_moves_cons {job : Job Cost} {jobs : List (Job Cost)} (hjob : Acc (Job.Later a) job)
    (hjobs : Acc (Moves a) jobs) : Acc (Moves a) (job :: jobs) := by
  -- the first job goes on while the others stay, or the other way round
  induction hjob generalizing jobs with
  | intro job _ ihjob =>
    induction hjobs with
    | intro jobs hacc ihjobs =>
      refine .intro _ ?_
      rintro _ ⟨_ | place, job₀, job', hplace, rfl, hlater⟩
      · cases hplace
        exact ihjob job' hlater (.intro jobs hacc)
      · exact ihjobs _ ⟨place, job₀, job', hplace, rfl, hlater⟩

omit [Zero Cost] [LT Cost] [DecidableLT Cost] in
theorem acc_moves (jobs : List (Job Cost)) : Acc (Moves a) jobs := by
  induction jobs with
  | nil =>
    refine .intro _ ?_
    rintro _ ⟨place, job, job', hplace, -⟩
    cases hplace
  | cons job jobs ih => exact acc_moves_cons (acc_later job) ih

/-- Where a selection can stand after where it stands. -/
def Later (a : Assignment) (s' s : State Cost) : Prop := ∃ event, Step a s event s'

theorem acc_concluding (free : Nat) (jobs : List (Job Cost)) (ledger : Ledger Cost)
    (course : Course Cost (Except Failure (Outcome Cost))) :
    Acc (Later a) ⟨free, jobs, ledger, .concluding course⟩ := by
  induction course with
  | done result => exact .intro _ fun _ ⟨_, h⟩ => by cases h
  | ask question next ih =>
    refine .intro _ fun _ ⟨_, h⟩ => ?_
    cases h
    refine .intro _ fun _ ⟨_, h⟩ => ?_
    cases h with
    | answered reply htrue => exact ih reply

theorem acc_looping (free : Nat) (jobs : List (Job Cost)) (ledger : Ledger Cost) :
    Acc (Later a) ⟨free, jobs, ledger, .looping⟩ := by
  have hacc : Acc (Moves a) jobs := acc_moves jobs
  induction hacc generalizing free ledger with
  | intro jobs _ ih =>
    refine .intro _ fun _ ⟨_, h⟩ => ?_
    cases h with
    | begun hjob hbefore => exact ih _ ⟨_, _, _, hjob, rfl, .begun _⟩ _ _
    | called reply hjob => exact ih _ ⟨_, _, _, hjob, rfl, .called _ _ reply⟩ _ _
    | ended hjob => exact ih _ ⟨_, _, _, hjob, rfl, .ended _⟩ _ _
    | joined hjobs => exact acc_concluding _ _ _ _

theorem acc_opening : Acc (Later a) (.opening a workers before) := by
  rw [State.opening]
  split
  · exact acc_concluding _ _ _ _
  · exact acc_looping _ _ _

/-! ## The end -/

/-- `ComesTo a P s`: whatever happens from `s` on, a selection comes to an end, and to a result of
which `P` holds. -/
inductive ComesTo (a : Assignment) (P : Except Failure (Outcome Cost) → Prop) : State Cost → Prop
  | ended {s : State Cost} {result} (hresult : s.result? = some result) (hP : P result) : ComesTo a P s
  | goesOn {s : State Cost} (hstep : ∃ event s', Step a s event s')
      (h : ∀ event s', Step a s event s' → ComesTo a P s') : ComesTo a P s

/-- **Every selection comes to an end,** and to a result of which holds whatever holds of all
results. -/
theorem comesTo_opening {P : Except Failure (Outcome Cost) → Prop}
    (hP : ∀ events s result, Run a (.opening a workers before) events s →
      s.result? = some result → P result) :
    ComesTo a P (.opening a workers before) := by
  suffices h : ∀ s, Acc (Later a) s → ∀ events, Run a (.opening a workers before) events s →
      ComesTo a P s from h _ acc_opening _ .nil
  intro s hacc
  induction hacc with
  | intro s _ ih =>
    intro events hrun
    cases hresult : s.result? with
    | some result => exact .ended hresult (hP events s result hrun hresult)
    | none =>
      have hworkers : 0 < s.free + s.jobs.countP (·.isRunning) := by
        rw [hrun.free_add_running]
        simp only [State.opening]
        omega
      exact .goesOn (exists_step hworkers hresult)
        fun event s' h => ih s' ⟨event, h⟩ _ (hrun.append (.cons h .nil))

end RemapSynth.Selection
