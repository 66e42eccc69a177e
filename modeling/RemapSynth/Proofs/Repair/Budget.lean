/-
One loop under two budgets. Collaborators that answer alike after the same
questions take both loops through the same iterations, as a loop reads its
budget in one place only: an iteration asks whether it is the last
(`run_iterate_last`). So a loop that is decided stays as it is under a larger
budget, and one that fails is only gone on with (`Outlasts`).

The collaborators are one function from a question and a state to an answer
and the next state. The state is whatever they remember: all calls so far,
learned rules, the ledger.
-/
import RemapSynth.Proofs.Dialogue
import RemapSynth.Proofs.Repair.Bookkeeping

namespace RemapSynth.Repair

open Chat Generation Dialogue

variable {Cost : Type}

/-- An assignment with another budget. -/
def Assignment.within (a : Assignment) (n : Nat) : Assignment :=
  { a with settings := { a.settings with maxIterations := n } }

/-- A loop that did not come to an end for want of iterations: it was aborted, or it succeeded. -/
def IsDecided (result : Except Failure (Report Cost)) : Prop :=
  ∀ report, result = .ok report → report.success = true

theorem not_isDecided {report : Report Cost} (h : report.success = false) :
    ¬ IsDecided (.ok report) := by
  intro hd
  simp [hd report rfl] at h

/-- `Outlasts rounds rounds'`: the second loop goes through the iterations of the first, up to
the last one, where it may part from it once the program is validated. -/
inductive Outlasts : List (Round Cost) → List (Round Cost) → Prop
  | last {final current : Round Cost} (later : List (Round Cost))
      (hv : validations current.calls = validations final.calls)
      (hd : current.record.diagnosis = final.record.diagnosis) :
    Outlasts [final] (current :: later)
  | cons (r : Round Cost) {rounds rounds' : List (Round Cost)} (h : Outlasts rounds rounds') :
    Outlasts (r :: rounds) (r :: rounds')

namespace Outlasts

variable {rounds rounds' : List (Round Cost)}

/-- A loop goes on as another one that does the same in its last iteration. -/
theorem single (r : Round Cost) (later : List (Round Cost)) : Outlasts [r] (r :: later) :=
  .last later rfl rfl

theorem validations_eq (h : Outlasts rounds rounds') :
    validations (callsOf (rounds'.take rounds.length)) = validations (callsOf rounds) := by
  induction h with
  | last later hv hd => simp [hv]
  | cons r h ih => simp [ih]

theorem records_eq (h : Outlasts rounds rounds') :
    (rounds'.map (·.record)).take (rounds.length - 1) =
      (rounds.map (·.record)).take (rounds.length - 1) := by
  induction h with
  | last later hv hd => rfl
  | @cons r rounds rounds' h ih =>
    cases rounds with
    | nil => rfl
    | cons x xs => simpa using ih

theorem diagnosis_eq (h : Outlasts rounds rounds') :
    ∃ r r', (rounds.map (·.record))[rounds.length - 1]? = some r ∧
      (rounds'.map (·.record))[rounds.length - 1]? = some r' ∧ r'.diagnosis = r.diagnosis := by
  induction h with
  | @last final current later hv hd => exact ⟨final.record, current.record, rfl, rfl, hd⟩
  | @cons r rounds rounds' h ih =>
    cases rounds with
    | nil => cases h
    | cons x xs => simpa using ih

end Outlasts

variable [Add Cost] {a : Assignment} {σ : Type} {answer : (q : Ask Cost) → σ → Answer Cost q × σ}
  {number left left' n : Nat} {isLast : Bool} {pending next : Pending} {notes notes' : Notes Cost}
  {code : String} {v : Verdict} {calls : List (Call Cost)} {rounds rounds' : List (Round Cost)}
  {record : Record} {step : Step Cost} {report report' : Report Cost} {s : σ}

/-! ## What depends on the budget -/

theorem seed_within : (seed (a.within n) : Course Cost _) = seed a := rfl

theorem afterFailure_within : afterFailure (a.within n) number isLast code v notes =
    afterFailure a number isLast code v notes := by
  simp only [afterFailure]
  rfl

theorem judge_within :
    judge (a.within n) number isLast code notes = judge a number isLast code notes := by
  refine congrArg (Dialogue.ask _) (funext fun answer => ?_)
  cases answer with
  | error failure => rfl
  | ok v => simp only [afterFailure_within]

theorem iterate_within :
    iterate (a.within n) number isLast pending notes = iterate a number isLast pending notes := by
  cases pending with
  | code code => exact judge_within
  | simplify =>
    exact congrArg (produce a.simpler notes _ _) (funext fun _ => funext fun _ => judge_within)

theorem iterations_within :
    iterations (a.within n) left number pending notes = iterations a left number pending notes := by
  induction left generalizing number pending notes with
  | zero => simp only [iterations, iterate_within]
  | succ left ih => simp only [iterations, iterate_within, ih]

theorem run_within : (run (a.within n) : Course Cost _) =
    (seed a).bind fun step => step.andThen (iterations a (max n 1 - 1) 1) := by
  rw [run, seed_within]
  congr
  funext step
  cases step with
  | abort failure => rfl
  | stop report => rfl
  | next pending notes => exact iterations_within

theorem Advances.within (h : Advances a number pending notes rounds next notes') :
    Advances (a.within n) number pending notes rounds next notes' := by
  induction h with
  | refl => exact .refl
  | step h hr more ih => exact .step (by rwa [iterate_within]) hr ih

theorem Iterates.within (h : Iterates a left number pending notes calls rounds report) :
    Iterates (a.within n) left number pending notes calls rounds report := by
  obtain ⟨going, final, notes', hadv, hend, hrest⟩ := h
  refine ⟨going, final, notes', hadv.within, ?_, hrest⟩
  cases hend with
  | stopped h hr => exact .stopped (by rwa [iterate_within]) hr
  | spent hl h hr => exact .spent hl (by rwa [iterate_within]) hr

/-! ## The last iteration of a budget -/

theorem Judged.diagnosis {tried : String}
    (h : Judged a number isLast code notes calls (some record) step)
    (hv : validations calls = [(tried, .ok v)]) (hp : v.passed = false) :
    record.diagnosis = some v.kind := by
  cases h <;> simp_all [validations, Call.validation?]

/-- A record gives the kind of the failure that was found. -/
theorem Turn.diagnosis (h : Turn a number isLast notes pending calls (some record) step)
    (hv : validations calls = [(code, .ok v)]) (hp : v.passed = false) :
    record.diagnosis = some v.kind := by
  cases h with
  | given h => exact h.diagnosis hv hp
  | simplified g h => exact h.diagnosis hv hp
  | missed failure hn => cases hv

/-- A program that is validated in the last iteration of a budget, beside the same iteration of a
larger budget: the two part only after a verdict that does not pass. -/
theorem run_judge_last (answer : (q : Ask Cost) → σ → Answer Cost q × σ) (a : Assignment)
    (number : Nat) (code : String) (notes : Notes Cost) (s : σ) :
    let last := (judge a number true code notes).run answer s
    let more := (judge a number false code notes).run answer s
    more = last ∨ ∃ v report, v.passed = false ∧ last.1 = .stop report ∧ report.success = false ∧
      validations last.2.1 = [(code, .ok v)] ∧ validations more.2.1 = [(code, .ok v)] := by
  obtain ⟨r, hmore⟩ := history_judge (history_run answer (judge a number false code notes) s)
  obtain ⟨verdict, hone⟩ := hmore.validated
  simp only [judge, Dialogue.run] at hone ⊢
  -- both ask for the same verdict first, and so get the same one
  generalize answer (.validate code a.samples) s = reply at hone ⊢
  obtain ⟨failure | v, t⟩ := reply
  · exact .inl rfl
  · obtain ⟨hverdict, -⟩ := List.cons.inj hone
    cases hverdict
    cases hp : v.passed
    · simp only [hp] at hone ⊢
      exact .inr ⟨v, _, hp, rfl, rfl, rfl, hone⟩
    · exact .inl (by simp only [hp, if_true])

/-- **The one place where the budget is read.** An iteration that is the last of its budget goes
as it goes under a larger one, unless it has a program that does not pass. -/
theorem run_iterate_last (answer : (q : Ask Cost) → σ → Answer Cost q × σ) (a : Assignment)
    (number : Nat) (pending : Pending) (notes : Notes Cost) (s : σ) :
    let last := (iterate a number true pending notes).run answer s
    let more := (iterate a number false pending notes).run answer s
    more = last ∨ ∃ code v report, v.passed = false ∧ last.1 = .stop report ∧
      report.success = false ∧ validations last.2.1 = [(code, .ok v)] ∧
      validations more.2.1 = [(code, .ok v)] := by
  cases pending with
  | code code =>
    obtain heq | hparts := run_judge_last answer a number code notes s
    · exact .inl heq
    · exact .inr ⟨code, hparts⟩
  | simplify =>
    simp only [iterate, produce, Dialogue.run]
    generalize answer (.produce a.simpler) s = reply
    obtain ⟨failure | g, t⟩ := reply
    · exact .inl rfl
    · simp only [Dialogue.run]
      obtain heq | hparts := run_judge_last answer a number g.code
        (notes.spend g.usage) (answer (.record g.usage) t).2
      · exact .inl (by rw [heq])
      · exact .inr ⟨g.code, hparts⟩

/-! ## All iterations -/

/-- A loop that is decided within some iterations asks nothing else with more of them. -/
theorem run_iterations_of_decided (hle : left ≤ left')
    (hd : IsDecided ((iterations a left number pending notes).run answer s).1) :
    (iterations a left' number pending notes).run answer s =
      (iterations a left number pending notes).run answer s := by
  induction left generalizing left' number pending notes s with
  | zero =>
    cases left' with
    | zero => rfl
    | succ k =>
      simp only [iterations, run_bind] at hd ⊢
      obtain heq | ⟨code, v, report, -, hlast, hfailed, -⟩ :=
        run_iterate_last answer a number pending notes s
      · rw [heq]
        cases hstep : ((iterate a number true pending notes).run answer s).1 with
        | abort failure => rfl
        | stop report => rfl
        | next next notes' =>
          -- the budget is spent: this is a report of a failure
          simp only [hstep] at hd
          exact absurd hd (not_isDecided rfl)
      · simp only [hlast] at hd
        exact absurd hd (not_isDecided hfailed)
  | succ left ih =>
    obtain ⟨k, rfl⟩ : ∃ k, left' = k + 1 := ⟨left' - 1, by omega⟩
    simp only [iterations, run_bind] at hd ⊢
    cases hstep : ((iterate a number false pending notes).run answer s).1 with
    | abort failure => rfl
    | stop report => rfl
    | next next notes' =>
      simp only [hstep, Step.andThen] at hd ⊢
      rw [ih (by omega) hd]

theorem Iterates.length_le (h : Iterates a left number pending notes calls rounds report) :
    rounds.length ≤ left + 1 := by
  obtain ⟨going, final, notes', -, -, hle, rfl, -⟩ := h
  simpa using hle

/-- What a run of iterations that comes to a report unfolds to, by the first of them. -/
theorem exists_iterates_of_run (h : ((iterations a left number pending notes).run answer s).1 =
      .ok report) :
    let first := (iterate a number (0 == left) pending notes).run answer s
    ∃ record later, first.1.records? = some (notes.records ++ [record]) ∧
      Iterates a left number pending notes
        ((iterations a left number pending notes).run answer s).2.1
        (⟨pending, first.2.1, record⟩ :: later) report := by
  intro first
  rw [iterations_eq, run_bind] at h ⊢
  have hrest := history_run answer (first.1.andThen (onwards a left number)) first.2.2
  rw [h] at hrest
  exact exists_iterates_of_first (history_run answer _ s) hrest

/-- **A loop is only gone on with** by one that has more iterations. -/
theorem exists_outlasts (hlt : left < left')
    (hx : ((iterations a left number pending notes).run answer s).1 = .ok report)
    (hy : ((iterations a left' number pending notes).run answer s).1 = .ok report') :
    ∃ rounds rounds', Outlasts rounds rounds' ∧
      Iterates a left number pending notes
        ((iterations a left number pending notes).run answer s).2.1 rounds report ∧
      Iterates a left' number pending notes
        ((iterations a left' number pending notes).run answer s).2.1 rounds' report' := by
  induction left generalizing left' number pending notes s with
  | zero =>
    obtain ⟨k, rfl⟩ : ∃ k, left' = k + 1 := ⟨left' - 1, by omega⟩
    obtain ⟨final, more, hfinal, hxs⟩ := exists_iterates_of_run hx
    obtain ⟨current, later, hcurrent, hys⟩ := exists_iterates_of_run hy
    obtain rfl : more = [] := by simpa using hxs.length_le
    -- the first iteration is the last of the one loop only
    have hend := history_run answer (iterate a number true pending notes) s
    have hgo := history_run answer (iterate a number false pending notes) s
    refine ⟨_, _, ?_, hxs, hys⟩
    obtain heq | ⟨code, v, r, hv, -, -, hlast, hmore⟩ :=
      run_iterate_last answer a number pending notes s
    · rw [beq_self_eq_true, ← heq] at hfinal
      have hrecords := hfinal.symm.trans hcurrent
      simp only [Option.some.injEq, List.append_cancel_left_eq, List.cons.injEq, and_true]
        at hrecords
      exact .last later (congrArg (fun x => validations x.2.1) heq) (congrArg _ hrecords.symm)
    · have hd := (turn_of_history hend hfinal).diagnosis hlast hv
      have hd' := (turn_of_history hgo hcurrent).diagnosis hmore hv
      exact .last later (hmore.trans hlast.symm) (hd'.trans hd.symm)
  | succ left ih =>
    obtain ⟨k, rfl⟩ : ∃ k, left' = k + 1 := ⟨left' - 1, by omega⟩
    have hfirst := history_run answer (iterate a number false pending notes) s
    simp only [iterations, run_bind] at hx hy ⊢
    generalize (iterate a number false pending notes).run answer s = first at hx hy hfirst ⊢
    obtain ⟨step, calls, t⟩ := first
    cases step with
    | abort failure => cases hx
    | stop r =>
      cases hx
      cases hy
      obtain ⟨record, hr⟩ := exists_record hfirst (by simp)
      simp only [Step.andThen, Dialogue.run, List.append_nil]
      exact ⟨_, _, .single _ [], .stopped hfirst (Option.some.inj hr),
        .stopped hfirst (Option.some.inj hr)⟩
    | next next notes' =>
      obtain ⟨record, hr⟩ := exists_record hfirst (by simp)
      obtain ⟨rounds, rounds', houtlasts, hxs, hys⟩ := ih (by omega) hx hy
      exact ⟨_, _, .cons _ houtlasts, .cons hfirst (Option.some.inj hr) hxs,
        .cons hfirst (Option.some.inj hr) hys⟩

/-! ## The loop -/

/-- A loop that is decided within a budget stays as it is within a larger one. -/
theorem run_of_isDecided {m : Nat} (hm : n ≤ m)
    (hd : IsDecided ((run (a.within n)).run answer s).1) :
    (run (a.within m)).run answer s = (run (a.within n)).run answer s := by
  rw [run_within, run_bind] at hd ⊢
  rw [run_within, run_bind]
  cases hstep : ((seed a).run answer s).1 with
  | abort failure => rfl
  | stop report => rfl
  | next pending notes =>
    simp only [hstep, Step.andThen] at hd ⊢
    rw [run_iterations_of_decided (by omega) hd]

/-- Two budgets, and the iterations of a loop within each. -/
theorem exists_unfolds_outlasts {m : Nat} (hn : 1 ≤ n) (hm : n < m)
    (hx : ((run (a.within n)).run answer s).1 = .ok report)
    (hy : ((run (a.within m)).run answer s).1 = .ok report') :
    ∃ rounds rounds', Outlasts rounds rounds' ∧
      Unfolds (a.within n) ((run (a.within n)).run answer s).2.1 rounds report ∧
      Unfolds (a.within m) ((run (a.within m)).run answer s).2.1 rounds' report' := by
  rw [run_within, run_bind] at hx hy ⊢
  rw [run_within, run_bind]
  have hseed := history_run answer (seed a) s
  generalize (seed a).run answer s = first at hx hy hseed ⊢
  obtain ⟨step, opening, t⟩ := first
  cases step with
  | abort failure => cases hx
  | stop r => exact absurd rfl (seed_ne_stop hseed)
  | next pending notes =>
    obtain ⟨rounds, rounds', houtlasts, hxs, hys⟩ := exists_outlasts (by omega) hx hy
    exact ⟨rounds, rounds', houtlasts, hxs.within.unfolds hseed, hys.within.unfolds hseed⟩

/-- What is validated is validated in the iterations. -/
theorem Unfolds.validations_eq (h : Unfolds a calls rounds report) :
    validations calls = validations (callsOf rounds) := by
  obtain ⟨opening, pending, notes, going, final, notes', hs, -, -, -, -, rfl⟩ := h
  obtain ⟨-, -, -, hnone, -⟩ := seed_audited hs
  rw [validations_append, hnone, List.nil_append]

/-- **A larger budget never loses or changes a success.** With it, a loop that was aborted or came
to a success within the smaller one does just the same. Any other loop validates the same programs
in as many iterations, and leaves the same records there but for the last, which is of the same
kind. -/
theorem run_larger_budget (answer : (q : Ask Cost) → σ → Answer Cost q × σ) (a : Assignment)
    (s : σ) {n m : Nat} (hn : 1 ≤ n) (hm : n ≤ m) :
    let short := (run (a.within n)).run answer s
    let long := (run (a.within m)).run answer s
    (IsDecided short.1 → long = short) ∧
    ∀ report report', n < m → short.1 = .ok report → long.1 = .ok report' →
      ∃ rounds, Unfolds (a.within m) long.2.1 rounds report' ∧
        validations (callsOf (rounds.take report.iterations)) = validations short.2.1 ∧
        report'.records.take (report.iterations - 1) =
          report.records.take (report.iterations - 1) ∧
        ∃ r r', report.records[report.iterations - 1]? = some r ∧
          report'.records[report.iterations - 1]? = some r' ∧ r'.diagnosis = r.diagnosis := by
  intro short long
  refine ⟨run_of_isDecided hm, fun report report' hlt hx hy => ?_⟩
  obtain ⟨rounds, rounds', houtlasts, hshort, hlong⟩ := exists_unfolds_outlasts hn hlt hx hy
  obtain ⟨hrecords, hiterations, -⟩ := hshort.records
  obtain ⟨hrecords', -⟩ := hlong.records
  refine ⟨rounds', hlong, ?_, ?_, ?_⟩
  · rw [hiterations, houtlasts.validations_eq]
    exact hshort.validations_eq.symm
  · rw [hiterations, hrecords, hrecords']
    exact houtlasts.records_eq
  · rw [hiterations, hrecords, hrecords']
    exact houtlasts.diagnosis_eq

/-- Collaborators who find fault with two programs and accept the third; the state counts the
programs they were shown. -/
def thirdTime : (q : Ask Nat) → Nat → Answer Nat q × Nat
  | .produce _, shown => (.ok ⟨"a", none⟩, shown)
  | .validate _ _, shown => (if shown < 2 then faulty .malformed else .ok .pass, shown + 1)
  | .fix _ _, shown => (none, shown)
  | .record _, shown => ((), shown)

theorem run_larger_budget_thirdTime :
    ∃ failed passed : Report Nat,
      ((run (trial.within 2)).run thirdTime 0).1 = .ok failed ∧ failed.success = false ∧
      ((run (trial.within 3)).run thirdTime 0).1 = .ok passed ∧ passed.success = true ∧
      (run (trial.within 5)).run thirdTime 0 = (run (trial.within 3)).run thirdTime 0 ∧
      passed.records.take 1 = failed.records.take 1 ∧
      ∃ rounds, Unfolds (trial.within 3) ((run (trial.within 3)).run thirdTime 0).2.1 rounds passed ∧
        validations (callsOf (rounds.take 2)) =
          [("a", faulty .malformed), ("a", faulty .malformed)] := by
  have htwo : 1 ≤ 2 ∧ 2 ≤ 3 ∧ 2 < 3 := by decide
  have hthree : 1 ≤ 3 ∧ 3 ≤ 5 := by decide
  refine ⟨_, _, rfl, rfl, rfl, rfl, ?_, ?_⟩
  · refine (run_larger_budget thirdTime trial 0 hthree.1 hthree.2).1 fun report hreport => ?_
    cases hreport
    rfl
  · obtain ⟨rounds, hunfolds, hvalidations, hrecords, -⟩ :=
      (run_larger_budget thirdTime trial 0 htwo.1 htwo.2.1).2 _ _ htwo.2.2 rfl rfl
    exact ⟨hrecords, rounds, hunfolds, hvalidations⟩

end RemapSynth.Repair
