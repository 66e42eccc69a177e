/-
What ends a repair loop without a report, and what does not. A loop is
aborted by the first answer that is fatal: any failure of the validator, and
a failure of a generator that trying again cannot help. Nothing is asked
after it, and what was paid for by then is in the ledger.

A model that answers with nothing usable aborts no loop. Its failure leads
to a simpler program; where that is what failed, it costs an iteration.

`Goes` is the unfolding of a loop however it ends. A loop that is aborted
(`Breaks`) has rounds too: the iterations before the one that was cut off.
-/
import RemapSynth.Proofs.Dialogue
import RemapSynth.Proofs.Repair.Cycle
import RemapSynth.Proofs.Repair.Spending

namespace RemapSynth.Repair

open Chat Generation Dialogue

variable {Cost : Type}

/-! ## Calls that abort -/

/-- The failure in an answer that aborts a loop. -/
def Call.abort? : Call Cost → Option Failure
  | ⟨.produce _, .error failure⟩ => if failure.isFatal then some failure else none
  | ⟨.validate _ _, .error failure⟩ => some failure
  | _ => none

/-- No call aborts a loop. -/
def Unbroken (calls : List (Call Cost)) : Prop := ∀ c ∈ calls, c.abort? = none

/-- The last call aborts a loop, and no other does. -/
def BrokenBy (failure : Failure) (calls : List (Call Cost)) : Prop :=
  ∃ earlier c, calls = earlier ++ [c] ∧ c.abort? = some failure ∧ Unbroken earlier

@[simp] theorem unbroken_nil : Unbroken ([] : List (Call Cost)) := by simp [Unbroken]

@[simp] theorem unbroken_cons {c : Call Cost} {calls : List (Call Cost)} :
    Unbroken (c :: calls) ↔ c.abort? = none ∧ Unbroken calls := List.forall_mem_cons

theorem unbroken_append {xs ys : List (Call Cost)} :
    Unbroken (xs ++ ys) ↔ Unbroken xs ∧ Unbroken ys := List.forall_mem_append

theorem unbroken_callsOf {rounds : List (Round Cost)} (h : ∀ r ∈ rounds, Unbroken r.calls) :
    Unbroken (callsOf rounds) := by
  intro c hc
  obtain ⟨r, hr, hc⟩ := List.mem_flatMap.1 hc
  exact h r hr c hc

theorem Unbroken.findSome?_eq {calls : List (Call Cost)} (h : Unbroken calls) :
    calls.findSome? Call.abort? = none := List.findSome?_eq_none_iff.2 h

theorem Unbroken.append_brokenBy {xs ys : List (Call Cost)} {failure : Failure}
    (hx : Unbroken xs) (hy : BrokenBy failure ys) : BrokenBy failure (xs ++ ys) := by
  obtain ⟨earlier, c, rfl, hc, hearlier⟩ := hy
  exact ⟨xs ++ earlier, c, by simp, hc, unbroken_append.2 ⟨hx, hearlier⟩⟩

theorem BrokenBy.findSome?_eq {calls : List (Call Cost)} {failure : Failure}
    (h : BrokenBy failure calls) : calls.findSome? Call.abort? = some failure := by
  obtain ⟨earlier, c, rfl, hc, hearlier⟩ := h
  simp [List.findSome?_append, hearlier.findSome?_eq, hc]

/-- Nothing follows a call that aborts. -/
theorem BrokenBy.eq_nil {before after : List (Call Cost)} {c : Call Cost} {failure : Failure}
    (h : BrokenBy failure (before ++ c :: after)) (hc : c.abort? ≠ none) : after = [] := by
  obtain ⟨earlier, last, hsplit, -, hearlier⟩ := h
  exact (eq_last_of_split _ hsplit.symm fun hm => hc (hearlier c hm)).2.2

/-- What follows a step of a loop that is aborted. -/
theorem history_andThen_error {step : Step Cost} {calls : List (Call Cost)} {failure : Failure}
    {goOn : Pending → Notes Cost → Course Cost (Except Failure (Report Cost))}
    (h : History (step.andThen goOn) calls (.error failure)) :
    (step = .abort failure ∧ calls = []) ∨
      ∃ next notes', step = .next next notes' ∧
        History (goOn next notes') calls (.error failure) := by
  cases step with
  | abort f =>
    simp only [Step.andThen, history_done, Except.error.injEq] at h
    exact .inl ⟨by rw [h.2], h.1⟩
  | stop report => simp [Step.andThen, history_done] at h
  | next next notes' => exact .inr ⟨next, notes', rfl, h⟩

section
variable [Add Cost] {a : Assignment} {number : Nat} {isLast : Bool} {notes notes' : Notes Cost}
  {pending next : Pending} {calls : List (Call Cost)} {r : Option Record} {step : Step Cost}
  {rounds : List (Round Cost)} {result : Except Failure (Report Cost)} {failure : Failure}

/-! ## One iteration -/

theorem Judged.unbroken {code : String} {r : Record}
    (h : Judged a number isLast code notes calls (some r) step) : Unbroken calls := by
  cases h <;> simp [Call.abort?, *]

/-- An iteration that leaves a record has met nothing that aborts. -/
theorem Turn.unbroken {r : Record} (h : Turn a number isLast notes pending calls (some r) step) :
    Unbroken calls := by
  cases h with
  | given h => exact h.unbroken
  | simplified g h => simp [Call.abort?, h.unbroken]
  | missed failure hn => simp [Call.abort?, hn]

theorem Judged.brokenBy {code : String}
    (h : Judged a number isLast code notes calls none step) :
    ∃ failure, step = .abort failure ∧ BrokenBy failure calls := by
  cases h with
  | broken failure => exact ⟨failure, rfl, [], _, rfl, rfl, unbroken_nil⟩
  | aborted v hv hl hf hc failure hn =>
    exact ⟨failure, rfl, [_, _], _, rfl, by simp [Call.abort?, hn], by simp [Call.abort?]⟩

/-- An iteration without a record is cut off by the last of its answers. -/
theorem Turn.brokenBy (h : Turn a number isLast notes pending calls none step) :
    ∃ failure, step = .abort failure ∧ BrokenBy failure calls := by
  cases h with
  | given h => exact h.brokenBy
  | simplified g h =>
    obtain ⟨failure, hstep, hbroken⟩ := h.brokenBy
    have hproduce : Unbroken
        [(⟨.produce a.simpler, .ok g⟩ : Call Cost), ⟨.record g.usage, ()⟩] := by
      simp [Call.abort?]
    exact ⟨failure, hstep, hproduce.append_brokenBy hbroken⟩
  | aborted failure hn =>
    exact ⟨failure, rfl, [], _, rfl, by simp [Call.abort?, hn], unbroken_nil⟩

/-- An iteration that aborts the loop. -/
theorem brokenBy_of_history
    (h : History (iterate a number isLast pending notes) calls (.abort failure)) :
    BrokenBy failure calls := by
  obtain ⟨r, hturn⟩ := history_iterate h
  cases r with
  | none =>
    obtain ⟨_, ⟨⟩, hbroken⟩ := hturn.brokenBy
    exact hbroken
  | some r => cases hturn.records

theorem Advances.unbroken (h : Advances a number pending notes rounds next notes') :
    Unbroken (callsOf rounds) := by
  refine unbroken_callsOf fun r hr => ?_
  obtain ⟨earlier, later, rfl⟩ := List.append_of_mem hr
  obtain ⟨_, _, _, -, hturn, -⟩ := h.split
  exact hturn.unbroken

/-! ## A loop however it ends -/

/-- `Breaks a calls rounds failure`: the loop for `a` asks `calls` and is aborted, by its seed or
by the iteration that comes after `rounds`. -/
inductive Breaks (a : Assignment) :
    (calls : List (Call Cost)) → (rounds : List (Round Cost)) → Failure → Prop
  | seed {failure : Failure} (hn : failure.isFatal = true) :
    Breaks a [⟨.produce a.first, .error failure⟩] [] failure
  | iteration {opening rounds last : List _} {pending next : Pending} {notes notes' : Notes Cost}
      {failure : Failure} (hs : History (seed a) opening (.next pending notes))
      (hadv : Advances a 1 pending notes rounds next notes') (hlt : rounds.length < a.budget)
      (hlast : History
        (iterate a (rounds.length + 1) (rounds.length + 1 == a.budget) next notes') last
        (.abort failure)) :
    Breaks a (opening ++ callsOf rounds ++ last) rounds failure

/-- `Goes a calls rounds result`: the loop for `a` asks `calls` and comes to `result`; of its
iterations, `rounds` have left a record. -/
def Goes (a : Assignment) (calls : List (Call Cost)) (rounds : List (Round Cost)) :
    Except Failure (Report Cost) → Prop
  | .ok report => Unfolds a calls rounds report
  | .error failure => Breaks a calls rounds failure

/-- The iterations from `number` on, up to the one that is cut off. -/
theorem exists_rounds_of_error {left : Nat}
    (h : History (iterations a left number pending notes) calls (.error failure)) :
    ∃ rounds next notes' last, Advances a number pending notes rounds next notes' ∧
      History (iterate a (number + rounds.length) (rounds.length == left) next notes') last
        (.abort failure) ∧ rounds.length ≤ left ∧ calls = callsOf rounds ++ last := by
  induction left generalizing number pending notes calls with
  | zero =>
    rw [iterations, history_bind] at h
    obtain ⟨step, first, rest, rfl, hs, h⟩ := h
    obtain ⟨rfl, rfl⟩ | ⟨next, notes', rfl, h'⟩ := history_andThen_error h
    · exact ⟨[], pending, notes, first, .refl, hs, Nat.le_refl _, by simp⟩
    · simp [history_done] at h'
  | succ left ih =>
    rw [iterations, history_bind] at h
    obtain ⟨step, first, rest, rfl, hs, h⟩ := h
    obtain ⟨rfl, rfl⟩ | ⟨next, notes', rfl, h'⟩ := history_andThen_error h
    · exact ⟨[], pending, notes, first, .refl, hs, Nat.zero_le _, by simp⟩
    · obtain ⟨record, hr⟩ := exists_record hs (by simp)
      obtain ⟨rounds, last, notes'', final, hadv, hfinal, hle, rfl⟩ := ih h'
      have hnumber : number + 1 + rounds.length = number + (rounds.length + 1) := by omega
      have hlast : (rounds.length == left) = (rounds.length + 1 == left + 1) := by simp
      rw [hnumber, hlast] at hfinal
      exact ⟨⟨pending, first, record⟩ :: rounds, last, notes'', final,
        .step hs (Option.some.inj hr) hadv, hfinal, by simpa using hle, by simp⟩

/-- A loop that is aborted is its seed, then its iterations up to the one that is cut off. -/
theorem exists_breaks (h : History (run a) calls (.error failure)) :
    ∃ rounds, Breaks a calls rounds failure := by
  rw [run, history_bind] at h
  obtain ⟨step, opening, rest, rfl, hs, h⟩ := h
  obtain ⟨rfl, rfl⟩ | ⟨pending, notes, rfl, h'⟩ := history_andThen_error h
  · simp only [seed, history_produce, history_done] at hs
    obtain ⟨g, rest, -, -, ⟨⟩⟩ | ⟨f, rfl, hs⟩ := hs
    split at hs
    · cases hs
      exact ⟨[], .seed ‹_›⟩
    · cases hs
  · obtain ⟨rounds, next, notes', last, hadv, hlast, hle, rfl⟩ := exists_rounds_of_error h'
    have hbudget : 1 ≤ a.budget := Nat.le_max_right _ _
    have hisLast : (rounds.length == a.budget - 1) = (rounds.length + 1 == a.budget) := by
      rw [Bool.eq_iff_iff, beq_iff_eq, beq_iff_eq]
      omega
    rw [hisLast, Nat.add_comm 1] at hlast
    rw [← List.append_assoc]
    exact ⟨rounds, .iteration hs hadv (by omega) hlast⟩

/-- **Every loop goes some way.** -/
theorem exists_goes (h : History (run a) calls result) : ∃ rounds, Goes a calls rounds result := by
  cases result with
  | ok report => exact exists_unfolds h
  | error failure => exact exists_breaks h

theorem seed_unbroken (h : History (seed a) calls (.next pending notes)) : Unbroken calls := by
  obtain ⟨g, rfl, -⟩ | ⟨failure, rfl, hn, -⟩ := seed_cases h
  · simp [Call.abort?]
  · simp [Call.abort?, hn]

theorem Unfolds.unbroken {report : Report Cost} (h : Unfolds a calls rounds report) :
    Unbroken calls := by
  have hrounds : Unbroken (callsOf rounds) := by
    refine unbroken_callsOf fun r hr => ?_
    obtain ⟨_, _, _, _, hturn⟩ := h.turn_of_mem hr
    exact hturn.unbroken
  obtain ⟨opening, _, _, _, _, _, hs, -, -, -, -, rfl⟩ := h
  exact unbroken_append.2 ⟨seed_unbroken hs, hrounds⟩

theorem Breaks.brokenBy (h : Breaks a calls rounds failure) : BrokenBy failure calls := by
  cases h with
  | seed hn => exact ⟨[], _, rfl, by simp [Call.abort?, hn], unbroken_nil⟩
  | iteration hs hadv hlt hlast =>
    have hbefore := unbroken_append.2 ⟨seed_unbroken hs, hadv.unbroken⟩
    exact hbefore.append_brokenBy (brokenBy_of_history hlast)

/-- What a loop comes to is told by the failure that aborts it, if there is one. -/
theorem Goes.error_iff (h : Goes a calls rounds result) :
    result = .error failure ↔ calls.findSome? Call.abort? = some failure := by
  cases result with
  | ok report =>
    have h : Unfolds a calls rounds report := h
    simp [h.unbroken.findSome?_eq]
  | error f =>
    have h : Breaks a calls rounds f := h
    simp [h.brokenBy.findSome?_eq]

theorem Goes.eq_nil {before after : List (Call Cost)} {c : Call Cost}
    (h : Goes a (before ++ c :: after) rounds result) (hc : c.abort? ≠ none) : after = [] := by
  cases result with
  | ok report =>
    have h : Unfolds a (before ++ c :: after) rounds report := h
    exact absurd (h.unbroken c (by simp)) hc
  | error f =>
    have h : Breaks a (before ++ c :: after) rounds f := h
    exact h.brokenBy.eq_nil hc

/-! ## Failures that abort nothing -/

/-- What comes of a failure that aborts nothing, of a generator that was asked for `task`: what was
asked `before` it, and what is asked `after` it. -/
inductive Recovers (a : Assignment) (rounds : List (Round Cost)) (failure : Failure) :
    (before : List (Call Cost)) → Task → (after : List (Call Cost)) → Prop
  /-- Without a seed, a simpler program is asked for. -/
  | seed (answer : Answer Cost (.produce a.simpler)) (more : List (Call Cost)) :
    Recovers a rounds failure [] a.first (⟨.produce a.simpler, answer⟩ :: more)
  /-- Without a repair, a simpler program is asked for. -/
  | repair (before : List (Call Cost)) (code message : String) (samples : Option (List Sample))
      (context : Option String) (answer : Answer Cost (.produce a.simpler))
      (more : List (Call Cost)) :
    Recovers a rounds failure before (.repair code message samples context)
      (⟨.produce a.simpler, answer⟩ :: more)
  /-- Without a simpler program, the iteration is over; its record names no kind of failure. -/
  | simpler (before after : List (Call Cost)) (hb : before ≠ []) (earlier later : List (Round Cost))
      (current : Round Cost) (hr : rounds = earlier ++ current :: later)
      (hcalls : current.calls = [⟨.produce a.simpler, .error failure⟩])
      (hrecord : current.record =
        ⟨earlier.length + 1, none, false, some .generationError⟩) :
    Recovers a rounds failure before a.simpler after

omit [Add Cost] in
/-- A call of some iterations is a call of one of them. -/
theorem exists_of_callsOf_eq {before after : List (Call Cost)} {c : Call Cost}
    (h : callsOf rounds = before ++ c :: after) :
    ∃ earlier current later init rest, rounds = earlier ++ current :: later ∧
      current.calls = init ++ c :: rest ∧ before = callsOf earlier ++ init ∧
      after = rest ++ callsOf later := by
  induction rounds generalizing before with
  | nil => simp at h
  | cons r rounds ih =>
    obtain ⟨rest, hr, rfl⟩ | ⟨init, rfl, hrounds⟩ := split_of_append_eq _ h
    · exact ⟨[], r, rounds, before, rest, rfl, hr, rfl, rfl⟩
    · obtain ⟨earlier, current, later, init, rest, rfl, hcurrent, rfl, rfl⟩ := ih hrounds
      exact ⟨r :: earlier, current, later, init, rest, rfl, hcurrent, by simp, rfl⟩

/-- The failure of a generator in a program's part of an iteration: it was asked for a repair, and
nothing more is asked. -/
theorem Judged.unusable {code : String} {r : Record} {task : Task} {before after : List (Call Cost)}
    (h : Judged a number isLast code notes (before ++ ⟨.produce task, .error failure⟩ :: after)
      (some r) step) :
    isLast = false ∧ after = [] ∧ (∃ notes', step = .next .simplify notes') ∧
      ∃ code message samples context, task = .repair code message samples context := by
  generalize hcalls : before ++ ⟨.produce task, .error failure⟩ :: after = calls at h
  cases h with
  | unrepaired v hv hl hf hc f hn =>
    obtain ⟨-, hlast, rfl⟩ := eq_last_of_split [_, _] hcalls.symm (by simp)
    cases hlast
    exact ⟨hl, rfl, ⟨_, rfl⟩, _, _, _, _, rfl⟩
  | _ => simpa using mem_of_split hcalls.symm

/-- The failure of a generator in an iteration that leaves a record: it was asked for a repair, or
for the simpler program without which the iteration is over. -/
theorem Turn.unusable {r : Record} {task : Task} {before after : List (Call Cost)}
    (h : Turn a number isLast notes pending (before ++ ⟨.produce task, .error failure⟩ :: after)
      (some r) step) :
    (isLast = false ∧ after = [] ∧ (∃ notes', step = .next .simplify notes') ∧
      ∃ code message samples context, task = .repair code message samples context) ∨
    before = [] ∧ after = [] ∧ task = a.simpler ∧
      r = ⟨number, none, false, some .generationError⟩ := by
  generalize hcalls : before ++ ⟨.produce task, .error failure⟩ :: after = calls at h
  cases h with
  | given h => exact .inl (hcalls ▸ h).unusable
  | simplified g h =>
    obtain ⟨rest, hproduce, -⟩ | ⟨init, rfl, hjudge⟩ :=
      split_of_append_eq [_, _] hcalls.symm
    · simpa using mem_of_split hproduce
    · obtain ⟨hl, hrest⟩ := (hjudge ▸ h).unusable
      exact .inl ⟨hl, hrest⟩
  | missed f hn =>
    obtain ⟨rfl, hlast, rfl⟩ := eq_last_of_split [] hcalls.symm (by simp)
    cases hlast
    exact .inr ⟨rfl, rfl, rfl, rfl⟩

/-- An iteration without a record has met no other failure of a generator than the one that cuts
it off. -/
theorem Turn.isFatal_of_mem {task : Task}
    (h : Turn a number isLast notes pending calls none step)
    (hm : ⟨.produce task, .error failure⟩ ∈ calls) : failure.isFatal = true := by
  cases h with
  | given h => cases h <;> simp_all
  | simplified g h => cases h <;> simp_all
  | aborted f hn => simp_all

/-- From an iteration on that begins without a program, a simpler one is asked for first. -/
theorem Advances.simpler_first {last : List (Call Cost)} {k : Nat}
    (h : Advances a number .simplify notes rounds next notes')
    (hlast : History (iterate a k isLast next notes') last step) :
    ∃ answer more, callsOf rounds ++ last = ⟨.produce a.simpler, answer⟩ :: more := by
  cases h with
  | refl =>
    obtain ⟨_, hturn⟩ := history_iterate hlast
    obtain ⟨answer, rest, rfl⟩ := hturn.calls_of_simplify
    exact ⟨answer, rest, rfl⟩
  | step h hr more =>
    obtain ⟨_, hturn⟩ := history_iterate h
    obtain ⟨answer, rest, rfl⟩ := hturn.calls_of_simplify
    exact ⟨answer, _, rfl⟩

theorem seed_ne_nil (h : History (seed a) calls (.next pending notes)) : calls ≠ [] := by
  obtain ⟨g, rfl, -⟩ | ⟨f, rfl, -⟩ := seed_cases h <;> simp

/-- What comes of a failure that aborts nothing, unless it is met in the last iteration. -/
theorem recovers_or_last {opening last before after : List (Call Cost)} {task : Task} {k : Nat}
    (more : List (Round Cost)) (hs : History (seed a) opening (.next pending notes))
    (hadv : Advances a 1 pending notes rounds next notes')
    (hlast : History (iterate a k isLast next notes') last step)
    (hsplit : opening ++ (callsOf rounds ++ last) =
      before ++ ⟨.produce task, .error failure⟩ :: after) :
    Recovers a (rounds ++ more) failure before task after ∨
      ∃ init, before = opening ++ callsOf rounds ++ init ∧
        last = init ++ ⟨.produce task, .error failure⟩ :: after := by
  obtain ⟨rest, hopening, rfl⟩ | ⟨init, rfl, hgoing⟩ := split_of_append_eq _ hsplit
  · obtain ⟨g, rfl, -⟩ | ⟨f, rfl, -, rfl, -⟩ := seed_cases hs
    · simpa using mem_of_split hopening
    · obtain ⟨rfl, hfirst, rfl⟩ := eq_last_of_split [] hopening (by simp)
      cases hfirst
      obtain ⟨answer, more, hmore⟩ := hadv.simpler_first hlast
      rw [List.nil_append, hmore]
      exact .inl (.seed answer more)
  obtain ⟨rest, hrounds, rfl⟩ | ⟨init, rfl, hfinal⟩ := split_of_append_eq _ hgoing
  · obtain ⟨earlier, current, later, init, rest, rfl, hcurrent, rfl, rfl⟩ :=
      exists_of_callsOf_eq hrounds
    obtain ⟨n, next', n', -, hturn, hlater⟩ := hadv.split
    rw [hcurrent] at hturn
    obtain ⟨-, rfl, ⟨n'', hnext⟩, code, message, samples, context, rfl⟩ |
      ⟨rfl, rfl, rfl, hrecord⟩ := hturn.unusable
    · cases hnext
      obtain ⟨answer, more, hmore⟩ := hlater.simpler_first hlast
      rw [List.nil_append, hmore]
      exact .inl (.repair _ code message samples context answer more)
    · refine .inl (.simpler _ _ (by simp [seed_ne_nil hs]) earlier (later ++ more) current (by simp)
        hcurrent ?_)
      rw [hrecord, Nat.add_comm]
  · exact .inr ⟨init, by simp, hfinal⟩

theorem Ends.history {final : Round Cost} {report : Report Cost}
    (h : Ends a number isLast notes final report) :
    ∃ step, History (iterate a number isLast final.pending notes) final.calls step := by
  cases h with
  | stopped h hr => exact ⟨_, h⟩
  | spent hl h hr => exact ⟨_, h⟩

/-- **A failure that aborts nothing costs an iteration at the most.** -/
theorem Goes.recovers {before after : List (Call Cost)} {task : Task}
    (h : Goes a (before ++ ⟨.produce task, .error failure⟩ :: after) rounds result)
    (hn : failure.isFatal = false) : Recovers a rounds failure before task after := by
  generalize hcalls : before ++ ⟨.produce task, .error failure⟩ :: after = calls at h
  cases result with
  | error f =>
    have h : Breaks a calls rounds f := h
    cases h with
    | seed hf =>
      obtain ⟨-, hlast, -⟩ := eq_last_of_split [] hcalls.symm (by simp)
      cases hlast
      simp [hn] at hf
    | iteration hs hadv hlt hlast =>
      rw [List.append_assoc] at hcalls
      obtain hrecovers | ⟨init, rfl, rfl⟩ := recovers_or_last [] hs hadv hlast hcalls.symm
      · rwa [List.append_nil] at hrecovers
      · obtain ⟨r, hturn⟩ := history_iterate hlast
        cases r with
        | none => simp [hturn.isFatal_of_mem (mem_of_split rfl)] at hn
        | some r => cases hturn.records
  | ok report =>
    have h : Unfolds a calls rounds report := h
    obtain ⟨opening, pending, notes, going, final, notes', hs, hadv, hend, hlt, rfl, rfl⟩ := h
    rw [callsOf_append, callsOf_cons, callsOf_nil, List.append_nil] at hcalls
    obtain ⟨_, hlast⟩ := hend.history
    obtain hrecovers | ⟨init, rfl, hfinal⟩ :=
      recovers_or_last [final] hs hadv hlast hcalls.symm
    · exact hrecovers
    · obtain ⟨step, hturn, hlead⟩ := hend.turn
      rw [hfinal] at hturn
      obtain ⟨hl, -, ⟨n, rfl⟩, -⟩ | ⟨rfl, rfl, rfl, hrecord⟩ := hturn.unusable
      · obtain hstop | ⟨hlast, -⟩ := hlead
        · cases hstop
        · simp [hl] at hlast
      · exact .simpler _ _ (by simp [seed_ne_nil hs]) going [] final rfl hfinal hrecord

theorem Goes.records {report : Report Cost} (h : Goes a calls rounds (.ok report)) :
    report.records = rounds.map (·.record) := Unfolds.records h |>.1

end

/-- No seed; a simpler program with a fault that no rule mends; a repair that the provider is not
there for. -/
def cutOffCalls : List (Call Nat) :=
  [⟨.produce trial.first, .error (.generation "short")⟩,
    ⟨.produce trial.simpler, .ok ⟨"a", none⟩⟩, ⟨.record none, ()⟩,
    ⟨.validate "a" [], faulty .malformed⟩, ⟨.fix "a" "fault", none⟩,
    ⟨.produce (.repair "a" "fault" (some []) (some (context [] []))),
      .error (.infrastructure "no network")⟩]

theorem cutOff_history :
    History (run trial) cutOffCalls (.error (.infrastructure "no network")) := by
  repeat refine .ask _ _ _ ?_
  exact .done _

end RemapSynth.Repair
