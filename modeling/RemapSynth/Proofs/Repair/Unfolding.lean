/-
A repair loop, iteration by iteration. Whatever a loop that ends with a
report asks is what its seed asks, then what each iteration asks
(`exists_unfolds`); each iteration starts where the one before left off
and leaves one record.

`Unfolds.turn` is how the rest reads an unfolding: at any place, the
iteration there is one of the turns.
-/
import RemapSynth.Proofs.Repair.Turn

namespace RemapSynth.Repair

open Chat Generation Dialogue

variable {Cost : Type}

/-- One iteration of a loop as it went. -/
structure Round (Cost : Type) where
  /-- What it started from. -/
  pending : Pending
  /-- What it asked, in order, with the answers. -/
  calls : List (Call Cost)
  /-- The record that it left. -/
  record : Record

/-- All that iterations asked, in order. -/
def callsOf (rounds : List (Round Cost)) : List (Call Cost) := rounds.flatMap (·.calls)

@[simp] theorem callsOf_nil : callsOf ([] : List (Round Cost)) = [] := rfl

@[simp] theorem callsOf_cons (r : Round Cost) (rounds : List (Round Cost)) :
    callsOf (r :: rounds) = r.calls ++ callsOf rounds := rfl

@[simp] theorem callsOf_append (xs ys : List (Round Cost)) :
    callsOf (xs ++ ys) = callsOf xs ++ callsOf ys := by
  simp [callsOf]

/-- The records once an iteration has ended. -/
def Step.records? : Step Cost → Option (List Record)
  | .abort _ => none
  | .stop report => some report.records
  | .next _ notes => some notes.records

/-- What follows a step of a loop that comes to a report. -/
theorem history_andThen {step : Step Cost}
    {goOn : Pending → Notes Cost → Course Cost (Except Failure (Report Cost))}
    {calls : List (Call Cost)} {report : Report Cost}
    (h : History (step.andThen goOn) calls (.ok report)) :
    (step = .stop report ∧ calls = []) ∨
      ∃ next notes', step = .next next notes' ∧ History (goOn next notes') calls (.ok report) := by
  cases step with
  | abort failure => simp [Step.andThen, history_done] at h
  | stop r =>
    simp only [Step.andThen, history_done, Except.ok.injEq] at h
    exact .inl ⟨by rw [h.2], h.1⟩
  | next next notes' => exact .inr ⟨next, notes', rfl, h⟩

variable [Add Cost]

/-- Iterations from `number` on, each of which goes on to the next. -/
inductive Advances (a : Assignment) :
    (number : Nat) → Pending → Notes Cost → List (Round Cost) → Pending → Notes Cost → Prop
  | refl {number pending notes} : Advances a number pending notes [] pending notes
  | step {number pending notes calls record next notes' rounds last notes''}
      (h : History (iterate a number false pending notes) calls (.next next notes'))
      (hr : notes'.records = notes.records ++ [record])
      (more : Advances a (number + 1) next notes' rounds last notes'') :
    Advances a number pending notes (⟨pending, calls, record⟩ :: rounds) last notes''

/-- The last iteration of a loop: it stops the loop, or it spends the budget. -/
inductive Ends (a : Assignment) (number : Nat) (isLast : Bool) (notes : Notes Cost) :
    Round Cost → Report Cost → Prop
  | stopped {pending calls record report}
      (h : History (iterate a number isLast pending notes) calls (.stop report))
      (hr : report.records = notes.records ++ [record]) :
    Ends a number isLast notes ⟨pending, calls, record⟩ report
  | spent {pending calls record next notes'} (hl : isLast = true)
      (h : History (iterate a number isLast pending notes) calls (.next next notes'))
      (hr : notes'.records = notes.records ++ [record]) :
    Ends a number isLast notes ⟨pending, calls, record⟩ notes'.failed

/-- `Iterates a left number pending notes calls rounds report`: the iterations from `number` on,
`left` of them after the first, ask `calls` and come to `report`; they are `rounds`. -/
def Iterates (a : Assignment) (left number : Nat) (pending : Pending) (notes : Notes Cost)
    (calls : List (Call Cost)) (rounds : List (Round Cost)) (report : Report Cost) : Prop :=
  ∃ going final notes',
    Advances a number pending notes going final.pending notes' ∧
    Ends a (number + going.length) (going.length == left) notes' final report ∧
    going.length ≤ left ∧ rounds = going ++ [final] ∧ calls = callsOf rounds

/-- `Unfolds a calls rounds report`: the loop for `a` asks `calls` and comes to `report`, its
iterations being `rounds`. -/
def Unfolds (a : Assignment) (calls : List (Call Cost)) (rounds : List (Round Cost))
    (report : Report Cost) : Prop :=
  ∃ opening pending notes going final notes',
    History (seed a) opening (.next pending notes) ∧
    Advances a 1 pending notes going final.pending notes' ∧
    Ends a (going.length + 1) (going.length + 1 == a.budget) notes' final report ∧
    going.length < a.budget ∧ rounds = going ++ [final] ∧ calls = opening ++ callsOf rounds

/-! ## Every loop unfolds -/

section
variable {a : Assignment} {number : Nat} {isLast : Bool} {notes : Notes Cost} {pending : Pending}
  {calls : List (Call Cost)} {step : Step Cost} {record : Record} {report : Report Cost}

theorem Judged.records {code : String} {r : Option Record}
    (h : Judged a number isLast code notes calls r step) :
    step.records? = r.map fun r => notes.records ++ [r] := by
  cases h <;> rfl

theorem Turn.records {r : Option Record} (h : Turn a number isLast notes pending calls r step) :
    step.records? = r.map fun r => notes.records ++ [r] := by
  cases h with
  | given h => exact h.records
  | simplified g h => exact h.records
  | missed failure hn => rfl
  | aborted failure hn => rfl

/-- An iteration that left `record` is a turn that leaves it. -/
theorem turn_of_history (h : History (iterate a number isLast pending notes) calls step)
    (hr : step.records? = some (notes.records ++ [record])) :
    Turn a number isLast notes pending calls (some record) step := by
  obtain ⟨r, ht⟩ := history_iterate h
  have := ht.records
  rw [hr] at this
  cases r with
  | none => cases this
  | some r =>
    simp only [Option.map_some, Option.some.injEq, List.append_cancel_left_eq, List.cons.injEq,
      and_true] at this
    exact this ▸ ht

/-- An iteration leaves exactly one record unless it ends the loop by a failure. -/
theorem exists_record (h : History (iterate a number isLast pending notes) calls step)
    (hstep : ∀ failure, step ≠ .abort failure) :
    ∃ record, step.records? = some (notes.records ++ [record]) := by
  obtain ⟨r, ht⟩ := history_iterate h
  have hr := ht.records
  cases r with
  | none =>
    cases step with
    | abort failure => exact absurd rfl (hstep failure)
    | stop report => cases hr
    | next next notes' => cases hr
  | some r => exact ⟨r, hr⟩

/-- An iteration that stops the loop is all there is. -/
theorem Iterates.stopped {left : Nat}
    (h : History (iterate a number (0 == left) pending notes) calls (.stop report))
    (hr : report.records = notes.records ++ [record]) :
    Iterates a left number pending notes calls [⟨pending, calls, record⟩] report :=
  ⟨[], ⟨pending, calls, record⟩, notes, .refl, .stopped h hr, Nat.zero_le _, rfl, by simp⟩

/-- The last iteration of the budget is all there is. -/
theorem Iterates.spent {next : Pending} {notes' : Notes Cost}
    (h : History (iterate a number true pending notes) calls (.next next notes'))
    (hr : notes'.records = notes.records ++ [record]) :
    Iterates a 0 number pending notes calls [⟨pending, calls, record⟩] notes'.failed :=
  ⟨[], ⟨pending, calls, record⟩, notes, .refl, .spent rfl h hr, Nat.le_refl _, rfl, by simp⟩

/-- An iteration that goes on, before all others. -/
theorem Iterates.cons {left : Nat} {next : Pending} {notes' : Notes Cost}
    {rest : List (Call Cost)} {rounds : List (Round Cost)}
    (h : History (iterate a number false pending notes) calls (.next next notes'))
    (hr : notes'.records = notes.records ++ [record])
    (more : Iterates a left (number + 1) next notes' rest rounds report) :
    Iterates a (left + 1) number pending notes (calls ++ rest) (⟨pending, calls, record⟩ :: rounds)
      report := by
  obtain ⟨going, final, notes'', hadv, hend, hle, rfl, rfl⟩ := more
  have hnumber : number + 1 + going.length = number + (going.length + 1) := by omega
  have hlast : (going.length == left) = (going.length + 1 == left + 1) := by simp
  rw [hnumber, hlast] at hend
  exact ⟨⟨pending, calls, record⟩ :: going, final, notes'', .step h hr hadv, hend,
    Nat.succ_le_succ hle, rfl, rfl⟩

/-- What follows an iteration that goes on: the others, or the report that none was valid. -/
def onwards (a : Assignment) : (left number : Nat) → Pending → Notes Cost →
    Course Cost (Except Failure (Report Cost))
  | 0, _ => fun _ notes => .done (.ok notes.failed)
  | left + 1, number => iterations a left (number + 1)

theorem iterations_eq (a : Assignment) (left number : Nat) (pending : Pending)
    (notes : Notes Cost) :
    iterations a left number pending notes =
      (iterate a number (0 == left) pending notes).bind fun step =>
        step.andThen (onwards a left number) := by
  cases left <;> rfl

/-- All iterations, by the first of them. -/
theorem exists_iterates_of_first {left : Nat} {first rest : List (Call Cost)}
    (hs : History (iterate a number (0 == left) pending notes) first step)
    (h : History (step.andThen (onwards a left number)) rest (.ok report)) :
    ∃ record later, step.records? = some (notes.records ++ [record]) ∧
      Iterates a left number pending notes (first ++ rest) (⟨pending, first, record⟩ :: later)
        report := by
  induction left generalizing number pending notes first rest step with
  | zero =>
    obtain ⟨rfl, rfl⟩ | ⟨next, notes', rfl, h'⟩ := history_andThen h
    · obtain ⟨record, hr⟩ := exists_record hs (by simp)
      rw [List.append_nil]
      exact ⟨record, [], hr, .stopped hs (Option.some.inj hr)⟩
    · obtain ⟨record, hr⟩ := exists_record hs (by simp)
      simp only [onwards, history_done, Except.ok.injEq] at h'
      obtain ⟨rfl, rfl⟩ := h'
      rw [List.append_nil]
      exact ⟨record, [], hr, .spent hs (Option.some.inj hr)⟩
  | succ left ih =>
    obtain ⟨rfl, rfl⟩ | ⟨next, notes', rfl, h'⟩ := history_andThen h
    · obtain ⟨record, hr⟩ := exists_record hs (by simp)
      rw [List.append_nil]
      exact ⟨record, [], hr, .stopped hs (Option.some.inj hr)⟩
    · obtain ⟨record, hr⟩ := exists_record hs (by simp)
      rw [onwards, iterations_eq, history_bind] at h'
      obtain ⟨step', first', rest', rfl, hs', h'⟩ := h'
      obtain ⟨record', later, -, more⟩ := ih hs' h'
      exact ⟨record, _, hr, .cons hs (Option.some.inj hr) more⟩

/-- The iterations from `number` on, up to the one that stops or spends the budget. -/
theorem exists_iterates {left : Nat}
    (h : History (iterations a left number pending notes) calls (.ok report)) :
    ∃ rounds, Iterates a left number pending notes calls rounds report := by
  rw [iterations_eq, history_bind] at h
  obtain ⟨step, first, rest, rfl, hs, h⟩ := h
  obtain ⟨record, later, -, hiterates⟩ := exists_iterates_of_first hs h
  exact ⟨_, hiterates⟩

/-- A seed and all iterations are a loop. -/
theorem Iterates.unfolds {opening : List (Call Cost)} {rounds : List (Round Cost)}
    (hs : History (seed a) opening (.next pending notes))
    (h : Iterates a (a.budget - 1) 1 pending notes calls rounds report) :
    Unfolds a (opening ++ calls) rounds report := by
  obtain ⟨going, final, notes', hadv, hend, hle, rfl, rfl⟩ := h
  have hbudget : 1 ≤ a.budget := Nat.le_max_right _ _
  have hlast : (going.length == a.budget - 1) = (going.length + 1 == a.budget) := by
    rw [Bool.eq_iff_iff, beq_iff_eq, beq_iff_eq]
    omega
  rw [hlast, Nat.add_comm 1] at hend
  exact ⟨opening, pending, notes, going, final, notes', hs, hadv, hend, by omega, rfl, rfl⟩

/-- A seed does not end its loop with a report. -/
theorem seed_ne_stop (h : History (seed a) calls step) : step ≠ .stop report := by
  rintro rfl
  simp only [seed, history_produce, history_done] at h
  obtain ⟨g, rest, -, -, ⟨⟩⟩ | ⟨failure, -, h⟩ := h
  split at h <;> cases h

/-- **A loop that comes to a report is its seed, then its iterations.** -/
theorem exists_unfolds (h : History (run a) calls (.ok report)) :
    ∃ rounds, Unfolds a calls rounds report := by
  rw [run, history_bind] at h
  obtain ⟨step, opening, rest, rfl, hs, h⟩ := h
  obtain ⟨rfl, rfl⟩ | ⟨pending, notes, rfl, h'⟩ := history_andThen h
  · exact absurd rfl (seed_ne_stop hs)
  · obtain ⟨rounds, hiterates⟩ := exists_iterates h'
    exact ⟨rounds, hiterates.unfolds hs⟩

/-! ## One iteration of an unfolding -/

/-- The seed: a program and its usage, or nothing that can be used. -/
theorem seed_cases (h : History (seed a) calls (.next pending notes)) :
    (∃ g, calls = [⟨.produce a.first, .ok g⟩, ⟨.record g.usage, ()⟩] ∧ pending = .code g.code ∧
      notes = a.notes.spend g.usage) ∨
    ∃ failure, calls = [⟨.produce a.first, .error failure⟩] ∧ failure.isFatal = false ∧
      pending = .simplify ∧ notes = { a.notes with lastError := some failure.message } := by
  simp only [seed, history_produce, history_done] at h
  obtain ⟨g, rest, rfl, rfl, h⟩ | ⟨failure, rfl, h⟩ := h
  · cases h
    exact .inl ⟨g, rfl, rfl, rfl⟩
  · cases hn : failure.isFatal
    · simp only [hn, Bool.false_eq_true, if_false] at h
      cases h
      exact .inr ⟨failure, rfl, hn, rfl, rfl⟩
    · simp only [hn, if_true] at h
      cases h

/-- What comes after an iteration: the next one starts from where it left off, or its outcome is
the report. -/
def Step.LeadsTo (step : Step Cost) (isLast : Bool) (later : List (Round Cost))
    (report : Report Cost) : Prop :=
  match later with
  | r :: _ => ∃ notes, step = .next r.pending notes
  | [] =>
    step = .stop report ∨
      isLast = true ∧ ∃ pending notes, step = .next pending notes ∧ report = notes.failed

theorem Advances.split {current : Round Cost} {earlier later : List (Round Cost)} {last : Pending}
    {notes' : Notes Cost}
    (h : Advances a number pending notes (earlier ++ current :: later) last notes') :
    ∃ n next n', Advances a number pending notes earlier current.pending n ∧
      Turn a (number + earlier.length) false n current.pending current.calls
        (some current.record) (.next next n') ∧
      Advances a (number + earlier.length + 1) next n' later last notes' := by
  induction earlier generalizing number pending notes with
  | nil =>
    cases h with
    | step h hr more => exact ⟨_, _, _, .refl, turn_of_history h (congrArg some hr), more⟩
  | cons r earlier ih =>
    cases h with
    | step h hr more =>
      obtain ⟨n, next, n', hadv, hturn, hmore⟩ := ih more
      have hnumber : number + 1 + earlier.length = number + (earlier.length + 1) := by omega
      rw [hnumber] at hturn hmore
      exact ⟨n, next, n', .step h hr hadv, hturn, hmore⟩

theorem Ends.turn {final : Round Cost} (h : Ends a number isLast notes final report) :
    ∃ step, Turn a number isLast notes final.pending final.calls (some final.record) step ∧
      step.LeadsTo isLast [] report := by
  cases h with
  | stopped h hr => exact ⟨_, turn_of_history h (congrArg some hr), Or.inl rfl⟩
  | spent hl h hr => exact ⟨_, turn_of_history h (congrArg some hr), Or.inr ⟨hl, _, _, rfl, rfl⟩⟩

/-- **Every iteration of a loop is a turn**, begun with the notes that the iterations before it
have left. -/
theorem Unfolds.turn {current : Round Cost} {earlier later : List (Round Cost)}
    (h : Unfolds a calls (earlier ++ current :: later) report) :
    ∃ opening pending notes n step, History (seed a) opening (.next pending notes) ∧
      calls = opening ++ callsOf (earlier ++ current :: later) ∧
      Advances a 1 pending notes earlier current.pending n ∧
      Turn a (earlier.length + 1) (earlier.length + 1 == a.budget) n current.pending
        current.calls (some current.record) step ∧
      step.LeadsTo (earlier.length + 1 == a.budget) later report := by
  obtain ⟨opening, pending, notes, going, final, notes', hs, hadv, hend, hlt, hr, hcalls⟩ := h
  rcases List.eq_nil_or_concat later with rfl | ⟨middle, last, rfl⟩
  · obtain ⟨rfl, hfinal⟩ := List.append_inj' hr rfl
    cases hfinal
    obtain ⟨step, hturn, hlead⟩ := hend.turn
    exact ⟨opening, pending, notes, notes', step, hs, hcalls, hadv, hturn, hlead⟩
  · have hr' : (earlier ++ current :: middle) ++ [last] = going ++ [final] := by simpa using hr
    obtain ⟨rfl, hfinal⟩ := List.append_inj' hr' rfl
    cases hfinal
    obtain ⟨n, next, n', hbefore, hturn, hafter⟩ := hadv.split
    have hlast : (earlier.length + 1 == a.budget) = false := by
      simp only [List.length_append, List.length_cons] at hlt
      rw [beq_eq_false_iff_ne]
      omega
    rw [Nat.add_comm 1] at hturn
    refine ⟨opening, pending, notes, n, _, hs, hcalls, hbefore, hlast ▸ hturn, ?_⟩
    cases hafter with
    | refl => exact ⟨_, rfl⟩
    | step h hr more => exact ⟨_, rfl⟩

theorem Unfolds.turn_of_mem {rounds : List (Round Cost)} (h : Unfolds a calls rounds report)
    {r : Round Cost} (hm : r ∈ rounds) :
    ∃ number isLast notes step,
      Turn a number isLast notes r.pending r.calls (some r.record) step := by
  obtain ⟨earlier, later, rfl⟩ := List.append_of_mem hm
  obtain ⟨_, _, _, n, step, -, -, -, hturn, -⟩ := h.turn
  exact ⟨_, _, n, step, hturn⟩

end

/-! ## A loop that takes most turns -/

/-- A budget of five iterations, and a cycle after two equal failures. -/
def trial : Assignment where
  settings := { maxIterations := 5, cycleWindow := 2 }
  samples := []
  strategy := none
  baseline := none

/-- The answer that a program has a fault. -/
def faulty (d : Diagnosis) : Except Failure Verdict := .ok ⟨false, some "fault", some d⟩

/-- No seed; a repair; a cycle; no simpler program; a change by the rules; a valid program. -/
def trialCalls : List (Call Nat) :=
  [⟨.produce trial.first, .error (.generation "short")⟩,
    ⟨.produce trial.simpler, .ok ⟨"a", none⟩⟩, ⟨.record none, ()⟩,
    ⟨.validate "a" [], faulty .malformed⟩, ⟨.fix "a" "fault", none⟩,
    ⟨.produce (.repair "a" "fault" (some []) (some (context [] []))), .ok ⟨"b", none⟩⟩,
    ⟨.record none, ()⟩,
    ⟨.validate "b" [], faulty .malformed⟩,
    ⟨.produce trial.simpler, .error (.generation "short")⟩,
    ⟨.produce trial.simpler, .ok ⟨"c", none⟩⟩, ⟨.record none, ()⟩,
    ⟨.validate "c" [], faulty .unhandledFallible⟩, ⟨.fix "c" "fault", some "d"⟩,
    ⟨.validate "d" [], .ok .pass⟩]

/-- What `trialCalls` come to. -/
def trialReport : Report Nat where
  code := "d"
  success := true
  iterations := 5
  records :=
    [⟨1, some .malformed, true, some .modelRepair⟩,
      ⟨2, some .malformed, false, some .cycleDetected⟩, ⟨3, none, false, some .generationError⟩,
      ⟨4, some .unhandledFallible, true, some .localFix⟩, ⟨5, none, false, some .validated⟩]
  failedPatterns := addNew [] (failedPatterns "fault" .malformed)
  lastError := none
  lastDiagnosis := none
  usage := none

theorem trial_history : History (run trial) trialCalls (.ok trialReport) := by
  repeat refine .ask _ _ _ ?_
  exact .done _

end RemapSynth.Repair
