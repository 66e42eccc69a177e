/-
The books of a repair loop: its records tell how often it asked each
collaborator, and the budget bounds both.

`Turn.audited` settles one iteration; the loop is the sum over its
iterations. What an iteration starts from is known from the record before
it (`Turn.asksSimpler_iff`), which is why the records alone give the number
of generations.
-/
import RemapSynth.Proofs.Repair.Unfolding

namespace RemapSynth.Repair

open Chat Generation Dialogue

/-! ## What a record tells -/

namespace Record

/-- No program could be generated in the iteration. -/
def isMissed (r : Record) : Bool := r.reason = some .generationError ∧ r.diagnosis = none

/-- A repair was asked for, and no program came of it. -/
def isUnrepaired (r : Record) : Bool := r.reason = some .generationError ∧ r.diagnosis ≠ none

/-- A repair was asked for and made. -/
def isRepaired (r : Record) : Bool := r.reason = some .modelRepair

/-- An iteration after this one begins with generating a simpler program. -/
def asksSimpler (r : Record) : Bool :=
  r.reason = some .cycleDetected ∨ r.reason = some .generationError

/-- A repair was asked for. -/
def isRepair (r : Record) : Bool := r.isRepaired || r.isUnrepaired

theorem countP_isRepair (rs : List Record) :
    rs.countP isRepair = rs.countP isRepaired + rs.countP isUnrepaired := by
  induction rs with
  | nil => rfl
  | cons r rs ih =>
    have hne : ¬ (r.isRepaired = true ∧ r.isUnrepaired = true) := by
      simp only [isRepaired, isUnrepaired, decide_eq_true_eq]
      rintro ⟨h, h', -⟩
      simp [h] at h'
    simp only [List.countP_cons, ih, isRepair, Bool.or_eq_true]
    split <;> split <;> split <;> simp_all <;> omega

end Record

variable {Cost : Type}

/-- Whether the first program that was asked for could not be used. -/
def seedMissed : List (Call Cost) → Bool
  | ⟨.produce _, .error _⟩ :: _ => true
  | _ => false

/-! ## One iteration -/

section
variable [Add Cost] {a : Assignment} {number : Nat} {isLast : Bool} {notes : Notes Cost}
  {pending : Pending} {calls : List (Call Cost)} {step : Step Cost} {r : Record}

/-- The calls of an iteration by what it started from and the record that it left. -/
structure Audited (number : Nat) (pending : Pending) (calls : List (Call Cost)) (r : Record) :
    Prop where
  number : r.number = number
  validations : (validations calls).length = if !r.isMissed then 1 else 0
  repairs : calls.countP Call.isRepair = if r.isRepair then 1 else 0
  generations : calls.countP Call.isGeneration = if pending = .simplify then 1 else 0

theorem Judged.audited {code : String}
    (h : Judged a number isLast code notes calls (some r) step) :
    Audited number (.code code) calls r := by
  cases h <;> constructor <;> rfl

theorem Turn.audited (h : Turn a number isLast notes pending calls (some r) step) :
    Audited number pending calls r := by
  cases h with
  | given h => exact h.audited
  | simplified g h =>
    obtain ⟨hnumber, hvalidations, hrepairs, hgenerations⟩ := h.audited
    refine ⟨hnumber, hvalidations, hrepairs, ?_⟩
    simpa [List.countP_cons, Assignment.simpler, Call.isGeneration] using hgenerations
  | missed failure hn => constructor <;> rfl

/-- An iteration validates one program at the most. -/
theorem Turn.validations_eq (h : Turn a number isLast notes pending calls (some r) step)
    {x : String × Except Failure Verdict} (hx : x ∈ validations calls) :
    validations calls = [x] := by
  have hlength := h.audited.validations
  have hpos := List.length_pos_of_mem hx
  obtain ⟨y, hy⟩ : ∃ y, validations calls = [y] := by
    rw [← List.length_eq_one_iff]
    split at hlength <;> omega
  rw [hy, List.mem_singleton] at hx
  rw [hy, hx]

/-- The next iteration begins with a simpler program exactly when the record says so. -/
theorem Turn.asksSimpler_iff {next : Pending} {notes' : Notes Cost}
    (h : Turn a number isLast notes pending calls (some r) (.next next notes')) :
    next = .simplify ↔ r.asksSimpler := by
  cases h with
  | given h => cases h <;> simp [Record.asksSimpler]
  | simplified g h => cases h <;> simp [Record.asksSimpler]
  | missed failure hn => simp [Record.asksSimpler]

theorem Judged.isRepair_eq_false {code : String}
    (h : Judged a number isLast code notes calls (some r) step)
    (hstep : isLast = true ∨ ∃ report, step = .stop report) : r.isRepair = false := by
  cases h <;> simp_all [Record.isRepair, Record.isRepaired, Record.isUnrepaired]

/-- An iteration that stops the loop asks for no repair, nor does the last of the budget. -/
theorem Turn.isRepair_eq_false (h : Turn a number isLast notes pending calls (some r) step)
    (hstep : isLast = true ∨ ∃ report, step = .stop report) : r.isRepair = false := by
  cases h with
  | given h => exact h.isRepair_eq_false hstep
  | simplified g h => exact h.isRepair_eq_false hstep
  | missed failure hn => rfl

/-- A report counts the iteration that it comes from. -/
theorem Turn.iterations {report : Report Cost} {r : Option Record}
    (h : Turn a number isLast notes pending calls r (.stop report))
    (hn : notes.records.length + 1 = number) : report.iterations = number := by
  cases h with
  | given h => cases h <;> simp [Notes.succeeded, Notes.failed, Notes.add, Notes.reject, hn]
  | simplified g h =>
    cases h <;> simp [Notes.succeeded, Notes.failed, Notes.add, Notes.reject, Notes.spend, hn]

theorem Judged.fixing_disabled {code : String}
    (h : Judged a number isLast code notes calls (some r) step)
    (hf : a.settings.fixOnFailure = false) :
    calls.countP Call.isFix = 0 ∧ r.isRepair = false ∧ ∃ report, step = .stop report := by
  cases h <;> simp_all [Record.isRepair, Record.isRepaired, Record.isUnrepaired, Call.isFix]

/-- With repairing switched off, nothing is asked about a program once it was validated. -/
theorem Turn.fixing_disabled (h : Turn a number isLast notes pending calls (some r) step)
    (hf : a.settings.fixOnFailure = false) :
    calls.countP Call.isFix = 0 ∧ r.isRepair = false ∧
      ((∃ next notes', step = .next next notes') → r.isMissed = true) := by
  cases h with
  | given h =>
    obtain ⟨hfix, hrepair, report, rfl⟩ := h.fixing_disabled hf
    exact ⟨hfix, hrepair, by simp⟩
  | simplified g h =>
    obtain ⟨hfix, hrepair, report, rfl⟩ := h.fixing_disabled hf
    exact ⟨hfix, hrepair, by simp⟩
  | missed failure hn => exact ⟨rfl, rfl, fun _ => rfl⟩

end

/-! ## All iterations -/

/-- Calls counted over iterations, when each iteration makes at most one of a kind. -/
theorem countP_callsOf {p : Call Cost → Bool} {q : Round Cost → Bool} {rounds : List (Round Cost)}
    (h : ∀ r ∈ rounds, r.calls.countP p = if q r then 1 else 0) :
    (callsOf rounds).countP p = rounds.countP q := by
  induction rounds with
  | nil => rfl
  | cons r rounds ih =>
    rw [callsOf_cons, List.countP_append, List.countP_cons, h r (by simp),
      ih fun r hr => h r (by simp [hr]), Nat.add_comm]

theorem length_validations (calls : List (Call Cost)) :
    (validations calls).length = calls.countP fun c => c.validation?.isSome :=
  List.length_filterMap_eq_countP

section
variable [Add Cost] {a : Assignment} {number : Nat} {notes notes' : Notes Cost}
  {pending last : Pending} {calls : List (Call Cost)} {rounds : List (Round Cost)}
  {report : Report Cost}

theorem Advances.records (h : Advances a number pending notes rounds last notes') :
    notes'.records = notes.records ++ rounds.map (·.record) := by
  induction h with
  | refl => simp
  | step h hr more ih => simp [ih, hr]

/-- What iterations begin with follows from the records before them. -/
theorem Advances.countP_pending (h : Advances a number pending notes rounds last notes') :
    rounds.countP (·.pending = .simplify) + (if last = .simplify then 1 else 0) =
      (if pending = .simplify then 1 else 0) +
        (rounds.map (·.record)).countP Record.asksSimpler := by
  induction h with
  | refl => simp
  | step h hr more ih =>
    have hnext := (turn_of_history h (congrArg some hr)).asksSimpler_iff
    simp only [List.countP_cons, List.map_cons, decide_eq_true_eq, ← hnext]
    omega

/-- The seed asks for one program and nothing else. -/
theorem seed_audited (h : History (seed a) calls (.next pending notes)) :
    calls.countP Call.isGeneration = 1 ∧ calls.countP Call.isRepair = 0 ∧
      calls.countP Call.isFix = 0 ∧ validations calls = [] ∧ notes.records = [] ∧
      ∀ rest,
        (if seedMissed (calls ++ rest) then 1 else 0) = if pending = .simplify then 1 else 0 := by
  obtain ⟨g, rfl, rfl, rfl⟩ | ⟨failure, rfl, -, rfl, rfl⟩ := seed_cases h
  · exact ⟨rfl, rfl, rfl, rfl, rfl, fun _ => rfl⟩
  · exact ⟨rfl, rfl, rfl, rfl, rfl, fun _ => rfl⟩

/-- The records of a loop are those of its iterations. -/
theorem Unfolds.records (h : Unfolds a calls rounds report) :
    report.records = rounds.map (·.record) ∧ report.iterations = rounds.length ∧
      1 ≤ rounds.length ∧ rounds.length ≤ a.budget := by
  obtain ⟨opening, pending, notes, going, final, notes', hs, hadv, hend, hlt, rfl, -⟩ := h
  obtain ⟨-, -, -, -, hnil, -⟩ := seed_audited hs
  have hrecords := hadv.records
  rw [hnil, List.nil_append] at hrecords
  have hfinal : report.records = notes'.records ++ [final.record] := by
    cases hend with
    | stopped h hr => exact hr
    | spent hl h hr => exact hr
  have hall : report.records = (going ++ [final]).map (·.record) := by
    rw [hfinal, hrecords]
    simp
  refine ⟨hall, ?_, by simp, by simp only [List.length_append, List.length_singleton]; omega⟩
  have hcount : notes'.records.length = going.length := by
    rw [hrecords, List.length_map]
  rw [List.length_append, List.length_singleton]
  cases hend with
  | stopped h hr => exact (turn_of_history h (congrArg some hr)).iterations (by rw [hcount])
  | spent hl h hr =>
    simp only [Notes.failed, hr, List.length_append, List.length_singleton, hcount]

theorem Unfolds.audited (h : Unfolds a calls rounds report) {r : Round Cost} (hr : r ∈ rounds) :
    ∃ number, Audited number r.pending r.calls r.record := by
  obtain ⟨number, isLast, n, step, hturn⟩ := h.turn_of_mem hr
  exact ⟨number, hturn.audited⟩

/-- Iterations are numbered from one. -/
theorem Unfolds.record_number (h : Unfolds a calls rounds report) {k : Nat} {r : Record}
    (hk : report.records[k]? = some r) : r.number = k + 1 := by
  rw [h.records.1, List.getElem?_map, Option.map_eq_some_iff] at hk
  obtain ⟨round, hround, rfl⟩ := hk
  obtain ⟨hlt, rfl⟩ := List.getElem?_eq_some_iff.1 hround
  have hsplit : rounds = rounds.take k ++ rounds[k] :: rounds.drop (k + 1) := by
    rw [← List.drop_eq_getElem_cons hlt, List.take_append_drop]
  rw [hsplit] at h
  obtain ⟨_, _, _, _, _, -, -, -, hturn, -⟩ := h.turn
  rw [hturn.audited.number, List.length_take, Nat.min_eq_left (Nat.le_of_lt hlt)]

/-- What a loop asked of each collaborator, read off its records. -/
theorem Unfolds.counts (h : Unfolds a calls rounds report) :
    (validations calls).length = report.records.countP (!·.isMissed) ∧
      calls.countP Call.isRepair = report.records.countP Record.isRepair ∧
      calls.countP Call.isGeneration =
        1 + (if seedMissed calls then 1 else 0) +
          report.records.dropLast.countP Record.asksSimpler := by
  have haudit {r : Round Cost} := h.audited (r := r)
  rw [h.records.1]
  obtain ⟨opening, pending, notes, going, final, notes', hs, hadv, -, -, rfl, rfl⟩ := h
  obtain ⟨hgeneration, hrepair, -, hvalidation, -, hmissed⟩ := seed_audited hs
  refine ⟨?_, ?_, ?_⟩
  · rw [validations_append, hvalidation, List.nil_append, length_validations, List.countP_map]
    refine countP_callsOf fun r hr => ?_
    obtain ⟨number, hr⟩ := haudit hr
    rw [← length_validations]
    exact hr.validations
  · rw [List.countP_append, hrepair, Nat.zero_add, List.countP_map]
    refine countP_callsOf fun r hr => ?_
    obtain ⟨number, hr⟩ := haudit hr
    exact hr.repairs
  · have hsum : (callsOf (going ++ [final])).countP Call.isGeneration =
        (going ++ [final]).countP (·.pending = .simplify) := by
      refine countP_callsOf fun r hr => ?_
      obtain ⟨number, hr⟩ := haudit hr
      simpa using hr.generations
    have hpending := hadv.countP_pending
    rw [List.countP_append, hgeneration, hsum, hmissed, List.countP_append, List.countP_singleton,
      List.map_append, List.map_singleton, List.dropLast_concat]
    simp only [decide_eq_true_eq]
    omega

/-- The last record is of no repair. -/
theorem Unfolds.countP_dropLast (h : Unfolds a calls rounds report) :
    report.records.countP Record.isRepair = report.records.dropLast.countP Record.isRepair := by
  rw [h.records.1]
  obtain ⟨opening, pending, notes, going, final, notes', -, -, hend, -, rfl, -⟩ := h
  have hfinal : final.record.isRepair = false := by
    cases hend with
    | stopped h hr =>
      exact (turn_of_history h (congrArg some hr)).isRepair_eq_false (.inr ⟨_, rfl⟩)
    | spent hl h hr => exact (turn_of_history h (congrArg some hr)).isRepair_eq_false (.inl hl)
  simp [hfinal]

/-- With repairing switched off, the first program to be validated is the last. -/
theorem Unfolds.fixing_disabled (h : Unfolds a calls rounds report)
    (hf : a.settings.fixOnFailure = false) :
    calls.countP Call.isRepair = 0 ∧ calls.countP Call.isFix = 0 ∧
      (validations calls).length ≤ 1 := by
  have haudit {r : Round Cost} := h.audited (r := r)
  have hturn {r : Round Cost} := h.turn_of_mem (r := r)
  have hcounts := h.counts
  rw [h.records.1] at hcounts
  obtain ⟨opening, pending, notes, going, final, notes', hs, hadv, -, -, rfl, rfl⟩ := h
  obtain ⟨-, -, hfix, -, -, -⟩ := seed_audited hs
  refine ⟨?_, ?_, ?_⟩
  · rw [hcounts.2.1, List.countP_map, List.countP_eq_zero]
    intro r hr
    obtain ⟨_, _, _, _, hturn⟩ := hturn hr
    simp [(hturn.fixing_disabled hf).2.1]
  · rw [List.countP_append, hfix, Nat.zero_add, countP_callsOf (q := fun _ => false)]
    · simp
    · intro r hr
      obtain ⟨_, _, _, _, hturn⟩ := hturn hr
      exact (hturn.fixing_disabled hf).1
  · have hgoing : ∀ r ∈ going, r.record.isMissed = true := by
      intro r hr
      obtain ⟨earlier, later, rfl⟩ := List.append_of_mem hr
      obtain ⟨n, next, n', -, hturn, -⟩ := hadv.split
      exact (hturn.fixing_disabled hf).2.2 ⟨next, n', rfl⟩
    have hzero : going.countP (fun r => !r.record.isMissed) = 0 := by
      rw [List.countP_eq_zero]
      intro r hr
      simp [hgoing r hr]
    rw [hcounts.1, List.countP_map, List.countP_append]
    have hone := List.countP_le_length (p := fun r => !r.record.isMissed) (l := [final])
    simp only [Function.comp_def, hzero]
    simpa using hone

/-- **The books of a repair loop.** A report has a record for every iteration, numbered from one
and within the budget; and the records give the number of validations, of repairs and of
generations: one for the seed, one more when the seed could not be used, and one after each record,
other than the last, of a cycle or of a generation that failed. -/
theorem run_bookkeeping (h : History (run a) calls (.ok report)) :
    report.records.length = report.iterations ∧
    1 ≤ report.iterations ∧ report.iterations ≤ a.budget ∧
    (∀ k r, report.records[k]? = some r → r.number = k + 1) ∧
    (validations calls).length = report.records.countP (!·.isMissed) ∧
    calls.countP Call.isRepair =
      report.records.countP Record.isRepaired + report.records.countP Record.isUnrepaired ∧
    calls.countP Call.isGeneration =
      1 + (if seedMissed calls then 1 else 0) +
        report.records.dropLast.countP Record.asksSimpler ∧
    (validations calls).length ≤ a.budget ∧
    calls.countP Call.isGeneration + calls.countP Call.isRepair ≤ 2 * a.budget ∧
    (a.settings.fixOnFailure = false →
      calls.countP Call.isRepair = 0 ∧ calls.countP Call.isFix = 0 ∧
        (validations calls).length ≤ 1) := by
  obtain ⟨rounds, h⟩ := exists_unfolds h
  obtain ⟨hrecords, hiterations, hpos, hbudget⟩ := h.records
  obtain ⟨hvalidations, hrepairs, hgenerations⟩ := h.counts
  have hlength : report.records.length = rounds.length := by
    rw [hrecords, List.length_map]
  refine ⟨by omega, by omega, by omega, fun k r => h.record_number, hvalidations,
    by rw [hrepairs, Record.countP_isRepair], hgenerations, ?_, ?_, h.fixing_disabled⟩
  · have := List.countP_le_length (p := fun r : Record => !r.isMissed) (l := report.records)
    omega
  · have hasks := List.countP_le_length (p := Record.asksSimpler) (l := report.records.dropLast)
    have hask := List.countP_le_length (p := Record.isRepair) (l := report.records.dropLast)
    rw [hgenerations, hrepairs, h.countP_dropLast]
    rw [List.length_dropLast] at hasks hask
    split <;> omega

end

theorem run_bookkeeping_trial :
    History (run trial) trialCalls (.ok trialReport) ∧
    trialReport.records.length = trialReport.iterations ∧ trialReport.iterations ≤ trial.budget ∧
    (validations trialCalls).length = 4 ∧ trialCalls.countP Call.isRepair = 1 ∧
    trialCalls.countP Call.isGeneration = 4 ∧
    trialCalls.countP Call.isGeneration + trialCalls.countP Call.isRepair ≤ 2 * trial.budget := by
  obtain ⟨hlength, -, hbudget, -, hvalidations, hrepairs, hgenerations, -, hcalls, -⟩ :=
    run_bookkeeping trial_history
  exact ⟨trial_history, hlength, hbudget, hvalidations.trans (by decide),
    hrepairs.trans (by decide), hgenerations.trans (by decide), hcalls⟩

end RemapSynth.Repair
