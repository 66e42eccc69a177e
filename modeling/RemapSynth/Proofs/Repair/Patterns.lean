/-
What a repair loop learns from its failures. Only a failure that closes a
cycle is learned from, and what was learned stays, so at any time a loop has
gathered the constructs of the cycles before, none of them twice
(`Advances.failedPatterns`). A request for a repair tells of these and of the
iterations before, not of the one that makes it (`Turn.told_eq`).
-/
import Mathlib.Data.List.DropRight
import RemapSynth.Proofs.Repair.Bookkeeping
import RemapSynth.Proofs.Repair.Context

namespace RemapSynth.Repair

open Chat Generation Dialogue

/-! ## Adding what is new -/

variable {known new : List String} {item : String}

theorem addNew_cons (known new : List String) (item : String) :
    addNew known (item :: new) =
      addNew (if known.contains item then known else known ++ [item]) new := rfl

/-- What is known stays, and in its place. -/
theorem prefix_addNew (known new : List String) : known <+: addNew known new := by
  induction new generalizing known with
  | nil => exact List.prefix_refl known
  | cons item new ih =>
    rw [addNew_cons]
    split
    · exact ih known
    · exact (List.prefix_append known [item]).trans (ih _)

theorem mem_addNew_iff : item ∈ addNew known new ↔ item ∈ known ∨ item ∈ new := by
  induction new generalizing known with
  | nil => simp [addNew]
  | cons first new ih =>
    rw [addNew_cons, ih, List.mem_cons]
    split
    · next h =>
      rw [List.contains_iff_mem] at h
      constructor
      · rintro (h' | h')
        · exact .inl h'
        · exact .inr (.inr h')
      · rintro (h' | rfl | h')
        · exact .inl h'
        · exact .inl h
        · exact .inr h'
    · rw [List.mem_append, List.mem_singleton, or_assoc]

theorem nodup_addNew (h : known.Nodup) (new : List String) : (addNew known new).Nodup := by
  induction new generalizing known with
  | nil => exact h
  | cons item new ih =>
    rw [addNew_cons]
    split
    · exact ih h
    · next hnew =>
      rw [List.contains_iff_mem] at hnew
      refine ih (List.nodup_append.2 ⟨h, by simp, ?_⟩)
      intro x hx y hy heq
      rw [List.mem_singleton.1 hy] at heq
      exact hnew (heq ▸ hx)

/-- Every failure says something. -/
theorem failedPatterns_ne_nil (message : String) (d : Diagnosis) :
    failedPatterns message d ≠ [] := by
  simp only [failedPatterns]
  split
  · simp
  · next h => simpa using h

/-! ## What is gathered -/

variable {Cost : Type}

/-- The constructs of the failures that were found. -/
def constructsOf (calls : List (Call Cost)) : List String :=
  (validations calls).flatMap fun (_, answer) =>
    match answer with
    | .ok v => failedPatterns v.message v.kind
    | .error _ => []

/-- What an iteration with these calls and this record adds: the constructs of the failure that
closes a cycle in it. -/
def newPatterns (calls : List (Call Cost)) (r : Record) : List String :=
  if r.reason = some .cycleDetected then constructsOf calls else []

/-- What iterations have added to what was known. -/
def gatheredFrom (known : List String) (rounds : List (Round Cost)) : List String :=
  rounds.foldl (fun known r => addNew known (newPatterns r.calls r.record)) known

/-- The patterns gathered at the cycles of some iterations. -/
def gathered (rounds : List (Round Cost)) : List String := gatheredFrom [] rounds

theorem gatheredFrom_append (known : List String) (earlier later : List (Round Cost)) :
    gatheredFrom known (earlier ++ later) = gatheredFrom (gatheredFrom known earlier) later := by
  simp [gatheredFrom]

theorem prefix_gatheredFrom (known : List String) (rounds : List (Round Cost)) :
    known <+: gatheredFrom known rounds := by
  induction rounds generalizing known with
  | nil => exact List.prefix_refl known
  | cons r rounds ih => exact (prefix_addNew known _).trans (ih _)

/-- **What was gathered stays**, and what comes later is added behind it. -/
theorem prefix_gathered (earlier later : List (Round Cost)) :
    gathered earlier <+: gathered (earlier ++ later) := by
  rw [gathered, gathered, gatheredFrom_append]
  exact prefix_gatheredFrom _ later

theorem mem_gatheredFrom_iff {rounds : List (Round Cost)} :
    item ∈ gatheredFrom known rounds ↔
      item ∈ known ∨ ∃ r ∈ rounds, item ∈ newPatterns r.calls r.record := by
  induction rounds generalizing known with
  | nil => simp [gatheredFrom]
  | cons r rounds ih =>
    have hstep : gatheredFrom known (r :: rounds) =
      gatheredFrom (addNew known (newPatterns r.calls r.record)) rounds := rfl
    simp [hstep, ih, mem_addNew_iff, or_assoc]

theorem nodup_gatheredFrom (h : known.Nodup) (rounds : List (Round Cost)) :
    (gatheredFrom known rounds).Nodup := by
  induction rounds generalizing known with
  | nil => exact h
  | cons r rounds ih => exact ih (nodup_addNew h _)

/-! ## One iteration -/

variable [Add Cost] {a : Assignment} {number : Nat} {isLast : Bool} {notes notes' : Notes Cost}
  {pending next : Pending} {calls : List (Call Cost)} {r : Record} {step : Step Cost}
  {report : Report Cost} {rounds : List (Round Cost)}

/-- The patterns once an iteration has ended. -/
def Step.failedPatterns? : Step Cost → Option (List String)
  | .abort _ => none
  | .stop report => some report.failedPatterns
  | .next _ notes => some notes.failedPatterns

theorem Judged.failedPatterns {code : String}
    (h : Judged a number isLast code notes calls (some r) step) :
    step.failedPatterns? = some (addNew notes.failedPatterns (newPatterns calls r)) := by
  cases h <;> simp [Step.failedPatterns?, newPatterns, addNew, constructsOf, validations,
    Call.validation?, Notes.succeeded, Notes.failed, Notes.add, Notes.reject, Notes.accept,
    Notes.watch, Notes.learn, Notes.spend]

/-- An iteration adds its new patterns. -/
theorem Turn.failedPatterns (h : Turn a number isLast notes pending calls (some r) step) :
    step.failedPatterns? = some (addNew notes.failedPatterns (newPatterns calls r)) := by
  cases h with
  | given h => exact h.failedPatterns
  | simplified g h => exact h.failedPatterns
  | missed failure hn => rfl

theorem Judged.newPatterns_ne_nil_iff {code : String}
    (h : Judged a number isLast code notes calls (some r) step) :
    newPatterns calls r ≠ [] ↔ r.reason = some .cycleDetected := by
  cases h <;> simp [newPatterns, constructsOf, validations, Call.validation?, failedPatterns_ne_nil]

/-- A cycle always teaches something, and nothing else does. -/
theorem Turn.newPatterns_ne_nil_iff (h : Turn a number isLast notes pending calls (some r) step) :
    newPatterns calls r ≠ [] ↔ r.reason = some .cycleDetected := by
  cases h with
  | given h => exact h.newPatterns_ne_nil_iff
  | simplified g h => exact h.newPatterns_ne_nil_iff
  | missed failure hn => simp [newPatterns]

section
variable {r : Option Record} {code message : String} {samples : Option (List Sample)}
  {told : Option String} {answer : Except Failure (Generated Cost)}

theorem Judged.told_eq {code' : String} (h : Judged a number isLast code' notes calls r step)
    (hc : ⟨.produce (.repair code message samples told), answer⟩ ∈ calls) :
    told = some (context notes.records notes.failedPatterns) := by
  cases h <;> simp_all

/-- **A request for a repair** tells of the notes that its iteration began with. -/
theorem Turn.told_eq (h : Turn a number isLast notes pending calls r step)
    (hc : ⟨.produce (.repair code message samples told), answer⟩ ∈ calls) :
    told = some (context notes.records notes.failedPatterns) := by
  cases h with
  | given h => exact h.told_eq hc
  | simplified g h =>
    simp [Assignment.simpler] at hc
    exact h.told_eq hc
  | missed failure hn => simp [Assignment.simpler] at hc
  | aborted failure hn => simp [Assignment.simpler] at hc

end

/-! ## A whole loop -/

theorem Advances.failedPatterns (h : Advances a number pending notes rounds next notes') :
    notes'.failedPatterns = gatheredFrom notes.failedPatterns rounds := by
  induction h with
  | refl => rfl
  | step h hr more ih =>
    have hstep := (turn_of_history h (congrArg some hr)).failedPatterns
    simp only [Step.failedPatterns?, Option.some.injEq] at hstep
    rw [ih, hstep]
    rfl

/-- A loop begins without patterns and without records. -/
theorem seed_notes (h : History (seed a) calls (.next pending notes)) :
    notes.failedPatterns = [] ∧ notes.records = [] := by
  obtain ⟨g, -, -, rfl⟩ | ⟨failure, -, -, -, rfl⟩ := seed_cases h <;> exact ⟨rfl, rfl⟩

theorem Unfolds.failedPatterns (h : Unfolds a calls rounds report) :
    report.failedPatterns = gathered rounds := by
  obtain ⟨opening, pending, notes, going, final, notes', hs, hadv, hend, -, rfl, -⟩ := h
  obtain ⟨step, hturn, hlead⟩ := hend.turn
  have hreport : step.failedPatterns? = some report.failedPatterns := by
    rcases hlead with rfl | ⟨-, next, n, rfl, rfl⟩ <;> rfl
  have hfinal := hturn.failedPatterns
  rw [hreport, Option.some.injEq, hadv.failedPatterns, (seed_notes hs).1] at hfinal
  rw [gathered, gatheredFrom_append, hfinal]
  rfl

theorem Unfolds.failedPatterns_ne_nil_iff (h : Unfolds a calls rounds report) :
    report.failedPatterns ≠ [] ↔ ∃ r ∈ report.records, r.reason = some .cycleDetected := by
  have hround : ∀ r ∈ rounds,
      newPatterns r.calls r.record ≠ [] ↔ r.record.reason = some .cycleDetected := by
    intro r hr
    obtain ⟨_, _, _, _, hturn⟩ := h.turn_of_mem hr
    exact hturn.newPatterns_ne_nil_iff
  rw [h.failedPatterns, h.records.1, gathered]
  constructor
  · intro hne
    obtain ⟨item, hitem⟩ := List.exists_mem_of_ne_nil _ hne
    obtain hnil | ⟨r, hr, hnew⟩ := mem_gatheredFrom_iff.1 hitem
    · cases hnil
    · exact ⟨r.record, List.mem_map_of_mem hr, (hround r hr).1 (List.ne_nil_of_mem hnew)⟩
  · intro hcycle
    obtain ⟨_, hrecord, hcycle⟩ := hcycle
    obtain ⟨r, hr, rfl⟩ := List.mem_map.1 hrecord
    obtain ⟨item, hitem⟩ := List.exists_mem_of_ne_nil _ ((hround r hr).2 hcycle)
    exact List.ne_nil_of_mem (mem_gatheredFrom_iff.2 (.inr ⟨r, hr, hitem⟩))

/-- **What a loop learns, and what it tells of it.** The patterns of a report are those gathered at
the cycles of its iterations, each once, and there are some just when there was a cycle. Every
iteration begins with what the iterations before it have gathered, to which it can only add at the
end, and each repair that is asked for in it is told of just these iterations and patterns. Of both
a model is told no more than the last, three and five of them, each once and in order on a line of
its own, and it is warned of the kind of failure that all of these iterations have in common, if
there are two. -/
theorem failure_notes :
    (∀ (a : Assignment) (calls : List (Call Cost)) (report : Report Cost),
      History (run a) calls (.ok report) →
      report.failedPatterns.Nodup ∧
      (report.failedPatterns ≠ [] ↔ ∃ r ∈ report.records, r.reason = some .cycleDetected) ∧
      ∃ rounds, Unfolds a calls rounds report ∧ report.records = rounds.map (·.record) ∧
        report.failedPatterns = gathered rounds ∧
        ∀ earlier current later, rounds = earlier ++ current :: later →
          current.record.number = earlier.length + 1 ∧
          gathered earlier <+: gathered (earlier ++ [current]) ∧
          (∃ opening pending notes notes', History (seed a) opening (.next pending notes) ∧
            Advances a 1 pending notes earlier current.pending notes' ∧
            notes'.records = earlier.map (·.record) ∧
            notes'.failedPatterns = gathered earlier) ∧
          ∀ code message samples told answer,
            ⟨.produce (.repair code message samples told), answer⟩ ∈ current.calls →
            told = some (context (earlier.map (·.record)) (gathered earlier))) ∧
    (∀ (records : List Record) (patterns : List String),
      context records patterns = context (records.rtake 3) (patterns.rtake 5) ∧
      ∃ told : List Remark,
        context records patterns = String.join (told.map Remark.text) ∧
        told.filterMap Remark.attempt? = records.rtake 3 ∧
        told.filterMap Remark.construct? = patterns.rtake 5 ∧
        ∀ d, .repeating d ∈ told ↔
          2 ≤ (records.rtake 3).length ∧ ∀ r ∈ records.rtake 3, r.diagnosis = some d) ∧
    ∀ (r : Record) (pattern : String) (d : Diagnosis),
      Remark.text (.attempt r) =
        "- Iteration " ++ Nat.repr r.number ++ ": " ++
          r.diagnosis.elim "no error code" Diagnosis.name ++ " (" ++
          r.reason.elim "unknown" Reason.name ++
          (if r.fixApplied then ", fix applied" else "") ++ ")\n" ∧
      Remark.text (.construct pattern) = "- " ++ pattern ++ "\n" ∧
      Remark.text (.repeating d) =
        "Warning: " ++ d.name ++
          " keeps repeating. Change the approach instead of patching the same construct.\n" := by
  refine ⟨fun a calls report h => ?_, fun records patterns => ?_,
    fun r pattern d => ⟨rfl, rfl, rfl⟩⟩
  · obtain ⟨rounds, hunfolds⟩ := exists_unfolds h
    have hgathered := hunfolds.failedPatterns
    refine ⟨?_, hunfolds.failedPatterns_ne_nil_iff, rounds, hunfolds, hunfolds.records.1,
      hgathered, ?_⟩
    · rw [hgathered]
      exact nodup_gatheredFrom List.nodup_nil rounds
    · rintro earlier current later rfl
      obtain ⟨opening, pending, notes, n, step, hs, -, hadv, hturn, -⟩ := hunfolds.turn
      obtain ⟨hpatterns, hrecords⟩ := seed_notes hs
      have hn : n.records = earlier.map (·.record) := by
        rw [hadv.records, hrecords, List.nil_append]
      have hn' : n.failedPatterns = gathered earlier := by
        rw [hadv.failedPatterns, hpatterns]
        rfl
      refine ⟨?_, prefix_gathered earlier [current],
        ⟨opening, pending, notes, n, hs, hadv, hn, hn'⟩, ?_⟩
      · exact hturn.audited.number
      · intro code message samples told answer hc
        rw [hturn.told_eq hc, hn, hn']
  · exact ⟨(context_last records patterns).symm, told records patterns,
      context_eq_join records patterns, filterMap_attempt?_told records patterns,
      filterMap_construct?_told records patterns, fun d => repeating_mem_told_iff⟩

/-- The patterns of the cycle in `retrialCalls`. -/
def retrialPatterns : List String := addNew [] (failedPatterns "fault" .malformed)

/-- The records before the repair after the cycle in `retrialCalls`. -/
def retrialRecords : List Record :=
  [⟨1, some .malformed, true, some .localFix⟩, ⟨2, some .malformed, false, some .cycleDetected⟩]

/-- A change by the rules; a cycle; a repair that is told of both; a valid program. -/
def retrialCalls : List (Call Nat) :=
  [⟨.produce trial.first, .ok ⟨"a", none⟩⟩, ⟨.record none, ()⟩,
    ⟨.validate "a" [], faulty .malformed⟩, ⟨.fix "a" "fault", some "b"⟩,
    ⟨.validate "b" [], faulty .malformed⟩,
    ⟨.produce trial.simpler, .ok ⟨"c", none⟩⟩, ⟨.record none, ()⟩,
    ⟨.validate "c" [], faulty .unhandledFallible⟩, ⟨.fix "c" "fault", none⟩,
    ⟨.produce (.repair "c" "fault" (some []) (some (context retrialRecords retrialPatterns))),
      .ok ⟨"d", none⟩⟩, ⟨.record none, ()⟩,
    ⟨.validate "d" [], .ok .pass⟩]

/-- What `retrialCalls` come to. -/
def retrialReport : Report Nat where
  code := "d"
  success := true
  iterations := 4
  records := retrialRecords ++
    [⟨3, some .unhandledFallible, true, some .modelRepair⟩, ⟨4, none, false, some .validated⟩]
  failedPatterns := retrialPatterns
  lastError := none
  lastDiagnosis := none
  usage := none

theorem retrial_history : History (run trial) retrialCalls (.ok retrialReport) := by
  repeat refine .ask _ _ _ ?_
  exact .done _

/-- What the repair in `retrialCalls` is told. -/
def retrialContext : String :=
  "Recent attempts:\n" ++
    "- Iteration 1: E203 (local_fix, fix applied)\n" ++
    "- Iteration 2: E203 (cycle_detected)\n" ++
    "Patterns that already failed; do not use them again:\n" ++
    "- E203: fault\n" ++
    "Warning: E203 keeps repeating. Change the approach instead of patching the same construct.\n" ++
    "Generate different solution than previous attempts."

theorem failure_notes_retrial :
    History (run trial) retrialCalls (.ok retrialReport) ∧ retrialReport.failedPatterns.Nodup ∧
    retrialReport.failedPatterns ≠ [] ∧
    (∃ rounds, Unfolds trial retrialCalls rounds retrialReport ∧
      ∀ earlier current later, rounds = earlier ++ current :: later →
        ∀ code message samples told answer,
          ⟨.produce (.repair code message samples told), answer⟩ ∈ current.calls →
          told = some (context (earlier.map (·.record)) (gathered earlier))) ∧
    context retrialRecords retrialPatterns = retrialContext ∧
    ∃ told : List Remark,
      String.join (told.map Remark.text) = retrialContext ∧
      told.filterMap Remark.attempt? = retrialRecords ∧
      told.filterMap Remark.construct? = ["E203: fault"] ∧ .repeating .malformed ∈ told := by
  obtain ⟨hruns, hcontexts, -⟩ := @failure_notes Nat _
  obtain ⟨hnodup, hne, rounds, hunfolds, -, -, hround⟩ :=
    hruns trial retrialCalls retrialReport retrial_history
  obtain ⟨-, told, hjoin, hattempts, hconstructs, hwarned⟩ := hcontexts retrialRecords retrialPatterns
  have hcycle : ∃ r ∈ retrialReport.records, r.reason = some .cycleDetected := by decide
  have hcontext : context retrialRecords retrialPatterns = retrialContext := by decide +kernel
  have hpatterns : retrialPatterns.rtake 5 = ["E203: fault"] := by decide +kernel
  refine ⟨retrial_history, hnodup, hne.2 hcycle, ⟨rounds, hunfolds, ?_⟩, hcontext, told,
    hjoin.symm.trans hcontext, hattempts, hconstructs.trans hpatterns,
    (hwarned .malformed).2 (by decide)⟩
  intro earlier current later hrounds
  obtain ⟨-, -, -, htold⟩ := hround earlier current later hrounds
  exact htold

end RemapSynth.Repair
