/-
What one iteration of a repair loop can ask, and how it leaves the loop:
`Turn` lists every way, and `history_iterate` says that there is no other.

Statements about whole loops are made from these cases; none of them opens
the iteration itself again.
-/
import RemapSynth.Repair.Loop

namespace RemapSynth.Repair

open Chat Generation Dialogue

variable {Cost : Type}

/-- A question of a repair loop together with the answer it got. -/
abbrev Call (Cost : Type) : Type := Exchange (Ask Cost) (Answer Cost)

/-! ## What can be seen of calls -/

/-- Whether a generator was asked for a new program. -/
def Call.isGeneration : Call Cost → Bool
  | ⟨.produce (.generate _ _ _), _⟩ => true
  | _ => false

/-- Whether a generator was asked for a repair. -/
def Call.isRepair : Call Cost → Bool
  | ⟨.produce (.repair _ _ _ _), _⟩ => true
  | _ => false

/-- Whether the rules were asked for a repair. -/
def Call.isFix : Call Cost → Bool
  | ⟨.fix _ _, _⟩ => true
  | _ => false

/-- The program of a call of the validator, with the validator's answer. -/
def Call.validation? : Call Cost → Option (String × Except Failure Verdict)
  | ⟨.validate code _, answer⟩ => some (code, answer)
  | _ => none

/-- The programs given to the validator, in order, each with the answer. -/
def validations (calls : List (Call Cost)) : List (String × Except Failure Verdict) :=
  calls.filterMap Call.validation?

/-- The kind of a validation that found a fault. -/
def failure? : String × Except Failure Verdict → Option Diagnosis
  | (_, .ok v) => if v.passed then none else some v.kind
  | (_, .error _) => none

/-- The kinds of the validations that found a fault, in order. -/
def failures (calls : List (Call Cost)) : List Diagnosis := (validations calls).filterMap failure?

@[simp] theorem validations_append (xs ys : List (Call Cost)) :
    validations (xs ++ ys) = validations xs ++ validations ys := List.filterMap_append

@[simp] theorem failures_append (xs ys : List (Call Cost)) :
    failures (xs ++ ys) = failures xs ++ failures ys := by
  simp [failures]

/-! ## One iteration -/

section
variable [Add Cost] (a : Assignment) (number : Nat) (isLast : Bool)

/-- A program in an iteration: what is asked about it, the record that is left, and the step. -/
inductive Judged (code : String) (notes : Notes Cost) :
    List (Call Cost) → Option Record → Step Cost → Prop
  | broken (failure : Failure) :
    Judged code notes [⟨.validate code a.samples, .error failure⟩] none (.abort failure)
  | passed (v : Verdict) (hv : v.passed = true) :
    Judged code notes [⟨.validate code a.samples, .ok v⟩]
      (some ⟨number, none, false, some .validated⟩)
      (.stop (((notes.accept code).add number none false .validated).succeeded number))
  | exhausted (v : Verdict) (hv : v.passed = false) (hl : isLast = true) :
    Judged code notes [⟨.validate code a.samples, .ok v⟩]
      (some ⟨number, some v.kind, false, some .exhausted⟩)
      (.stop ((notes.reject code v).add number (some v.kind) false .exhausted).failed)
  | disabled (v : Verdict) (hv : v.passed = false) (hl : isLast = false)
      (hf : a.settings.fixOnFailure = false) :
    Judged code notes [⟨.validate code a.samples, .ok v⟩]
      (some ⟨number, some v.kind, false, some .fixingDisabled⟩)
      (.stop ((notes.reject code v).add number (some v.kind) false .fixingDisabled).failed)
  | cycle (v : Verdict) (hv : v.passed = false) (hl : isLast = false)
      (hf : a.settings.fixOnFailure = true) (hc : (notes.detector.observe v.kind).1 = true) :
    Judged code notes [⟨.validate code a.samples, .ok v⟩]
      (some ⟨number, some v.kind, false, some .cycleDetected⟩)
      (.next .simplify
        ((((notes.reject code v).watch v.kind).learn v).add number (some v.kind) false
          .cycleDetected))
  | fixed (v : Verdict) (hv : v.passed = false) (hl : isLast = false)
      (hf : a.settings.fixOnFailure = true) (hc : (notes.detector.observe v.kind).1 = false)
      (new : String) :
    Judged code notes
      [⟨.validate code a.samples, .ok v⟩, ⟨.fix code v.message, some new⟩]
      (some ⟨number, some v.kind, true, some .localFix⟩)
      (.next (.code new)
        (((notes.reject code v).watch v.kind).add number (some v.kind) true .localFix))
  | repaired (v : Verdict) (hv : v.passed = false) (hl : isLast = false)
      (hf : a.settings.fixOnFailure = true) (hc : (notes.detector.observe v.kind).1 = false)
      (g : Generated Cost) :
    Judged code notes
      [⟨.validate code a.samples, .ok v⟩, ⟨.fix code v.message, none⟩,
        ⟨.produce (.repair code v.message (some a.samples)
          (some (context notes.records notes.failedPatterns))), .ok g⟩,
        ⟨.record g.usage, ()⟩]
      (some ⟨number, some v.kind, true, some .modelRepair⟩)
      (.next (.code g.code)
        ((((notes.reject code v).watch v.kind).spend g.usage).add number (some v.kind) true
          .modelRepair))
  | unrepaired (v : Verdict) (hv : v.passed = false) (hl : isLast = false)
      (hf : a.settings.fixOnFailure = true) (hc : (notes.detector.observe v.kind).1 = false)
      (failure : Failure) (hn : failure.isFatal = false) :
    Judged code notes
      [⟨.validate code a.samples, .ok v⟩, ⟨.fix code v.message, none⟩,
        ⟨.produce (.repair code v.message (some a.samples)
          (some (context notes.records notes.failedPatterns))), .error failure⟩]
      (some ⟨number, some v.kind, false, some .generationError⟩)
      (.next .simplify
        (((notes.reject code v).watch v.kind).add number (some v.kind) false .generationError))
  | aborted (v : Verdict) (hv : v.passed = false) (hl : isLast = false)
      (hf : a.settings.fixOnFailure = true) (hc : (notes.detector.observe v.kind).1 = false)
      (failure : Failure) (hn : failure.isFatal = true) :
    Judged code notes
      [⟨.validate code a.samples, .ok v⟩, ⟨.fix code v.message, none⟩,
        ⟨.produce (.repair code v.message (some a.samples)
          (some (context notes.records notes.failedPatterns))), .error failure⟩]
      none (.abort failure)

/-- An iteration: what it asks, the record that it leaves, and the step. -/
inductive Turn (notes : Notes Cost) :
    Pending → List (Call Cost) → Option Record → Step Cost → Prop
  | given {code calls record step} (h : Judged a number isLast code notes calls record step) :
    Turn notes (.code code) calls record step
  | simplified {calls record step} (g : Generated Cost)
      (h : Judged a number isLast g.code (notes.spend g.usage) calls record step) :
    Turn notes .simplify (⟨.produce a.simpler, .ok g⟩ :: ⟨.record g.usage, ()⟩ :: calls) record step
  | missed (failure : Failure) (hn : failure.isFatal = false) :
    Turn notes .simplify [⟨.produce a.simpler, .error failure⟩]
      (some ⟨number, none, false, some .generationError⟩)
      (.next .simplify ((notes.miss failure).add number none false .generationError))
  | aborted (failure : Failure) (hn : failure.isFatal = true) :
    Turn notes .simplify [⟨.produce a.simpler, .error failure⟩] none (.abort failure)

end

section
variable [Add Cost] {a : Assignment} {number : Nat} {isLast : Bool} {notes : Notes Cost}
  {calls : List (Call Cost)} {step : Step Cost}

/-- Asking for a program: it is noted in the ledger before anything else, or the loop goes on
without one. -/
theorem history_produce {α : Type} {task : Task} {abort unusable : Failure → α}
    {done : String → Notes Cost → Course Cost α} {r : α} :
    History (produce task notes abort unusable done) calls r ↔
      (∃ g rest, calls = ⟨.produce task, .ok g⟩ :: ⟨.record g.usage, ()⟩ :: rest ∧
        History (done g.code (notes.spend g.usage)) rest r) ∨
      ∃ failure, calls = [⟨.produce task, .error failure⟩] ∧
        r = if failure.isFatal then abort failure else unusable failure := by
  simp only [produce, history_ask]
  constructor
  · rintro ⟨failure | g, rest, rfl, h⟩
    · simp only [history_done] at h
      obtain ⟨rfl, rfl⟩ := h
      exact .inr ⟨failure, rfl, rfl⟩
    · simp only [history_ask] at h
      obtain ⟨⟨⟩, rest, rfl, h⟩ := h
      exact .inl ⟨g, rest, rfl, h⟩
  · rintro (⟨g, rest, rfl, h⟩ | ⟨failure, rfl, rfl⟩)
    · exact ⟨.ok g, _, rfl, history_ask.2 ⟨(), rest, rfl, h⟩⟩
    · exact ⟨.error failure, [], rfl, history_done.2 ⟨rfl, rfl⟩⟩

theorem history_judge {code : String} (h : History (judge a number isLast code notes) calls step) :
    ∃ record, Judged a number isLast code notes calls record step := by
  simp only [judge, history_ask] at h
  obtain ⟨failure | v, rest, rfl, h⟩ := h
  · simp only [history_done] at h
    obtain ⟨rfl, rfl⟩ := h
    exact ⟨_, .broken failure⟩
  cases hv : v.passed
  case true =>
    simp only [hv, if_true, history_done] at h
    obtain ⟨rfl, rfl⟩ := h
    exact ⟨_, .passed v hv⟩
  simp only [hv, Bool.false_eq_true, if_false, afterFailure] at h
  cases hl : isLast
  case true =>
    simp only [hl, if_true, history_done] at h
    obtain ⟨rfl, rfl⟩ := h
    exact ⟨_, .exhausted v hv rfl⟩
  simp only [hl, Bool.false_eq_true, if_false] at h
  cases hf : a.settings.fixOnFailure
  case false =>
    simp only [hf, Bool.not_false, if_true, history_done] at h
    obtain ⟨rfl, rfl⟩ := h
    exact ⟨_, .disabled v hv rfl hf⟩
  simp only [hf, Bool.not_true, Bool.false_eq_true, if_false] at h
  cases hc : (notes.detector.observe v.kind).1
  case true =>
    simp only [Notes.reject, hc, if_true, history_done] at h
    obtain ⟨rfl, rfl⟩ := h
    exact ⟨_, .cycle v hv rfl hf hc⟩
  simp only [Notes.reject, hc, Bool.false_eq_true, if_false, history_ask] at h
  obtain ⟨_ | new, rest, rfl, h⟩ := h
  · simp only [askRepair, history_produce] at h
    obtain ⟨g, rest, rfl, h⟩ | ⟨failure, rfl, rfl⟩ := h
    · simp only [history_done] at h
      obtain ⟨rfl, rfl⟩ := h
      exact ⟨_, .repaired v hv rfl hf hc g⟩
    · cases hn : failure.isFatal
      · exact ⟨_, .unrepaired v hv rfl hf hc failure hn⟩
      · exact ⟨_, .aborted v hv rfl hf hc failure hn⟩
  · simp only [history_done] at h
    obtain ⟨rfl, rfl⟩ := h
    exact ⟨_, .fixed v hv rfl hf hc new⟩

/-- **Every iteration is a turn.** -/
theorem history_iterate {pending : Pending}
    (h : History (iterate a number isLast pending notes) calls step) :
    ∃ record, Turn a number isLast notes pending calls record step := by
  cases pending with
  | code code =>
    obtain ⟨record, h⟩ := history_judge h
    exact ⟨record, .given h⟩
  | simplify =>
    simp only [iterate, history_produce] at h
    obtain ⟨g, rest, rfl, h⟩ | ⟨failure, rfl, rfl⟩ := h
    · obtain ⟨record, h⟩ := history_judge h
      exact ⟨record, .simplified g h⟩
    · cases hn : failure.isFatal
      · exact ⟨_, .missed failure hn⟩
      · exact ⟨_, .aborted failure hn⟩

/-- A program in an iteration is validated once. -/
theorem Judged.validated {code : String} {r : Option Record}
    (h : Judged a number isLast code notes calls r step) :
    ∃ answer, validations calls = [(code, answer)] := by
  cases h <;> exact ⟨_, rfl⟩

end
end RemapSynth.Repair
