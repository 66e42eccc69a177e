/-
What the notes of a repair loop say about its calls. The last program and
the detector are separate fields that different turns change; at every
iteration they are what the validations so far make of them (`Tracks`), and
none of those validations passed.
-/
import RemapSynth.Proofs.Repair.Unfolding
import RemapSynth.Proofs.Repair.Window

namespace RemapSynth.Repair

open Chat Generation Dialogue

variable {Cost : Type}

/-- The program that was validated last; empty when none was. -/
def lastValidated (calls : List (Call Cost)) : String :=
  ((validations calls).getLast?.map (·.1)).getD ""

/-- A validation that found a fault. -/
def IsRejection (x : String × Except Failure Verdict) : Prop :=
  ∃ v, x.2 = .ok v ∧ v.passed = false

theorem failure?_of_rejected {code : String} {v : Verdict} (hv : v.passed = false) :
    failure? (code, .ok v) = some v.kind := by
  simp [failure?, hv]

/-- The notes are those of a loop that has asked `past` and goes on. -/
structure Tracks (a : Assignment) (past : List (Call Cost)) (notes : Notes Cost) : Prop where
  lastCode : notes.lastCode = lastValidated past
  detector : notes.detector = .after a.settings.cycleWindow (failures past)
  rejected : ∀ x ∈ validations past, IsRejection x

variable [Add Cost] {a : Assignment} {number : Nat} {isLast : Bool} {notes notes' : Notes Cost}
  {pending next : Pending} {past calls : List (Call Cost)} {r : Option Record}

theorem Judged.next_cases {code : String}
    (h : Judged a number isLast code notes calls r (.next next notes')) :
    ∃ v, validations calls = [(code, .ok v)] ∧ v.passed = false ∧ notes'.lastCode = code ∧
      notes'.detector = (notes.detector.observe v.kind).2 := by
  cases h <;> exact ⟨_, rfl, ‹_›, rfl, rfl⟩

/-- What an iteration that goes on does to the last program and to the detector: nothing when
there was no program to validate, else both follow the verdict. -/
theorem Turn.next_cases (h : Turn a number isLast notes pending calls r (.next next notes')) :
    (validations calls = [] ∧ notes'.lastCode = notes.lastCode ∧
      notes'.detector = notes.detector) ∨
    ∃ code v, validations calls = [(code, .ok v)] ∧ v.passed = false ∧ notes'.lastCode = code ∧
      notes'.detector = (notes.detector.observe v.kind).2 := by
  cases h with
  | given h => exact .inr ⟨_, h.next_cases⟩
  | simplified g h =>
    obtain ⟨v, hone, hv, hcode, hdetector⟩ := h.next_cases
    exact .inr ⟨g.code, v, hone, hv, hcode, hdetector⟩
  | missed failure hn => exact .inl ⟨rfl, rfl, rfl⟩

theorem Turn.tracks (h : Turn a number isLast notes pending calls r (.next next notes'))
    (ht : Tracks a past notes) : Tracks a (past ++ calls) notes' := by
  obtain ⟨hnone, hcode, hdetector⟩ | ⟨code, v, hone, hv, hcode, hdetector⟩ := h.next_cases
  · have hfailures : failures calls = [] := by simp [failures, hnone]
    refine ⟨?_, ?_, ?_⟩
    · rw [hcode, ht.lastCode]
      simp [lastValidated, hnone]
    · rw [hdetector, ht.detector, failures_append, hfailures, List.append_nil]
    · simpa [hnone] using ht.rejected
  · have hfailures : failures calls = [v.kind] := by
      simp [failures, hone, failure?_of_rejected hv]
    refine ⟨?_, ?_, ?_⟩
    · rw [hcode]
      simp [lastValidated, hone]
    · rw [hdetector, ht.detector, CycleDetector.observe_after, failures_append, hfailures]
    · intro x hx
      rw [validations_append, hone, List.mem_append, List.mem_singleton] at hx
      rcases hx with hx | rfl
      · exact ht.rejected x hx
      · exact ⟨v, rfl, hv⟩

theorem Advances.tracks {rounds : List (Round Cost)}
    (h : Advances a number pending notes rounds next notes') (ht : Tracks a past notes) :
    Tracks a (past ++ callsOf rounds) notes' := by
  induction h generalizing past with
  | refl => simpa using ht
  | step h hr more ih =>
    have := ih ((turn_of_history h (congrArg some hr)).tracks ht)
    rwa [List.append_assoc] at this

theorem seed_tracks (h : History (seed a) calls (.next pending notes)) : Tracks a calls notes := by
  obtain ⟨g, rfl, rfl, rfl⟩ | ⟨failure, rfl, -, rfl, rfl⟩ := seed_cases h <;>
  · refine ⟨rfl, ?_, by simp [validations, Call.validation?]⟩
    exact (CycleDetector.after_nil _).symm

end RemapSynth.Repair
