/-
What a model is told of the iterations before. It is put together from
remarks, one for each of the last three records and of the last five
constructs, in order, and one more that warns of a kind of failure if all of
those records have it (`context_eq_join`). So what lies further back makes no
difference (`context_last`).
-/
import RemapSynth.Repair.Record

namespace RemapSynth.Repair

variable {α : Type} {records : List Record} {patterns : List String} {d : Diagnosis}

theorem last_last (n : Nat) (xs : List α) : last n (last n xs) = last n xs := by
  simp only [last, List.drop_drop, List.length_drop]
  congr 1
  omega

theorem last_eq_nil_iff {n : Nat} (hn : 0 < n) {xs : List α} : last n xs = [] ↔ xs = [] := by
  rw [last, List.drop_eq_nil_iff]
  constructor
  · intro h
    apply List.length_eq_zero_iff.1
    omega
  · rintro rfl
    simp

/-- **What lies further back makes no difference.** -/
theorem context_last (records : List Record) (patterns : List String) :
    context (last contextRecords records) (last contextPatterns patterns) =
      context records patterns := by
  have hrecords : last contextRecords records = [] ↔ records = [] := last_eq_nil_iff (by decide)
  have hpatterns : last contextPatterns patterns = [] ↔ patterns = [] :=
    last_eq_nil_iff (by decide)
  simp only [context, last_last, Bool.and_eq_true, List.isEmpty_iff, hrecords, hpatterns]

/-! ## Remarks -/

/-- A part of what a model is told. -/
inductive Remark
  /-- That there is nothing to tell. -/
  | first
  /-- The heading over the attempts. -/
  | attempts
  | attempt (r : Record)
  /-- The heading over the constructs. -/
  | constructs
  | construct (pattern : String)
  /-- The warning that a kind of failure keeps coming back. -/
  | repeating (d : Diagnosis)
  /-- What is asked for in the end. -/
  | request

namespace Remark

def text : Remark → String
  | first => "First iteration attempt."
  | attempts => "Recent attempts:\n"
  | attempt r =>
    "- Iteration " ++ Nat.repr r.number ++ ": " ++
      r.diagnosis.elim "no error code" Diagnosis.name ++ " (" ++
      r.reason.elim "unknown" Reason.name ++ (if r.fixApplied then ", fix applied" else "") ++ ")\n"
  | constructs => "Patterns that already failed; do not use them again:\n"
  | construct pattern => "- " ++ pattern ++ "\n"
  | repeating d =>
    "Warning: " ++ d.name ++
      " keeps repeating. Change the approach instead of patching the same construct.\n"
  | request => "Generate different solution than previous attempts."

/-- The record that is told. -/
def attempt? : Remark → Option Record
  | attempt r => some r
  | _ => none

/-- The construct that is told. -/
def construct? : Remark → Option String
  | construct pattern => some pattern
  | _ => none

end Remark

/-- A heading over remarks; nothing at all without them. -/
def under (heading : Remark) (remarks : List Remark) : List Remark :=
  if remarks.isEmpty then [] else heading :: remarks

/-- The remarks on what has happened. -/
def remarks (records : List Record) (patterns : List String) : List Remark :=
  under .attempts ((last contextRecords records).map .attempt) ++
    under .constructs ((last contextPatterns patterns).map .construct) ++
    (repeating? (last contextRecords records)).toList.map .repeating

/-- All that is told, in order. -/
def told (records : List Record) (patterns : List String) : List Remark :=
  if records.isEmpty && patterns.isEmpty then [.first] else remarks records patterns ++ [.request]

theorem join_under {heading : Remark} (remarks : List Remark) :
    String.join ((under heading remarks).map Remark.text) =
      headed heading.text (remarks.map Remark.text) := by
  simp only [under, headed, List.isEmpty_map]
  split <;> simp [String.join_cons]

theorem join_map_text_singleton (remark : Remark) :
    String.join ([remark].map Remark.text) = remark.text := by
  rw [List.map_singleton, String.join_cons, String.join_nil, String.append_empty]

theorem context_eq_join (records : List Record) (patterns : List String) :
    context records patterns = String.join ((told records patterns).map Remark.text) := by
  have hline : Remark.text ∘ .attempt = Record.line := rfl
  have hconstruct : Remark.text ∘ .construct = fun p => "- " ++ p ++ "\n" := rfl
  unfold context told
  split
  · exact (join_map_text_singleton .first).symm
  · have hwarned : String.join
        (((repeating? (last contextRecords records)).toList.map Remark.repeating).map Remark.text) =
        (repeating? (last contextRecords records)).elim "" fun d => Remark.text (.repeating d) := by
      cases repeating? (last contextRecords records) with
      | none => exact String.join_nil
      | some d => exact join_map_text_singleton (.repeating d)
    rw [List.map_append, String.join_append, join_map_text_singleton, remarks, List.map_append,
      List.map_append, String.join_append, String.join_append, join_under, join_under, hwarned,
      List.map_map, List.map_map, hline, hconstruct]
    rfl

theorem filterMap_under {f : Remark → Option α} {heading : Remark} (h : f heading = none)
    (remarks : List Remark) : (under heading remarks).filterMap f = remarks.filterMap f := by
  rw [under]
  split
  · next hnil => rw [List.isEmpty_iff.1 hnil]
  · rw [List.filterMap_cons_none h]

/-- A reading that passes over the rest sees the attempts, then the constructs. -/
theorem filterMap_told {f : Remark → Option α} (hfirst : f .first = none)
    (hattempts : f .attempts = none) (hconstructs : f .constructs = none)
    (hrepeating : ∀ d, f (.repeating d) = none) (hrequest : f .request = none)
    (records : List Record) (patterns : List String) :
    (told records patterns).filterMap f =
      (last contextRecords records).filterMap (fun r => f (.attempt r)) ++
        (last contextPatterns patterns).filterMap (fun p => f (.construct p)) := by
  rw [told]
  split
  · next h =>
    obtain ⟨rfl, rfl⟩ : records = [] ∧ patterns = [] := by simpa using h
    simp [last, hfirst]
  · have hwarned (warned : Option Diagnosis) :
        (warned.toList.map Remark.repeating).filterMap f = [] := by
      cases warned <;> simp [hrepeating]
    rw [List.filterMap_append, List.filterMap_cons_none hrequest, List.filterMap_nil,
      List.append_nil, remarks, List.filterMap_append, List.filterMap_append, hwarned,
      List.append_nil, filterMap_under hattempts, filterMap_under hconstructs,
      List.filterMap_map, List.filterMap_map]
    rfl

open Remark (attempt? construct?)

/-- Each of the last three records is told once, in order. -/
theorem filterMap_attempt?_told (records : List Record) (patterns : List String) :
    (told records patterns).filterMap attempt? = last contextRecords records := by
  rw [filterMap_told rfl rfl rfl (fun _ => rfl) rfl]
  simp [attempt?]

/-- Each of the last five constructs is told once, in order. -/
theorem filterMap_construct?_told (records : List Record) (patterns : List String) :
    (told records patterns).filterMap construct? = last contextPatterns patterns := by
  rw [filterMap_told rfl rfl rfl (fun _ => rfl) rfl]
  simp [construct?]

/-- A kind repeats when at least two records have it and none has another. -/
theorem repeating?_eq_some_iff {recent : List Record} :
    repeating? recent = some d ↔ 2 ≤ recent.length ∧ ∀ r ∈ recent, r.diagnosis = some d := by
  cases recent with
  | nil => simp [repeating?]
  | cons r more =>
    obtain ⟨number, diagnosis, fixApplied, reason⟩ := r
    cases diagnosis with
    | none => simp [repeating?]
    | some e =>
      have hlength : more.isEmpty = false ↔ 2 ≤ more.length + 1 := by
        rw [List.isEmpty_eq_false_iff, ← List.length_pos_iff]
        omega
      simp only [repeating?, Option.ite_none_right_eq_some, Bool.and_eq_true, Bool.not_eq_true',
        hlength, List.all_eq_true, beq_iff_eq, Option.some.injEq, List.length_cons,
        List.forall_mem_cons]
      constructor
      · rintro ⟨⟨hmore, hall⟩, rfl⟩
        exact ⟨hmore, rfl, hall⟩
      · rintro ⟨hmore, rfl, hall⟩
        exact ⟨⟨hmore, hall⟩, rfl⟩

theorem mem_under_iff {remark heading : Remark} (hne : remark ≠ heading) (remarks : List Remark) :
    remark ∈ under heading remarks ↔ remark ∈ remarks := by
  rw [under]
  split
  · next h => simp [List.isEmpty_iff.1 h]
  · simp [hne]

/-- A kind is warned of just when the last records, at least two, have no other. -/
theorem repeating_mem_told_iff :
    .repeating d ∈ told records patterns ↔
      2 ≤ (last contextRecords records).length ∧
        ∀ r ∈ last contextRecords records, r.diagnosis = some d := by
  rw [← repeating?_eq_some_iff, told]
  split
  · next h =>
    have hnil : records = [] := by simp_all
    simp [hnil, last, repeating?]
  · simp [remarks, mem_under_iff, Option.mem_toList]

end RemapSynth.Repair
