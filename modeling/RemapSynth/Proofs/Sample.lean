/-
Events as lines. Events are written one a line, and reading the lines gives
the events back (`ofContent_renderAll`): what is written for an event has no
line feed and no blank at its ends, is an object and never an array, and is
read as that object. Of a text that is no array every line that is not blank
becomes one event (`forall₂_isEventOf`).
-/
import Mathlib.Data.List.Forall2
import RemapSynth.Proofs.Json.ReadBack
import RemapSynth.Sample

namespace RemapSynth
namespace Sample

open Json (Fits ReadsBack)

/-! ## One line -/

/-- An event is written as an object. -/
theorem exists_toList_line (sample : Sample) :
    ∃ inner, sample.line.toList = '\x7b' :: (inner ++ ['\x7d']) :=
  ⟨_, Json.toList_write_obj sample.fields⟩

theorem newline_not_mem_line (sample : Sample) : '\n' ∉ sample.line.toList :=
  Json.newline_not_mem_write sample.toJson

theorem getLast?_line (sample : Sample) : sample.line.toList.getLast? = some '\x7d' := by
  obtain ⟨inner, hline⟩ := exists_toList_line sample
  rw [hline, ← List.cons_append, List.getLast?_concat]

theorem trim_line (sample : Sample) : Text.trim sample.line = sample.line := by
  obtain ⟨inner, hline⟩ := exists_toList_line sample
  have htrim : Chars.trim sample.line.toList = sample.line.toList := by
    apply Chars.trim_eq_self
    · intro c hc
      simp only [hline, List.head?_cons, Option.mem_def, Option.some.injEq] at hc
      rw [← hc]
      decide
    · intro c hc
      simp only [getLast?_line, Option.mem_def, Option.some.injEq] at hc
      rw [← hc]
      decide
  rw [Text.trim, htrim, String.ofList_toList]

theorem line_ne_empty (sample : Sample) : sample.line ≠ "" := by
  obtain ⟨inner, hline⟩ := exists_toList_line sample
  intro hempty
  simp [hempty] at hline

theorem ofLine_line {sample : Sample} (h : Json.parse? sample.line = some sample.toJson) :
    ofLine sample.line = sample := by
  simp only [ofLine, h, toJson]

/-! ## All lines -/

variable (samples : List Sample)

theorem toList_renderAll :
    (renderAll samples).toList =
      (samples.map fun sample => sample.line.toList).flatMap (· ++ ['\n']) := by
  simp [renderAll, String.toList_join, List.flatMap_map]

/-- **As many line feeds are written as there are events.** -/
theorem count_renderAll : (renderAll samples).toList.count '\n' = samples.length := by
  rw [toList_renderAll, Chars.count_flatMap, List.length_map]
  simpa using fun sample _ => newline_not_mem_line sample

theorem lines_renderAll : Text.lines (renderAll samples) = samples.map line := by
  rw [Text.lines, toList_renderAll, Chars.lines_flatMap]
  · simp [Function.comp_def]
  · simpa using fun sample _ => newline_not_mem_line sample
  · simpa using fun sample _ => by simp [getLast?_line]

/-- Lines of events are no array, whatever the events are. -/
theorem ofContent_renderAll_eq : ofContent (renderAll samples) = ofLines (renderAll samples) := by
  have hstart : Text.startsWith (Text.trimStart (renderAll samples)) "[" = false := by
    rw [Text.startsWith, Text.trimStart, String.toList_ofList, toList_renderAll]
    cases samples with
    | nil => decide
    | cons sample samples =>
      obtain ⟨inner, hline⟩ := exists_toList_line sample
      have hblank : Text.isBlank '\x7b' = false := by decide
      simp [hline, Chars.trimStart, hblank, List.isPrefixOf]
  rw [ofContent, hstart]
  rfl

/-- **Written events are read as they were**, each from its line. -/
theorem ofContent_renderAll
    (h : ∀ sample ∈ samples, Json.parse? sample.line = some sample.toJson) :
    ofContent (renderAll samples) = samples := by
  have htrim : (samples.map line).map Text.trim = samples.map line := by
    simp [trim_line]
  have hkept : (samples.map line).filter (fun line => !line.isEmpty) = samples.map line := by
    rw [List.filter_eq_self]
    simpa using fun sample _ => line_ne_empty sample
  have hread : (samples.map line).map ofLine = samples.map id := by
    rw [List.map_map]
    exact List.map_congr_left fun sample hsample => ofLine_line (h sample hsample)
  rw [ofContent_renderAll_eq, ofLines, lines_renderAll, htrim, hkept, hread, List.map_id]

/-! ## Events that were read -/

variable {content : String}

theorem fits_ofMessage (text : String) : Fits Json.maxDepth (ofMessage text).toJson := by
  refine .obj (List.pairwise_singleton _ _) fun f hf => ?_
  rw [List.mem_singleton.1 hf]
  exact .str text

theorem fits_ofJson {depth : Nat} {v : Json} (hdepth : depth ≤ Json.maxDepth) (h : Fits depth v) :
    Fits Json.maxDepth (ofJson v).toJson := by
  cases v with
  | obj fields => exact h.mono hdepth
  | null | bool _ | int _ | float _ | str _ | arr _ => exact fits_ofMessage _

theorem fits_ofLine (line : String) : Fits Json.maxDepth (ofLine line).toJson := by
  rw [ofLine]
  split
  · next fields hparse => exact Json.fits_of_parse? hparse
  · exact fits_ofMessage line

/-- What is read as an event can be written and read again. -/
theorem fits_of_mem_ofContent {sample : Sample} (h : sample ∈ ofContent content) :
    Fits Json.maxDepth sample.toJson := by
  have hlines : sample ∈ ofLines content → Fits Json.maxDepth sample.toJson := by
    intro hmem
    obtain ⟨line, -, rfl⟩ := List.mem_map.1 hmem
    exact fits_ofLine line
  simp only [ofContent] at h
  split at h
  · split at h
    · next items hparse =>
      obtain ⟨item, hitem, rfl⟩ := List.mem_map.1 h
      cases Json.fits_of_parse? hparse with
      | arr hitems => exact fits_ofJson (by decide) (hitems item hitem)
    · exact hlines h
  · exact hlines h

/-- A text that is an array, past the blanks in front of it. -/
def IsArray (content : String) : Prop :=
  ∃ items, Json.parse? (Text.trimStart content) = some (.arr items)

instance (content : String) : Decidable (IsArray content) :=
  match h : Json.parse? (Text.trimStart content) with
  | some (.arr items) => isTrue ⟨items, h⟩
  | some .null | some (.bool _) | some (.int _) | some (.float _) | some (.str _) | some (.obj _)
  | none => isFalse (by simp [IsArray, h])

theorem ofContent_of_not_isArray (h : ¬ IsArray content) : ofContent content = ofLines content := by
  simp only [ofContent]
  split
  · split
    · next items hparse => exact absurd ⟨items, hparse⟩ h
    · rfl
  · rfl

/-- The event of a line: the object that it is, or the line itself as a message. -/
def IsEventOf (line : String) (sample : Sample) : Prop :=
  Json.parse? line = some (.obj sample.fields) ∨
    (∀ fields, Json.parse? line ≠ some (.obj fields)) ∧ sample.fields = [("message", .str line)]

theorem isEventOf_ofLine (line : String) : IsEventOf line (ofLine line) := by
  rw [ofLine]
  split
  · next fields hparse => exact .inl hparse
  · next hparse => exact .inr ⟨hparse, rfl⟩

/-- The lines that are not blank, trimmed. -/
def eventLines (content : String) : List String :=
  ((Text.lines content).map Text.trim).filter fun line => !line.isEmpty

theorem length_eventLines (content : String) :
    (eventLines content).length =
      (Text.lines content).countP fun line => !(Text.trim line).isEmpty := by
  rw [eventLines, ← List.countP_eq_length_filter, List.countP_map]
  rfl

/-- Of a text that is no array every line that is not blank is one event. -/
theorem forall₂_isEventOf (h : ¬ IsArray content) :
    List.Forall₂ IsEventOf (eventLines content) (ofContent content) := by
  rw [ofContent_of_not_isArray h]
  exact List.forall₂_map_right_iff.2 (List.forall₂_same.2 fun line _ => isEventOf_ofLine line)

/-- **Events are framed by lines.** The events of any text are written with one line feed for
each, and where what is written for an event is read as that event, which it is unless a double
changes by it, these lines are read as the same events in the same order. Of a text that is no array
there are as many events as it has lines that are not blank. -/
theorem ofContent_framing (content : String) :
    (renderAll (ofContent content)).toList.count '\n' = (ofContent content).length ∧
    ((∀ sample ∈ ofContent content, Json.parse? sample.line = some (.obj sample.fields)) →
      ofContent (renderAll (ofContent content)) = ofContent content) ∧
    ((∀ sample ∈ ofContent content, ∀ x ∈ sample.toJson.doublesIn, ReadsBack x) →
      ∀ sample ∈ ofContent content, Json.parse? sample.line = some (.obj sample.fields)) ∧
    (¬ IsArray content →
      (ofContent content).length =
        (Text.lines content).countP (fun line => !(Text.trim line).isEmpty) ∧
      List.Forall₂ IsEventOf (eventLines content) (ofContent content)) := by
  refine ⟨count_renderAll _, ofContent_renderAll _, fun hdoubles sample hsample => ?_,
    fun harray => ?_⟩
  · exact Json.parse?_write (fits_of_mem_ofContent hsample) (hdoubles sample hsample)
  · have hevents := forall₂_isEventOf harray
    exact ⟨by rw [← hevents.length_eq, length_eventLines], hevents⟩

/-- An object over blanks, a blank line and a line that is an array, which is a message here. -/
theorem ofContent_framing_mixed :
    let content := "  \x7b\"b\": [1.5, \"x\\ty\"], \"a\": \x7b\x7d\x7d\r\n \t\n[1]\u00a0\n"
    (∀ sample ∈ ofContent content, ∀ x ∈ sample.toJson.doublesIn, ReadsBack x) ∧
    ¬ IsArray content ∧ (ofContent content).length = 2 ∧
    (renderAll (ofContent content)).toList.count '\n' = 2 ∧
    ofContent (renderAll (ofContent content)) = ofContent content ∧
    List.Forall₂ IsEventOf (eventLines content) (ofContent content) := by
  intro content
  have hdoubles : ∀ sample ∈ ofContent content, ∀ x ∈ sample.toJson.doublesIn, ReadsBack x := by
    decide +kernel
  have harray : ¬ IsArray content := by decide +kernel
  have hlines : (Text.lines content).countP (fun line => !(Text.trim line).isEmpty) = 2 := by
    decide +kernel
  obtain ⟨hcount, hback, hread, hevents⟩ := ofContent_framing content
  obtain ⟨hlength, hevents⟩ := hevents harray
  rw [hlines] at hlength
  exact ⟨hdoubles, harray, hlength, by rw [hcount, hlength], hback (hread hdoubles), hevents⟩

end Sample
end RemapSynth
