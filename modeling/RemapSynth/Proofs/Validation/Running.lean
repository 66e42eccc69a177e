/-
What is reported of a program that the engine turned down while it ran. The
text is read off the log, and the kind of failure off the text again, so a
code in the log must come through both: the text begins with the first line
that has a code, and the first tag of that line is the first of the message
(`run_keeps_code`).
-/
import RemapSynth.Proofs.Diagnosis.Canonical
import RemapSynth.Proofs.Engine.Log
import RemapSynth.Proofs.Validation.Pipeline

namespace RemapSynth

open Chars Engine

variable {log line text front digits behind : List Char}

/-- The first tag that opens in a line is complete. These are its digits; they are ASCII and make a
number that a compiler can have; and the tag ends where the line is still quoted. -/
structure CarriesCode (line front digits behind : List Char) : Prop where
  first : FirstIn Diagnosis.tagOpener line front (digits ++ ']' :: behind)
  ne_nil : digits ≠ []
  ascii : ∀ c ∈ digits, Text.isAsciiDigit c = true
  number : natOfDigits digits ≤ Diagnosis.maxNumber
  quoted : (front ++ Diagnosis.tagOpener ++ digits ++ [']']).length ≤ keptErrorText

theorem Text.isDigit_of_isAsciiDigit {c : Char} (h : Text.isAsciiDigit c = true) :
    Text.isDigit c = true := by
  have hascii : c.toNat < 128 := by
    simp only [Text.isAsciiDigit, Bool.and_eq_true, decide_eq_true_eq] at h
    omega
  rw [Text.isDigit, if_pos hascii, h]

namespace CarriesCode

/-- No tag stands before the first that opens. -/
theorem not_hasTag (h : CarriesCode line front digits behind) : ¬ Diagnosis.HasTag front := by
  rintro ⟨digits', -, -, before, after, hfront⟩
  have hsplit := h.first.split
  rw [← hfront] at hsplit
  have hleast := h.first.least before (digits' ++ [']'] ++ after ++ Diagnosis.tagOpener ++
    (digits ++ ']' :: behind)) (by rw [hsplit]; simp)
  rw [← hfront] at hleast
  have hopener : Diagnosis.tagOpener.length = 7 := rfl
  simp only [List.length_append, hopener] at hleast
  omega

/-- The tag is in any text that begins like the line, as far as the line is quoted. -/
theorem prefix_text (h : CarriesCode line front digits behind)
    (htext : line <+: text ∨ keptErrorText < line.length ∧
      text = line.take keptErrorText ++ "...".toList) :
    front ++ Diagnosis.tagOpener ++ digits ++ [']'] <+: text := by
  have hline : front ++ Diagnosis.tagOpener ++ digits ++ [']'] <+: line := by
    rw [h.first.split]
    exact ⟨behind, by simp⟩
  rcases htext with htext | ⟨-, rfl⟩
  · exact hline.trans htext
  · have hkept := List.prefix_take_iff.2 ⟨hline, h.quoted⟩
    exact hkept.trans (List.prefix_append _ _)

theorem tagged_eq (h : CarriesCode line front digits behind)
    (htext : front ++ Diagnosis.tagOpener ++ digits ++ [']'] <+: text) (untagged : Diagnosis) :
    Diagnosis.tagged text untagged = .ofNumber (natOfDigits digits) := by
  obtain ⟨rest, rfl⟩ := htext
  have hdigits : ∀ c ∈ digits, Text.isDigit c = true :=
    fun c hc => Text.isDigit_of_isAsciiDigit (h.ascii c hc)
  have hfirst : Diagnosis.firstTag? (front ++ Diagnosis.tagOpener ++ digits ++ [']'] ++ rest) =
      some digits := by
    rw [List.append_assoc _ [']'], List.singleton_append]
    exact Diagnosis.firstTag?_append_tag h.not_hasTag h.ne_nil hdigits rest
  have hread : readNat? digits = some (natOfDigits digits) := by
    simp [readNat?, h.ne_nil, List.all_eq_true.2 h.ascii]
  rw [Diagnosis.tagged, Diagnosis.taggedNumber?, hfirst, Option.bind_some, hread]
  rw [Option.filter_some, if_pos (decide_eq_true h.number)]
  rfl

end CarriesCode

namespace Validator

open Dialogue

/-- **A code in the log of the engine comes through.** A log says nothing just when it is blank,
and never more than there is room for. When the first line with a code carries one, the log says
what that line says, as far as there is room, and then more; and the verdict on a run that was
turned down with this is of the kind that the code stands for, whatever else is in the log. -/
theorem run_keeps_code (log : List Char) :
    (engineErrorText log = none ↔ isBlank log = true) ∧
    (∀ text, engineErrorText log = some text → text.length ≤ maxErrorText) ∧
    ∀ line front digits behind, (lines log).find? isCoded = some line →
      CarriesCode line front digits behind →
      ∃ text, engineErrorText log = some text ∧
        (line <+: text ∨ keptErrorText < line.length ∧
          text = line.take keptErrorText ++ "...".toList) ∧
        ∀ (v : Validator) (code : String) (samples : Option (List Sample)) (calls : List Call)
          (result : Except Failure Verdict) (code' : String) (given : List Sample) (o : RunOutput),
          History (v.validate code samples) calls result →
          (⟨.execute code' given, .ok o⟩ : Call) ∈ calls →
          o.errorText = some (.ofList text) →
          result = .ok (.refused (Diagnosis.runStart ++ " " ++ .ofList text)
            (.ofNumber (natOfDigits digits))) := by
  refine ⟨engineErrorText_eq_none_iff, fun text => length_engineErrorText_le,
    fun line front digits behind hline hcode => ?_⟩
  obtain ⟨text, hsays, htext⟩ := engineErrorText_coded hline
  refine ⟨text, hsays, htext, ?_⟩
  intro v code samples calls result code' given o h hrun herror
  have htagged := hcode.tagged_eq (hcode.prefix_text htext) (Diagnosis.ofKeywords text)
  rw [(history_validate h).result_of_execute hrun, runVerdict?_eq, runFinding, herror]
  simp only [String.toList_ofList, htagged, Option.getD_some]

/-- The log of an engine that speaks of errors before and after the one that has a code. -/
def noisyLog : List Char :=
  "ERROR vector: configuration error.\r\n > error[E0103]: unhandled, not error[E651]\r\n".toList

def noisyLine : List Char := " > error[E0103]: unhandled, not error[E651]".toList

theorem noisyLine_first : (lines noisyLog).find? isCoded = some noisyLine := by decide +kernel

theorem noisyLine_carriesCode : CarriesCode noisyLine " > ".toList "0103".toList
    ": unhandled, not error[E651]".toList where
  first := breakOn_eq_some_iff.1 (by decide +kernel)
  ne_nil := by decide
  ascii := List.all_eq_true.1 (by decide)
  number := by decide
  quoted := by decide

theorem noisy_history (o : RunOutput) :
    History (hasty.validate "." (some [.ofMessage "a"]))
      [⟨.compile ".", .ok .passed⟩, ⟨.execute "." [.ofMessage "a"], .ok o⟩]
      (.ok ((hasty.runVerdict? o).getD .pass)) :=
  .ask _ _ _ (.ask _ _ _ (.done _))

/-- A run that was turned down with such a log is a failure of the kind of that code. -/
theorem run_keeps_code_noisy :
    (lines noisyLog).find? isCoded = some noisyLine ∧
    CarriesCode noisyLine " > ".toList "0103".toList ": unhandled, not error[E651]".toList ∧
    ∃ text, engineErrorText noisyLog = some text ∧
      (hasty.runVerdict? ⟨0, some (.ofList text), false, .zero⟩).getD .pass =
        .refused (Diagnosis.runStart ++ " " ++ .ofList text) .unhandledFallible := by
  refine ⟨noisyLine_first, noisyLine_carriesCode, ?_⟩
  obtain ⟨-, -, hcoded⟩ := run_keeps_code noisyLog
  obtain ⟨text, hsays, -, hverdict⟩ := hcoded _ _ _ _ noisyLine_first noisyLine_carriesCode
  have hresult := hverdict hasty "." _ _ _ "." _ _
    (noisy_history ⟨0, some (.ofList text), false, .zero⟩)
    (List.mem_cons_of_mem _ List.mem_cons_self) rfl
  exact ⟨text, hsays, Except.ok.inj hresult⟩

end Validator
end RemapSynth
