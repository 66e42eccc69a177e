/-
What decides the kind of error that a message tells of. A tag begins with
`e` and has a bracket, so a text without either has none, and what stands
before a tag does not keep it from being found unless it has a tag of its
own. A message is made of a word that tells the kind and of a text: what it
tells of depends on the text by its tag alone (`ofMessage_timeout`,
`ofMessage_compile`), by its tag and its keywords (`ofMessage_run`), or not at
all, as long as no tag opens in it (`ofMessage_conflict`,
`ofMessage_rejected`).
-/
import Mathlib.Data.List.TakeWhile
import RemapSynth.Diagnosis
import RemapSynth.Proofs.Text.Lowercase

namespace RemapSynth.Diagnosis

variable {s front rest digits : List Char} {sep : Char}

/-! ## Tags -/

/-- A text begins with a complete tag that has these digits. -/
structure BeginsTag (s digits : List Char) : Prop where
  ne_nil : digits ≠ []
  isDigit : ∀ c ∈ digits, Text.isDigit c = true
  written : tagOpener ++ digits ++ [']'] <+: s

theorem BeginsTag.of_tagHere? (h : tagHere? s = some digits) : BeginsTag s digits := by
  rw [tagHere?] at h
  split at h
  next => cases h
  next rest hopener =>
    dsimp only at h
    split at h
    next after hafter =>
      split at h
      next => cases h
      next hne =>
        cases h
        have hrest : rest.takeWhile Text.isDigit ++ ']' :: after = rest := by
          rw [← hafter, List.takeWhile_append_dropWhile]
        refine ⟨by simpa using hne, fun c hc => List.mem_takeWhile_imp hc, after, ?_⟩
        rw [Chars.eq_append_of_afterStart? hopener, List.append_assoc, List.append_assoc,
          List.singleton_append, hrest]
    next => cases h

theorem tagHere?_eq_some_iff : tagHere? s = some digits ↔ BeginsTag s digits := by
  refine ⟨.of_tagHere?, fun ⟨hne, hdigits, after, hs⟩ => ?_⟩
  have hopener : Chars.afterStart? tagOpener s = some (digits ++ ']' :: after) := by
    simp [Chars.afterStart?, ← hs]
  have hbracket : ∀ c ∈ (']' :: after).head?, Text.isDigit c = false := by
    intro c hc
    obtain rfl := Option.some.inj hc
    decide
  obtain ⟨htake, hdrop⟩ := Chars.takeWhile_append_of_head hdigits hbracket
  simp [tagHere?, hopener, htake, hdrop, hne]

/-- **The tag that counts is the first complete one.** -/
theorem firstTag?_eq_some_iff :
    firstTag? s = some digits ↔ ∃ front rest, s = front ++ rest ∧ BeginsTag rest digits ∧
      ∀ front' rest' digits', s = front' ++ rest' → BeginsTag rest' digits' →
        front.length ≤ front'.length := by
  induction s with
  | nil =>
    constructor
    · intro h
      cases h
    · rintro ⟨front, rest, hs, ⟨-, -, hwritten⟩, -⟩
      obtain ⟨-, rfl⟩ := List.append_eq_nil_iff.1 hs.symm
      cases List.prefix_nil.1 hwritten
  | cons c s ih =>
    cases hhere : tagHere? (c :: s) with
    | some here =>
      have hbegins := tagHere?_eq_some_iff.1 hhere
      simp only [firstTag?, hhere]
      constructor
      · intro h
        cases h
        exact ⟨[], c :: s, rfl, hbegins, fun _ _ _ _ _ => Nat.zero_le _⟩
      · rintro ⟨front, rest, hs, htag, hfirst⟩
        have hlength : front.length ≤ 0 := hfirst [] (c :: s) here rfl hbegins
        obtain rfl := List.length_eq_zero_iff.1 (Nat.le_zero.1 hlength)
        rw [List.nil_append] at hs
        rw [← hhere, hs, tagHere?_eq_some_iff]
        exact htag
    | none =>
      have hnot (digits' : List Char) : ¬ BeginsTag (c :: s) digits' := by
        rw [← tagHere?_eq_some_iff, hhere]
        exact nofun
      simp only [firstTag?, hhere, ih]
      constructor
      · rintro ⟨front, rest, rfl, htag, hfirst⟩
        refine ⟨c :: front, rest, rfl, htag, fun front' rest' digits' hs htag' => ?_⟩
        cases front' with
        | nil => exact absurd (hs ▸ htag') (hnot digits')
        | cons d front' =>
          obtain ⟨-, hs⟩ := List.cons.inj hs
          exact Nat.succ_le_succ (hfirst front' rest' digits' hs htag')
      · rintro ⟨front, rest, hs, htag, hfirst⟩
        cases front with
        | nil => exact absurd (hs ▸ htag) (hnot digits)
        | cons d front =>
          obtain ⟨-, hs⟩ := List.cons.inj hs
          refine ⟨front, rest, hs, htag, fun front' rest' digits' hs' htag' => ?_⟩
          have hlength := hfirst (c :: front') rest' digits' (by rw [hs', List.cons_append]) htag'
          simpa using hlength

theorem tagHere?_eq_none (h : ¬ tagOpener <+: s) : tagHere? s = none := by
  rw [tagHere?, Chars.afterStart?_eq_none_iff.2 h]

/-- A text in which no tag opens has none. -/
theorem firstTag?_eq_none (h : ¬ tagOpener <:+: s) : firstTag? s = none := by
  induction s with
  | nil => rfl
  | cons c s ih =>
    have hhere : ¬ tagOpener <+: c :: s := fun hprefix => h hprefix.isInfix
    have hrest : ¬ tagOpener <:+: s := fun hin => h (hin.trans (List.suffix_cons c s).isInfix)
    rw [firstTag?, tagHere?_eq_none hhere]
    exact ih hrest

/-- The first tag of a text is the first tag after anything that has no `e`. -/
theorem firstTag?_append (h : 'e' ∉ front) (s : List Char) :
    firstTag? (front ++ s) = firstTag? s := by
  induction front with
  | nil => rfl
  | cons c front ih =>
    rw [List.mem_cons, not_or] at h
    have hhere : ¬ tagOpener <+: c :: (front ++ s) := by
      intro hprefix
      obtain ⟨hc, -⟩ := List.cons_prefix_cons.1 hprefix
      exact h.1 hc
    rw [List.cons_append, firstTag?, tagHere?_eq_none hhere]
    exact ih h.2

theorem taggedNumber?_append (h : 'e' ∉ front) (s : List Char) :
    taggedNumber? (front ++ s) = taggedNumber? s := by
  rw [taggedNumber?, taggedNumber?, firstTag?_append h]

/-! ## Texts in which no tag opens -/

/-- No tag opens in a text. -/
def Untagged (s : List Char) : Prop := ¬ tagOpener <:+: s

instance : DecidablePred Untagged := fun s =>
  decidable_of_iff (Chars.contains s tagOpener = false) (by
    rw [Untagged, ← Chars.contains_iff_infix, Bool.not_eq_true])

theorem Untagged.of_not_mem (h : '[' ∉ s) : Untagged s :=
  fun hin => h (hin.subset (by decide))

theorem Untagged.part {part : List Char} (h : Untagged s) (hpart : part <:+: s) : Untagged part :=
  fun hin => h (hin.trans hpart)

theorem Untagged.taggedNumber?_eq_none (h : Untagged s) : taggedNumber? s = none := by
  rw [taggedNumber?, firstTag?_eq_none h]
  rfl

/-- A text without a bracket has no tag. -/
theorem taggedNumber?_eq_none (h : '[' ∉ s) : taggedNumber? s = none :=
  (Untagged.of_not_mem h).taggedNumber?_eq_none

/-- No tag opens across a character that a tag does not open with. -/
theorem Untagged.append_cons (hfront : Untagged front) (hsep : sep ∉ tagOpener)
    (hrest : Untagged rest) : Untagged (front ++ sep :: rest) := by
  rw [Untagged, Chars.infix_append_cons_iff hsep]
  exact fun h => h.elim hfront hrest

/-- No tag opens across pieces that are kept apart by such a character and a blank. -/
theorem Untagged.joinWith {pieces : List (List Char)} (hsep : sep ∉ tagOpener)
    (h : ∀ piece ∈ pieces, Untagged piece) : Untagged (Chars.joinWith [sep, ' '] pieces) := by
  induction pieces with
  | nil => exact .of_not_mem List.not_mem_nil
  | cons piece pieces ih =>
    have hpiece : Untagged piece := h piece List.mem_cons_self
    have hmore := ih fun next hnext => h next (List.mem_cons_of_mem piece hnext)
    by_cases hlast : pieces = []
    · rw [hlast, Chars.joinWith]
      exact hpiece
    · rw [Chars.joinWith_cons hlast, List.append_assoc]
      have hblank : Untagged ([] ++ ' ' :: Chars.joinWith [sep, ' '] pieces) :=
        Untagged.append_cons (.of_not_mem List.not_mem_nil) (by decide) hmore
      exact hpiece.append_cons hsep hblank

/-! ## What a message begins with -/

/-- What a tag in a text tells, when there is one, and what else is told without. -/
def tagged (text : List Char) (untagged : Diagnosis) : Diagnosis :=
  ((taggedNumber? text).map ofNumber).getD untagged

theorem Untagged.tagged_eq (h : Untagged s) (untagged : Diagnosis) :
    tagged s untagged = untagged := by
  rw [tagged, h.taggedNumber?_eq_none]
  rfl

/-- A word in front of a text has no part in the tag of the two. -/
theorem ofMessage_append {word : String} (h : 'e' ∉ word.toList) (text : String) :
    ofMessage (word ++ text) = tagged text.toList
      ((ofStart? (word.toList ++ text.toList)).getD
        (ofKeywords (word.toList ++ text.toList))) := by
  rw [ofMessage, String.toList_append, ofChars, taggedNumber?_append h, tagged]
  cases taggedNumber? text.toList <;> rfl

theorem ofMessage_append_blank {word : String} (h : 'e' ∉ word.toList) (text : String) :
    ofMessage (word ++ " " ++ text) = tagged text.toList
      ((ofStart? (word.toList ++ ' ' :: text.toList)).getD
        (ofKeywords (word.toList ++ ' ' :: text.toList))) := by
  have hfront : 'e' ∉ (word ++ " ").toList := by simpa using h
  have hwords : (word ++ " ").toList ++ text.toList = word.toList ++ ' ' :: text.toList := by simp
  rw [ofMessage_append hfront, hwords]

theorem trimStart_of_head {c : Char} (hc : Text.isBlank c = false) (s : List Char) :
    Chars.trimStart (c :: s) = c :: s := by
  rw [Chars.trimStart, List.dropWhile_cons_of_neg (by simp [hc])]

theorem ofStart?_conflictStart (s : List Char) :
    ofStart? (conflictStart.toList ++ s) = some fieldConflict := by
  have hblank : Text.isBlank 'F' = false := by decide
  simp [ofStart?, conflictStart, rejectedStart, trimStart_of_head hblank]

theorem ofStart?_rejectedStart (s : List Char) :
    ofStart? (rejectedStart.toList ++ s) = some rejectedConstruct := by
  have hblank : Text.isBlank 'R' = false := by decide
  simp [ofStart?, rejectedStart, trimStart_of_head hblank]

theorem ofStart?_timeoutStart (s : List Char) :
    ofStart? (timeoutStart.toList ++ s) = some timeout := by
  have hblank : Text.isBlank 'T' = false := by decide
  simp [ofStart?, timeoutStart, rejectedStart, conflictStart, trimStart_of_head hblank]

theorem ofStart?_compileStart (s : List Char) : ofStart? (compileStart.toList ++ s) = none := by
  have hblank : Text.isBlank 'S' = false := by decide
  simp [ofStart?, compileStart, rejectedStart, conflictStart, timeoutStart,
    trimStart_of_head hblank]

theorem ofStart?_runStart (s : List Char) : ofStart? (runStart.toList ++ s) = none := by
  have hblank : Text.isBlank 'P' = false := by decide
  simp [ofStart?, runStart, rejectedStart, conflictStart, timeoutStart, trimStart_of_head hblank]

/-- **A message about reserved fields** tells of them, whatever else it says without a tag. -/
theorem ofMessage_conflict {text : String} (h : Untagged text.toList) :
    ofMessage (conflictStart ++ text) = fieldConflict := by
  rw [ofMessage_append (by decide), h.tagged_eq, ofStart?_conflictStart]
  rfl

/-- **A message about rejected functions** tells of them, whatever else it says without a tag. -/
theorem ofMessage_rejected {text : String} (h : Untagged text.toList) :
    ofMessage (rejectedStart ++ text) = rejectedConstruct := by
  rw [ofMessage_append (by decide), h.tagged_eq, ofStart?_rejectedStart]
  rfl

/-! ## Keywords -/

/-- What a word in front of a blank has of keywords, the whole message has. -/
theorem contains_toLower_append {word needle : List Char} (hword : 'Σ' ∉ word)
    (hneedle : ' ' ∉ needle) (s : List Char) :
    Chars.contains (Chars.toLower (word ++ ' ' :: s)) needle =
      (Chars.contains (Chars.toLower word) needle || Chars.contains (Chars.toLower s) needle) := by
  rw [Chars.toLower_append_blank hword, Bool.eq_iff_iff, Bool.or_eq_true,
    Chars.contains_iff_infix, Chars.contains_iff_infix, Chars.contains_iff_infix,
    Chars.infix_append_cons_iff hneedle]

theorem ofKeywords_compileStart (s : List Char) :
    ofKeywords (compileStart.toList ++ ' ' :: s) = malformed := by
  rw [ofKeywords, contains_toLower_append (by decide) (by decide)]
  have hkeyword : Chars.contains (Chars.toLower compileStart.toList) "syntax".toList = true := by
    decide
  rw [hkeyword]
  rfl

theorem ofKeywords_runStart (s : List Char) :
    ofKeywords (runStart.toList ++ ' ' :: s) = ofKeywords s := by
  have hkeyword : Chars.contains (Chars.toLower runStart.toList) "syntax".toList = false := by
    decide
  have hcoalescing :
      Chars.contains (Chars.toLower runStart.toList) "coalescing".toList = false := by decide
  have hfallible : Chars.contains (Chars.toLower runStart.toList) "fallible".toList = false := by
    decide
  simp only [ofKeywords]
  rw [contains_toLower_append (by decide) (by decide),
    contains_toLower_append (by decide) (by decide),
    contains_toLower_append (by decide) (by decide), hkeyword, hcoalescing, hfallible]
  rfl

/-! ## Texts of an engine -/

/-- **A message about a program that does not compile** tells what the tag in its text does, and
without one that the program is malformed. -/
theorem ofMessage_compile (text : String) :
    ofMessage (compileStart ++ " " ++ text) = tagged text.toList malformed := by
  rw [ofMessage_append_blank (by decide), ofStart?_compileStart, ofKeywords_compileStart]
  rfl

/-- **A message about a failed run** tells what the tag in its text does, and without one what the
keywords in its text do. -/
theorem ofMessage_run (text : String) :
    ofMessage (runStart ++ " " ++ text) = tagged text.toList (ofKeywords text.toList) := by
  rw [ofMessage_append_blank (by decide), ofStart?_runStart, ofKeywords_runStart]
  rfl

/-! ## Timeouts -/

theorem ofNumber_ne_timeout (n : Nat) : ofNumber n ≠ timeout := by
  rw [ofNumber.eq_def]
  split <;> exact Diagnosis.noConfusion

/-- **A message about an engine that took too long** tells what the tag in its text does, and
without one of the timeout. -/
theorem ofMessage_timeout (text : String) :
    ofMessage (timeoutStart ++ " " ++ text) = tagged text.toList timeout := by
  rw [ofMessage_append_blank (by decide), ofStart?_timeoutStart]
  rfl

theorem ofMessage_timeout_iff {text : String} :
    ofMessage (timeoutStart ++ " " ++ text) = timeout ↔ taggedNumber? text.toList = none := by
  rw [ofMessage_timeout, tagged]
  cases taggedNumber? text.toList with
  | some n => simp [ofNumber_ne_timeout n]
  | none => simp

end RemapSynth.Diagnosis
