/-
What of a reply gets into an error. A reply with a status of an error is
quoted only when nothing in the quote looks like a key
(`holdsMark_ofStatus`); an error reported inside a reply and a refusal are
quoted as they are.
-/
import RemapSynth.Chat.Exchange
import RemapSynth.Proofs.Text.Lowercase
import RemapSynth.Proofs.Text.Pieces

namespace RemapSynth.Chat

/-- Whether a text in lower case has one of the marks. -/
def holdsMark (text : String) : Bool :=
  secretMarks.any fun mark => Text.contains (Text.toLower text) mark

/-- A mark occurs in characters once they are in lower case. -/
def Marked (s : List Char) : Prop := ∃ mark ∈ secretMarks, mark.toList <:+: Chars.toLower s

theorem holdsMark_iff {text : String} : holdsMark text = true ↔ Marked text.toList := by
  simp [holdsMark, Marked, Text.contains, Text.toLower, Chars.contains_iff_infix]

/-! ## Marks in parts of a text -/

theorem not_mem_mark {mark : String} (h : mark ∈ secretMarks) : ' ' ∉ mark.toList := by
  revert mark
  decide

theorem any_letter_of_mark {mark : String} (h : mark ∈ secretMarks) :
    mark.toList.any Text.isAsciiLetter = true := by
  revert mark
  decide

/-- **A text holds a mark where one of its parts does,** when it is parted at a blank. -/
theorem marked_append_blank {front : List Char} (h : 'Σ' ∉ front) (rest : List Char) :
    Marked (front ++ ' ' :: rest) ↔ Marked front ∨ Marked rest := by
  have hmark {mark : String} (hm : mark ∈ secretMarks) :
      mark.toList <:+: Chars.toLower (front ++ ' ' :: rest) ↔
        mark.toList <:+: Chars.toLower front ∨ mark.toList <:+: Chars.toLower rest := by
    -- no mark goes across the blank, as none has one
    rw [Chars.toLower_append_blank h, Chars.infix_append_cons_iff (not_mem_mark hm)]
  constructor
  · rintro ⟨mark, hm, hin⟩
    obtain hin | hin := (hmark hm).1 hin
    · exact .inl ⟨mark, hm, hin⟩
    · exact .inr ⟨mark, hm, hin⟩
  · rintro (⟨mark, hm, hin⟩ | ⟨mark, hm, hin⟩)
    · exact ⟨mark, hm, (hmark hm).2 (.inl hin)⟩
    · exact ⟨mark, hm, (hmark hm).2 (.inr hin)⟩

/-- A mark has a letter. -/
theorem not_marked_of_isPlain {s : List Char} (h : ∀ c ∈ s, Text.isPlain c = true) :
    ¬ Marked s := by
  rintro ⟨mark, hm, hin⟩
  rw [Chars.toLower_of_isPlain h] at hin
  obtain ⟨c, hc, hletter⟩ := List.any_eq_true.1 (any_letter_of_mark hm)
  have hplain := h c (hin.subset hc)
  rw [Text.isPlain, hletter, Bool.not_true, Bool.and_false] at hplain
  cases hplain

/-- Words and a number before a text add no mark. -/
theorem marked_after_number {words before after : List Char} (n : Nat) (hsigma : 'Σ' ∉ words)
    (hwords : ¬ Marked words) (hplain : (before ++ after).all Text.isPlain = true)
    (rest : List Char) :
    Marked (words ++ ' ' :: (before ++ (Nat.repr n).toList ++ after ++ ' ' :: rest)) ↔
      Marked rest := by
  have hnumber : ∀ c ∈ before ++ (Nat.repr n).toList ++ after, Text.isPlain c = true := by
    rw [List.all_eq_true] at hplain
    intro c hc
    rw [List.mem_append, List.mem_append] at hc
    obtain (hc | hc) | hc := hc
    · exact hplain c (List.mem_append_left _ hc)
    · exact Text.isPlain_of_mem_repr hc
    · exact hplain c (List.mem_append_right _ hc)
  rw [marked_append_blank hsigma, marked_append_blank (Chars.not_mem_of_isPlain hnumber),
    or_iff_right hwords, or_iff_right (not_marked_of_isPlain hnumber)]

/-! ## Errors that a status stands for -/

theorem quotable_eq (content : String) :
    quotable content =
      if holdsMark (Text.truncate content maxQuote) then redaction
      else Text.truncate content maxQuote := by
  simp [quotable, holdsMark, Text.contains, Text.toLower]

/-- Text of a reply that may be quoted holds no mark. -/
theorem holdsMark_quotable (content : String) : holdsMark (quotable content) = false := by
  rw [quotable_eq]
  split
  case isTrue => decide +kernel
  case isFalse h => exact Bool.eq_false_iff.2 h

theorem holdsMark_serverError (status : Nat) :
    holdsMark ("Provider server error (" ++ Nat.repr status ++
      "). The service may be temporarily unavailable.") = false := by
  have hsplit : ("Provider server error (" ++ Nat.repr status ++
      "). The service may be temporarily unavailable.").toList =
      "Provider server error".toList ++ ' ' :: (['('] ++ (Nat.repr status).toList ++ [')', '.'] ++
        ' ' :: "The service may be temporarily unavailable.".toList) := by
    simp
  have hfront : holdsMark "Provider server error" = false := by decide +kernel
  have hrest : holdsMark "The service may be temporarily unavailable." = false := by decide +kernel
  rw [← Bool.not_eq_true, holdsMark_iff] at hfront hrest ⊢
  rwa [hsplit, marked_after_number status (by decide) hfront (by decide)]

theorem holdsMark_apiError (status : Nat) (body : String) :
    holdsMark ("API error " ++ Nat.repr status ++ ": " ++ quotable body) = false := by
  have hsplit : ("API error " ++ Nat.repr status ++ ": " ++ quotable body).toList =
      "API error".toList ++ ' ' :: ([] ++ (Nat.repr status).toList ++ [':'] ++
        ' ' :: (quotable body).toList) := by
    simp
  have hfront : holdsMark "API error" = false := by decide +kernel
  have hrest := holdsMark_quotable body
  rw [← Bool.not_eq_true, holdsMark_iff] at hfront hrest ⊢
  rwa [hsplit, marked_after_number status (by decide) hfront (by decide)]

/-- **An error that a status stands for holds no mark.** -/
theorem holdsMark_ofStatus (status : Nat) (body : String) :
    holdsMark (Error.ofStatus status body).message = false := by
  have hrate : holdsMark "Rate limited by the LLM provider" = false := by decide +kernel
  have hkey : holdsMark "Invalid or unauthorized API key" = false := by decide +kernel
  rw [Error.ofStatus]
  split
  case isTrue => exact hrate
  split
  case isTrue => exact holdsMark_serverError status
  split
  case isTrue => exact hkey
  case isFalse => exact holdsMark_apiError status body

/-- Such an error quotes a reply that may hold a key by the notice, or not at all. -/
theorem ofStatus_redacted {status : Nat} {body : String}
    (h : holdsMark (Text.truncate body maxQuote) = true) :
    (Error.ofStatus status body).message = "API error " ++ Nat.repr status ++ ": " ++ redaction ∨
      ∀ other, (Error.ofStatus status other).message = (Error.ofStatus status body).message := by
  have hquote : quotable body = redaction := by
    rw [quotable_eq, if_pos h]
  simp only [Error.ofStatus, hquote]
  split
  · exact .inr fun _ => rfl
  · split
    · exact .inr fun _ => rfl
    · split
      · exact .inr fun _ => rfl
      · exact .inl rfl

/-! ## Errors inside a reply -/

/-- The text of a reply that goes into an error as it is: the error that it reports, else its
refusal. -/
def quoted? (body : String) : Option String :=
  match Json.Tree.scan body.toList with
  | .error _ => none
  | .ok tree =>
    match reportedError? tree with
    | some (message, _) => some message
    | none =>
      match choices? tree with
      | some (⟨_, some refusal⟩ :: _, _) => some refusal
      | _ => none

/-- The words before what is quoted add no mark. -/
theorem holdsMark_after (front text : String) (hsigma : 'Σ' ∉ front.toList)
    (hfront : holdsMark front = false) : holdsMark (front ++ " " ++ text) = holdsMark text := by
  have hsplit : (front ++ " " ++ text).toList = front.toList ++ ' ' :: text.toList := by
    simp
  rw [← Bool.not_eq_true, holdsMark_iff] at hfront
  rw [Bool.eq_iff_iff, holdsMark_iff, holdsMark_iff, hsplit, marked_append_blank hsigma,
    or_iff_right hfront]

theorem ofBody_quoted {model body text : String} (h : quoted? body = some text) :
    ∃ e, Completion.ofBody model body = .error e ∧
      (e.message = "Provider error: " ++ Text.truncate text maxQuote ∨
        e.message = "Request was refused: " ++ Text.truncate text maxQuote) := by
  rw [quoted?] at h
  rw [Completion.ofBody]
  cases hscan : Json.Tree.scan body.toList with
  | error fault => simp [hscan] at h
  | ok tree =>
    simp only [hscan, Completion.ofTree] at h ⊢
    cases hreport : reportedError? tree with
    | some report =>
      simp only [hreport, Option.some.injEq] at h ⊢
      exact ⟨_, rfl, .inl (by rw [← h]; rfl)⟩
    | none =>
      simp only [hreport] at h ⊢
      split at h
      case h_1 content refusal more usage hchoices =>
        cases h
        simp only [hchoices]
        exact ⟨_, rfl, .inr rfl⟩
      case h_2 => cases h

/-- **What of a reply gets into an error.** A reply with a status of an error gives an error
without marks: where a quote of it would hold one, the notice stands. A reply with a status of a
success gives an error that quotes the error reported in it, or else its refusal, as it is: the
error holds a mark just when the quote does. -/
theorem marks_of_error (model : String) (status : Nat) (body : String) :
    (¬ (200 ≤ status ∧ status ≤ 299) →
      ∃ e, Completion.ofReply model (.answered status body) = .error e ∧
        holdsMark e.message = false ∧
        (holdsMark (Text.truncate body maxQuote) = true →
          e.message = "API error " ++ Nat.repr status ++ ": " ++ redaction ∨
            ∀ other, (Error.ofStatus status other).message = e.message)) ∧
    (200 ≤ status ∧ status ≤ 299 → ∀ text, quoted? body = some text →
      ∃ e, Completion.ofReply model (.answered status body) = .error e ∧
        (e.message = "Provider error: " ++ Text.truncate text maxQuote ∨
          e.message = "Request was refused: " ++ Text.truncate text maxQuote) ∧
        holdsMark e.message = holdsMark (Text.truncate text maxQuote)) := by
  refine ⟨fun hstatus => ?_, fun hstatus text htext => ?_⟩
  · rw [Completion.ofReply, if_neg hstatus]
    exact ⟨_, rfl, holdsMark_ofStatus status body, ofStatus_redacted⟩
  · rw [Completion.ofReply, if_pos hstatus]
    obtain ⟨e, he, hmessage⟩ := ofBody_quoted htext
    refine ⟨e, he, hmessage, ?_⟩
    obtain hmessage | hmessage := hmessage
    · rw [hmessage]
      exact holdsMark_after "Provider error:" _ (by decide) (by decide +kernel)
    · rw [hmessage]
      exact holdsMark_after "Request was refused:" _ (by decide) (by decide +kernel)

/-- A reply that reports an error about a key. -/
def leaky : String := "\x7b\"error\":\x7b\"message\":\"bad key sk-abc123\",\"code\":400\x7d\x7d"

theorem marks_of_error_leaky :
    quoted? leaky = some "bad key sk-abc123" ∧
    (∃ e, Completion.ofReply "m" (.answered 200 leaky) = .error e ∧ holdsMark e.message = true) ∧
    ∃ e, Completion.ofReply "m" (.answered 400 leaky) = .error e ∧ holdsMark e.message = false := by
  have hquoted : quoted? leaky = some "bad key sk-abc123" := by decide +kernel
  obtain ⟨e, he, -, hmark⟩ := (marks_of_error "m" 200 leaky).2 (by decide) _ hquoted
  obtain ⟨e', he', hmark', -⟩ := (marks_of_error "m" 400 leaky).1 (by decide)
  exact ⟨hquoted, ⟨e, he, hmark.trans (by decide +kernel)⟩, e', he', hmark'⟩

end RemapSynth.Chat
