/-
One kind of failure, one value. The numbers that have a kind of their own
never stand for the general kind, wherever a kind comes from
(`IsCanonical.ofMessage`), and every other kind is read back from its name
(`ofName_name`). In a message the first complete tag decides, whatever stands
around it, unless its number is none of a compiler (`ofMessage_tag`).
-/
import RemapSynth.Proofs.Diagnosis
import RemapSynth.Proofs.Json.ReadBack

namespace RemapSynth

namespace Chars

theorem natOfDigits_eq (digits : List Char) :
    natOfDigits digits = Nat.ofDigitChars 10 digits 0 := by
  have hfold : ∀ start, digits.foldl (fun n c => n * 10 + (c.toNat - 48)) start =
      Nat.ofDigitChars 10 digits start := by
    induction digits with
    | nil => intro start; simp
    | cons c digits ih =>
      intro start
      rw [List.foldl_cons, ih, Nat.ofDigitChars_cons, Nat.mul_comm]
      rfl
  exact hfold 0

theorem natOfDigits_toDigits (n : Nat) : natOfDigits (Nat.toDigits 10 n) = n := by
  rw [natOfDigits_eq, Nat.ofDigitChars_ten_toDigits]

theorem readNat?_toDigits (n : Nat) : readNat? (Nat.toDigits 10 n) = some n := by
  have hdigits : (Nat.toDigits 10 n).all Text.isAsciiDigit = true :=
    List.all_eq_true.2 fun _ => Json.isAsciiDigit_of_mem_toDigits
  have hne : (Nat.toDigits 10 n).isEmpty = false := List.isEmpty_eq_false_iff.2 Nat.toDigits_ne_nil
  simp [readNat?, hdigits, hne, natOfDigits_toDigits]

/-- What is read is no larger than it may be. -/
theorem le_of_readUpTo? {max n : Nat} {s : List Char} (h : readUpTo? max s = some n) : n ≤ max := by
  obtain ⟨-, hle⟩ := Option.filter_eq_some_iff.1 h
  simpa using hle

/-- A number that is no larger than it may be is read from its digits. -/
theorem readUpTo?_toDigits {n max : Nat} (h : n ≤ max) :
    readUpTo? max (Nat.toDigits 10 n) = some n := by
  have hplus : ∀ rest, Nat.toDigits 10 n ≠ '+' :: rest := by
    intro rest hrest
    have hdigit : Text.isAsciiDigit '+' = true :=
      Json.isAsciiDigit_of_mem_toDigits (n := n) (by simp [hrest])
    revert hdigit
    decide
  rw [readUpTo?.eq_def]
  split
  · next rest hrest => exact absurd hrest (hplus rest)
  · simp [readNat?_toDigits, h]

end Chars

namespace Diagnosis

variable {s p digits : List Char} {d : Diagnosis} {n : Nat}

/-! ## Canonical kinds -/

/-- The compiler numbers that have a kind of their own. -/
def ownNumbers : List Nat := [103, 105, 110, 203, 620, 651]

/-- The kind is the only one that stands for its number, which a compiler can have. -/
def IsCanonical (d : Diagnosis) : Prop := ∀ n, d = compiler n → n ≤ maxNumber ∧ n ∉ ownNumbers

theorem IsCanonical.ofNumber (h : n ≤ maxNumber) : IsCanonical (ofNumber n) := by
  intro m hm
  rw [Diagnosis.ofNumber.eq_def] at hm
  split at hm <;> simp_all [ownNumbers]

/-- A kind without a number is the only one of its name. -/
theorem IsCanonical.of_number?_eq_none (h : d.number? = none) : IsCanonical d := by
  rintro n rfl
  cases h

theorem numberOfName?_le {name : List Char} (h : numberOfName? name = some n) : n ≤ maxNumber := by
  rw [numberOfName?.eq_def] at h
  split at h
  · exact Chars.le_of_readUpTo? h
  · cases h

theorem IsCanonical.ofName (s : String) : IsCanonical (ofName s) := by
  simp only [Diagnosis.ofName]
  split
  · next n hnumber => exact .ofNumber (numberOfName?_le hnumber)
  · split
    · exact .of_number?_eq_none rfl
    split
    · exact .of_number?_eq_none rfl
    split
    · exact .of_number?_eq_none rfl
    · exact .of_number?_eq_none rfl

theorem taggedNumber?_le (h : taggedNumber? s = some n) : n ≤ maxNumber := by
  obtain ⟨-, hle⟩ := Option.filter_eq_some_iff.1 h
  simpa using hle

theorem number?_ofStart? (h : ofStart? s = some d) : d.number? = none := by
  simp only [ofStart?] at h
  split at h
  · cases h
    rfl
  split at h
  · cases h
    rfl
  split at h
  · cases h
    rfl
  · cases h

theorem ofKeywords_cases (s : List Char) :
    ofKeywords s = malformed ∨ ofKeywords s = unnecessaryCoalesce ∨
      ofKeywords s = unhandledFallible ∨ ofKeywords s = unknown := by
  simp only [ofKeywords]
  split
  · exact .inl rfl
  split
  · exact .inr (.inl rfl)
  split
  · exact .inr (.inr (.inl rfl))
  · exact .inr (.inr (.inr rfl))

/-- **Every kind that a message tells is canonical.** -/
theorem IsCanonical.ofMessage (message : String) : IsCanonical (ofMessage message) := by
  rw [Diagnosis.ofMessage, ofChars]
  split
  · next n hnumber => exact .ofNumber (taggedNumber?_le hnumber)
  · cases hstart : ofStart? message.toList with
    | some d => exact .of_number?_eq_none (number?_ofStart? hstart)
    | none =>
      intro n hn
      rw [Option.getD_none] at hn
      rcases ofKeywords_cases message.toList with h | h | h | h <;> simp [h] at hn

/-! ## Names -/

/-- A name is `E` and the digits of its number, when there is one. -/
theorem toList_name (h : d.number? = some n) : d.name.toList = 'E' :: Nat.toDigits 10 n := by
  cases d <;> cases h
  case compiler => simp [name]
  all_goals decide

theorem not_isBlank_of_isAsciiDigit {c : Char} (h : Text.isAsciiDigit c = true) :
    Text.isBlank c = false := by
  simp only [Text.isAsciiDigit, Bool.and_eq_true, decide_eq_true_eq] at h
  simp [Text.isBlank]
  omega

theorem trim_name (d : Diagnosis) : Chars.trim d.name.toList = d.name.toList := by
  cases hnumber : d.number? with
  | none => cases d <;> cases hnumber <;> decide
  | some n =>
    have hblank : ∀ c ∈ 'E' :: Nat.toDigits 10 n, Text.isBlank c = false := by
      intro c hc
      rcases List.mem_cons.1 hc with rfl | hc
      · decide
      · exact not_isBlank_of_isAsciiDigit (Json.isAsciiDigit_of_mem_toDigits hc)
    rw [toList_name hnumber]
    exact Chars.trim_eq_self (fun c hc => hblank c (List.mem_of_mem_head? hc))
      fun c hc => hblank c (List.mem_of_mem_getLast? hc)

/-- A canonical kind is the one that its number stands for. -/
theorem ofNumber_of_number? (h : IsCanonical d) (hn : d.number? = some n) :
    n ≤ maxNumber ∧ ofNumber n = d := by
  cases d with
  | compiler m =>
    cases hn
    obtain ⟨hle, hown⟩ := h n rfl
    refine ⟨hle, ?_⟩
    rw [ofNumber.eq_def]
    split <;> simp_all [ownNumbers]
  | _ => cases hn <;> exact ⟨by decide, rfl⟩

/-- **A kind is read back from its name.** -/
theorem ofName_name (h : IsCanonical d) : ofName d.name = d := by
  cases hnumber : d.number? with
  | none => cases d <;> cases hnumber <;> decide
  | some n =>
    obtain ⟨hle, hn⟩ := ofNumber_of_number? h hnumber
    have hread : numberOfName? (Chars.trim d.name.toList) = some n := by
      rw [trim_name, toList_name hnumber, numberOfName?, Chars.readUpTo?_toDigits hle]
    simp only [ofName, hread, hn]

/-- A kind as data. -/
def toJson (d : Diagnosis) : Json := .str d.name

/-- The kind that data stands for; only a text stands for one. -/
def ofJson? : Json → Option Diagnosis
  | .str s => some (ofName s)
  | _ => none

theorem ofJson?_parse?_toJson (h : IsCanonical d) :
    (Json.parse? d.toJson.write).bind ofJson? = some d := by
  have hread : Json.parse? d.toJson.write = some d.toJson :=
    Json.parse?_write (.str d.name) (by simp [toJson, Json.doublesIn])
  rw [hread, Option.bind_some, toJson, ofJson?, ofName_name h]

/-! ## The first tag -/

/-- A text with a complete tag in it. -/
def HasTag (s : List Char) : Prop :=
  ∃ digits, digits ≠ [] ∧ (∀ c ∈ digits, Text.isDigit c = true) ∧
    tagOpener ++ digits ++ [']'] <:+: s

/-- What ends before a character it does not have ends before it wherever it begins. -/
theorem prefix_of_not_mem {c : Char} {part front rest : List Char} (h : part <+: front ++ c :: rest)
    (hc : c ∉ part) : part <+: front := by
  have hfront : front ++ [c] <+: front ++ c :: rest := by simp
  rcases List.prefix_or_prefix_of_prefix h hfront with hin | hin
  · rcases List.prefix_concat_iff.1 hin with rfl | hin
    · simp at hc
    · exact hin
  · exact absurd (hin.subset (by simp)) hc

/-- A tag has its `e` in front and no other, so none begins before a tag and ends in it. -/
theorem BeginsTag.of_append_opener {q rest : List Char} (hq : q ≠ [])
    (h : BeginsTag (q ++ tagOpener ++ rest) digits) : tagOpener ++ digits ++ [']'] <+: q := by
  obtain ⟨c, q, rfl⟩ := List.exists_cons_of_ne_nil hq
  have hopener : tagOpener = 'e' :: "rror[E".toList := by decide
  have hnot : 'e' ∉ "rror[E".toList ++ digits ++ [']'] := by
    simp only [List.mem_append, not_or]
    refine ⟨⟨by decide, fun hmem => ?_⟩, by decide⟩
    have hdigit := h.isDigit 'e' hmem
    revert hdigit
    decide
  have hwritten := h.written
  rw [hopener] at hwritten ⊢
  simp only [List.cons_append, List.append_assoc, List.cons_prefix_cons] at hwritten hnot ⊢
  exact ⟨hwritten.1, prefix_of_not_mem hwritten.2 hnot⟩

/-- **The first tag is found, whatever stands around it** as long as no tag stands before it. -/
theorem firstTag?_append_tag (hp : ¬ HasTag p) (hne : digits ≠ [])
    (hdigits : ∀ c ∈ digits, Text.isDigit c = true) (s : List Char) :
    firstTag? (p ++ tagOpener ++ digits ++ ']' :: s) = some digits := by
  rw [firstTag?_eq_some_iff]
  refine ⟨p, tagOpener ++ digits ++ ']' :: s, by simp, ⟨hne, hdigits, by simp⟩, ?_⟩
  intro front rest digits' hs htag
  by_contra hlt
  rw [Nat.not_le] at hlt
  -- A tag that begins earlier would lie in `p` altogether.
  obtain ⟨q, rfl⟩ : front <+: p :=
    List.prefix_of_prefix_length_le ⟨rest, hs.symm⟩ (by simp) (Nat.le_of_lt hlt)
  have hq : q ≠ [] := by
    rintro rfl
    simp at hlt
  have hrest : rest = q ++ tagOpener ++ (digits ++ ']' :: s) := by
    simpa using hs.symm
  rw [hrest] at htag
  have hin := htag.of_append_opener hq
  exact hp ⟨digits', htag.ne_nil, htag.isDigit,
    hin.isInfix.trans (List.suffix_append front q).isInfix⟩

/-- **What a message with a tag tells.** The first tag decides when it is written in ASCII and its
number is one of a compiler, else what the message begins with, else its keywords. -/
theorem ofChars_tag (hp : ¬ HasTag p) (hne : digits ≠ [])
    (hdigits : ∀ c ∈ digits, Text.isDigit c = true) (s : List Char) :
    ofChars (p ++ tagOpener ++ digits ++ ']' :: s) =
      if digits.all Text.isAsciiDigit ∧ Chars.natOfDigits digits ≤ maxNumber then
        ofNumber (Chars.natOfDigits digits)
      else
        (ofStart? (p ++ tagOpener ++ digits ++ ']' :: s)).getD
          (ofKeywords (p ++ tagOpener ++ digits ++ ']' :: s)) := by
  have htagged : taggedNumber? (p ++ tagOpener ++ digits ++ ']' :: s) =
      if digits.all Text.isAsciiDigit ∧ Chars.natOfDigits digits ≤ maxNumber then
        some (Chars.natOfDigits digits)
      else none := by
    rw [taggedNumber?, firstTag?_append_tag hp hne hdigits, Option.bind_some, Chars.readNat?]
    by_cases hascii : digits.all Text.isAsciiDigit = true
    · have hread : (digits.isEmpty || !digits.all Text.isAsciiDigit) = false := by
        simpa [hne] using hascii
      rw [hread, if_neg Bool.false_ne_true, Option.filter_some]
      simp only [and_iff_right hascii, decide_eq_true_eq]
    · have hread : (digits.isEmpty || !digits.all Text.isAsciiDigit) = true := by
        simpa [hne] using hascii
      rw [hread, if_pos rfl, if_neg fun h => hascii h.1]
      rfl
  rw [ofChars, htagged]
  split_ifs <;> rfl

/-! ## Classification -/

/-- **Kinds are canonical and tags decide.** Whatever a kind is made from, a number, a name, data or
a message, it is canonical, and a canonical kind is read back from its name and from what is written
for it. What a message tells is decided by its first complete tag, whatever else stands before and
behind it, when the digits of the tag are those of a compiler number; when they are not, tags behind
it do not count, and what the message begins with decides, or else its keywords. -/
theorem classification_canonical :
    ((∀ n, n ≤ maxNumber → IsCanonical (ofNumber n)) ∧ (∀ s, IsCanonical (ofName s)) ∧
      (∀ j d, ofJson? j = some d → IsCanonical d) ∧ ∀ message, IsCanonical (ofMessage message)) ∧
    (∀ d, IsCanonical d →
      ofName d.name = d ∧ (Json.parse? d.toJson.write).bind ofJson? = some d) ∧
    ∀ p digits s : String, ¬ HasTag p.toList → digits ≠ "" →
      (∀ c ∈ digits.toList, Text.isDigit c = true) →
      ofMessage (p ++ "error[E" ++ digits ++ "]" ++ s) =
        if digits.toList.all Text.isAsciiDigit ∧
            Chars.natOfDigits digits.toList ≤ maxNumber then
          ofNumber (Chars.natOfDigits digits.toList)
        else
          (ofStart? (p ++ "error[E" ++ digits ++ "]" ++ s).toList).getD
            (ofKeywords (p ++ "error[E" ++ digits ++ "]" ++ s).toList) := by
  refine ⟨⟨fun n => .ofNumber, .ofName, fun j d h => ?_, .ofMessage⟩,
    fun d h => ⟨ofName_name h, ofJson?_parse?_toJson h⟩, fun p digits s hp hne hdigits => ?_⟩
  · cases j <;> cases h
    exact .ofName _
  · have hchars : (p ++ "error[E" ++ digits ++ "]" ++ s).toList =
        p.toList ++ tagOpener ++ digits.toList ++ ']' :: s.toList := by
      have hclose : "]".toList = [']'] := rfl
      rw [String.toList_append, String.toList_append, String.toList_append, String.toList_append,
        hclose, List.append_assoc _ [']']]
      rfl
    have hne' : digits.toList ≠ [] := by simpa using hne
    rw [ofMessage, hchars, ofChars_tag hp hne' hdigits]

/-- A tag behind one that is not complete and before another, and a number that is too large. -/
theorem classification_canonical_tags :
    IsCanonical (compiler 7) ∧ ofName (compiler 7).name = compiler 7 ∧
    ofMessage ("TIMEOUT: error[E" ++ "error[E" ++ "00103" ++ "]" ++ " error[E651]") =
      unhandledFallible ∧
    ofMessage ("" ++ "error[E" ++ "70000" ++ "]" ++ " error[E103]: Coalescing") =
      unnecessaryCoalesce := by
  have hcanonical : IsCanonical (compiler 7) := by
    intro n hn
    cases hn
    decide
  have hopen : ¬ HasTag "TIMEOUT: error[E".toList := by
    rintro ⟨digits, -, -, hin⟩
    have hbracket : ']' ∈ "TIMEOUT: error[E".toList := hin.subset (by simp)
    revert hbracket
    decide
  have hempty : ¬ HasTag "".toList := by
    rintro ⟨digits, -, -, hin⟩
    have hbracket : ']' ∈ "".toList := hin.subset (by simp)
    revert hbracket
    decide
  refine ⟨hcanonical, (classification_canonical.2.1 _ hcanonical).1, ?_, ?_⟩
  · rw [classification_canonical.2.2 _ _ _ hopen (by decide)
      (List.all_eq_true.1 (by decide))]
    decide +kernel
  · rw [classification_canonical.2.2 _ _ _ hempty (by decide)
      (List.all_eq_true.1 (by decide))]
    decide +kernel

end Diagnosis
end RemapSynth
