/-
What is written as JSON. A number or a word has only bare characters, a text
stands in quotes with its control characters escaped, and so nothing that is
written has a control character of its own (`not_isControl_write`): every value
is written on one line.
-/
import RemapSynth.Json.Printer
import RemapSynth.Proofs.Text.Lines

namespace RemapSynth

theorem Text.isAsciiDigit_of_isDigit {c : Char} (h : c.isDigit = true) :
    isAsciiDigit c = true := by
  rw [Char.isDigit, Bool.and_eq_true, decide_eq_true_eq, decide_eq_true_eq] at h
  have hlow : 48 ≤ c.toNat := UInt32.le_iff_toNat_le.1 h.1
  have hhigh : c.toNat ≤ 57 := UInt32.le_iff_toNat_le.1 h.2
  simp [isAsciiDigit, hlow, hhigh]

namespace Json

/-- What holds of a value if it holds of the items and of the fields inside. -/
@[elab_as_elim]
theorem inductionOn {p : Json → Prop} (v : Json) (null : p .null) (bool : ∀ b, p (.bool b))
    (int : ∀ n, p (.int n)) (float : ∀ x, p (.float x)) (str : ∀ s, p (.str s))
    (arr : ∀ items, (∀ item ∈ items, p item) → p (.arr items))
    (obj : ∀ fields, (∀ f ∈ fields, p f.2) → p (.obj fields)) : p v :=
  @Json.rec p (fun items => ∀ item ∈ items, p item) (fun fields => ∀ f ∈ fields, p f.2)
    (fun f => p f.2) null bool int float str arr obj (by simp) (by simp_all) (by simp)
    (by simp_all) (fun _ _ h => h) v

/-! ## Characters -/

/-- A control character, which a text may not hold as it is. -/
def isControl (c : Char) : Bool := c.toNat < 32

/-- A character of numbers and words: a digit, a letter, a sign or the point. -/
def isBare (c : Char) : Bool := c.isAlphanum || c == '+' || c == '-' || c == '.'

theorem isBare_of_isDigit {c : Char} (h : c.isDigit = true) : isBare c = true := by
  simp [isBare, Char.isAlphanum, h]

theorem not_isControl_of_isBare {c : Char} (h : isBare c = true) : isControl c = false := by
  have hcontrol : ∀ n < 32, isBare (Char.ofNat n) = false := by decide
  rw [isControl, decide_eq_false_iff_not]
  intro hlt
  rw [← Char.ofNat_toNat c, hcontrol c.toNat hlt] at h
  cases h

/-- The words are written in letters. -/
theorem isBare_of_mem_word (word : String) (hword : word ∈ ["null", "true", "false"]) {c : Char}
    (h : c ∈ word.toList) : isBare c = true := by
  have hall : ∀ word ∈ ["null", "true", "false"], word.toList.all isBare = true := by decide
  exact List.all_eq_true.1 (hall word hword) c h

theorem ne_of_isBare {c d : Char} (h : isBare c = true) (hd : isBare d = false) : c ≠ d := by
  rintro rfl
  simp [h] at hd

/-! ## Numbers -/

theorem isBare_of_mem_toDigits {n : Nat} {c : Char} (h : c ∈ Nat.toDigits 10 n) :
    isBare c = true :=
  isBare_of_isDigit (Nat.isDigit_of_mem_toDigits (by decide) (by decide) h)

theorem toList_writeInt (n : Int) :
    (writeInt n).toList = (if n < 0 then ['-'] else []) ++ Nat.toDigits 10 n.natAbs := by
  cases n with
  | ofNat n => simp [writeInt, Int.repr]
  | negSucc n => simp [writeInt, Int.repr]

theorem isBare_writeInt {n : Int} {c : Char} (h : c ∈ (writeInt n).toList) : isBare c = true := by
  rw [toList_writeInt, List.mem_append] at h
  rcases h with h | h
  · split at h
    · rw [List.mem_singleton.1 h]
      decide
    · simp at h
  · exact isBare_of_mem_toDigits h

end Json

namespace Decimal

open Json (isBare isBare_of_mem_toDigits isBare_of_mem_word)

theorem isBare_shortest {tie : Tie} {b : Binary} {c : Char} (h : c ∈ (shortest tie b).digits) :
    isBare c = true := by
  simp only [shortest] at h
  split at h
  · rw [List.mem_singleton.1 h]
    decide
  · exact isBare_of_mem_toDigits h

variable {d : Digits} {c : Char}

theorem Digits.isBare_positional (hd : ∀ c ∈ d.digits, isBare c = true) {pointZero : Bool}
    (h : c ∈ d.positional pointZero) : isBare c = true := by
  have hpoint : isBare '.' = true := by decide
  have hzero : isBare '0' = true := by decide
  simp only [Digits.positional] at h
  split at h
  · simp only [List.mem_append, List.mem_cons, List.mem_replicate] at h
    rcases h with ((rfl | rfl | h) | ⟨-, rfl⟩) | h
    · exact hzero
    · exact hpoint
    · simp at h
    · exact hzero
    · exact hd c h
  · split at h
    · simp only [List.mem_append, List.mem_replicate] at h
      rcases h with (h | ⟨-, rfl⟩) | h
      · exact hd c h
      · exact hzero
      · cases pointZero <;> simp at h
        rcases h with rfl | rfl
        · exact hpoint
        · exact hzero
    · simp only [List.mem_append, List.mem_singleton] at h
      rcases h with (h | rfl) | h
      · exact hd c (List.mem_of_mem_take h)
      · exact hpoint
      · exact hd c (List.mem_of_mem_drop h)

theorem Digits.isBare_scientific (hd : ∀ c ∈ d.digits, isBare c = true)
    (h : c ∈ d.scientific) : isBare c = true := by
  simp only [Digits.scientific, List.mem_append] at h
  rcases h with (h | h) | h
  · split at h
    · next first second more hdigits =>
      simp only [hdigits, List.mem_cons] at hd h
      rcases h with rfl | rfl | h
      · exact hd c (.inl rfl)
      · decide
      · exact hd c (.inr h)
    · exact hd c h
  · simp only [List.mem_cons, List.not_mem_nil, or_false] at h
    rcases h with rfl | rfl
    · decide
    · split <;> decide
  · exact isBare_of_mem_toDigits h

/-- A double is written with digits, signs and the point, or as the word `null`. -/
theorem isBare_json {x : Float} (h : c ∈ (Layout.json.float x).toList) : isBare c = true := by
  simp only [Layout.float, String.toList_ofList, Layout.write] at h
  have hnull : c ∈ "null".toList → isBare c = true := isBare_of_mem_word "null" (by simp)
  split at h
  · exact hnull h
  · simp only [Layout.json, ne_eq, not_true_eq_false, decide_false, Bool.and_false,
      Bool.false_eq_true, if_false, List.nil_append] at h
    exact hnull h
  · next negative magnitude hparts =>
    have hdigits : ∀ c ∈ (shortest Layout.json.tie magnitude).digits, isBare c = true :=
      fun _ => isBare_shortest
    rw [List.mem_append] at h
    rcases h with h | h
    · cases negative <;> simp at h
      rw [h]
      decide
    · split at h
      · exact Digits.isBare_positional hdigits h
      · split at h
        · exact Digits.isBare_positional hdigits h
        · exact Digits.isBare_scientific hdigits h

end Decimal

namespace Json

/-! ## Texts -/

theorem not_isControl_hexChar : ∀ n < 16, isControl (hexChar n) = false := by decide

/-- How a character is written that has no short escape. -/
theorem escape_eq {c : Char} (hquote : c ≠ '"') (hslash : c ≠ '\\') (hb : c ≠ '\x08')
    (hf : c ≠ '\x0c') (hn : c ≠ '\n') (hr : c ≠ '\r') (ht : c ≠ '\t') :
    escape c =
      if isControl c then
        ['\\', 'u', '0', '0', hexChar (c.toNat / 16), hexChar (c.toNat % 16)]
      else [c] := by
  simp only [isControl, decide_eq_true_eq]
  exact escape.eq_8 c hquote hslash hb hf hn hr ht

theorem not_isControl_escape {c d : Char} (h : d ∈ escape c) : isControl d = false := by
  rw [escape.eq_def] at h
  split at h
  iterate 7
    · simp only [List.mem_cons, List.not_mem_nil, or_false] at h
      rcases h with rfl | rfl <;> decide
  · split at h
    · next hc =>
      simp only [List.mem_cons, List.not_mem_nil, or_false] at h
      rcases h with rfl | rfl | rfl | rfl | rfl | rfl
      · decide
      · decide
      · decide
      · decide
      · exact not_isControl_hexChar _ (by omega)
      · exact not_isControl_hexChar _ (by omega)
    · next hc =>
      rw [List.mem_singleton.1 h]
      simpa [isControl] using hc

theorem toList_quote (s : String) :
    (quote s).toList = '"' :: (s.toList.flatMap escape ++ ['"']) := by
  simp [quote]

theorem not_isControl_quote {s : String} {c : Char} (h : c ∈ (quote s).toList) :
    isControl c = false := by
  have hquote : isControl '"' = false := by decide
  simp only [toList_quote, List.mem_cons, List.mem_append, List.mem_flatMap,
    List.not_mem_nil, or_false] at h
  rcases h with rfl | ⟨d, -, h⟩ | rfl
  · exact hquote
  · exact not_isControl_escape h
  · exact hquote

/-! ## Values -/

/-- A field of an object: its key, a colon and its value. -/
def writeField (f : String × Json) : String := quote f.1 ++ ":" ++ write f.2

theorem writeItems_eq (items : List Json) :
    writeItems items = Text.joinWith "," (items.map write) := by
  induction items with
  | nil => rfl
  | cons item items ih =>
    cases items with
    | nil => rfl
    | cons next items => simp [writeItems, ih, Text.joinWith]

theorem writeFields_eq (fields : List (String × Json)) :
    writeFields fields = Text.joinWith "," (fields.map writeField) := by
  induction fields with
  | nil => rfl
  | cons f fields ih =>
    cases fields with
    | nil => rfl
    | cons next fields => simp [writeFields, ih, Text.joinWith, writeField]

/-- The characters of an array: those of its items with commas between, in brackets. -/
theorem toList_write_arr (items : List Json) :
    (write (.arr items)).toList =
      '[' :: (Chars.joinWith [','] (items.map fun item => item.write.toList) ++ [']']) := by
  simp [write, writeItems_eq, Text.toList_joinWith, Function.comp_def]

/-- The characters of an object: those of its fields with commas between, in braces. -/
theorem toList_write_obj (fields : List (String × Json)) :
    (write (.obj fields)).toList =
      '\x7b' :: (Chars.joinWith [','] (fields.map fun f => (writeField f).toList) ++
        ['\x7d']) := by
  simp [write, writeFields_eq, Text.toList_joinWith, Function.comp_def]

theorem toList_writeField (f : String × Json) :
    (writeField f).toList = (quote f.1).toList ++ ':' :: f.2.write.toList := by
  simp [writeField]

theorem not_isControl_joinWith {texts : List (List Char)} {c : Char}
    (h : ∀ text ∈ texts, ∀ c ∈ text, isControl c = false)
    (hc : c ∈ Chars.joinWith [','] texts) : isControl c = false := by
  rcases Chars.mem_of_mem_joinWith hc with ⟨text, htext, hc⟩ | hc
  · exact h text htext c hc
  · rw [List.mem_singleton.1 hc]
    decide

/-- **No control character is written.** -/
theorem not_isControl_write {v : Json} {c : Char} (h : c ∈ v.write.toList) :
    isControl c = false := by
  induction v using inductionOn generalizing c with
  | null => exact not_isControl_of_isBare (isBare_of_mem_word "null" (by simp) h)
  | bool b =>
    cases b with
    | true => exact not_isControl_of_isBare (isBare_of_mem_word "true" (by simp) h)
    | false => exact not_isControl_of_isBare (isBare_of_mem_word "false" (by simp) h)
  | int n => exact not_isControl_of_isBare (isBare_writeInt h)
  | float x => exact not_isControl_of_isBare (Decimal.isBare_json h)
  | str s => exact not_isControl_quote h
  | arr items ih =>
    rw [toList_write_arr, List.mem_cons, List.mem_append, List.mem_singleton] at h
    rcases h with rfl | h | rfl
    · decide
    · refine not_isControl_joinWith ?_ h
      simpa using fun item hitem c hc => ih item hitem hc
    · decide
  | obj fields ih =>
    rw [toList_write_obj, List.mem_cons, List.mem_append, List.mem_singleton] at h
    rcases h with rfl | h | rfl
    · decide
    · refine not_isControl_joinWith ?_ h
      simp only [List.mem_map, forall_exists_index, and_imp]
      rintro _ f hf rfl c hc
      rw [toList_writeField, List.mem_append, List.mem_cons] at hc
      rcases hc with hc | rfl | hc
      · exact not_isControl_quote hc
      · decide
      · exact ih f hf hc
    · decide

/-- A value is written on one line. -/
theorem newline_not_mem_write (v : Json) : '\n' ∉ v.write.toList := by
  intro h
  have hcontrol : isControl '\n' = false := not_isControl_write h
  revert hcontrol
  decide

end Json
end RemapSynth
