/-
What is written as JSON is read back (`parse?_write`), of every value that a
text can hold. Doubles are the exception: a double is written with its
shortest digits and read by one scaling step, so it may come back as its
neighbour, and has to be one that does not (`ReadsBack`).
-/
import RemapSynth.Proofs.Json.Fits

namespace RemapSynth.Json

/-- A double that is read back from what is written for it. -/
def ReadsBack (x : Float) : Prop := parse? (Decimal.Layout.json.float x) = some (.float x)

instance (x : Float) : Decidable (ReadsBack x) :=
  match h : parse? (Decimal.Layout.json.float x) with
  | some (.float y) => decidable_of_iff (y = x) (by simp [ReadsBack, h])
  | some .null | some (.bool _) | some (.int _) | some (.str _) | some (.arr _) | some (.obj _)
  | none => isFalse (by simp [ReadsBack, h])

/-- Two roundings can lead to a neighbour. -/
example : ReadsBack 1.5 ∧ ¬ ReadsBack 1.1e-30 := by decide +kernel

mutual

/-- The doubles in a value. -/
def doublesIn : Json → List Float
  | .null | .bool _ | .int _ | .str _ => []
  | .float x => [x]
  | .arr items => doublesInItems items
  | .obj fields => doublesInFields fields

def doublesInItems : List Json → List Float
  | [] => []
  | item :: items => doublesIn item ++ doublesInItems items

def doublesInFields : List (String × Json) → List Float
  | [] => []
  | (_, value) :: fields => doublesIn value ++ doublesInFields fields

end

theorem mem_doublesInItems {x : Float} {items : List Json} :
    x ∈ doublesInItems items ↔ ∃ item ∈ items, x ∈ doublesIn item := by
  induction items with
  | nil => simp [doublesInItems]
  | cons item items ih => simp [doublesInItems, ih]

theorem mem_doublesInFields {x : Float} {fields : List (String × Json)} :
    x ∈ doublesInFields fields ↔ ∃ f ∈ fields, x ∈ doublesIn f.2 := by
  induction fields with
  | nil => simp [doublesInFields]
  | cons f fields ih => simp [doublesInFields, ih]

/-! ## Texts -/

theorem hexDigit?_hexChar : ∀ n < 16, hexDigit? (hexChar n) = some n := by decide

/-- One character of a text: what is written for it is read as a piece that stands for it. -/
theorem exists_piece (c : Char) :
    ∃ piece : Piece,
      (∀ pieces s, Piece.chars? pieces = some s → Piece.chars? (piece :: pieces) = some (c :: s)) ∧
      ∀ s pieces rest, scanString s = .ok (pieces, rest) →
        scanString (escape c ++ s) = .ok (piece :: pieces, rest) := by
  by_cases hshort : c ∈ ['"', '\\', '\x08', '\x0c', '\n', '\r', '\t']
  · refine ⟨.char c, fun pieces s hs => by simp [Piece.chars?, hs], fun s pieces rest hs => ?_⟩
    simp only [List.mem_cons, List.not_mem_nil, or_false] at hshort
    rcases hshort with rfl | rfl | rfl | rfl | rfl | rfl | rfl <;>
      simp [escape, scanString, escaped?, hs]
  · simp only [List.mem_cons, List.not_mem_nil, or_false, not_or] at hshort
    obtain ⟨hquote, hslash, hb, hf, hn, hr, ht⟩ := hshort
    rw [escape_eq hquote hslash hb hf hn hr ht]
    by_cases hc : isControl c = true
    · have hlt : c.toNat < 32 := by simpa [isControl] using hc
      have hhigh := hexDigit?_hexChar (c.toNat / 16) (by omega)
      have hlow := hexDigit?_hexChar (c.toNat % 16) (by omega)
      have hzero : hexDigit? '0' = some 0 := by decide
      have hcode : ((0 * 16 + 0) * 16 + c.toNat / 16) * 16 + c.toNat % 16 = c.toNat := by omega
      refine ⟨.unit c.toNat, fun pieces s hs => ?_, fun s pieces rest hs => ?_⟩
      · have hhighest : ¬ (0xd800 ≤ c.toNat ∧ c.toNat ≤ 0xdbff) := by omega
        have hlowest : ¬ (0xdc00 ≤ c.toNat ∧ c.toNat ≤ 0xdfff) := by omega
        rw [Piece.chars?.eq_def]
        simp [hs, hhighest, hlowest]
      · simp only [hc, if_true, List.cons_append, List.nil_append]
        rw [scanString.eq_3]
        simp only [hzero, hhigh, hlow, hs, hcode]
    · refine ⟨.char c, fun pieces s hs => by simp [Piece.chars?, hs], fun s pieces rest hs => ?_⟩
      have hge : ¬ c.toNat < 32 := by simpa [isControl] using hc
      rw [if_neg hc, List.singleton_append]
      simp [scanString, hslash, hge, hs]

/-- **A text in quotes is read as that text.** -/
theorem scanString_escaped (s rest : List Char) :
    ∃ pieces, scanString (s.flatMap escape ++ '"' :: rest) = .ok (pieces, rest) ∧
      Piece.chars? pieces = some s := by
  induction s with
  | nil => exact ⟨[], by simp [scanString], rfl⟩
  | cons c s ih =>
    obtain ⟨pieces, hscan, hchars⟩ := ih
    obtain ⟨piece, hpiece, hread⟩ := exists_piece c
    refine ⟨piece :: pieces, ?_, hpiece pieces s hchars⟩
    rw [List.flatMap_cons, List.append_assoc]
    exact hread _ _ _ hscan

/-! ## Where a value begins -/

variable {s t r : List Char} {depth fuel : Nat}

/-- A character that a value begins with. -/
def Opens (c : Char) : Prop := isBare c = true ∨ c = '"' ∨ c = '[' ∨ c = '\x7b'

theorem isSpace_of_isBare {c : Char} (h : isBare c = true) : isSpace c = false := by
  have hspace : c ≠ ' ' := ne_of_isBare h (by decide)
  have hline : c ≠ '\n' := ne_of_isBare h (by decide)
  have htab : c ≠ '\t' := ne_of_isBare h (by decide)
  have hreturn : c ≠ '\r' := ne_of_isBare h (by decide)
  simp [isSpace, hspace, hline, htab, hreturn]

theorem Opens.isSpace {c : Char} (h : Opens c) : isSpace c = false := by
  rcases h with h | rfl | rfl | rfl
  · exact isSpace_of_isBare h
  all_goals decide

theorem Opens.ne {c d : Char} (h : Opens c) (hd : d = ']' ∨ d = '\x7d') : c ≠ d := by
  rcases h with h | rfl | rfl | rfl <;> rcases hd with rfl | rfl
  · exact ne_of_isBare h (by decide)
  · exact ne_of_isBare h (by decide)
  all_goals decide

@[simp] theorem skipSpace_nil : skipSpace [] = [] := rfl

theorem skipSpace_cons {c : Char} (h : isSpace c = false) (s : List Char) :
    skipSpace (c :: s) = c :: s := by
  simp [skipSpace, h]

theorem skipSpace_of_isBare (h : ∀ c ∈ s, isBare c = true) : skipSpace s = s := by
  cases s with
  | nil => rfl
  | cons c s => exact skipSpace_cons (isSpace_of_isBare (h c List.mem_cons_self)) s

/-! ## Words and numbers -/

theorem scanWord_append (word : String) (value : Tree) (t : List Char) :
    scanWord word value (word.toList ++ t) = .ok (value, t) := by
  have hstart : word.toList.isPrefixOf (word.toList ++ t) = true := by
    rw [List.isPrefixOf_iff_prefix]
    exact List.prefix_append _ _
  rw [scanWord, if_pos hstart, ← String.length_toList, List.drop_left]

theorem scanValue_minus (s : List Char) : scanValue (fuel + 1) ('-' :: s) = scanNumeral true s := by
  simp [scanValue, skipSpace, isSpace]

theorem scanValue_digit {c : Char} (hc : Text.isAsciiDigit c = true) (s : List Char) :
    scanValue (fuel + 1) (c :: s) = scanNumeral false (c :: s) := by
  have hne : ∀ d, Text.isAsciiDigit d = false → c ≠ d := by
    rintro d hd rfl
    simp [hc] at hd
  have hspace : isSpace c = false := by
    simp [isSpace, hne ' ' (by decide), hne '\n' (by decide), hne '\t' (by decide),
      hne '\r' (by decide)]
  rw [scanValue, skipSpace_cons hspace]
  simp [hc, hne '[' (by decide), hne '\x7b' (by decide), hne '"' (by decide), hne '-' (by decide),
    hne 't' (by decide), hne 'f' (by decide), hne 'n' (by decide)]

/-- A number is read by its numeral, whatever the fuel and whatever stands behind. -/
theorem exists_scanNumeral {n : Numeral} (hskip : skipSpace s = s)
    (h : scanValue fuel s = .ok (.number n, r)) :
    ∃ negative digits, scanNumeral negative digits = .ok (.number n, r) ∧ digits <:+ s ∧
      ∀ fuel t, scanValue (fuel + 1) (s ++ t) = scanNumeral negative (digits ++ t) := by
  cases fuel with
  | zero => simp [scanValue] at h
  | succ fuel =>
    cases s with
    | nil => simp [scanValue] at h
    | cons c s =>
      by_cases hminus : c = '-'
      · subst hminus
        rw [scanValue_minus] at h
        exact ⟨true, s, h, List.suffix_cons _ _, fun _ t => scanValue_minus (s ++ t)⟩
      by_cases hdigit : Text.isAsciiDigit c = true
      · rw [scanValue_digit hdigit] at h
        exact ⟨false, c :: s, h, List.suffix_refl _, fun _ t => scanValue_digit hdigit (s ++ t)⟩
      -- Whatever else a value begins with, it is no number.
      exfalso
      rw [scanValue, hskip] at h
      split at h <;> simp_all [scanWord, map_eq_ok_iff]
      all_goals split at h <;> simp_all [map_eq_ok_iff]

/-! ## Values that are read back -/

/-- What is written for `v` is read as `v` before whatever ends a value, with fuel for twice its
length. -/
structure IsRead (depth : Nat) (v : Json) : Prop where
  opens : ∃ c s, v.write.toList = c :: s ∧ Opens c
  scan : ∀ fuel t, 2 * v.write.toList.length ≤ fuel + 1 → Ends t →
    ∃ tree, scanValue fuel (v.write.toList ++ t) = .ok (tree, t) ∧ ofTree depth tree = .ok v

/-- A written value is not empty, so there is fuel to read it. -/
theorem IsRead.of_succ {v : Json} (opens : ∃ c s, v.write.toList = c :: s ∧ Opens c)
    (scan : ∀ fuel t, 2 * v.write.toList.length ≤ fuel + 2 → Ends t →
      ∃ tree, scanValue (fuel + 1) (v.write.toList ++ t) = .ok (tree, t) ∧
        ofTree depth tree = .ok v) : IsRead depth v := by
  refine ⟨opens, fun fuel t hfuel ht => ?_⟩
  obtain ⟨c, s, hv, -⟩ := opens
  have hpos : 0 < v.write.toList.length := by simp [hv]
  cases fuel with
  | zero => omega
  | succ fuel => exact scan fuel t hfuel ht

/-- A value that is written as one word. -/
theorem isRead_word {v : Json} (word : String) (tree : Tree) (hv : v.write = word)
    (opens : ∃ c s, word.toList = c :: s ∧ isBare c = true)
    (hscan : ∀ fuel t,
      scanValue (fuel + 1) (word.toList ++ t) = scanWord word tree (word.toList ++ t))
    (htree : ofTree depth tree = .ok v) : IsRead depth v := by
  obtain ⟨c, s, hword, hc⟩ := opens
  refine .of_succ ⟨c, s, by rw [hv, hword], .inl hc⟩ fun fuel t _ _ => ⟨tree, ?_, htree⟩
  rw [hv, hscan, scanWord_append]

theorem isRead_null : IsRead depth .null :=
  isRead_word "null" .null rfl ⟨'n', _, rfl, by decide⟩
    (fun _ _ => by simp [scanValue, skipSpace, isSpace]) (by simp [ofTree])

theorem isRead_bool (b : Bool) : IsRead depth (.bool b) := by
  cases b with
  | true =>
    exact isRead_word "true" (.bool true) rfl ⟨'t', _, rfl, by decide⟩
      (fun _ _ => by simp [scanValue, skipSpace, isSpace]) (by simp [ofTree])
  | false =>
    exact isRead_word "false" (.bool false) rfl ⟨'f', _, rfl, by decide⟩
      (fun _ _ => by simp [scanValue, skipSpace, isSpace]) (by simp [ofTree])

theorem ofTree_number {n : Numeral} {v : Json} (h : n.toJson? = some v) :
    ofTree depth (.number n) = .ok v := by
  simp [ofTree, h]

theorem isRead_int {n : Int} (h : InWord n) : IsRead depth (.int n) := by
  have hjson := toJson?_toDigits h
  by_cases hn : n < 0
  · have hwrite : (write (.int n)).toList = '-' :: Nat.toDigits 10 n.natAbs := by
      simp [write, toList_writeInt, hn]
    refine .of_succ ⟨_, _, hwrite, .inl (by decide)⟩ fun fuel t _ ht => ⟨_, ?_, ofTree_number hjson⟩
    rw [hwrite, List.cons_append, scanValue_minus, scanNumeral_toDigits true _ ht]
    simp [hn]
  · have hwrite : (write (.int n)).toList = Nat.toDigits 10 n.natAbs := by
      simp [write, toList_writeInt, hn]
    have hne : Nat.toDigits 10 n.natAbs ≠ [] := Nat.toDigits_ne_nil
    obtain ⟨c, s, hdigits⟩ := List.exists_cons_of_ne_nil hne
    have hc : c ∈ Nat.toDigits 10 n.natAbs := by simp [hdigits]
    refine .of_succ ⟨c, s, by rw [hwrite, hdigits], .inl (isBare_of_mem_toDigits hc)⟩
      fun fuel t _ ht => ⟨_, ?_, ofTree_number hjson⟩
    have hscan := scanNumeral_toDigits false n.natAbs ht
    rw [hdigits] at hscan
    rw [hwrite, hdigits, List.cons_append, scanValue_digit (isAsciiDigit_of_mem_toDigits hc),
      ← List.cons_append, hscan]
    simp [hn]

theorem isRead_str (text : String) : IsRead depth (.str text) := by
  refine .of_succ ⟨'"', _, toList_quote text, .inr (.inl rfl)⟩ fun fuel t _ _ => ?_
  obtain ⟨pieces, hscan, hchars⟩ := scanString_escaped text.toList t
  refine ⟨.string pieces, ?_, by simp [ofTree, textOf?, hchars]⟩
  rw [write, toList_quote, scanValue]
  simp [skipSpace, isSpace, hscan, Except.map]

theorem ofTree_eq_float {tree : Tree} {x : Float} (h : ofTree depth tree = .ok (.float x)) :
    ∃ n, tree = .number n ∧ n.toJson? = some (.float x) := by
  cases tree with
  | null => simp [ofTree] at h
  | bool b => simp [ofTree] at h
  | number n =>
    refine ⟨n, rfl, ?_⟩
    simp only [ofTree] at h
    split at h
    · next hn => rw [hn, Except.ok.inj h]
    · simp at h
  | string pieces =>
    simp only [ofTree] at h
    split at h <;> simp at h
  | array items => cases depth <;> simp [ofTree, map_eq_ok_iff] at h
  | object fields => cases depth <;> simp [ofTree, map_eq_ok_iff] at h

theorem isRead_float {x : Float} (h : ReadsBack x) : IsRead depth (.float x) := by
  have hbare : ∀ c ∈ (Decimal.Layout.json.float x).toList, isBare c = true :=
    fun _ => Decimal.isBare_json
  have hskip := skipSpace_of_isBare hbare
  obtain ⟨tree, rest, hscan, hrest, htree⟩ := parse?_eq_some_iff.1 h
  obtain ⟨n, rfl, hn⟩ := ofTree_eq_float htree
  obtain ⟨negative, digits, hdigits, hsuffix, hvalue⟩ := exists_scanNumeral hskip hscan
  have hreads := Reads.scanNumeral hdigits
  have hnil : rest = [] := by
    rw [← hrest, skipSpace_of_isBare]
    intro c hc
    exact hbare c ((hreads.suffix.trans hsuffix).subset hc)
  subst hnil
  have hopens : ∃ c s, (write (.float x)).toList = c :: s ∧ Opens c := by
    cases htext : (Decimal.Layout.json.float x).toList with
    | nil => simp [htext, scanValue] at hscan
    | cons c s => exact ⟨c, s, htext, .inl (hbare c (by simp [htext]))⟩
  refine .of_succ hopens fun fuel t _ ht => ⟨_, ?_, ofTree_number hn⟩
  rw [write, hvalue, hreads.append t ht, List.nil_append]

/-! ## Arrays -/

theorem scanItems_last {item : Tree} (h : scanValue fuel s = .ok (item, ']' :: t)) :
    scanItems (fuel + 1) s = .ok ([item], t) := by
  simp [scanItems, h, skipSpace, isSpace]

theorem scanItems_more {item : Tree} {items : List Tree} {c : Char} (hc : Opens c)
    (hitem : scanValue fuel s = .ok (item, ',' :: c :: r))
    (hitems : scanItems fuel (c :: r) = .ok (items, t)) :
    scanItems (fuel + 1) s = .ok (item :: items, t) := by
  have hcomma : skipSpace (',' :: c :: r) = ',' :: c :: r := rfl
  simp [scanItems, hitem, hcomma, skipSpace_cons hc.isSpace, hc.ne (.inl rfl), hitems, Except.map]

/-- Items with commas between are read up to the closing bracket. -/
theorem scanItems_joinWith {items : List Json} (hne : items ≠ [])
    (h : ∀ item ∈ items, IsRead depth item) (fuel : Nat) (t : List Char)
    (hfuel : 2 * (Chars.joinWith [','] (items.map fun item => item.write.toList)).length ≤ fuel) :
    (∃ c s, Chars.joinWith [','] (items.map fun item => item.write.toList) = c :: s ∧ Opens c) ∧
    ∃ trees,
      scanItems fuel (Chars.joinWith [','] (items.map fun item => item.write.toList) ++ ']' :: t) =
        .ok (trees, t) ∧ ofItems depth trees = .ok items := by
  induction items generalizing fuel with
  | nil => exact absurd rfl hne
  | cons item items ih =>
    obtain ⟨c, s, hwrite, hc⟩ := (h item List.mem_cons_self).opens
    have hread := (h item List.mem_cons_self).scan
    cases items with
    | nil =>
      simp only [List.map_cons, List.map_nil, Chars.joinWith] at hfuel ⊢
      refine ⟨⟨c, s, hwrite, hc⟩, ?_⟩
      obtain ⟨fuel, rfl⟩ : ∃ n, fuel = n + 1 := ⟨fuel - 1, by simp [hwrite] at hfuel; omega⟩
      obtain ⟨tree, hscan, htree⟩ := hread fuel (']' :: t) (by omega) (by simp [Ends])
      exact ⟨[tree], scanItems_last hscan, by simp [ofItems, htree, Except.map]⟩
    | cons next items =>
      rw [List.map_cons, Chars.joinWith_cons (by simp)] at hfuel ⊢
      simp only [List.length_append, List.length_singleton] at hfuel
      refine ⟨⟨c, _, by rw [hwrite, List.append_assoc, List.cons_append], hc⟩, ?_⟩
      obtain ⟨fuel, rfl⟩ : ∃ n, fuel = n + 1 := ⟨fuel - 1, by omega⟩
      obtain ⟨⟨d, r, hjoin, hd⟩, trees, hscans, htrees⟩ := ih (by simp)
        (fun item hitem => h item (List.mem_cons_of_mem _ hitem)) fuel (by omega)
      obtain ⟨tree, hscan, htree⟩ := hread fuel (',' :: d :: (r ++ ']' :: t)) (by omega)
        (by simp [Ends])
      rw [hjoin] at hscans ⊢
      refine ⟨tree :: trees, ?_, by simp [ofItems, htree, htrees, Except.map]⟩
      simp only [List.append_assoc, List.cons_append]
      exact scanItems_more hd hscan hscans

theorem scanValue_array {items : List Tree} {c : Char} (hc : Opens c)
    (h : scanItems fuel (c :: s) = .ok (items, t)) :
    scanValue (fuel + 1) ('[' :: c :: s) = .ok (.array items, t) := by
  have hbracket : skipSpace ('[' :: c :: s) = '[' :: c :: s := rfl
  simp [scanValue, hbracket, skipSpace_cons hc.isSpace, hc.ne (.inl rfl), h, Except.map]

theorem isRead_arr {items : List Json} (h : ∀ item ∈ items, IsRead depth item) :
    IsRead (depth + 1) (.arr items) := by
  refine .of_succ ⟨'[', _, toList_write_arr items, .inr (.inr (.inl rfl))⟩
    fun fuel t hfuel _ => ?_
  rw [toList_write_arr] at hfuel ⊢
  simp only [List.length_cons, List.length_append, List.length_nil] at hfuel
  cases items with
  | nil => exact ⟨.array [], by simp [scanValue, skipSpace, isSpace, Chars.joinWith], rfl⟩
  | cons item items =>
    obtain ⟨⟨c, s, hjoin, hc⟩, trees, hscan, htrees⟩ :=
      scanItems_joinWith (List.cons_ne_nil item items) h fuel t (by omega)
    refine ⟨.array trees, ?_, by simp [ofTree, htrees, Except.map]⟩
    rw [hjoin] at hscan ⊢
    simp only [List.cons_append, List.append_assoc, List.nil_append]
    exact scanValue_array hc hscan

/-! ## Objects -/

theorem scanFields_last {pieces : List Piece} {value : Tree}
    (hkey : scanString s = .ok (pieces, ':' :: r))
    (hvalue : scanValue fuel r = .ok (value, '\x7d' :: t)) :
    scanFields (fuel + 1) ('"' :: s) = .ok ([(pieces, value)], t) := by
  simp [scanFields, skipSpace, isSpace, hkey, hvalue]

theorem scanFields_more {pieces : List Piece} {value : Tree} {fields : List (List Piece × Tree)}
    {u : List Char} (hkey : scanString s = .ok (pieces, ':' :: r))
    (hvalue : scanValue fuel r = .ok (value, ',' :: '"' :: u))
    (hfields : scanFields fuel ('"' :: u) = .ok (fields, t)) :
    scanFields (fuel + 1) ('"' :: s) = .ok ((pieces, value) :: fields, t) := by
  simp [scanFields, skipSpace, isSpace, hkey, hvalue, hfields, Except.map]

theorem insertField_of_lt {key : String} {value : Json} {fields : List (String × Json)}
    (h : ∀ f ∈ fields, key < f.1) : insertField key value fields = (key, value) :: fields := by
  cases fields with
  | nil => rfl
  | cons f fields =>
    have hlt := h f List.mem_cons_self
    have hne : key ≠ f.1 := fun heq => String.lt_irrefl f.1 (heq ▸ hlt)
    rw [insertField, if_neg hne, if_pos hlt]

/-- A field in front of fields with later keys stays where it is. -/
theorem ofFields_cons {key : String} {pieces : List Piece} {tree : Tree} {value : Json}
    {trees : List (List Piece × Tree)} {fields : List (String × Json)}
    (hkey : Piece.chars? pieces = some key.toList) (htree : ofTree depth tree = .ok value)
    (htrees : ofFields depth trees = .ok fields) (hlt : ∀ f ∈ fields, key < f.1) :
    ofFields depth ((pieces, tree) :: trees) = .ok ((key, value) :: fields) := by
  have hfresh : fields.any (·.1 == key) = false := by
    rw [List.any_eq_false]
    intro f hf heq
    exact String.lt_irrefl f.1 ((beq_iff_eq.1 heq) ▸ hlt f hf)
  simp [ofFields, textOf?, hkey, htree, htrees, Except.map, hfresh, insertField_of_lt hlt]

/-- Fields with commas between are read up to the closing brace. -/
theorem scanFields_joinWith {fields : List (String × Json)} (hne : fields ≠ [])
    (sorted : fields.Pairwise fun f g => f.1 < g.1) (h : ∀ f ∈ fields, IsRead depth f.2)
    (fuel : Nat) (t : List Char)
    (hfuel : 2 * (Chars.joinWith [','] (fields.map fun f => (writeField f).toList)).length ≤ fuel) :
    ∃ s trees,
      Chars.joinWith [','] (fields.map fun f => (writeField f).toList) ++ '\x7d' :: t = '"' :: s ∧
      scanFields fuel ('"' :: s) = .ok (trees, t) ∧ ofFields depth trees = .ok fields := by
  induction fields generalizing fuel with
  | nil => exact absurd rfl hne
  | cons f fields ih =>
    obtain ⟨key, value⟩ := f
    have hread : IsRead depth value := h (key, value) List.mem_cons_self
    have hfield : (writeField (key, value)).toList =
        '"' :: (key.toList.flatMap escape ++ '"' :: ':' :: value.write.toList) := by
      simp [toList_writeField, toList_quote]
    cases fields with
    | nil =>
      simp only [List.map_cons, List.map_nil, Chars.joinWith, hfield, List.length_cons,
        List.length_append] at hfuel ⊢
      obtain ⟨fuel, rfl⟩ : ∃ n, fuel = n + 1 := ⟨fuel - 1, by omega⟩
      obtain ⟨pieces, hkey, hchars⟩ :=
        scanString_escaped key.toList (':' :: (value.write.toList ++ '\x7d' :: t))
      obtain ⟨tree, hscan, htree⟩ := hread.scan fuel ('\x7d' :: t) (by omega) (by simp [Ends])
      refine ⟨_, [(pieces, tree)], List.cons_append, ?_, ?_⟩
      · simp only [List.append_assoc, List.cons_append]
        exact scanFields_last hkey hscan
      · exact ofFields_cons hchars htree rfl (by simp)
    | cons next fields =>
      rw [List.map_cons, Chars.joinWith_cons (by simp)] at hfuel ⊢
      simp only [hfield, List.length_cons, List.length_append, List.length_nil] at hfuel
      obtain ⟨fuel, rfl⟩ : ∃ n, fuel = n + 1 := ⟨fuel - 1, by omega⟩
      obtain ⟨u, trees, hjoin, hscans, htrees⟩ := ih (by simp) (List.Pairwise.of_cons sorted)
        (fun f hf => h f (List.mem_cons_of_mem _ hf)) fuel (by omega)
      obtain ⟨pieces, hkey, hchars⟩ :=
        scanString_escaped key.toList (':' :: (value.write.toList ++ ',' :: '"' :: u))
      obtain ⟨tree, hscan, htree⟩ := hread.scan fuel (',' :: '"' :: u) (by omega) (by simp [Ends])
      refine ⟨_, (pieces, tree) :: trees, ?_, scanFields_more hkey hscan hscans, ?_⟩
      · rw [List.append_assoc, hjoin, hfield]
        simp
      · exact ofFields_cons hchars htree htrees fun f hf => List.rel_of_pairwise_cons sorted hf

theorem scanValue_object {fields : List (List Piece × Tree)}
    (h : scanFields fuel ('"' :: s) = .ok (fields, t)) :
    scanValue (fuel + 1) ('\x7b' :: '"' :: s) = .ok (.object fields, t) := by
  simp [scanValue, skipSpace, isSpace, h, Except.map]

theorem isRead_obj {fields : List (String × Json)}
    (sorted : fields.Pairwise fun f g => f.1 < g.1) (h : ∀ f ∈ fields, IsRead depth f.2) :
    IsRead (depth + 1) (.obj fields) := by
  refine .of_succ ⟨'\x7b', _, toList_write_obj fields, .inr (.inr (.inr rfl))⟩
    fun fuel t hfuel _ => ?_
  rw [toList_write_obj] at hfuel ⊢
  simp only [List.length_cons, List.length_append, List.length_nil] at hfuel
  cases fields with
  | nil => exact ⟨.object [], by simp [scanValue, skipSpace, isSpace, Chars.joinWith], rfl⟩
  | cons f fields =>
    obtain ⟨s, trees, hjoin, hscan, htrees⟩ :=
      scanFields_joinWith (List.cons_ne_nil f fields) sorted h fuel t (by omega)
    refine ⟨.object trees, ?_, by simp [ofTree, htrees, Except.map]⟩
    simp only [List.cons_append, List.append_assoc, List.nil_append, hjoin]
    exact scanValue_object hscan

/-! ## Whole texts -/

theorem Fits.isRead {v : Json} (h : Fits depth v) (hdoubles : ∀ x ∈ v.doublesIn, ReadsBack x) :
    IsRead depth v := by
  induction h with
  | null => exact isRead_null
  | bool b => exact isRead_bool b
  | int h => exact isRead_int h
  | float x => exact isRead_float (hdoubles x (by simp [doublesIn]))
  | str s => exact isRead_str s
  | arr _ ih =>
    refine isRead_arr fun item hm => ih item hm fun x hx => hdoubles x ?_
    rw [doublesIn, mem_doublesInItems]
    exact ⟨item, hm, hx⟩
  | obj sorted _ ih =>
    refine isRead_obj sorted fun f hm => ih f hm fun x hx => hdoubles x ?_
    rw [doublesIn, mem_doublesInFields]
    exact ⟨f, hm, hx⟩

/-- **What is written is read back**, when every double in it is. -/
theorem parse?_write {v : Json} (h : Fits maxDepth v) (hdoubles : ∀ x ∈ v.doublesIn, ReadsBack x) :
    parse? v.write = some v := by
  obtain ⟨tree, hscan, htree⟩ := (h.isRead hdoubles).scan (2 * v.write.toList.length + 2) []
    (by omega) (by simp [Ends])
  rw [List.append_nil] at hscan
  exact parse?_eq_some_iff.2 ⟨tree, [], hscan, rfl, htree⟩

end RemapSynth.Json
