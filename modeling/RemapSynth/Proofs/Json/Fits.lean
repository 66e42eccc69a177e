/-
Values that a text can hold: whole numbers of 64 bits, the fields of an object
in the order of their keys, and no more containers open at once than a reader
allows. Every value that is read is one (`fits_of_parse?`).
-/
import RemapSynth.Proofs.Json.Numeral

namespace RemapSynth.Json

/-- A value that a text can hold, with at most `depth` containers open at once. -/
inductive Fits : Nat → Json → Prop
  | null {depth : Nat} : Fits depth .null
  | bool {depth : Nat} (b : Bool) : Fits depth (.bool b)
  | int {depth : Nat} {n : Int} (h : InWord n) : Fits depth (.int n)
  | float {depth : Nat} (x : Float) : Fits depth (.float x)
  | str {depth : Nat} (s : String) : Fits depth (.str s)
  | arr {depth : Nat} {items : List Json} (h : ∀ item ∈ items, Fits depth item) :
    Fits (depth + 1) (.arr items)
  | obj {depth : Nat} {fields : List (String × Json)}
    (sorted : fields.Pairwise fun f g => f.1 < g.1) (h : ∀ f ∈ fields, Fits depth f.2) :
    Fits (depth + 1) (.obj fields)

variable {depth : Nat}

/-- A value fits where more containers may be open. -/
theorem Fits.mono {v : Json} (h : Fits depth v) {more : Nat} (hle : depth ≤ more) : Fits more v := by
  induction h generalizing more with
  | null => exact .null
  | bool b => exact .bool b
  | int h => exact .int h
  | float x => exact .float x
  | str s => exact .str s
  | arr _ ih =>
    obtain ⟨more, rfl⟩ : ∃ n, more = n + 1 := ⟨more - 1, by omega⟩
    exact .arr fun item hm => ih item hm (by omega)
  | obj sorted _ ih =>
    obtain ⟨more, rfl⟩ : ∃ n, more = n + 1 := ⟨more - 1, by omega⟩
    exact .obj sorted fun f hm => ih f hm (by omega)

/-! ## Fields in order -/

theorem mem_insertField {key : String} {value : Json} {fields : List (String × Json)}
    {f : String × Json} (h : f ∈ insertField key value fields) :
    f = (key, value) ∨ f ∈ fields := by
  induction fields with
  | nil => simpa [insertField] using h
  | cons g fields ih =>
    rw [insertField] at h
    split at h
    · rcases List.mem_cons.1 h with rfl | h
      · exact .inl rfl
      · exact .inr (List.mem_cons_of_mem _ h)
    · split at h
      · exact List.mem_cons.1 h
      · rcases List.mem_cons.1 h with rfl | h
        · exact .inr List.mem_cons_self
        · exact (ih h).imp_right (List.mem_cons_of_mem _)

/-- A field is set where the order of keys puts it. -/
theorem pairwise_insertField {key : String} {value : Json} {fields : List (String × Json)}
    (h : fields.Pairwise fun f g => f.1 < g.1) :
    (insertField key value fields).Pairwise fun f g => f.1 < g.1 := by
  induction fields with
  | nil => simp [insertField]
  | cons g fields ih =>
    obtain ⟨hfirst, hrest⟩ := List.pairwise_cons.1 h
    rw [insertField]
    split
    · next heq =>
      subst heq
      exact List.pairwise_cons.2 ⟨hfirst, hrest⟩
    · next hne =>
      split
      · next hlt =>
        refine List.pairwise_cons.2 ⟨fun f hf => ?_, h⟩
        rcases List.mem_cons.1 hf with rfl | hf
        · exact hlt
        · exact String.lt_trans hlt (hfirst f hf)
      · next hge =>
        have hlt : g.1 < key :=
          String.not_le.1 fun hle => hne (String.le_antisymm hle (String.not_lt.1 hge))
        refine List.pairwise_cons.2 ⟨fun f hf => ?_, ih hrest⟩
        rcases mem_insertField hf with rfl | hf
        · exact hlt
        · exact hfirst f hf

/-! ## Values that are read -/

/-- What holds of a tree if it holds of the items and of the fields inside. -/
@[elab_as_elim]
theorem Tree.inductionOn {p : Tree → Prop} (tree : Tree) (null : p .null)
    (bool : ∀ b, p (.bool b)) (number : ∀ n, p (.number n)) (string : ∀ pieces, p (.string pieces))
    (array : ∀ items, (∀ item ∈ items, p item) → p (.array items))
    (object : ∀ fields, (∀ f ∈ fields, p f.2) → p (.object fields)) : p tree :=
  @Tree.rec p (fun items => ∀ item ∈ items, p item) (fun fields => ∀ f ∈ fields, p f.2)
    (fun f => p f.2) null bool number string array object (by simp) (by simp_all) (by simp)
    (by simp_all) (fun _ _ h => h) tree

/-- Every item that is read has its tree. -/
theorem exists_tree_of_ofItems {trees : List Tree} {items : List Json}
    (h : ofItems depth trees = .ok items) :
    ∀ item ∈ items, ∃ tree ∈ trees, ofTree depth tree = .ok item := by
  induction trees generalizing items with
  | nil =>
    simp only [ofItems, Except.ok.injEq] at h
    simp [← h]
  | cons tree trees ih =>
    rw [ofItems] at h
    split at h
    · cases h
    · next value hvalue =>
      obtain ⟨rest, hrest, rfl⟩ := map_eq_ok_iff.1 h
      intro item hitem
      rcases List.mem_cons.1 hitem with rfl | hitem
      · exact ⟨tree, List.mem_cons_self, hvalue⟩
      · obtain ⟨tree, hm, htree⟩ := ih hrest item hitem
        exact ⟨tree, List.mem_cons_of_mem _ hm, htree⟩

/-- The fields that are read stand in the order of their keys, and every one has its tree. -/
theorem sorted_of_ofFields {trees : List (List Piece × Tree)} {fields : List (String × Json)}
    (h : ofFields depth trees = .ok fields) :
    (fields.Pairwise fun f g => f.1 < g.1) ∧
      ∀ f ∈ fields, ∃ g ∈ trees, ofTree depth g.2 = .ok f.2 := by
  induction trees generalizing fields with
  | nil =>
    simp only [ofFields, Except.ok.injEq] at h
    simp [← h]
  | cons g trees ih =>
    obtain ⟨pieces, tree⟩ := g
    rw [ofFields] at h
    split at h
    · cases h
    · cases h
    · next key value _ hvalue =>
      obtain ⟨later, hlater, rfl⟩ := map_eq_ok_iff.1 h
      obtain ⟨sorted, hfields⟩ := ih hlater
      have hmore : ∀ f ∈ later, ∃ g ∈ (pieces, tree) :: trees, ofTree depth g.2 = .ok f.2 := by
        intro f hf
        obtain ⟨g, hg, hvalue⟩ := hfields f hf
        exact ⟨g, List.mem_cons_of_mem _ hg, hvalue⟩
      split
      · exact ⟨sorted, hmore⟩
      · refine ⟨pairwise_insertField sorted, fun f hf => ?_⟩
        rcases mem_insertField hf with rfl | hf
        · exact ⟨(pieces, tree), List.mem_cons_self, hvalue⟩
        · exact hmore f hf

theorem fits_of_ofTree {tree : Tree} {v : Json} (h : ofTree depth tree = .ok v) : Fits depth v := by
  induction tree using Tree.inductionOn generalizing depth v with
  | null =>
    simp only [ofTree, Except.ok.injEq] at h
    exact h ▸ .null
  | bool b =>
    simp only [ofTree, Except.ok.injEq] at h
    exact h ▸ .bool b
  | number n =>
    simp only [ofTree] at h
    split at h
    · next value hvalue =>
      rw [Except.ok.injEq] at h
      subst h
      rcases toJson?_cases hvalue with ⟨n, rfl, hn⟩ | ⟨x, rfl⟩
      · exact .int hn
      · exact .float x
    · cases h
  | string pieces =>
    simp only [ofTree] at h
    split at h
    · next text _ =>
      rw [Except.ok.injEq] at h
      exact h ▸ .str text
    · cases h
  | array trees ih =>
    cases depth with
    | zero => simp [ofTree] at h
    | succ depth =>
      rw [ofTree] at h
      obtain ⟨items, hitems, rfl⟩ := map_eq_ok_iff.1 h
      refine .arr fun item hitem => ?_
      obtain ⟨tree, hm, htree⟩ := exists_tree_of_ofItems hitems item hitem
      exact ih tree hm htree
  | object trees ih =>
    cases depth with
    | zero => simp [ofTree] at h
    | succ depth =>
      rw [ofTree] at h
      obtain ⟨fields, hfields, rfl⟩ := map_eq_ok_iff.1 h
      obtain ⟨sorted, hvalues⟩ := sorted_of_ofFields hfields
      refine .obj sorted fun f hf => ?_
      obtain ⟨g, hm, htree⟩ := hvalues f hf
      exact ih g hm htree

/-- The tree of a text that is read as a value. -/
theorem parse?_eq_some_iff {text : String} {v : Json} :
    parse? text = some v ↔
      ∃ tree rest, scanValue (2 * text.toList.length + 2) text.toList = .ok (tree, rest) ∧
        skipSpace rest = [] ∧ ofTree maxDepth tree = .ok v := by
  rw [parse?, parseChars, Tree.scan]
  constructor
  · intro h
    rcases hscan : scanValue (2 * text.toList.length + 2) text.toList with e | ⟨tree, rest⟩
    · simp [hscan] at h
    · rcases hskip : skipSpace rest with _ | ⟨c, more⟩
      · rcases htree : ofTree maxDepth tree with e | value
        · simp [hscan, hskip, htree] at h
        · simp only [hscan, hskip, htree, Option.some.injEq] at h
          exact ⟨tree, rest, rfl, hskip, by rw [htree, h]⟩
      · simp [hscan, hskip] at h
  · rintro ⟨tree, rest, hscan, hskip, htree⟩
    simp only [hscan, hskip, htree]

/-- **Every value that is read fits a text.** -/
theorem fits_of_parse? {text : String} {v : Json} (h : parse? text = some v) : Fits maxDepth v := by
  obtain ⟨tree, -, -, -, htree⟩ := parse?_eq_some_iff.1 h
  exact fits_of_ofTree htree

end RemapSynth.Json
