/-
A table of field names, written and read again. Cells may stand in quotes and
have spaces around them, lines may end in two ways, and the table may begin
with a byte-order mark. All of this is undone, but not in the order in which it
is written: the mark stands in front of everything, and is taken off last. So it
hides quotes and spaces in front of the first cell, and when that cell is the
header of the names, no names are found (`readTable_written`).
-/
import Mathlib.Data.List.Basic
import RemapSynth.Policy.Reserved
import RemapSynth.Proofs.Text.Lines

namespace RemapSynth

namespace Policy

open Chars

/-! ## Cells -/

/-- The byte-order mark. -/
def mark : Char := '\ufeff'

def isMark (c : Char) : Bool := c.toNat == 0xfeff

/-- The name of the column of names. -/
def columnName : List Char := "column".toList

theorem columnName_eq : columnName = ['c', 'o', 'l', 'u', 'm', 'n'] := by decide

/-- A cell of a table, without commas, quotes and line breaks in its text. -/
structure Cell where
  text : List Char
  /-- Whether the text is written in quotes. -/
  quoted : Bool
  /-- The spaces in front of it. -/
  before : Nat
  /-- The spaces behind it. -/
  after : Nat
  plain : ∀ c ∈ text, c ≠ ',' ∧ c ≠ '"' ∧ c ≠ '\n' ∧ c ≠ '\r'

namespace Cell

variable (cell : Cell)

/-- A cell as it is written. -/
def written : List Char :=
  List.replicate cell.before ' ' ++
    (if cell.quoted then ['"'] ++ cell.text ++ ['"'] else cell.text) ++
      List.replicate cell.after ' '

/-- The text that is read from a cell: without quotes, blanks around it do not count. -/
def content : List Char := if cell.quoted then cell.text else trim cell.text

/-- A cell reads as the name of the column of names, apart from byte-order marks in front of it. -/
def IsColumnName : Prop := cell.content.dropWhile isMark = columnName

variable {cell}

theorem isBlank_of_mem_replicate {n : Nat} {c : Char} (h : c ∈ List.replicate n ' ') :
    Text.isBlank c = true := by
  rw [List.eq_of_mem_replicate h]
  decide

theorem mem_written {c : Char} (h : c ∈ cell.written) : c ∈ cell.text ∨ c = ' ' ∨ c = '"' := by
  simp only [written, List.mem_append, List.mem_replicate] at h
  rcases h with (⟨-, hc⟩ | h) | ⟨-, hc⟩
  · exact .inr (.inl hc)
  · split at h
    · simp only [List.mem_append, List.mem_singleton] at h
      rcases h with (hc | h) | hc
      · exact .inr (.inr hc)
      · exact .inl h
      · exact .inr (.inr hc)
    · exact .inl h
  · exact .inr (.inl hc)

theorem not_mem_written {c : Char} (h : c ∈ [',', '\n', '\r']) : c ∉ cell.written := by
  intro hc
  rcases mem_written hc with hc | rfl | rfl
  · obtain ⟨hcomma, -, hfeed, hreturn⟩ := cell.plain c hc
    simp_all
  · revert h
    decide
  · revert h
    decide

theorem isQuote_of_mem_text {c : Char} (h : c ∈ cell.text) : isQuote c = false := by
  simpa [isQuote] using (cell.plain c h).2.1

theorem trim_written :
    trim cell.written =
      if cell.quoted then ['"'] ++ cell.text ++ ['"'] else trim cell.text := by
  rw [written, trim_append_blank fun c => isBlank_of_mem_replicate,
    trim_blank_append fun c => isBlank_of_mem_replicate]
  have hquote : Text.isBlank '"' = false := by decide
  split
  · exact trim_eq_self (by simp [hquote]) (by rw [List.getLast?_concat]; simp [hquote])
  · rfl

/-- **The text of a cell is read again**; without quotes, it is trimmed. -/
theorem cellText_written : cellText cell.written = cell.content := by
  rw [cellText, trim_written, content]
  split
  · exact trimMatches_append_append (by simp [isQuote]) (fun c => isQuote_of_mem_text)
      (by simp [isQuote])
  · have htrim : trimMatches isQuote ([] ++ trim cell.text ++ []) = trim cell.text :=
      trimMatches_append_append (by simp)
        (fun c hc => isQuote_of_mem_text (mem_of_mem_trim hc)) (by simp)
    simpa using htrim

/-! ## The header of the names -/

/-- What stands in front of a table. -/
def markText (marked : Bool) : List Char := if marked then [mark] else []

theorem eq_mark_of_isMark {c : Char} (h : isMark c = true) : c = mark := by
  rw [isMark, beq_iff_eq] at h
  rw [← Char.ofNat_toNat c, h]
  rfl

theorem isNameHeader_eq_true_iff {s : List Char} :
    isNameHeader s = true ↔ (cellText s).dropWhile isMark = columnName :=
  beq_iff_eq

section
variable {s : List Char}

theorem head?_of_dropWhile_isMark (h : s.dropWhile isMark = columnName) :
    s.head? = some mark ∨ s.head? = some 'c' := by
  cases s with
  | nil => cases h
  | cons c s =>
    cases hc : isMark c with
    | true => exact .inl (by rw [eq_mark_of_isMark hc]; rfl)
    | false =>
      rw [List.dropWhile_cons_of_neg (by simp [hc])] at h
      rw [h]
      exact .inr rfl

theorem not_isBlank_head (h : s.head? = some mark ∨ s.head? = some 'c') :
    ∀ c ∈ s.head?, Text.isBlank c = false := by
  intro c hc
  rcases h with hhead | hhead
  · rw [hhead] at hc
    cases hc
    decide
  · rw [hhead] at hc
    cases hc
    decide

/-- Behind a mark, blanks and quotes are taken off at the end only. -/
theorem cellText_mark_cons (s : List Char) :
    cellText (mark :: s) = mark :: ((trimEnd s).reverse.dropWhile isQuote).reverse := by
  have hblank : Text.isBlank mark = false := by decide
  have hquote : isQuote mark = false := by decide
  have hhead : ∀ c ∈ (mark :: s).head?, Text.isBlank c = false := by
    intro c hc
    cases hc
    exact hblank
  rw [cellText, trim_of_head hhead, trimEnd_cons hblank, trimMatches,
    List.dropWhile_cons_of_neg (by simp [hquote]), List.reverse_cons,
    dropWhile_append_cons hquote]
  simp

end

theorem isNameHeader_written_iff : isNameHeader cell.written = true ↔ cell.IsColumnName := by
  rw [isNameHeader_eq_true_iff, cellText_written, IsColumnName]

/-- A mark in front of a cell hides its quotes and the spaces in front of it. -/
theorem of_isNameHeader_mark (h : isNameHeader (mark :: cell.written) = true) :
    cell.quoted = false ∧ cell.before = 0 ∧ cell.IsColumnName := by
  have hmark : isMark mark = true := by decide
  rw [isNameHeader_eq_true_iff, cellText_mark_cons, List.dropWhile_cons_of_pos hmark] at h
  have hprefix : ((trimEnd cell.written).reverse.dropWhile isQuote).reverse <+: cell.written := by
    have hquotes : (trimEnd cell.written).reverse.dropWhile isQuote <:+
        (trimEnd cell.written).reverse := List.dropWhile_suffix _
    have hblanks : cell.written.reverse.dropWhile Text.isBlank <:+ cell.written.reverse :=
      List.dropWhile_suffix _
    rw [← List.reverse_suffix, List.reverse_reverse]
    exact hquotes.trans (by rwa [trimEnd, List.reverse_reverse])
  have hhead : cell.written.head? = some mark ∨ cell.written.head? = some 'c' := by
    obtain ⟨rest, hrest⟩ := hprefix
    rw [← hrest, List.head?_append]
    rcases head?_of_dropWhile_isMark h with hhead | hhead
    · exact .inl (by rw [hhead]; rfl)
    · exact .inr (by rw [hhead]; rfl)
  have hquoted : cell.quoted = false ∧ cell.before = 0 := by
    cases hbefore : cell.before with
    | succ n =>
      have hspace : cell.written.head? = some ' ' := by simp [written, hbefore, List.replicate_succ]
      rw [hspace] at hhead
      exact absurd hhead (by decide)
    | zero =>
      cases hquoted : cell.quoted with
      | false => exact ⟨rfl, rfl⟩
      | true =>
        have hquote : cell.written.head? = some '"' := by simp [written, hbefore, hquoted]
        rw [hquote] at hhead
        exact absurd hhead (by decide)
  refine ⟨hquoted.1, hquoted.2, ?_⟩
  -- Without quotes around it and spaces in front of it the cell is trimmed in the ordinary way.
  have htrim : trimEnd cell.written = trim cell.text := by
    rw [← trim_of_head (not_isBlank_head hhead), trim_written, hquoted.1]
    rfl
  have hnoQuote : ∀ c ∈ (trim cell.text).reverse.head?, isQuote c = false := fun c hc =>
    isQuote_of_mem_text (mem_of_mem_trim (List.mem_reverse.1 (List.mem_of_mem_head? hc)))
  rw [htrim, dropWhile_of_head hnoQuote, List.reverse_reverse] at h
  rwa [IsColumnName, content, hquoted.1, if_neg Bool.false_ne_true]

/-- **When the header of the names is found.** -/
theorem isNameHeader_markText (htext : cell.text = columnName) (marked : Bool) :
    isNameHeader (markText marked ++ cell.written) =
      !(marked && (cell.quoted || decide (0 < cell.before))) := by
  have htrim : trim columnName = columnName := by decide
  cases marked with
  | false =>
    have hcontent : cell.content = columnName := by rw [content, htext, htrim, ite_self]
    rw [markText, if_neg Bool.false_ne_true, List.nil_append, Bool.false_and, Bool.not_false,
      isNameHeader_written_iff, IsColumnName, hcontent]
    decide
  | true =>
    rw [markText, if_pos rfl, List.singleton_append, Bool.true_and, Bool.eq_iff_iff]
    constructor
    · intro h
      obtain ⟨hquoted, hbefore, -⟩ := of_isNameHeader_mark h
      simp [hquoted, hbefore]
    · intro h
      simp only [Bool.not_eq_true', Bool.or_eq_false_iff, decide_eq_false_iff_not, Nat.not_lt,
        Nat.le_zero] at h
      obtain ⟨hquoted, hbefore⟩ := h
      have hhead : cell.written.head? = some 'c' := by
        simp [written, hbefore, hquoted, htext, columnName_eq]
      have hend : trimEnd cell.written = columnName := by
        rw [← trim_of_head (not_isBlank_head (.inr hhead)), trim_written, hquoted, htext]
        exact htrim
      rw [isNameHeader_eq_true_iff, cellText_mark_cons, hend]
      decide

/-- No other cell is taken for the header of the names, with a mark in front of it or without. -/
theorem isNameHeader_eq_false (h : ¬ cell.IsColumnName) (marked : Bool) :
    isNameHeader (markText marked ++ cell.written) = false := by
  rw [← Bool.not_eq_true]
  intro hname
  cases marked with
  | false => exact h (isNameHeader_written_iff.1 hname)
  | true => exact h (of_isNameHeader_mark hname).2.2

end Cell

open Cell (markText)

/-! ## Rows -/

/-- A row of a table: the cell of the name with the cells in front of it and behind it. -/
structure Row where
  before : List Cell
  name : Cell
  after : List Cell
  /-- Whether a carriage return stands before the line feed. -/
  withReturn : Bool

namespace Row

variable (row : Row)

def cells : List Cell := row.before ++ row.name :: row.after

/-- The line of a row. -/
def line : List Char := joinWith [','] (row.cells.map Cell.written)

variable {row}

theorem splitAt_line : splitAt ',' row.line = row.cells.map Cell.written := by
  refine splitAt_joinWith (by simp [cells]) fun piece hpiece => ?_
  obtain ⟨cell, -, rfl⟩ := List.mem_map.1 hpiece
  exact Cell.not_mem_written (by simp)

theorem not_mem_line {c : Char} (h : c ∈ ['\n', '\r']) : c ∉ row.line := by
  intro hc
  rcases mem_of_mem_joinWith hc with ⟨piece, hpiece, hc⟩ | hc
  · obtain ⟨cell, -, rfl⟩ := List.mem_map.1 hpiece
    exact Cell.not_mem_written (List.mem_cons_of_mem _ h) hc
  · rw [List.mem_singleton.1 hc] at h
    revert h
    decide

/-- The cell of the name is found where it stands. -/
theorem getElem?_line : (splitAt ',' row.line)[row.before.length]? = some row.name.written := by
  simp [splitAt_line, cells]

end Row

/-! ## Tables -/

/-- A table of field names. No other column has the header of the names. -/
structure Table where
  /-- Whether a byte-order mark stands in front of it. -/
  marked : Bool
  header : Row
  rows : List Row
  headed : header.name.text = columnName
  others : ∀ cell ∈ header.before ++ header.after, ¬ cell.IsColumnName
  aligned : ∀ row ∈ rows, row.before.length = header.before.length
  named : ∀ row ∈ rows, row.name.text ≠ []
  trimmed : ∀ row ∈ rows, trim row.name.text = row.name.text

namespace Table

variable (t : Table)

/-- A table as it is written. -/
def written : List Char :=
  markText t.marked ++
    (t.header :: t.rows).flatMap fun row => row.line ++ ending row.withReturn

/-- The field names in a table. -/
def names : List String := t.rows.map fun row => .ofList row.name.text

/-- A mark hides the header of the names: it stands in front of quotes or spaces there. -/
def hidden : Bool :=
  t.marked && t.header.before.isEmpty &&
    (t.header.name.quoted || decide (0 < t.header.name.before))

variable {t}

theorem not_mem_markText {c : Char} (h : c ∈ ['\n', '\r']) (marked : Bool) :
    c ∉ markText marked := by
  cases marked with
  | false => simp [markText]
  | true =>
    intro hc
    rw [markText, if_pos rfl, List.mem_singleton] at hc
    rw [hc] at h
    revert h
    decide

theorem lines_written :
    lines t.written = (markText t.marked ++ t.header.line) :: t.rows.map Row.line := by
  have hwritten : t.written = ((markText t.marked ++ t.header.line, t.header.withReturn) ::
      t.rows.map fun row => (row.line, row.withReturn)).flatMap
        fun piece => piece.1 ++ ending piece.2 := by
    simp [written, List.flatMap_map]
  have hnot (c : Char) (hc : c ∈ ['\n', '\r']) :
      ∀ piece ∈ (markText t.marked ++ t.header.line, t.header.withReturn) ::
        t.rows.map fun row => (row.line, row.withReturn), c ∉ piece.1 := by
    refine List.forall_mem_cons.2 ⟨?_, fun piece hpiece => ?_⟩
    · rw [List.mem_append, not_or]
      exact ⟨not_mem_markText hc t.marked, Row.not_mem_line hc⟩
    · obtain ⟨row, -, rfl⟩ := List.mem_map.1 hpiece
      exact Row.not_mem_line hc
  rw [hwritten, lines_flatMap_ending (hnot '\n' (by simp)) (hnot '\r' (by simp))]
  simp [Function.comp_def]

/-- A mark belongs to the first cell. -/
theorem splitAt_markText {s piece : List Char} {pieces : List (List Char)} (marked : Bool)
    (h : splitAt ',' s = piece :: pieces) :
    splitAt ',' (markText marked ++ s) = (markText marked ++ piece) :: pieces := by
  have hmark : mark ≠ ',' := by decide
  cases marked with
  | false => exact h
  | true => simp [markText, splitAt, hmark, h]

/-- **The header of the names is found where it stands**, unless a mark hides it. -/
theorem findIdx?_header :
    (splitAt ',' (markText t.marked ++ t.header.line)).findIdx? isNameHeader =
      if t.hidden then none else some t.header.before.length := by
  have hother (cells : List Cell) (h : ∀ cell ∈ cells, ¬ cell.IsColumnName) :
      ∀ piece ∈ cells.map Cell.written, isNameHeader piece = false := by
    intro piece hpiece
    obtain ⟨cell, hcell, rfl⟩ := List.mem_map.1 hpiece
    exact Cell.isNameHeader_eq_false (h cell hcell) false
  obtain ⟨hbefore, hafter⟩ := List.forall_mem_append.1 t.others
  have hsplit := t.header.splitAt_line
  rw [Row.cells] at hsplit
  cases hcells : t.header.before with
  | nil =>
    rw [hcells, List.nil_append, List.map_cons] at hsplit
    rw [splitAt_markText t.marked hsplit, List.findIdx?_cons,
      Cell.isNameHeader_markText t.headed, List.findIdx?_eq_none_iff.2 (hother _ hafter)]
    have hhidden : t.hidden =
        (t.marked && (t.header.name.quoted || decide (0 < t.header.name.before))) := by
      simp [hidden, hcells]
    rw [hhidden]
    cases t.marked && (t.header.name.quoted || decide (0 < t.header.name.before)) <;> rfl
  | cons first others =>
    rw [hcells] at hbefore hsplit
    obtain ⟨hfirst, hothers⟩ := List.forall_mem_cons.1 hbefore
    have hname : isNameHeader t.header.name.written = true :=
      Cell.isNameHeader_markText t.headed false
    have hhidden : t.hidden = false := by simp [hidden, hcells]
    rw [List.cons_append, List.map_cons, List.map_append, List.map_cons] at hsplit
    rw [splitAt_markText t.marked hsplit, List.findIdx?_cons,
      Cell.isNameHeader_eq_false hfirst, List.findIdx?_append,
      List.findIdx?_eq_none_iff.2 (hother _ hothers), List.findIdx?_cons, hname, hhidden]
    simp

/-- **A table of names is read as it was written**, unless a byte-order mark stands in front of
quotes or spaces of the header of the names; then there are no names in it. -/
theorem readTable_written (t : Table) :
    readTable (.ofList t.written) =
      if t.hidden then .error .noColumn else .ok t.names := by
  have hheader := t.findIdx?_header
  simp only [readTable, String.toList_ofList, lines_written, List.head?_cons, Option.getD_some,
    List.tail_cons]
  rw [hheader]
  cases t.hidden with
  | true => rfl
  | false =>
    have hcells : (t.rows.map Row.line).filterMap
        (fun line => (splitAt ',' line)[t.header.before.length]?) =
          t.rows.map fun row => row.name.written := by
      rw [List.filterMap_map, ← List.filterMap_eq_map]
      refine List.filterMap_congr fun row hrow => ?_
      rw [Function.comp_apply, ← t.aligned row hrow, Row.getElem?_line]
      rfl
    have htexts : (t.rows.map fun row => row.name.written).map cellText =
        t.rows.map fun row => row.name.text := by
      rw [List.map_map]
      refine List.map_congr_left fun row hrow => ?_
      rw [Function.comp_apply, Cell.cellText_written, Cell.content, t.trimmed row hrow, ite_self]
    have hkept : (t.rows.map fun row => row.name.text).filter (fun cell => !cell.isEmpty) =
        t.rows.map fun row => row.name.text := by
      rw [List.filter_eq_self]
      intro text htext
      obtain ⟨row, hrow, rfl⟩ := List.mem_map.1 htext
      simpa using t.named row hrow
    simp only [Bool.false_eq_true, if_false, hcells, htexts, hkept, names, List.map_map]
    rfl

/-- The column of names alone, its header in quotes, with one name in it. -/
def quoted (marked : Bool) : Table where
  marked := marked
  header := ⟨[], ⟨columnName, true, 0, 0, by simp [columnName_eq]⟩, [], false⟩
  rows := [⟨[], ⟨['z'], false, 0, 0, by simp⟩, [], false⟩]
  headed := rfl
  others := by simp
  aligned := by simp
  named := by simp
  trimmed := by simp; decide

/-- Names between other columns, the cells padded and in quotes or not. -/
def wide : Table where
  marked := true
  header := ⟨[⟨['i', 'd'], false, 1, 1, by simp⟩], ⟨columnName, true, 1, 0, by simp [columnName_eq]⟩,
    [⟨['n', 'o', 't', 'e'], true, 0, 2, by simp⟩], true⟩
  rows :=
    [⟨[⟨['7'], true, 0, 0, by simp⟩], ⟨['h', 'o', 's', 't'], true, 2, 1, by simp⟩,
        [⟨['x'], false, 0, 1, by simp⟩, ⟨[], false, 0, 0, by simp⟩], true⟩,
      ⟨[⟨[], false, 0, 0, by simp⟩], ⟨['a', '.', 'b'], false, 1, 0, by simp⟩, [], false⟩]
  headed := rfl
  others := by
    simp only [List.cons_append, List.nil_append, List.forall_mem_cons, Cell.IsColumnName]
    decide
  aligned := by simp
  named := by simp
  trimmed := by decide

/-- A mark in front of the quotes hides a name that is read without the mark; with a column between
the two all names are read. -/
theorem readTable_written_quoted :
    (quoted true).names = ["z"] ∧ (quoted false).names = ["z"] ∧
      readTable "\ufeff\"column\"\nz\n" = .error .noColumn ∧
      readTable "\"column\"\nz\n" = .ok ["z"] ∧
      wide.names = ["host", "a.b"] ∧
      readTable "\ufeff id , \"column\",\"note\"  \r\n\"7\",  \"host\" ,x ,\r\n, a.b\n" =
        .ok ["host", "a.b"] := by
  exact ⟨rfl, rfl, readTable_written (quoted true), readTable_written (quoted false), rfl,
    readTable_written wide⟩

end Table

end Policy
end RemapSynth
