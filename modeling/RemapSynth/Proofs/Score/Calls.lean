/-
What a program calls, counted and rejected. The estimate counts for each
function it knows the lines that call it; the policy rejects the functions that
some line calls. Both look at the same lines, so the policy rejects just what
is counted (`counted_iff_rejected`). The call sites of two programs with a line
feed between them are those of the one followed by those of the other
(`callSites_append`).
-/
import RemapSynth.Policy.Check
import RemapSynth.Proofs.Policy.Call
import RemapSynth.Score.Estimate

namespace RemapSynth.Score

open Policy (callsOn callsIn codeLines stripComment)

variable {name : String} {program : List Char}

/-! ## Call sites -/

/-- The functions that have a rate of their own. -/
def knownFunctions : List String := functionRates.map (·.1)

theorem nodup_knownFunctions : knownFunctions.Nodup := by decide

theorem map_fst_lineCalls (line : List Char) :
    (lineCalls line).map (·.1) = knownFunctions.filter fun name => callsOn name.toList line := by
  rw [knownFunctions, List.filter_map]
  rfl

theorem lineCalls_of_isBlank {line : List Char} (h : Chars.isBlank line = true) :
    lineCalls line = [] := by
  rw [lineCalls, List.filter_eq_nil_iff]
  intro site _
  simp [Policy.callsOn_of_isBlank h]

theorem lineCalls_dropReturn (line : List Char) :
    lineCalls (stripComment (Chars.dropReturn line)) = lineCalls (stripComment line) := by
  simp only [lineCalls, Policy.callsOn_dropReturn]

/-- The call sites of a program are those of the pieces between its line feeds. -/
theorem callSites_eq (program : List Char) :
    callSites program =
      (Chars.splitAt '\n' program).flatMap fun piece => lineCalls (stripComment piece) := by
  have hall (pieces : List (List Char)) :
      ((Chars.linesOfPieces pieces).map stripComment).flatMap lineCalls =
        pieces.flatMap fun piece => lineCalls (stripComment piece) := by
    induction pieces using Chars.linesOfPieces.induct with
    | case1 => rfl
    | case2 last hempty =>
      have hblank : lineCalls (stripComment []) = [] := lineCalls_of_isBlank rfl
      rw [Chars.linesOfPieces, if_pos hempty, List.isEmpty_iff.1 hempty]
      simp [hblank]
    | case3 last hempty =>
      rw [Chars.linesOfPieces, if_neg hempty]
      simp
    | case4 piece pieces hne ih =>
      rw [Chars.linesOfPieces.eq_3 _ _ hne, List.map_cons, List.flatMap_cons, ih,
        lineCalls_dropReturn, List.flatMap_cons]
  exact hall _

/-- **Call sites of programs put one behind the other.** -/
theorem callSites_append (program program' : List Char) :
    callSites (program ++ '\n' :: program') = callSites program ++ callSites program' := by
  rw [callSites_eq, Chars.splitAt_append_cons, List.flatMap_append, ← callSites_eq, ← callSites_eq]

/-- A known function stands in the call sites once for each line that calls it. -/
theorem count_map_callSites (h : name ∈ knownFunctions) (program : List Char) :
    ((callSites program).map (·.1)).count name =
      (codeLines program).countP (callsOn name.toList) := by
  have hline (line : List Char) : ((lineCalls line).map (·.1)).count name =
      if callsOn name.toList line then 1 else 0 := by
    rw [map_fst_lineCalls]
    split
    case isTrue hcalls =>
      have hfilter := List.count_filter (l := knownFunctions)
        (p := fun name => callsOn name.toList line) hcalls
      rw [hfilter]
      rw [nodup_knownFunctions.count, if_pos h]
    case isFalse hcalls =>
      exact List.count_eq_zero.2 fun hmem => hcalls (List.mem_filter.1 hmem).2
  rw [callSites]
  induction codeLines program with
  | nil => rfl
  | cons line lines ih =>
    rw [List.flatMap_cons, List.map_append, List.count_append, ih, hline, List.countP_cons,
      Nat.add_comm]

/-! ## Counting -/

/-- How many lines an estimate counts for a function. -/
def Estimate.linesCalling {α : Type} (e : Estimate α) (name : String) : Nat :=
  (e.calls.lookup name).getD 0

theorem getD_lookup_cons (n name : String) (k : Nat) (counts : List (String × Nat)) :
    (((n, k) :: counts).lookup name).getD 0 =
      if n = name then k else (counts.lookup name).getD 0 := by
  by_cases h : n = name
  · simp [h]
  · have hne : (name == n) = false := by simpa using Ne.symm h
    simp [List.lookup_cons, hne, h]

theorem getD_lookup_countCall (n name : String) (counts : List (String × Nat)) :
    ((countCall n counts).lookup name).getD 0 =
      (counts.lookup name).getD 0 + if n = name then 1 else 0 := by
  induction counts with
  | nil => rw [countCall, getD_lookup_cons, List.lookup_nil, Option.getD_none, Nat.zero_add]
  | cons entry counts ih =>
    obtain ⟨m, k⟩ := entry
    rw [countCall]
    split
    next heq =>
      subst heq
      rw [getD_lookup_cons, getD_lookup_cons]
      split <;> rfl
    next hne =>
      rw [getD_lookup_cons, getD_lookup_cons, ih]
      split
      next heq => rw [if_neg fun h => hne (heq.trans h.symm), Nat.add_zero]
      next => rfl

theorem map_fst_countCall (n : String) (counts : List (String × Nat)) :
    (countCall n counts).map (·.1) =
      if n ∈ counts.map (·.1) then counts.map (·.1) else counts.map (·.1) ++ [n] := by
  induction counts with
  | nil => rfl
  | cons entry counts ih =>
    obtain ⟨m, k⟩ := entry
    rw [countCall]
    split
    next heq => simp [heq]
    next hne =>
      rw [List.map_cons, ih]
      by_cases hn : n ∈ counts.map (·.1) <;> simp [hn, Ne.symm hne]

theorem callCounts_eq (program : List Char) : callCounts program =
    ((callSites program).map (·.1)).foldl (fun counts name => countCall name counts) [] := by
  rw [callCounts, List.foldl_map]

/-- What is counted for a function is how often it stands in the call sites. -/
theorem getD_lookup_callCounts (name : String) (program : List Char) :
    ((callCounts program).lookup name).getD 0 =
      ((callSites program).map (·.1)).count name := by
  have hall (names : List String) (counts : List (String × Nat)) :
      ((names.foldl (fun counts n => countCall n counts) counts).lookup name).getD 0 =
        (counts.lookup name).getD 0 + names.count name := by
    induction names generalizing counts with
    | nil => rfl
    | cons n names ih =>
      simp only [List.foldl_cons, ih, getD_lookup_countCall, List.count_cons, beq_iff_eq]
      omega
  rw [callCounts_eq, hall, List.lookup_nil, Option.getD_none, Nat.zero_add]

/-- No function is counted under two entries, and just those that are called have one. -/
theorem names_callCounts (program : List Char) :
    ((callCounts program).map (·.1)).Nodup ∧
      ∀ name, name ∈ (callCounts program).map (·.1) ↔ name ∈ (callSites program).map (·.1) := by
  have hall (names : List String) (counts : List (String × Nat)) (h : (counts.map (·.1)).Nodup) :
      ((names.foldl (fun counts n => countCall n counts) counts).map (·.1)).Nodup ∧
        ∀ name, name ∈ (names.foldl (fun counts n => countCall n counts) counts).map (·.1) ↔
          name ∈ counts.map (·.1) ∨ name ∈ names := by
    induction names generalizing counts with
    | nil => exact ⟨h, fun name => by simp⟩
    | cons n names ih =>
      have hstep : ((countCall n counts).map (·.1)).Nodup ∧
          ∀ name, name ∈ (countCall n counts).map (·.1) ↔ name ∈ counts.map (·.1) ∨ name = n := by
        rw [map_fst_countCall]
        split
        next hn => exact ⟨h, fun name => ⟨.inl, fun hor => hor.elim id fun heq => heq ▸ hn⟩⟩
        next hn =>
          refine ⟨List.nodup_append.2 ⟨h, by simp, ?_⟩, fun name => by simp⟩
          rintro m hm _ (_ | ⟨_, ⟨⟩⟩) rfl
          exact hn hm
      obtain ⟨hnodup, hmem⟩ := ih _ hstep.1
      refine ⟨hnodup, fun name => ?_⟩
      rw [List.foldl_cons, hmem, hstep.2, List.mem_cons, or_assoc]
  obtain ⟨hnodup, hmem⟩ := hall ((callSites program).map (·.1)) [] .nil
  rw [callCounts_eq]
  exact ⟨hnodup, fun name => by simp [hmem]⟩

/-! ## Counted and rejected -/

/-- A known function is counted on each line that the policy, on that line alone, turns down for
it. -/
theorem linesCalling_eq {α : Type} [Scalar α] (b : Breakpoints α) {p : Policy}
    (hname : name ∈ knownFunctions) (hrejected : name ∈ p.rejected) (program : String) :
    (estimate program b).linesCalling name =
      (Text.lines program).countP fun line => name ∈ p.findRejected line := by
  rw [Estimate.linesCalling, estimate, getD_lookup_callCounts, count_map_callSites hname, codeLines,
    List.countP_map, Text.lines, List.countP_map]
  refine List.countP_congr fun line hline => ?_
  have hsole : callsIn name.toList line = callsOn name.toList (stripComment line) :=
    Policy.callsIn_line (Chars.not_mem_of_mem_lines hline) _
  simp [Policy.findRejected, hrejected, hsole]

theorem mem_callSites_iff (hname : name ∈ knownFunctions) :
    name ∈ (callSites program).map (·.1) ↔ callsIn name.toList program = true := by
  rw [← List.count_pos_iff, count_map_callSites hname, List.countP_pos_iff, callsIn,
    List.any_eq_true]

/-- **What is rejected is what is counted.** Of a list of known functions the policy rejects those
that the estimate counts, in the order of the list. For each of them as many lines are counted as
the policy would turn down, for it, as programs of one line. Behind a line feed the counts of
another program are added. -/
theorem counted_iff_rejected {α : Type} [Scalar α] (b : Breakpoints α)
    {rejected : List String} (hknown : ∀ name ∈ rejected, name ∈ knownFunctions)
    (preferred reserved : List String) (program : String) :
    let p := Policy.ofLists rejected preferred reserved
    let e := estimate program b
    (e.calls.map (·.1)).Nodup ∧
    p.findRejected program = rejected.filter (fun name => name ∈ e.calls.map (·.1)) ∧
    (∀ name ∈ rejected, e.linesCalling name =
      (Text.lines program).countP fun line => name ∈ p.findRejected line) ∧
    ∀ program' name, (estimate (program ++ "\n" ++ program') b).linesCalling name =
      e.linesCalling name + (estimate program' b).linesCalling name := by
  intro p e
  obtain ⟨hnodup, hcounted⟩ := names_callCounts program.toList
  refine ⟨hnodup, ?_, fun name hname => linesCalling_eq b (hknown name hname) hname program,
    fun program' name => ?_⟩
  · refine List.filter_congr fun name hname => ?_
    rw [Bool.eq_iff_iff, ← mem_callSites_iff (hknown name hname), ← hcounted, decide_eq_true_eq]
    rfl
  · have htext : (program ++ "\n" ++ program').toList =
        program.toList ++ '\n' :: program'.toList := by simp
    simp only [Estimate.linesCalling, estimate, e, htext, getD_lookup_callCounts, callSites_append,
      List.map_append, List.count_append]

/-- A program with a call in a comment, one of a function whose name goes on, one with blanks before
its arguments, behind a literal with a hash sign and before a carriage return, and two on a line. -/
def calling : String :=
  "# match(.a)\n.x = my_match(.m, r'#') ?? parse_regex_all! (.b)\r\n.y = match(.c) || match(.d)"

theorem counted_iff_rejected_calling :
    let p := Policy.ofLists ["parse_regex", "match", "parse_regex_all"] [] []
    let e : Estimate := estimate calling {}
    (∀ name ∈ ["parse_regex", "match", "parse_regex_all"], name ∈ knownFunctions) ∧
    e.calls = [("parse_regex_all", 1), ("match", 1)] ∧
    p.findRejected calling = ["match", "parse_regex_all"] ∧
    ((Text.lines calling).countP fun line => "match" ∈ p.findRejected line) = 1 ∧
    (estimate (calling ++ "\n" ++ calling) {} : Estimate).linesCalling "match" = 2 := by
  intro p e
  have hknown : ∀ name ∈ ["parse_regex", "match", "parse_regex_all"], name ∈ knownFunctions := by
    decide
  have hcalls : e.calls = [("parse_regex_all", 1), ("match", 1)] := by decide +kernel
  have hmatch : e.linesCalling "match" = 1 := by rw [Estimate.linesCalling, hcalls]; rfl
  obtain ⟨-, hrejected, hlines, hadd⟩ := counted_iff_rejected {} hknown [] [] calling
  refine ⟨hknown, hcalls, ?_, ?_, ?_⟩
  · rw [hrejected]
    change List.filter (fun name => name ∈ e.calls.map (·.1)) _ = _
    rw [hcalls]
    decide
  · exact (hlines "match" (by decide)).symm.trans hmatch
  · rw [hadd]
    change e.linesCalling "match" + e.linesCalling "match" = 2
    rw [hmatch]

end RemapSynth.Score
