/-
What filling up comes to. Adding one strategy after another keeps the first of
each name and stops at `count` (`addAll_eq`), so adding in two portions is
adding both at once, and the loop over rounds adds one list: the planned
strategies and then the built-in ones of all its rounds. `Fills` says it
without the loop, and `exists_rounds` how often the loop goes round.
-/
import Mathlib.Data.List.Infix
import Mathlib.Data.List.Nodup
import Mathlib.Logic.Function.Iterate
import RemapSynth.Generation.Filling

namespace RemapSynth.Strategy

/-! ## The first of each name -/

/-- The strategies without those whose name has come before. -/
def firsts (strategies : List Strategy) : List Strategy :=
  strategies.eraseDupsBy fun s t => s.name == t.name

theorem firsts_cons (s : Strategy) (rest : List Strategy) :
    firsts (s :: rest) = s :: firsts (rest.filter fun t => t.name ≠ s.name) := by
  simp [firsts, List.eraseDupsBy_cons]

theorem firsts_eq_self {strategies : List Strategy} (h : (strategies.map (·.name)).Nodup) :
    firsts strategies = strategies := by
  induction strategies with
  | nil => rfl
  | cons s rest ih =>
    obtain ⟨hs, hrest⟩ := List.nodup_cons.1 h
    have hkept : rest.filter (fun t => t.name ≠ s.name) = rest := by
      refine List.filter_eq_self.2 fun t ht => decide_eq_true ?_
      intro hname
      exact hs (List.mem_map.2 ⟨t, ht, hname⟩)
    rw [firsts_cons, hkept, ih hrest]

/-- Adding keeps the first of each new name, as far as there is room. -/
theorem addAll_eq (count : Nat) (out more : List Strategy) :
    addAll count out more =
      out ++ (firsts (more.filter fun s => s.name ∉ out.map (·.name))).take (count - out.length) := by
  induction more generalizing out with
  | nil => simp [firsts]
  | cons s more ih =>
    rw [addAll_cons]
    obtain ⟨hroom, hnew, heq⟩ | ⟨hfull | hname, heq⟩ := addNew_cases count out s
    · have hleft : count - out.length = count - (out ++ [s]).length + 1 := by
        rw [List.length_append, List.length_singleton]
        omega
      have hothers : (more.filter fun t => t.name ∉ (out ++ [s]).map (·.name)) =
          (more.filter fun t => t.name ∉ out.map (·.name)).filter fun t => t.name ≠ s.name := by
        rw [List.filter_filter]
        refine List.filter_congr fun t _ => ?_
        rw [List.map_append, List.map_singleton, Bool.eq_iff_iff, Bool.and_eq_true]
        simp only [decide_eq_true_eq, List.mem_append, List.mem_singleton, not_or]
        exact and_comm
      rw [heq, ih, hothers, List.filter_cons_of_pos (by simpa using hnew), firsts_cons, hleft,
        List.take_succ_cons, List.append_assoc]
      rfl
    · rw [heq, ih, Nat.sub_eq_zero_of_le hfull, List.take_zero, List.take_zero]
    · rw [heq, ih, List.filter_cons_of_neg (by simpa using hname)]

theorem addAll_nil_eq (count : Nat) (more : List Strategy) :
    addAll count [] more = (firsts more).take count := by
  simp [addAll_eq]

theorem addAll_append (count : Nat) (out first rest : List Strategy) :
    addAll count (addAll count out first) rest = addAll count out (first ++ rest) :=
  List.foldl_append.symm

/-! ## What is kept on the way -/

/-- At most `count` strategies, no two of one name. -/
structure Fits (count : Nat) (out : List Strategy) : Prop where
  length_le : out.length ≤ count
  nodup : (out.map (·.name)).Nodup

theorem Fits.nil (count : Nat) : Fits count [] := ⟨Nat.zero_le count, List.nodup_nil⟩

theorem Fits.addNew {count : Nat} {out : List Strategy} (h : Fits count out) (s : Strategy) :
    Fits count (addNew count out s) := by
  obtain ⟨hroom, hnew, heq⟩ | ⟨-, heq⟩ := addNew_cases count out s
  · rw [heq]
    constructor
    · rw [List.length_append]
      exact hroom
    · rw [List.map_append, List.map_singleton, List.nodup_append_comm]
      exact List.nodup_cons.2 ⟨hnew, h.nodup⟩
  · rw [heq]
    exact h

theorem Fits.addAll {count : Nat} {out : List Strategy} (h : Fits count out)
    (more : List Strategy) : Fits count (addAll count out more) := by
  induction more generalizing out with
  | nil => exact h
  | cons s more ih => exact ih (h.addNew s)

theorem mem_of_mem_addAll {count : Nat} {out more : List Strategy} {s : Strategy}
    (h : s ∈ addAll count out more) : s ∈ out ∨ s ∈ more := by
  induction more generalizing out with
  | nil => exact .inl h
  | cons first more ih =>
    rcases ih h with h | h
    · obtain ⟨-, -, heq⟩ | ⟨-, heq⟩ := addNew_cases count out first
      · rw [heq, List.mem_append, List.mem_singleton] at h
        rcases h with h | rfl
        · exact .inl h
        · exact .inr List.mem_cons_self
      · exact .inl (heq ▸ h)
    · exact .inr (List.mem_cons_of_mem first h)

/-- No name is lost with the strategies that are left out. -/
theorem name_mem_firsts_iff {strategies : List Strategy} {name : String} :
    name ∈ (firsts strategies).map (·.name) ↔ name ∈ strategies.map (·.name) := by
  -- Where there is room for one more, adding is keeping the first of each name.
  have hall : addAll ((firsts strategies).length + 1) [] strategies = firsts strategies := by
    rw [addAll_nil_eq, List.take_of_length_le (Nat.le_succ _)]
  constructor
  · intro hname
    obtain ⟨s, hs, rfl⟩ := List.mem_map.1 hname
    rw [← hall] at hs
    exact List.mem_map_of_mem ((mem_of_mem_addAll hs).resolve_left List.not_mem_nil)
  · intro hname
    obtain ⟨s, hs, rfl⟩ := List.mem_map.1 hname
    rw [← hall]
    exact name_mem_addAll (by rw [hall]; omega) s hs

/-! ## The loop -/

namespace Filling

variable {count : Nat}

/-- **The loop comes to an end.** It goes on while there is room, and it has gone round no more
than once for every three strategies that are asked for. -/
theorem exists_rounds (f : Filling count) (h : 3 * f.rounds < count + 3) :
    ∃ n, 3 * (f.rounds + n) < count + 3 ∧ (∀ m < n, (next^[m] f).out.length < count) ∧
      count ≤ (next^[n] f).out.length ∧ f.finish = (next^[n] f).out := by
  fun_induction finish f with
  | case1 f hroom ih =>
    have hrounds := f.rounds_le hroom
    obtain ⟨n, hn, hbefore, hfull, heq⟩ := ih (by show 3 * (f.rounds + 1) < count + 3; omega)
    refine ⟨n + 1, ?_, ?_, hfull, heq⟩
    · change 3 * (f.rounds + 1 + n) < count + 3 at hn
      omega
    · intro m hm
      cases m with
      | zero => exact hroom
      | succ m => exact hbefore m (by omega)
  | case2 f hfull => exact ⟨0, h, fun m hm => absurd hm m.not_lt_zero, Nat.not_lt.1 hfull, rfl⟩

theorem rounds_iterate_start (planned : List Strategy) (n : Nat) :
    (next^[n] (start count planned)).rounds = n := by
  induction n with
  | zero => rfl
  | succ n ih =>
    rw [Function.iterate_succ_apply']
    exact congrArg (· + 1) ih

theorem out_iterate_start (planned : List Strategy) (n : Nat) :
    (next^[n] (start count planned)).out = addAll count [] (planned ++ builtInRounds n) := by
  induction n with
  | zero => rw [builtInRounds, List.range_zero, List.flatMap_nil, List.append_nil]; rfl
  | succ n ih =>
    rw [Function.iterate_succ_apply', builtInRounds_succ, ← List.append_assoc, ← addAll_append,
      ← ih]
    show addAll count _ (builtInRound (_ + 1)) = _
    rw [rounds_iterate_start]

end Filling

/-- What `count` strategies are to be when some are planned: first of all the planned ones, the
first of each name; then the built-in ones, round by round, but for those with the name of a planned
one; and as many of them all as were asked for. -/
structure Fills (count : Nat) (planned strategies : List Strategy) : Prop where
  length_eq : strategies.length = count
  nodup : (strategies.map (·.name)).Nodup
  eq_take : ∃ rounds, strategies =
    (firsts planned ++ (builtInRounds rounds).filter fun s => s.name ∉ planned.map (·.name)).take
      count

/-- Adding built-in strategies to planned ones. -/
theorem addAll_planned_builtIn (count : Nat) (planned : List Strategy) (rounds : Nat) :
    addAll count [] (planned ++ builtInRounds rounds) =
      (firsts planned ++ (builtInRounds rounds).filter fun s => s.name ∉ planned.map (·.name)).take
        count := by
  rw [← addAll_append, addAll_eq, List.take_append, addAll_nil_eq]
  rcases Nat.lt_or_ge (firsts planned).length count with hroom | hfull
  case inr =>
    -- The planned strategies leave no room, whatever names they have.
    rw [List.length_take, Nat.min_eq_left hfull, Nat.sub_self, List.take_zero,
      Nat.sub_eq_zero_of_le hfull, List.take_zero]
  case inl =>
    have hall : (firsts planned).take count = firsts planned :=
      List.take_of_length_le (Nat.le_of_lt hroom)
    have hnodup : (((builtInRounds rounds).filter fun s => s.name ∉ planned.map (·.name)).map
        (·.name)).Nodup :=
      (nodup_names_builtInRounds rounds).sublist (List.filter_sublist.map _)
    simp only [hall, name_mem_firsts_iff]
    rw [firsts_eq_self hnodup]

/-- **Planned strategies are filled up.** The loop ends, after as many rounds as it takes, and then
the request is met. -/
theorem exists_rounds_fillTo (planned : List Strategy) (count : Nat) :
    ∃ n, 3 * n < count + 3 ∧
      (∀ m < n, (Filling.next^[m] (.start count planned)).out.length < count) ∧
      fillTo planned count = (Filling.next^[n] (.start count planned)).out ∧
      Fills count planned (fillTo planned count) := by
  obtain ⟨n, hn, hbefore, hfull, heq⟩ :=
    (Filling.start count planned).exists_rounds (by show 3 * 0 < count + 3; omega)
  change 3 * (0 + n) < count + 3 at hn
  rw [Nat.zero_add] at hn
  refine ⟨n, hn, hbefore, heq, ?_⟩
  have hout : fillTo planned count = addAll count [] (planned ++ builtInRounds n) :=
    heq.trans (Filling.out_iterate_start planned n)
  have hfits : Fits count (fillTo planned count) := hout ▸ (Fits.nil count).addAll _
  refine ⟨?_, hfits.nodup, n, hout.trans (addAll_planned_builtIn count planned n)⟩
  have hlong : count ≤ (fillTo planned count).length := by
    rw [fillTo, heq]
    exact hfull
  exact Nat.le_antisymm hfits.length_le hlong

theorem fills_fillTo (planned : List Strategy) (count : Nat) :
    Fills count planned (fillTo planned count) := by
  obtain ⟨-, -, -, -, hfills⟩ := exists_rounds_fillTo planned count
  exact hfills

theorem prefix_builtInRounds {rounds more : Nat} (h : rounds ≤ more) :
    builtInRounds rounds <+: builtInRounds more := by
  obtain ⟨rest, rfl⟩ := Nat.exists_eq_add_of_le h
  clear h
  induction rest with
  | zero => exact List.prefix_refl _
  | succ rest ih =>
    rw [← Nat.add_assoc, builtInRounds_succ]
    exact ih.trans (List.prefix_append _ _)

/-- Strategies are filled up in one way only. -/
theorem Fills.unique {count : Nat} {planned strategies others : List Strategy}
    (h : Fills count planned strategies) (h' : Fills count planned others) :
    strategies = others := by
  obtain ⟨hlength, -, rounds, heq⟩ := h
  obtain ⟨hlength', -, rounds', heq'⟩ := h'
  -- Both are the front of what the greater number of rounds gives.
  have hprefix {n m : Nat} (hnm : n ≤ m) :
      (firsts planned ++ (builtInRounds n).filter fun s => s.name ∉ planned.map (·.name)).take
          count <+:
        (firsts planned ++ (builtInRounds m).filter fun s => s.name ∉ planned.map (·.name)).take
          count :=
    List.IsPrefix.take ((List.prefix_append_right_inj _).2 ((prefix_builtInRounds hnm).filter _)) _
  rcases Nat.le_total rounds rounds' with hle | hle
  · exact List.IsPrefix.eq_of_length (heq ▸ heq' ▸ hprefix hle) (hlength.trans hlength'.symm)
  · exact (List.IsPrefix.eq_of_length (heq ▸ heq' ▸ hprefix hle) (hlength'.trans hlength.symm)).symm

-- A planned name can stand in the way of a built-in one of any round; the next one takes its place.
example :
    (fillTo [⟨"split_based_tokenizer", "", ""⟩, ⟨"string_ops_only_2", "", ""⟩] 6).map (·.name) =
      ["split_based_tokenizer", "string_ops_only_2", "string_ops_only", "hybrid_structured",
        "split_based_tokenizer_2", "hybrid_structured_2"] := by
  decide +kernel

end RemapSynth.Strategy
