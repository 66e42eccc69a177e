/-
Filling up strategies. The planned ones come first; rounds of built-in ones
follow until there are as many as were asked for, no two of one name. A round
whose names are all taken brings nothing, but it is not lost: no two built-in
strategies of any rounds have one name, so after `n` rounds there are `3 * n`
strategies or more, and the rounds come to an end (`Filling.rounds_le`).
-/
import RemapSynth.Generation.Strategy

namespace RemapSynth.Strategy

/-- The built-in strategies as they are named in one round: from the second round on, the name
carries the round's number. -/
def builtInRound (round : Nat) : List Strategy :=
  if round ≤ 1 then builtIn
  else builtIn.map fun s => { s with name := s.name ++ "_" ++ Nat.repr round }

/-- The built-in strategies of the first rounds. -/
def builtInRounds (rounds : Nat) : List Strategy :=
  (List.range rounds).flatMap fun i => builtInRound (i + 1)

/-- The strategies with one more, unless there are `count` already or one of them has its name. -/
def addNew (count : Nat) (out : List Strategy) (s : Strategy) : List Strategy :=
  if out.length < count ∧ s.name ∉ out.map (·.name) then out ++ [s] else out

/-- The strategies with others, in order, as far as they are new and there is room. -/
def addAll (count : Nat) (out more : List Strategy) : List Strategy := more.foldl (addNew count) out

/-! ## Names of built-in strategies -/

/-- The number at the end of a name; zero when there is none. -/
def numberOf (name : List Char) : Nat :=
  Nat.ofDigitChars 10 (name.reverse.takeWhile Char.isDigit).reverse 0

theorem numberOf_append_repr (base : List Char) (n : Nat) :
    numberOf (base ++ '_' :: (Nat.repr n).toList) = n := by
  have hdigits : ∀ c ∈ (Nat.repr n).toList.reverse, c.isDigit = true := by
    intro c hc
    rw [List.mem_reverse, Nat.toList_repr] at hc
    exact Nat.isDigit_of_mem_toDigits (by decide) (by decide) hc
  have hreverse : (base ++ '_' :: (Nat.repr n).toList).reverse =
      (Nat.repr n).toList.reverse ++ '_' :: base.reverse := by simp
  have htake : ((Nat.repr n).toList.reverse ++ '_' :: base.reverse).takeWhile Char.isDigit =
      (Nat.repr n).toList.reverse := by
    rw [List.takeWhile_append_of_pos hdigits]
    simp
  rw [numberOf, hreverse, htake, List.reverse_reverse, Nat.toList_repr,
    Nat.ofDigitChars_ten_toDigits]

/-- The names of one round end in its number, those of the first round in none. -/
theorem numberOf_name {round : Nat} {s : Strategy} (h : s ∈ builtInRound round) :
    numberOf s.name.toList = if round ≤ 1 then 0 else round := by
  rw [builtInRound] at h
  split at h
  case isTrue hfirst =>
    have hnone : ∀ s ∈ builtIn, numberOf s.name.toList = 0 := by decide
    rw [if_pos hfirst]
    exact hnone s h
  case isFalse hlater =>
    obtain ⟨base, -, rfl⟩ := List.mem_map.1 h
    have hname : (base.name ++ "_" ++ Nat.repr round).toList =
        base.name.toList ++ '_' :: (Nat.repr round).toList := by
      rw [String.toList_append, String.toList_append, List.append_assoc]
      rfl
    rw [if_neg hlater, hname, numberOf_append_repr]

theorem append_right_cancel {s t suffix : String} (h : s ++ suffix = t ++ suffix) : s = t := by
  have hchars := congrArg String.toList h
  rw [String.toList_append, String.toList_append] at hchars
  exact String.toList_inj.1 (List.append_cancel_right hchars)

theorem nodup_names_builtInRound (round : Nat) : ((builtInRound round).map (·.name)).Nodup := by
  have hfirst : (builtIn.map (·.name)).Nodup := by decide
  rw [builtInRound]
  split
  case isTrue => exact hfirst
  case isFalse =>
    -- The names of a later round are those of the first with one and the same suffix.
    rw [List.map_map, List.Nodup, List.pairwise_map]
    refine (List.pairwise_map.1 hfirst).imp ?_
    intro s t hne heq
    simp only [Function.comp_apply, String.append_assoc] at heq
    exact hne (append_right_cancel heq)

theorem length_builtInRound (round : Nat) : (builtInRound round).length = 3 := by
  rw [builtInRound]
  split <;> rfl

theorem builtInRounds_succ (rounds : Nat) :
    builtInRounds (rounds + 1) = builtInRounds rounds ++ builtInRound (rounds + 1) := by
  simp [builtInRounds, List.range_succ]

theorem length_builtInRounds (rounds : Nat) : (builtInRounds rounds).length = 3 * rounds := by
  induction rounds with
  | zero => rfl
  | succ rounds ih =>
    rw [builtInRounds_succ, List.length_append, ih, length_builtInRound]
    omega

/-- No two built-in strategies have one name, in whatever rounds. -/
theorem nodup_names_builtInRounds (rounds : Nat) : ((builtInRounds rounds).map (·.name)).Nodup := by
  induction rounds with
  | zero => exact List.nodup_nil
  | succ rounds ih =>
    rw [builtInRounds_succ, List.map_append, List.nodup_append]
    refine ⟨ih, nodup_names_builtInRound _, ?_⟩
    intro name hname name' hname' heq
    obtain ⟨s, hs, rfl⟩ := List.mem_map.1 hname
    obtain ⟨t, ht, rfl⟩ := List.mem_map.1 hname'
    obtain ⟨i, hi, hs⟩ := List.mem_flatMap.1 hs
    have hnumber := congrArg (fun name => numberOf name.toList) heq
    simp only [numberOf_name hs, numberOf_name ht] at hnumber
    rw [List.mem_range] at hi
    split at hnumber <;> split at hnumber <;> omega

/-! ## Adding -/

theorem addNew_cases (count : Nat) (out : List Strategy) (s : Strategy) :
    (out.length < count ∧ s.name ∉ out.map (·.name) ∧ addNew count out s = out ++ [s]) ∨
    ((count ≤ out.length ∨ s.name ∈ out.map (·.name)) ∧ addNew count out s = out) := by
  rw [addNew]
  split
  case isTrue h => exact .inl ⟨h.1, h.2, rfl⟩
  case isFalse h =>
    refine .inr ⟨?_, rfl⟩
    rcases Nat.lt_or_ge out.length count with hroom | hfull
    · exact .inr (Classical.not_not.1 fun hnew => h ⟨hroom, hnew⟩)
    · exact .inl hfull

@[simp] theorem addAll_nil (count : Nat) (out : List Strategy) : addAll count out [] = out := rfl

@[simp] theorem addAll_cons (count : Nat) (out : List Strategy) (s : Strategy)
    (more : List Strategy) : addAll count out (s :: more) = addAll count (addNew count out s) more :=
  rfl

/-- Nothing that is there is touched. -/
theorem prefix_addAll (count : Nat) (out more : List Strategy) : out <+: addAll count out more := by
  induction more generalizing out with
  | nil => exact List.prefix_refl out
  | cons s more ih =>
    have hstep : out <+: addNew count out s := by
      obtain ⟨-, -, heq⟩ | ⟨-, heq⟩ := addNew_cases count out s
      · exact ⟨[s], heq.symm⟩
      · exact ⟨[], by rw [heq, List.append_nil]⟩
    exact hstep.trans (ih (addNew count out s))

theorem length_le_addAll (count : Nat) (out more : List Strategy) :
    out.length ≤ (addAll count out more).length := (prefix_addAll count out more).length_le

/-- While there is room left at the end, none is passed over but for its name. -/
theorem name_mem_addAll {count : Nat} {out more : List Strategy}
    (hroom : (addAll count out more).length < count) :
    ∀ s ∈ more, s.name ∈ (addAll count out more).map (·.name) := by
  induction more generalizing out with
  | nil => intro s hs; cases hs
  | cons first more ih =>
    rw [addAll_cons] at hroom ⊢
    intro s hs
    rcases List.mem_cons.1 hs with rfl | hs
    case inr => exact ih hroom s hs
    have hkept : (addNew count out s).map (·.name) ⊆
        (addAll count (addNew count out s) more).map (·.name) :=
      List.map_subset _ (prefix_addAll ..).subset
    have hbound := length_le_addAll count (addNew count out s) more
    apply hkept
    obtain ⟨-, -, heq⟩ | ⟨hfull | hname, heq⟩ := addNew_cases count out s
    · rw [heq]
      simp
    · rw [heq] at hbound hroom
      omega
    · rw [heq]
      exact hname

/-! ## Round after round -/

/-- Strategies on the way to `count`, after some rounds of built-in ones. -/
structure Filling (count : Nat) where
  out : List Strategy
  rounds : Nat
  /-- While there is room, no built-in strategy of these rounds is missing, but for its name. -/
  covers : out.length < count → ∀ s ∈ builtInRounds rounds, s.name ∈ out.map (·.name)

namespace Filling

variable {count : Nat}

/-- What was planned, before any round. -/
def start (count : Nat) (planned : List Strategy) : Filling count where
  out := addAll count [] planned
  rounds := 0
  covers := by
    intro _ s hs
    cases hs

/-- One more round. -/
def next (f : Filling count) : Filling count where
  out := addAll count f.out (builtInRound (f.rounds + 1))
  rounds := f.rounds + 1
  covers := by
    intro hroom s hs
    rw [builtInRounds_succ, List.mem_append] at hs
    have hkept := prefix_addAll count f.out (builtInRound (f.rounds + 1))
    rcases hs with hs | hs
    · have hbefore := f.covers (Nat.lt_of_le_of_lt hkept.length_le hroom) s hs
      exact List.map_subset _ hkept.subset hbefore
    · exact name_mem_addAll hroom s hs

/-- **Every round has brought three strategies, or met names that were there already.** -/
theorem rounds_le (f : Filling count) (hroom : f.out.length < count) :
    3 * f.rounds ≤ f.out.length := by
  have hsubset : (builtInRounds f.rounds).map (·.name) ⊆ f.out.map (·.name) := by
    intro name hname
    obtain ⟨s, hs, rfl⟩ := List.mem_map.1 hname
    exact f.covers hroom s hs
  have hle := (nodup_names_builtInRounds f.rounds).length_le_of_subset hsubset
  rwa [List.length_map, List.length_map, length_builtInRounds] at hle

/-- Rounds until there are as many as were asked for. -/
def finish (f : Filling count) : List Strategy :=
  if f.out.length < count then f.next.finish else f.out
  termination_by count - f.rounds
  decreasing_by
    have hrounds := f.rounds_le ‹_›
    show count - (f.rounds + 1) < count - f.rounds
    omega

end Filling

/-- The planned strategies filled up with built-in ones: exactly `count`, no two of one name. -/
def fillTo (planned : List Strategy) (count : Nat) : List Strategy :=
  (Filling.start count planned).finish

end RemapSynth.Strategy
