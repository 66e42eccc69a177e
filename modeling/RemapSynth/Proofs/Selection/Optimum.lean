/-
The first in rank is the best, and of equally good candidates the first.

Being better is said outright (`Outranks`, `Ties`): faster under the goal,
then cheaper. As long as speeds and costs are numbers, candidates stand in a
row by their merit, and ranking keeps the first one of the greatest merit
among those it has seen (`Leads.better`, and from it `leads_leader`).

A candidate that has no standing is passed over. It can come and go: the
places of the others move, but not who leads (`rank_insert`).
-/
import Mathlib.Data.List.Induction
import RemapSynth.Proofs.Score.Doubles
import RemapSynth.Proofs.Selection.Ranking

namespace RemapSynth.Selection

open Score

/-! ## What is better -/

/-- Whether a measurement is better than another under a goal. -/
def Faster (goal : Settings.Goal) (a b : Measurement) : Prop :=
  match goal with
  | .throughput => b.eventsPerSecond < a.eventsPerSecond
  | .cpuEfficiency => b.index < a.index
  | .balanced => b.index < a.index ∨ a.index = b.index ∧ b.eventsPerSecond < a.eventsPerSecond

/-- Whether two measurements are equally good under a goal. -/
def AsFast (goal : Settings.Goal) (a b : Measurement) : Prop :=
  match goal with
  | .throughput => (a.eventsPerSecond == b.eventsPerSecond) = true
  | .cpuEfficiency => a.index = b.index
  | .balanced => a.index = b.index ∧ (a.eventsPerSecond == b.eventsPerSecond) = true

/-- Whether one is better than the other: faster, or as fast and cheaper. -/
def Outranks (goal : Settings.Goal) (s t : Measurement × Float) : Prop :=
  Faster goal s.1 t.1 ∨ AsFast goal s.1 t.1 ∧ s.2 < t.2

/-- Whether two are equally good: as fast and as cheap. -/
def Ties (goal : Settings.Goal) (s t : Measurement × Float) : Prop :=
  AsFast goal s.1 t.1 ∧ (s.2 == t.2) = true

/-- Whether throughput and cost are numbers. -/
def IsNumeric (s : Measurement × Float) : Prop :=
  s.1.eventsPerSecond.isNaN = false ∧ s.2.isNaN = false

instance (s : Measurement × Float) : Decidable (IsNumeric s) := inferInstanceAs (Decidable (_ ∧ _))

/-- What is compared under a goal: index, throughput, cost. A part that the goal leaves out is the
same for everybody, and the smaller cost is the greater merit. -/
def merit (goal : Settings.Goal) (s : Measurement × Float) : ℕ ×ₗ Place ×ₗ Placeᵒᵈ :=
  let cost := OrderDual.toDual (place s.2)
  match goal with
  | .throughput => toLex (0, toLex (place s.1.eventsPerSecond, cost))
  | .cpuEfficiency => toLex (s.1.index, toLex (place 0, cost))
  | .balanced => toLex (s.1.index, toLex (place s.1.eventsPerSecond, cost))

section
variable {goal : Settings.Goal} {s t : Measurement × Float}

theorem outranks_iff (hs : IsNumeric s) (ht : IsNumeric t) :
    Outranks goal s t ↔ merit goal t < merit goal s := by
  have hspeed := lt_iff_place ht.1 hs.1
  have hequal := beq_iff_place hs.1 ht.1
  have hcost := lt_iff_place hs.2 ht.2
  cases goal <;>
    simp only [Outranks, Faster, AsFast, merit, Prod.Lex.toLex_lt_toLex, OrderDual.toDual_lt_toDual,
      hspeed, hequal, hcost, lt_irrefl, false_or, true_and]
  all_goals grind

theorem ties_iff (hs : IsNumeric s) (ht : IsNumeric t) :
    Ties goal s t ↔ merit goal s = merit goal t := by
  have hequal := beq_iff_place hs.1 ht.1
  have hcost := beq_iff_place hs.2 ht.2
  cases goal <;> simp [Ties, AsFast, merit, hequal, hcost, and_assoc]

theorem compareBy_eq_gt_iff {a b : Float} (ha : a.isNaN = false) (hb : b.isNaN = false) :
    compareBy a b = .gt ↔ place b < place a := by
  simp only [compareBy, lt_iff_place ha hb, lt_iff_place hb ha]
  split
  next hlt => simpa using hlt.le
  next => split <;> simp_all

theorem compareBy_eq_eq_iff {a b : Float} (ha : a.isNaN = false) (hb : b.isNaN = false) :
    compareBy a b = .eq ↔ place a = place b := by
  simp only [compareBy, lt_iff_place ha hb, lt_iff_place hb ha]
  split
  next hlt => simpa using hlt.ne
  next hle =>
    split
    next hlt => simpa using hlt.ne'
    next hge => simpa using le_antisymm (not_lt.1 hge) (not_lt.1 hle)

/-- One takes the place of the other just when it is better. -/
theorem compareMeasured_eq_gt_iff (goal : Settings.Goal) (hs : IsNumeric s) (ht : IsNumeric t) :
    compareMeasured goal s t = .gt ↔ merit goal t < merit goal s := by
  have hspeed := compareBy_eq_gt_iff hs.1 ht.1
  have hequal := compareBy_eq_eq_iff hs.1 ht.1
  have hcost := compareBy_eq_gt_iff ht.2 hs.2
  cases goal <;>
    simp only [compareMeasured, compareSpeed, merit, Ordering.then_eq_gt, Ordering.then_eq_eq,
      Prod.Lex.toLex_lt_toLex, OrderDual.toDual_lt_toDual, compare_gt_iff_gt, compare_eq_iff_eq,
      hspeed, hequal, hcost, lt_irrefl, false_or, true_and]
  all_goals grind

end

/-! ## Who leads -/

section
variable {Cost : Type} {c : Candidate Cost}

/-- Whether a candidate is ranked at all: it is valid and was measured. -/
def Candidate.IsRanked (c : Candidate Cost) : Prop :=
  c.isValid = true ∧ c.measurement.isSome = true

theorem standing?_eq_none_iff : c.standing? = none ↔ ¬ c.IsRanked := by
  cases hvalid : c.isValid <;> simp [Candidate.standing?, Candidate.IsRanked, hvalid]

theorem standing?_eq_some {m : Measurement} (hvalid : c.isValid = true)
    (hm : c.measurement = some m) : c.standing? = some (m, c.totalCost) := by
  simp [Candidate.standing?, hvalid, hm]

theorem of_standing?_eq_some {s : Measurement × Cost} (h : c.standing? = some s) :
    c.isValid = true ∧ c.measurement = some s.1 ∧ c.totalCost = s.2 := by
  simp only [Candidate.standing?] at h
  split at h
  next hvalid =>
    obtain ⟨m, hm, rfl⟩ := Option.map_eq_some_iff.1 h
    exact ⟨hvalid, hm, rfl⟩
  next => cases h

end

section
variable {goal : Settings.Goal} {front cs : List Candidate} {c : Candidate}
  {best : Option (Nat × Measurement × Float)}

/-- `Leads goal cs best`: `best` is the place and the standing of the first candidate of the
greatest merit, if any has a standing. -/
inductive Leads (goal : Settings.Goal) (cs : List Candidate) :
    Option (Nat × Measurement × Float) → Prop
  | nobody (h : ∀ c ∈ cs, c.standing? = none) : Leads goal cs none
  | leader {c : Candidate} {k : Nat} {s : Measurement × Float} (hplace : cs[k]? = some c)
      (hs : c.standing? = some s)
      (hbest : ∀ i c' t, cs[i]? = some c' → c'.standing? = some t →
        merit goal t ≤ merit goal s ∧ (merit goal t = merit goal s → k ≤ i)) :
      Leads goal cs (some (k, s))

theorem getElem?_concat_eq_some {α : Type} {xs : List α} {x y : α} {i : Nat}
    (h : (xs ++ [x])[i]? = some y) : xs[i]? = some y ∨ i = xs.length ∧ y = x := by
  rw [List.getElem?_append] at h
  split at h
  next => exact .inl h
  next hle =>
    obtain ⟨hi, hy⟩ := List.getElem?_eq_some_iff.1 h
    simp only [List.length_singleton] at hi
    simp only [List.getElem_singleton] at hy
    exact .inr ⟨by omega, hy.symm⟩

/-- **One more candidate leads only if it is better than the leader.** -/
theorem Leads.better (h : Leads goal front best)
    (hnum : ∀ c' ∈ front ++ [c], ∀ s ∈ c'.standing?, IsNumeric s) :
    Leads goal (front ++ [c]) (better goal front.length best c) := by
  have hlast : (front ++ [c])[front.length]? = some c := by simp
  have hfront : ∀ {i : Nat} {c' : Candidate}, front[i]? = some c' →
      (front ++ [c])[i]? = some c' := fun hi => by
    rw [List.getElem?_append_left (List.getElem?_eq_some_iff.1 hi).1, hi]
  cases hc : c.standing? with
  | none =>
    cases h with
    | nobody h =>
      simp only [Selection.better, hc]
      refine .nobody fun c' hc' => ?_
      rcases List.mem_append.1 hc' with hc' | hc'
      · exact h c' hc'
      · rw [List.mem_singleton.1 hc', hc]
    | leader hplace hs hbest =>
      simp only [Selection.better, hc]
      refine .leader (hfront hplace) hs fun i c' t hi ht => ?_
      rcases getElem?_concat_eq_some hi with hi | ⟨-, rfl⟩
      · exact hbest i c' t hi ht
      · rw [hc] at ht
        cases ht
  | some s =>
    cases h with
    | nobody h =>
      simp only [Selection.better, hc]
      refine .leader hlast hc fun i c' t hi ht => ?_
      rcases getElem?_concat_eq_some hi with hi | ⟨rfl, rfl⟩
      · rw [h c' (List.mem_of_getElem? hi)] at ht
        cases ht
      · rw [hc] at ht
        cases ht
        exact ⟨le_refl _, fun _ => le_refl _⟩
    | @leader d k t hplace ht hbest =>
      have hnums := hnum c (by simp) s hc
      have hnumt := hnum d (List.mem_append_left _ (List.mem_of_getElem? hplace)) t ht
      have hgt := compareMeasured_eq_gt_iff goal hnums hnumt
      simp only [Selection.better, hc, hgt]
      split
      next hlt =>
        refine .leader hlast hc fun i c' u hi hu => ?_
        rcases getElem?_concat_eq_some hi with hi | ⟨rfl, rfl⟩
        · have hless : merit goal u < merit goal s := (hbest i c' u hi hu).1.trans_lt hlt
          exact ⟨hless.le, fun heq => absurd heq hless.ne⟩
        · rw [hc] at hu
          cases hu
          exact ⟨le_refl _, fun _ => le_refl _⟩
      next hle =>
        refine .leader (hfront hplace) ht fun i c' u hi hu => ?_
        rcases getElem?_concat_eq_some hi with hi | ⟨rfl, rfl⟩
        · exact hbest i c' u hi hu
        · rw [hc] at hu
          cases hu
          have hk : k < front.length := (List.getElem?_eq_some_iff.1 hplace).1
          exact ⟨not_lt.1 hle, fun _ => hk.le⟩

end

/-! ## Ranking as a search for the leader -/

section
variable {Cost : Type} [LT Cost] [DecidableLT Cost] {goal : Settings.Goal} {i : Nat}
  {best : Option (Nat × Measurement × Cost)}

/-- The best of the candidates from place `i` on, with its standing. -/
def leadFrom (goal : Settings.Goal) : Nat → Option (Nat × Measurement × Cost) →
    List (Candidate Cost) → Option (Nat × Measurement × Cost)
  | _, best, [] => best
  | i, best, c :: cs => leadFrom goal (i + 1) (better goal i best c) cs

theorem rankFrom_eq_leadFrom (cs : List (Candidate Cost)) :
    rankFrom goal i best cs = (leadFrom goal i best cs).map (·.1) := by
  induction cs generalizing i best with
  | nil => rfl
  | cons c cs ih => rw [rankFrom_cons, leadFrom, ih]

theorem rank_eq_leadFrom (cs : List (Candidate Cost)) :
    rank goal cs = (leadFrom goal 0 none cs).map (·.1) :=
  rankFrom_eq_leadFrom cs

theorem leadFrom_append (front back : List (Candidate Cost)) :
    leadFrom goal i best (front ++ back) =
      leadFrom goal (i + front.length) (leadFrom goal i best front) back := by
  induction front generalizing i best with
  | nil => rfl
  | cons c front ih =>
    rw [List.cons_append, leadFrom, ih, leadFrom, List.length_cons]
    congr 1
    omega

theorem leadFrom_concat (front : List (Candidate Cost)) (c : Candidate Cost) :
    leadFrom goal 0 none (front ++ [c]) =
      better goal front.length (leadFrom goal 0 none front) c := by
  rw [leadFrom_append, Nat.zero_add, leadFrom, leadFrom]

end

/-- **What ranking has found by the end leads all candidates.** -/
theorem leads_leadFrom (goal : Settings.Goal) {cs : List Candidate}
    (hnum : ∀ c ∈ cs, ∀ s ∈ c.standing?, IsNumeric s) :
    Leads goal cs (leadFrom goal 0 none cs) := by
  induction cs using List.reverseRecOn with
  | nil => exact .nobody fun c hc => absurd hc List.not_mem_nil
  | append_singleton front c ih =>
    rw [leadFrom_concat]
    exact (ih fun c' hc' => hnum c' (List.mem_append_left _ hc')).better hnum

/-! ## Candidates without a standing -/

section
variable {Cost : Type} [LT Cost] [DecidableLT Cost] {goal : Settings.Goal} {c : Candidate Cost}
  {front back : List (Candidate Cost)}

/-- A place once one more candidate stands at place `n`. -/
def shifted (n k : Nat) : Nat := if k < n then k else k + 1

theorem better_shifted {n i : Nat} (hn : n ≤ i) (best : Option (Nat × Measurement × Cost))
    (c : Candidate Cost) :
    better goal (i + 1) (best.map (Prod.map (shifted n) id)) c =
      (better goal i best c).map (Prod.map (shifted n) id) := by
  have hi : shifted n i = i + 1 := if_neg (Nat.not_lt.2 hn)
  cases hc : c.standing? with
  | none => cases best <;> simp only [better, hc, Option.map_none, Option.map_some]
  | some s =>
    cases best with
    | none => simp only [better, hc, Option.map_none, Option.map_some, Prod.map_apply, hi, id]
    | some leader =>
      obtain ⟨k, t⟩ := leader
      by_cases hgt : compareMeasured goal s t = .gt <;>
        simp [better, hc, hgt, hi]

theorem leadFrom_shifted (goal : Settings.Goal) {n i : Nat} (hn : n ≤ i)
    (best : Option (Nat × Measurement × Cost)) (cs : List (Candidate Cost)) :
    leadFrom goal (i + 1) (best.map (Prod.map (shifted n) id)) cs =
      (leadFrom goal i best cs).map (Prod.map (shifted n) id) := by
  induction cs generalizing i best with
  | nil => rfl
  | cons c cs ih => rw [leadFrom, leadFrom, better_shifted hn, ih (Nat.le_succ_of_le hn)]

/-- Whoever leads `front` stands before its end. -/
theorem map_shifted_leadFrom (front : List (Candidate Cost)) :
    (leadFrom goal 0 none front).map (Prod.map (shifted front.length) id) =
      leadFrom goal 0 none front := by
  cases hlead : leadFrom goal 0 none front with
  | none => rfl
  | some best =>
    obtain ⟨k, s⟩ := best
    have hrank : rank goal front = some k := by rw [rank_eq_leadFrom, hlead]; rfl
    obtain ⟨c, hplace, -⟩ := exists_standing_of_rank hrank
    have hk : k < front.length := (List.getElem?_eq_some_iff.1 hplace).1
    simp [shifted, hk]

/-- **A candidate without a standing makes no difference.** Where it stands in the way the places
move by one, and the first in rank stays who it was. -/
theorem rank_insert (hc : c.standing? = none) (front back : List (Candidate Cost)) :
    rank goal (front ++ c :: back) =
      (rank goal (front ++ back)).map (shifted front.length) := by
  have hskip : better goal front.length (leadFrom goal 0 none front) c =
      leadFrom goal 0 none front := by
    simp only [better, hc]
  have hback := leadFrom_shifted goal (le_refl front.length)
    (leadFrom goal 0 none front) back
  rw [map_shifted_leadFrom] at hback
  rw [rank_eq_leadFrom, rank_eq_leadFrom, leadFrom_append, leadFrom_append, Nat.zero_add, leadFrom,
    hskip, hback, Option.map_map, Option.map_map]
  rfl

omit [LT Cost] [DecidableLT Cost] in
theorem getElem?_shifted (front back : List (Candidate Cost)) (c : Candidate Cost) (k : Nat) :
    (front ++ c :: back)[shifted front.length k]? = (front ++ back)[k]? := by
  by_cases hk : k < front.length
  · rw [shifted, if_pos hk, List.getElem?_append_left hk, List.getElem?_append_left hk]
  · have hsub : k + 1 - front.length = (k - front.length) + 1 := by omega
    rw [shifted, if_neg hk, List.getElem?_append_right (by omega),
      List.getElem?_append_right (by omega), hsub, List.getElem?_cons_succ]

theorem winner_insert (hc : c.standing? = none) (front back : List (Candidate Cost)) (cost : Cost) :
    (outcome goal (front ++ c :: back) cost).winner = (outcome goal (front ++ back) cost).winner := by
  simp only [outcome, rank_insert hc, Option.bind_map, Function.comp_def, getElem?_shifted]

end

/-! ## The first in rank -/

/-- **The first in rank is the best, and the first of the best.** Nobody is first just when nobody is
valid and measured. Where throughputs and costs are numbers, the first in rank is a valid and
measured candidate that no other outranks, and whoever ties with it stands behind it. A candidate
that is not valid, or was not measured, can be added anywhere, taken away or changed, and the same
candidate is first. -/
theorem rank_optimal (goal : Settings.Goal) (cs : List Candidate) :
    (rank goal cs = none ↔ ∀ c ∈ cs, ¬ c.IsRanked) ∧
    ((∀ c ∈ cs, ∀ s ∈ c.standing?, IsNumeric s) →
      ∀ k, rank goal cs = some k → ∃ c m, cs[k]? = some c ∧ c.isValid = true ∧
        c.measurement = some m ∧
        ∀ i c' m', cs[i]? = some c' → c'.isValid = true → c'.measurement = some m' →
          ¬ Outranks goal (m', c'.totalCost) (m, c.totalCost) ∧
          (Ties goal (m', c'.totalCost) (m, c.totalCost) → k ≤ i)) ∧
    ∀ front back c, cs = front ++ back → ¬ c.IsRanked →
      rank goal (front ++ c :: back) = (rank goal cs).map (shifted front.length) ∧
      (∀ cost, (outcome goal (front ++ c :: back) cost).winner = (outcome goal cs cost).winner) ∧
      ∀ c', ¬ c'.IsRanked → rank goal (front ++ c' :: back) = rank goal (front ++ c :: back) := by
  refine ⟨?_, fun hnum k hk => ?_, ?_⟩
  · simp only [rank_eq_none_iff, standing?_eq_none_iff]
  · have hlead := leads_leadFrom goal hnum
    rw [rank_eq_leadFrom] at hk
    obtain ⟨⟨k, s⟩, hs, rfl⟩ := Option.map_eq_some_iff.1 hk
    rw [hs] at hlead
    obtain _ | ⟨hplace, hs, hbest⟩ := hlead
    obtain ⟨hvalid, hm, hcost⟩ := of_standing?_eq_some hs
    refine ⟨_, _, hplace, hvalid, hm, fun i c' m' hi hvalid' hm' => ?_⟩
    have hs' := standing?_eq_some hvalid' hm'
    have hnums := hnum _ (List.mem_of_getElem? hplace) _ hs
    have hnums' := hnum _ (List.mem_of_getElem? hi) _ hs'
    obtain ⟨hle, hfirst⟩ := hbest i c' _ hi hs'
    rw [hcost, outranks_iff hnums' hnums, ties_iff hnums' hnums]
    exact ⟨not_lt.2 hle, hfirst⟩
  · rintro front back c rfl hc
    have hc := standing?_eq_none_iff.2 hc
    refine ⟨rank_insert hc front back, fun cost => winner_insert hc front back cost, ?_⟩
    intro c' hc'
    rw [rank_insert hc, rank_insert (standing?_eq_none_iff.2 hc')]

/-- A candidate with this throughput and this cost. -/
def runner (name : String) (valid : Bool) (speed : Option Float) (cost : Float) : Candidate where
  strategy := ⟨name, "", ""⟩
  code := ""
  isValid := valid
  unavailable := false
  records := []
  measurement := speed.map fun speed => ⟨speed, 0, 0, 1, 0, 0, 7, .slow, .engine, 0⟩
  totalCost := cost
  iterations := 1
  lastError := none

/-- One that is fast and not valid, two that differ in cost, the twin of the cheaper one, and one
that was not measured. -/
def field : List Candidate :=
  [runner "invalid" false (some 9) 0, runner "dear" true (some 2) 0.5,
    runner "cheap" true (some 2) 0.25, runner "twin" true (some 2) 0.25,
    runner "unmeasured" true none 0]

theorem rank_optimal_field :
    (∀ c ∈ field, ∀ s ∈ c.standing?, IsNumeric s) ∧ rank .throughput field = some 2 ∧
    (∃ c m, field[2]? = some c ∧ c.measurement = some m ∧
      ∀ i c' m', field[i]? = some c' → c'.isValid = true → c'.measurement = some m' →
        ¬ Outranks .throughput (m', c'.totalCost) (m, c.totalCost) ∧
        (Ties .throughput (m', c'.totalCost) (m, c.totalCost) → 2 ≤ i)) ∧
    ¬ (runner "newcomer" false (some 9) 0).IsRanked ∧
    rank .throughput (runner "newcomer" false (some 9) 0 :: field) = some 3 := by
  have hnum : ∀ c ∈ field, ∀ s ∈ c.standing?, IsNumeric s := by decide
  have hrank : rank .throughput field = some 2 := by decide
  have hnew : ¬ (runner "newcomer" false (some 9) 0).IsRanked := by simp [Candidate.IsRanked, runner]
  obtain ⟨-, hbest, hinsert⟩ := rank_optimal .throughput field
  obtain ⟨c, m, hplace, -, hm, hfirst⟩ := hbest hnum 2 hrank
  obtain ⟨hmoved, -⟩ := hinsert [] field _ rfl hnew
  rw [hrank] at hmoved
  exact ⟨hnum, hrank, ⟨c, m, hplace, hm, hfirst⟩, hnew, hmoved⟩

end RemapSynth.Selection
