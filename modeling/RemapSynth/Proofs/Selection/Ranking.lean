/-
Who can be ranked first. Only a candidate with a standing is, and one is as
soon as there is any; so a selection has no winner just when none has one.
-/
import RemapSynth.Selection.Run

namespace RemapSynth.Selection

variable {Cost : Type} [LT Cost] [DecidableLT Cost] {goal : Settings.Goal} {i k : Nat}
  {best : Option (Nat × Score.Measurement × Cost)} {c : Candidate Cost}
  {cs : List (Candidate Cost)}

/-- The best so far, once the candidate at place `i` is compared with it too. -/
def better (goal : Settings.Goal) (i : Nat) (best : Option (Nat × Score.Measurement × Cost))
    (c : Candidate Cost) : Option (Nat × Score.Measurement × Cost) :=
  match c.standing?, best with
  | none, best => best
  | some s, none => some (i, s)
  | some s, some (j, t) => some (if compareMeasured goal s t = .gt then (i, s) else (j, t))

theorem rankFrom_cons :
    rankFrom goal i best (c :: cs) = rankFrom goal (i + 1) (better goal i best c) cs := by
  cases hs : c.standing? <;> cases best <;> simp [rankFrom, better, hs]

theorem better_eq_none_iff : better goal i best c = none ↔ best = none ∧ c.standing? = none := by
  cases hs : c.standing? <;> cases best <;> simp [better, hs]

theorem better_eq_some {s : Score.Measurement × Cost} (h : better goal i best c = some (k, s)) :
    best = some (k, s) ∨ k = i ∧ c.standing? = some s := by
  unfold better at h
  split at h
  next => exact .inl h
  next hs =>
    cases h
    exact .inr ⟨rfl, hs⟩
  next hs =>
    split at h
    · cases h
      exact .inr ⟨rfl, hs⟩
    · exact .inl h

theorem rankFrom_eq_none_iff :
    rankFrom goal i best cs = none ↔ best = none ∧ ∀ c ∈ cs, c.standing? = none := by
  induction cs generalizing i best with
  | nil => simp [rankFrom]
  | cons c cs ih => simp [rankFrom_cons, ih, better_eq_none_iff, and_assoc]

/-- The first in rank is the best one so far or one of those still to come. -/
theorem rankFrom_eq_some (h : rankFrom goal i best cs = some k) :
    (∃ s, best = some (k, s)) ∨
      ∃ place c, k = i + place ∧ cs[place]? = some c ∧ c.standing?.isSome = true := by
  induction cs generalizing i best with
  | nil =>
    rw [rankFrom, Option.map_eq_some_iff] at h
    obtain ⟨⟨j, s⟩, rfl, rfl⟩ := h
    exact .inl ⟨s, rfl⟩
  | cons c cs ih =>
    rw [rankFrom_cons] at h
    obtain ⟨s, hs⟩ | ⟨place, c', rfl, hplace, hs⟩ := ih h
    · obtain hbest | ⟨rfl, hc⟩ := better_eq_some hs
      · exact .inl ⟨s, hbest⟩
      · exact .inr ⟨0, c, rfl, rfl, by rw [hc]; rfl⟩
    · exact .inr ⟨place + 1, c', by omega, hplace, hs⟩

/-- Nobody is ranked first just when nobody has a standing. -/
theorem rank_eq_none_iff : rank goal cs = none ↔ ∀ c ∈ cs, c.standing? = none := by
  simp [rank, rankFrom_eq_none_iff]

theorem exists_standing_of_rank (h : rank goal cs = some k) :
    ∃ c, cs[k]? = some c ∧ c.standing?.isSome = true := by
  obtain ⟨s, hs⟩ | ⟨place, c, rfl, hplace, hs⟩ := rankFrom_eq_some h
  · cases hs
  · exact ⟨c, by rwa [Nat.zero_add], hs⟩

theorem winner_eq_none_iff {cost : Cost} :
    (outcome goal cs cost).winner = none ↔ ∀ c ∈ cs, c.standing? = none := by
  rw [outcome]
  cases hrank : rank goal cs with
  | none => simpa using rank_eq_none_iff.1 hrank
  | some k =>
    obtain ⟨c, hplace, hs⟩ := exists_standing_of_rank hrank
    have hmem := List.mem_of_getElem? hplace
    simp only [Option.bind_some, hplace, reduceCtorEq, false_iff]
    intro hnone
    rw [hnone c hmem] at hs
    cases hs

theorem mem_of_winner_eq_some {cost : Cost} (h : (outcome goal cs cost).winner = some c) :
    c ∈ cs ∧ c.standing?.isSome = true := by
  obtain ⟨k, hrank, hplace⟩ := Option.bind_eq_some_iff.1 h
  obtain ⟨c', hplace', hs⟩ := exists_standing_of_rank hrank
  rw [hplace, Option.some.injEq] at hplace'
  exact ⟨List.mem_of_getElem? hplace, hplace' ▸ hs⟩

end RemapSynth.Selection
