/-
When a run is over, and why. `Halts` lists what one look can come to; while
a run goes on its engine is running, not all events have come out and there
is time left (`halt?_eq_none_iff`). So no run outlasts the first look after
its budget (`follow_isSome_of_budget`), and one that is out of time was cut
short in the middle of its work: its engine had not ended, so it has no error
text, whatever has come out by then (`follow_outOfTime`,
`errorText_of_timedOut`).
-/
import Mathlib.Data.List.Induction
import RemapSynth.Engine.Watch

namespace RemapSynth.Engine

variable {w : Watch} {p : Progress} {l : Look} {looks before : List Look} {halt : Halt}

namespace Watch

/-! ## One look -/

/-- Why a run is over at a look. -/
inductive Halts (w : Watch) (p : Progress) (l : Look) : Halt → Prop
  | ended (ending : Ending) (h : l.ending = some ending) : Halts w p l (.ended ending)
  | complete (hrunning : l.ending = none) (h : w.expected ≤ l.recordsOut) :
    Halts w p l (.complete l.time)
  | idle (hrunning : l.ending = none) (hmore : l.recordsOut < w.expected) (hsome : 0 < l.recordsOut)
      (h : w.window.nanos ≤ (l.time.minus p.since).nanos) : Halts w p l (.idle p.since)
  | outOfTime (hrunning : l.ending = none) (hmore : l.recordsOut < w.expected)
      (hbusy : 0 < l.recordsOut → (l.time.minus p.since).nanos < w.window.nanos)
      (h : w.budget.nanos ≤ l.time.nanos) : Halts w p l .outOfTime

theorem halts_of_halt? (h : w.halt? p l = some halt) : w.Halts p l halt := by
  cases hending : l.ending with
  | some ending =>
    simp only [halt?, hending, Option.some.injEq] at h
    rw [← h]
    exact .ended ending hending
  | none =>
    simp only [halt?, hending] at h
    split at h
    case isTrue hcomplete =>
      cases h
      exact .complete hending hcomplete
    case isFalse hmore =>
      rw [Nat.not_le] at hmore
      split at h
      case isTrue hidle =>
        cases h
        exact .idle hending hmore hidle.1 hidle.2
      case isFalse hbusy =>
        split at h
        case isTrue htime =>
          cases h
          refine .outOfTime hending hmore (fun hsome => ?_) htime
          exact Nat.not_le.1 fun hidle => hbusy ⟨hsome, hidle⟩
        case isFalse => cases h

/-- **A run goes on** while its engine is running and writing, not all events have come out, and
there is time left. -/
theorem halt?_eq_none_iff : w.halt? p l = none ↔ l.ending = none ∧ l.recordsOut < w.expected ∧
    (0 < l.recordsOut → (l.time.minus p.since).nanos < w.window.nanos) ∧
    l.time.nanos < w.budget.nanos := by
  cases hending : l.ending with
  | some ending => simp [halt?, hending]
  | none =>
    simp only [halt?, hending]
    split
    · simp; omega
    · split
      · simp; omega
      · split
        · simp; omega
        · simp; omega

/-! ## Looks one after the other -/

theorem follow_cons_of_none (h : w.halt? (p.look l) l = none) :
    w.follow p (l :: looks) = w.follow (p.look l) looks := by
  rw [follow, h]

/-- What is kept from the looks before, by each of them in turn. -/
def progress (p : Progress) (looks : List Look) : Progress := looks.foldl Progress.look p

theorem progress_concat (p : Progress) (looks : List Look) (l : Look) :
    progress p (looks ++ [l]) = (progress p looks).look l := by
  rw [progress, List.foldl_append]
  rfl

/-- **A run is over at the first look at which it does not go on.** -/
theorem follow_eq_some_iff :
    w.follow p looks = some halt ↔ ∃ before l after, looks = before ++ l :: after ∧
      w.follow p before = none ∧ w.halt? ((progress p before).look l) l = some halt := by
  constructor
  · intro h
    induction looks generalizing p with
    | nil => cases h
    | cons l looks ih =>
      cases hl : w.halt? (p.look l) l with
      | some halt' =>
        rw [follow, hl] at h
        exact ⟨[], l, looks, rfl, rfl, hl.trans h⟩
      | none =>
        rw [follow_cons_of_none hl] at h
        obtain ⟨before, l', after, rfl, hbefore, hl'⟩ := ih h
        refine ⟨l :: before, l', after, rfl, ?_, hl'⟩
        rwa [follow_cons_of_none hl]
  · rintro ⟨before, l, after, rfl, hbefore, hl⟩
    induction before generalizing p with
    | nil =>
      have hl : w.halt? (p.look l) l = some halt := hl
      rw [List.nil_append, follow, hl]
    | cons l' before ih =>
      cases hl' : w.halt? (p.look l') l' with
      | some halt' =>
        rw [follow, hl'] at hbefore
        cases hbefore
      | none =>
        rw [follow_cons_of_none hl'] at hbefore
        rw [List.cons_append, follow_cons_of_none hl']
        exact ih hbefore hl

/-- Up to a look after which a run goes on, its engine was running, not all events had come out,
and there was time left. -/
theorem goes_on_of_follow_eq_none (h : w.follow p looks = none) :
    ∀ l ∈ looks, l.ending = none ∧ l.recordsOut < w.expected ∧
      l.time.nanos < w.budget.nanos := by
  induction looks generalizing p with
  | nil => exact fun _ hl => absurd hl List.not_mem_nil
  | cons l looks ih =>
    cases hl : w.halt? (p.look l) l with
    | some halt =>
      rw [follow, hl] at h
      cases h
    | none =>
      rw [follow_cons_of_none hl] at h
      obtain ⟨hrunning, hmore, -, htime⟩ := halt?_eq_none_iff.1 hl
      intro l' hl'
      rcases List.mem_cons.1 hl' with rfl | hl'
      · exact ⟨hrunning, hmore, htime⟩
      · exact ih h l' hl'

/-- **The time limit is hard:** a run that is looked at after its budget is over. -/
theorem follow_isSome_of_budget (hl : l ∈ looks) (htime : w.budget.nanos ≤ l.time.nanos) :
    (w.follow p looks).isSome = true := by
  rw [Option.isSome_iff_ne_none]
  intro hnone
  obtain ⟨-, -, hleft⟩ := goes_on_of_follow_eq_none hnone l hl
  exact absurd htime (Nat.not_le.2 hleft)

/-- What is kept from the looks was seen at one of them, when anything has come out. -/
theorem exists_look_of_progress (h : 0 < (progress .start looks).recordsOut) :
    ∃ l ∈ looks, l.recordsOut = (progress .start looks).recordsOut ∧
      l.time = (progress .start looks).since := by
  induction looks using List.reverseRecOn with
  | nil => cases h
  | append_singleton looks l ih =>
    rw [progress_concat, Progress.look] at h ⊢
    split at h
    case isTrue hsame =>
      obtain ⟨l', hl', hseen⟩ := ih h
      rw [if_pos hsame]
      exact ⟨l', List.mem_append_left _ hl', hseen⟩
    case isFalse hmore =>
      rw [if_neg hmore]
      exact ⟨l, List.mem_append_right _ List.mem_cons_self, rfl, rfl⟩

/-- **What is known of a run that is out of time.** At the look after its budget its engine was
still running and not all events had come out; if any had, the last of them came out less than the
window before. -/
theorem follow_outOfTime (h : w.follow .start looks = some .outOfTime) :
    ∃ before l after, looks = before ++ l :: after ∧ w.budget.nanos ≤ l.time.nanos ∧
      (∀ l' ∈ before, l'.time.nanos < w.budget.nanos) ∧
      (∀ l' ∈ before ++ [l], l'.ending = none ∧ l'.recordsOut < w.expected) ∧
      (0 < l.recordsOut → ∃ l' ∈ before ++ [l], l'.recordsOut = l.recordsOut ∧
        (l.time.minus l'.time).nanos < w.window.nanos) := by
  obtain ⟨before, l, after, rfl, hbefore, hl⟩ := follow_eq_some_iff.1 h
  have hgo := goes_on_of_follow_eq_none hbefore
  cases halts_of_halt? hl with
  | outOfTime hrunning hmore hbusy htime =>
    refine ⟨before, l, after, rfl, htime, fun l' hl' => (hgo l' hl').2.2, ?_, fun hsome => ?_⟩
    · intro l' hl'
      rcases List.mem_append.1 hl' with hl' | hl'
      · exact ⟨(hgo l' hl').1, (hgo l' hl').2.1⟩
      · rw [List.mem_singleton.1 hl']
        exact ⟨hrunning, hmore⟩
    · have hcount : ((progress .start before).look l).recordsOut = l.recordsOut := by
        rw [Progress.look]
        split
        case isTrue hsame => exact hsame.symm
        case isFalse => rfl
      rw [← progress_concat] at hcount hbusy
      rw [← hcount] at hsome
      obtain ⟨l', hl', hseen, hsince⟩ := exists_look_of_progress hsome
      refine ⟨l', hl', hseen.trans hcount, ?_⟩
      rw [hsince]
      exact hbusy (hcount ▸ hsome)

/-- One of two events has come out when the time is up. -/
example : (run 2 (.ofMillis 600)).follow .start
    [⟨.ofMillis 50, none, 1⟩, ⟨.ofMillis 600, none, 1⟩] = some .outOfTime := by decide

end Watch

/-! ## What comes of a run -/

/-- **A run that is out of time has no error text,** however much has come out. -/
theorem errorText_of_timedOut {r : Remains} (h : (Observation.ofHalt halt r).timedOut = true)
    (expected : Nat) : ((Observation.ofHalt halt r).measured expected).errorText = none := by
  have hhalt : halt = .outOfTime := by simpa [Observation.ofHalt] using h
  rw [hhalt]
  rfl

end RemapSynth.Engine
