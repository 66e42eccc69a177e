/-
The store of learned rules. It comes about by learning lessons one at a time,
in whatever order the fixers that share it come to them (`Reachable`), so all
its rules are lessons of some message. A message that was read before teaches
nothing new.
-/
import RemapSynth.Fix.Local
import RemapSynth.Proofs.Fix.Rules

namespace RemapSynth.Fix.Store

variable {s : Store} {d : Diagnosis}

/-- A store that learned nothing but what messages teach. -/
inductive Reachable : Store → Prop
  | empty : Reachable .empty
  | learn {s : Store} {message : String} {lesson : Lesson} : Reachable s →
    lesson ∈ lessons (.ofMessage message) message →
      Reachable (s.learn (.ofMessage message) lesson).1

theorem learnAll_cons (lesson : Lesson) (rest : List Lesson) :
    s.learnAll d (lesson :: rest) = (s.learn d lesson).1.learnAll d rest := rfl

theorem Reachable.learnAll {message : String} {taught : List Lesson} (hs : s.Reachable)
    (h : ∀ lesson ∈ taught, lesson ∈ lessons (.ofMessage message) message) :
    (s.learnAll (.ofMessage message) taught).Reachable := by
  induction taught generalizing s with
  | nil => exact hs
  | cons lesson rest ih =>
    rw [learnAll_cons]
    refine ih (hs.learn (h lesson List.mem_cons_self)) fun next hnext => ?_
    exact h next (List.mem_cons_of_mem lesson hnext)

/-- Reading a message leads from one such store to another. -/
theorem Reachable.read (hs : s.Reachable) (message : String) : (s.read message).Reachable :=
  hs.learnAll fun _ h => h

theorem mem_learned_learn {l : Learned} {lesson : Lesson} (h : l ∈ (s.learn d lesson).1.learned) :
    l ∈ s.learned ∨ l = ⟨d, lesson⟩ := by
  rw [learn] at h
  split at h
  · exact .inl h
  · simpa using h

/-- All learned rules are tame under the weighing of their kind of error. -/
theorem Reachable.tame_learned (hs : s.Reachable) {l : Learned} (hl : l ∈ s.learned) :
    Tame (weightOf l.diagnosis) l.lesson.rule := by
  induction hs with
  | empty => cases hl
  | learn _ hlesson ih =>
    rcases mem_learned_learn hl with hl | rfl
    · exact ih hl
    · exact tame_of_mem_lessons hlesson

/-- So are all the rules there are. -/
theorem Reachable.tame (hs : s.Reachable) : ∀ rule ∈ s.allRules d, Tame (weightOf d) rule := by
  intro rule hrule
  rcases List.mem_append.mp hrule with hrule | hrule
  · exact tame_of_mem_seedsFor hrule
  · simp only [rulesFor, lessonsFor, List.mem_map, List.mem_filter, decide_eq_true_eq] at hrule
    obtain ⟨lesson, ⟨l, ⟨hl, rfl⟩, rfl⟩, rfl⟩ := hrule
    exact hs.tame_learned hl

/-! ## Reading a message again -/

theorem knows_learn (lesson : Lesson) : (s.learn d lesson).1.knows d lesson.construct = true := by
  rw [learn]
  split
  case isTrue hknows => exact hknows
  case isFalse => simp [knows]

theorem knows_learn_of_knows {construct : String} (lesson : Lesson)
    (h : s.knows d construct = true) : (s.learn d lesson).1.knows d construct = true := by
  rw [learn]
  split
  · exact h
  · rw [knows] at h ⊢
    rw [List.any_append, h, Bool.true_or]

theorem knows_learnAll_of_knows {construct : String} (taught : List Lesson)
    (h : s.knows d construct = true) : (s.learnAll d taught).knows d construct = true := by
  induction taught generalizing s with
  | nil => exact h
  | cons lesson rest ih => exact ih (knows_learn_of_knows lesson h)

theorem knows_learnAll {taught : List Lesson} {lesson : Lesson} (h : lesson ∈ taught) :
    (s.learnAll d taught).knows d lesson.construct = true := by
  induction taught generalizing s with
  | nil => cases h
  | cons first rest ih =>
    rcases List.mem_cons.mp h with rfl | h
    · exact knows_learnAll_of_knows rest (knows_learn lesson)
    · exact ih h

theorem learnAll_of_knows {taught : List Lesson}
    (h : ∀ lesson ∈ taught, s.knows d lesson.construct = true) : s.learnAll d taught = s := by
  induction taught with
  | nil => rfl
  | cons lesson rest ih =>
    have hlesson : (s.learn d lesson).1 = s := by
      rw [learn, if_pos (h lesson List.mem_cons_self)]
    rw [learnAll_cons, hlesson]
    exact ih fun next hnext => h next (List.mem_cons_of_mem lesson hnext)

/-- A message read twice teaches nothing the second time. -/
theorem read_read (s : Store) (message : String) : (s.read message).read message = s.read message :=
  learnAll_of_knows fun _ h => knows_learnAll h

end RemapSynth.Fix.Store
