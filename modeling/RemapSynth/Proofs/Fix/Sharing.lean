/-
What a store comes to that many fixers share. What a step may do to it is
little: it stays as it is, or it gets one more lesson at its end, one that the
message of the call teaches and whose construct is new (`Call.advance_cases`).
So whatever the schedule, the store only grows, and a construct stands in it
once under each kind of error.

A message teaches about a construct what any other message of its kind would
(`lesson_unique`). Which call comes first to a construct therefore makes no
difference, and once all calls have learned all they can, the store holds
just what their messages teach (`Keeps.mem_learned_iff`), in whatever order.
-/
import Mathlib.Data.List.Nodup
import Mathlib.Data.List.Perm.Basic
import RemapSynth.Fix.Sharing
import RemapSynth.Proofs.Fix.Store

namespace RemapSynth.Fix

open Chars

/-! ## What messages teach about a construct -/

section
variable {d : Diagnosis} {line snippet snippet' : List Char} {lesson lesson' : Lesson}

theorem construct_of_returnLesson? (h : returnLesson? line = some lesson) :
    lesson.construct = .ofList line := by
  rw [returnLesson?] at h
  split at h
  · cases h
    rfl
  · cases h

theorem construct_of_callLesson? (h : callLesson? snippet = some lesson) :
    lesson.construct = .ofList (trim snippet) := by
  simp only [callLesson?] at h
  split at h
  · cases h
  · obtain ⟨fallback, -, rfl⟩ := Option.map_eq_some_iff.1 h
    rfl

theorem callLesson?_congr (h : trim snippet = trim snippet') :
    callLesson? snippet = callLesson? snippet' := by
  simp only [callLesson?, h]

/-- **Messages of one kind teach the same about a construct.** -/
theorem lesson_unique {message message' : String} (h : lesson ∈ lessons d message)
    (h' : lesson' ∈ lessons d message') (hconstruct : lesson.construct = lesson'.construct) :
    lesson = lesson' := by
  cases d with
  | malformed =>
    simp only [lessons] at h h'
    split at h
    case isFalse => cases h
    split at h'
    case isFalse => cases h'
    obtain ⟨line, -, hline⟩ := List.mem_filterMap.1 h
    obtain ⟨line', -, hline'⟩ := List.mem_filterMap.1 h'
    rw [construct_of_returnLesson? hline, construct_of_returnLesson? hline',
      String.ofList_inj] at hconstruct
    rw [hconstruct, hline'] at hline
    exact (Option.some.inj hline).symm
  | unhandledFallible =>
    obtain ⟨snippet, -, hsnippet⟩ := List.mem_filterMap.1 h
    obtain ⟨snippet', -, hsnippet'⟩ := List.mem_filterMap.1 h'
    rw [construct_of_callLesson? hsnippet, construct_of_callLesson? hsnippet',
      String.ofList_inj] at hconstruct
    rw [callLesson?_congr hconstruct, hsnippet'] at hsnippet
    exact (Option.some.inj hsnippet).symm
  | _ => cases h

end

/-! ## Learning one lesson -/

/-- The kind of error and the construct of a learned rule. -/
def Learned.key (l : Learned) : Diagnosis × String := (l.diagnosis, l.lesson.construct)

namespace Store

variable {s : Store} {d : Diagnosis} {lesson : Lesson} {construct : String}

theorem knows_iff : s.knows d construct = true ↔ (d, construct) ∈ s.learned.map Learned.key := by
  simp [knows, Learned.key, Prod.ext_iff]

theorem learn_of_knows (h : s.knows d lesson.construct = true) : s.learn d lesson = (s, false) :=
  if_pos h

theorem learn_of_not_knows (h : s.knows d lesson.construct = false) :
    s.learn d lesson = (⟨s.learned ++ [⟨d, lesson⟩]⟩, true) := by
  rw [learn, h]
  rfl

/-- Learning says that the store has grown just when it holds one more rule. -/
theorem learn_grew_iff : (s.learn d lesson).2 = true ↔ (s.learn d lesson).1.size = s.size + 1 := by
  cases h : s.knows d lesson.construct with
  | true => simp [learn_of_knows h]
  | false => simp [learn_of_not_knows h, size]

/-- It says that it has not just when the store stays as it is. -/
theorem learn_same_iff : (s.learn d lesson).2 = false ↔ (s.learn d lesson).1 = s := by
  cases h : s.knows d lesson.construct with
  | true => simp [learn_of_knows h]
  | false =>
    have hgrown : (⟨s.learned ++ [⟨d, lesson⟩]⟩ : Store) ≠ s := by
      intro hsame
      have hsize := congrArg size hsame
      simp [size] at hsize
    simp [learn_of_not_knows h, hgrown]

theorem learned_prefix_learn : s.learned <+: (s.learn d lesson).1.learned := by
  cases h : s.knows d lesson.construct with
  | true => simp [learn_of_knows h]
  | false => simp [learn_of_not_knows h]

theorem nodup_learn (h : (s.learned.map Learned.key).Nodup) :
    ((s.learn d lesson).1.learned.map Learned.key).Nodup := by
  cases hknows : s.knows d lesson.construct with
  | true => rwa [learn_of_knows hknows]
  | false =>
    have hnew : (d, lesson.construct) ∉ s.learned.map Learned.key := by
      rw [← knows_iff, hknows]
      exact Bool.false_ne_true
    rw [learn_of_not_knows hknows, List.map_append, List.map_singleton, ← List.concat_eq_append]
    exact h.concat hnew

theorem lessonsFor_learn_of_ne {d' : Diagnosis} (h : d' ≠ d) :
    (s.learn d lesson).1.lessonsFor d' = s.lessonsFor d' := by
  cases hknows : s.knows d lesson.construct with
  | true => rw [learn_of_knows hknows]
  | false => simp [learn_of_not_knows hknows, lessonsFor, h.symm]

end Store

/-! ## One step of a call -/

namespace Call

variable {c : Call} {s : Store}

/-- What a call has still to learn. -/
def pending (c : Call) : List Lesson :=
  match c.stage with
  | .learning rest => rest
  | .ended _ => []

def hasEnded (c : Call) : Bool :=
  match c.stage with
  | .learning _ => false
  | .ended _ => true

theorem pending_of_hasEnded (h : c.hasEnded = true) : c.pending = [] := by
  cases hstage : c.stage with
  | learning rest => simp [hasEnded, hstage] at h
  | ended fix => simp [pending, hstage]

theorem message_advance (c : Call) (s : Store) : (c.advance s).1.message = c.message := by
  rw [advance]
  split <;> rfl

/-- **A step of a call.** It learns the next lesson, or there is nothing left to learn and the store
stays as it is. -/
theorem advance_cases (c : Call) (s : Store) :
    (∃ lesson rest, c.pending = lesson :: rest ∧ (c.advance s).1.pending = rest ∧
      (c.advance s).2 = (s.learn c.diagnosis lesson).1) ∨
    c.pending = [] ∧ (c.advance s).1.pending = [] ∧ (c.advance s).2 = s := by
  cases hstage : c.stage with
  | ended fix => exact .inr (by simp [pending, advance, hstage])
  | learning rest =>
    cases rest with
    | nil => exact .inr (by simp [pending, advance, hstage])
    | cons lesson rest => exact .inl ⟨lesson, rest, by simp [pending, advance, hstage]⟩

theorem pending_advance_subset (c : Call) (s : Store) : (c.advance s).1.pending ⊆ c.pending := by
  obtain ⟨lesson, rest, hpending, hrest, -⟩ | ⟨-, hnone, -⟩ := c.advance_cases s
  · rw [hpending, hrest]
    exact List.subset_cons_self lesson rest
  · rw [hnone]
    exact List.nil_subset _

theorem learned_prefix_advance (c : Call) (s : Store) :
    s.learned <+: (c.advance s).2.learned := by
  obtain ⟨lesson, -, -, -, hs⟩ | ⟨-, -, hs⟩ := c.advance_cases s
  · rw [hs]
    exact Store.learned_prefix_learn
  · simp only [hs, List.prefix_rfl]

theorem mem_learned_advance {l : Learned} (h : l ∈ (c.advance s).2.learned) :
    l ∈ s.learned ∨ l.diagnosis = c.diagnosis ∧ l.lesson ∈ c.pending := by
  obtain ⟨lesson, rest, hpending, -, hs⟩ | ⟨-, -, hs⟩ := c.advance_cases s
  · rw [hs] at h
    rcases Store.mem_learned_learn h with h | rfl
    · exact .inl h
    · rw [hpending]
      exact .inr ⟨rfl, List.mem_cons_self⟩
  · rw [hs] at h
    exact .inl h

theorem nodup_advance (c : Call) (h : (s.learned.map Learned.key).Nodup) :
    ((c.advance s).2.learned.map Learned.key).Nodup := by
  obtain ⟨lesson, -, -, -, hs⟩ | ⟨-, -, hs⟩ := c.advance_cases s
  · rw [hs]
    exact Store.nodup_learn h
  · rwa [hs]

/-- **A call adds rules only for the kind of error in its own message.** -/
theorem lessonsFor_advance {d : Diagnosis} (c : Call) (s : Store) (h : d ≠ c.diagnosis) :
    (c.advance s).2.lessonsFor d = s.lessonsFor d := by
  obtain ⟨lesson, -, -, -, hs⟩ | ⟨-, -, hs⟩ := c.advance_cases s
  · rw [hs]
    exact Store.lessonsFor_learn_of_ne h
  · rw [hs]

end Call

/-! ## Many calls -/

namespace Sharing

variable {w : Sharing} {c : Call}

/-- The messages that the calls are about. -/
def messages (w : Sharing) : List String := w.calls.map (·.message)

/-- A step of the whole is a step of one call, or nothing. -/
theorem step_cases (w : Sharing) (i : Nat) :
    (∃ c, w.calls[i]? = some c ∧
      w.step i = ⟨(c.advance w.store).2, w.calls.set i (c.advance w.store).1⟩) ∨
    w.calls[i]? = none ∧ w.step i = w := by
  cases h : w.calls[i]? with
  | none => exact .inr ⟨rfl, by rw [step, h]⟩
  | some c => exact .inl ⟨c, rfl, by rw [step, h]⟩

/-- What every step keeps, every schedule keeps. -/
theorem after_induction {P : Sharing → Prop} (hstep : ∀ w i, P w → P (w.step i)) (h : P w)
    (schedule : List Nat) : P (w.after schedule) := by
  induction schedule generalizing w with
  | nil => exact h
  | cons i schedule ih => exact ih (hstep w i h)

theorem messages_step (w : Sharing) (i : Nat) : (w.step i).messages = w.messages := by
  obtain ⟨c, hc, hw⟩ | ⟨-, hw⟩ := w.step_cases i
  · obtain ⟨hi, rfl⟩ := List.getElem?_eq_some_iff.1 hc
    have hi' : i < (w.calls.map (·.message)).length := by rwa [List.length_map]
    have hsame : w.calls[i].message = (w.calls.map (·.message))[i] := List.getElem_map _ |>.symm
    rw [hw, messages, List.map_set, Call.message_advance, hsame, List.set_getElem_self hi']
    rfl
  · rw [hw]

theorem store_step_prefix (w : Sharing) (i : Nat) :
    w.store.learned <+: (w.step i).store.learned := by
  obtain ⟨c, -, hw⟩ | ⟨-, hw⟩ := w.step_cases i
  · rw [hw]
    exact c.learned_prefix_advance w.store
  · simp only [hw, List.prefix_rfl]

theorem lessonsFor_step {i : Nat} {d : Diagnosis} (hc : w.calls[i]? = some c)
    (hd : d ≠ c.diagnosis) : (w.step i).store.lessonsFor d = w.store.lessonsFor d := by
  rw [step, hc]
  exact c.lessonsFor_advance w.store hd

/-- **The store only grows, and at its end.** -/
theorem store_after_prefix (w : Sharing) (schedule : List Nat) :
    w.store.learned <+: (w.after schedule).store.learned :=
  after_induction (P := fun w' => w.store.learned <+: w'.store.learned)
    (fun w' i h => h.trans (w'.store_step_prefix i)) List.prefix_rfl schedule

/-- What is true of a store and its calls at every moment. -/
structure Keeps (w : Sharing) : Prop where
  /-- No construct stands twice under one kind of error. -/
  distinct : (w.store.learned.map Learned.key).Nodup
  /-- Every rule was taught by the message of some call. -/
  taught : ∀ l ∈ w.store.learned, ∃ message ∈ w.messages,
    l.diagnosis = .ofMessage message ∧ l.lesson ∈ lessons (.ofMessage message) message
  /-- A call has nothing to learn but what its message teaches. -/
  pending : ∀ c ∈ w.calls, ∀ lesson ∈ c.pending, lesson ∈ c.lessons
  /-- What a call does not have still to learn, the store has learned. -/
  learned : ∀ c ∈ w.calls, ∀ lesson ∈ c.lessons,
    lesson ∈ c.pending ∨ ⟨c.diagnosis, lesson⟩ ∈ w.store.learned

theorem Keeps.opening (calls : List (String × String)) : Keeps (.opening calls) where
  distinct := List.nodup_nil
  taught := fun _ hl => absurd hl List.not_mem_nil
  pending := by
    intro c hc lesson hlesson
    obtain ⟨call, -, rfl⟩ := List.mem_map.1 hc
    exact hlesson
  learned := by
    intro c hc lesson hlesson
    obtain ⟨call, -, rfl⟩ := List.mem_map.1 hc
    exact .inl hlesson

/-- A lesson of a message stands in the store after it was learned, be it that another call had
learned one for its construct before: that one was the same. -/
theorem Keeps.mem_learn (h : Keeps w) {message : String} {lesson : Lesson}
    (hlesson : lesson ∈ lessons (.ofMessage message) message) :
    ⟨.ofMessage message, lesson⟩ ∈ (w.store.learn (.ofMessage message) lesson).1.learned := by
  cases hknows : w.store.knows (.ofMessage message) lesson.construct with
  | false =>
    rw [Store.learn_of_not_knows hknows]
    exact List.mem_append_right _ List.mem_cons_self
  | true =>
    rw [Store.learn_of_knows hknows]
    obtain ⟨⟨d, first⟩, hl, hkey⟩ := List.mem_map.1 (Store.knows_iff.1 hknows)
    obtain ⟨rfl, hconstruct⟩ := Prod.ext_iff.1 hkey
    obtain ⟨message', -, hd, hfirst⟩ := h.taught _ hl
    simp only at hd hfirst hconstruct
    rw [← hd] at hfirst
    have hsame : first = lesson := lesson_unique hfirst hlesson hconstruct
    rwa [hsame] at hl

/-- **Every step keeps what is true at every moment.** -/
theorem Keeps.step (h : Keeps w) (i : Nat) : Keeps (w.step i) := by
  obtain ⟨c, hc, hw⟩ | ⟨-, hw⟩ := w.step_cases i
  case inr =>
    rw [hw]
    exact h
  have hmem : c ∈ w.calls := List.mem_of_getElem? hc
  have hmessages : (w.step i).messages = w.messages := w.messages_step i
  have hmessage : (c.advance w.store).1.message = c.message := c.message_advance w.store
  have hgrows := (c.learned_prefix_advance w.store).subset
  rw [hw] at hmessages ⊢
  constructor
  case distinct => exact c.nodup_advance h.distinct
  case taught =>
    intro l hl
    rw [hmessages]
    rcases Call.mem_learned_advance hl with hl | ⟨hd, hlesson⟩
    · exact h.taught l hl
    · exact ⟨c.message, List.mem_map_of_mem hmem, hd, h.pending c hmem l.lesson hlesson⟩
  case pending =>
    intro c' hc' lesson hlesson
    rcases List.mem_or_eq_of_mem_set hc' with hc' | rfl
    · exact h.pending c' hc' lesson hlesson
    · rw [Call.lessons, Call.diagnosis, hmessage]
      exact h.pending c hmem lesson (c.pending_advance_subset w.store hlesson)
  case learned =>
    intro c' hc' lesson hlesson
    rcases List.mem_or_eq_of_mem_set hc' with hc' | rfl
    · exact (h.learned c' hc' lesson hlesson).imp_right fun hl => hgrows hl
    · rw [Call.lessons, Call.diagnosis, hmessage] at hlesson
      rw [Call.diagnosis, hmessage]
      rcases h.learned c hmem lesson hlesson with hlesson | hl
      case inr => exact .inr (hgrows hl)
      -- A lesson that was still to come is the one just learned, or is still to come.
      obtain ⟨first, rest, hpending, hrest, hs⟩ | ⟨hnone, -, -⟩ := c.advance_cases w.store
      · rw [hpending] at hlesson
        rcases List.mem_cons.1 hlesson with rfl | hlesson
        · rw [hs]
          refine .inr (h.mem_learn (h.pending c hmem lesson ?_))
          rw [hpending]
          exact List.mem_cons_self
        · rw [hrest]
          exact .inl hlesson
      · rw [hnone] at hlesson
        cases hlesson

/-- So it is true whatever the schedule. -/
theorem Keeps.after (h : Keeps w) (schedule : List Nat) : Keeps (w.after schedule) :=
  after_induction (fun _ i h => h.step i) h schedule

theorem messages_after (w : Sharing) (schedule : List Nat) :
    (w.after schedule).messages = w.messages :=
  after_induction (P := fun w' => w'.messages = w.messages)
    (fun w' i h => (w'.messages_step i).trans h) rfl schedule

/-- No construct stands twice under a kind of error. -/
theorem Keeps.nodup_constructs (h : Keeps w) (d : Diagnosis) :
    ((w.store.lessonsFor d).map (·.construct)).Nodup := by
  have hkeys : ((w.store.learned.filter (·.diagnosis = d)).map Learned.key).Nodup :=
    h.distinct.sublist (List.filter_sublist.map Learned.key)
  have hpairs : (w.store.learned.filter (·.diagnosis = d)).map Learned.key =
      ((w.store.lessonsFor d).map (·.construct)).map (d, ·) := by
    rw [Store.lessonsFor, List.map_map, List.map_map]
    refine List.map_congr_left fun l hl => ?_
    have hd : l.diagnosis = d := by simpa using (List.mem_filter.1 hl).2
    simp [Learned.key, hd]
  rw [hpairs] at hkeys
  exact hkeys.of_map _

/-- A rule in the store is what any message of its kind teaches about its construct. -/
theorem Keeps.eq_lesson (h : Keeps w) {l : Learned} (hl : l ∈ w.store.learned) {message : String}
    {lesson : Lesson} (hlesson : lesson ∈ lessons l.diagnosis message)
    (hconstruct : lesson.construct = l.lesson.construct) : lesson = l.lesson := by
  obtain ⟨message', -, hd, hmem⟩ := h.taught l hl
  rw [← hd] at hmem
  exact lesson_unique hlesson hmem hconstruct

/-- **A message that some call is done with teaches nothing more.** -/
theorem Keeps.step_of_read (h : Keeps w) {i : Nat} {c' : Call} (hc : w.calls[i]? = some c)
    (hc' : c' ∈ w.calls) (hmessage : c'.message = c.message) (hended : c'.hasEnded = true) :
    (w.step i).store = w.store := by
  obtain ⟨c'', hc'', hw⟩ | ⟨-, hw⟩ := w.step_cases i
  case inr => rw [hw]
  rw [hc, Option.some.injEq] at hc''
  subst hc''
  rw [hw]
  obtain ⟨lesson, rest, hpending, -, hs⟩ | ⟨-, -, hs⟩ := c.advance_cases w.store
  case inr => exact hs
  have hlesson : lesson ∈ c'.lessons := by
    rw [Call.lessons, Call.diagnosis, hmessage]
    refine h.pending c (List.mem_of_getElem? hc) lesson ?_
    rw [hpending]
    exact List.mem_cons_self
  have hl : ⟨c'.diagnosis, lesson⟩ ∈ w.store.learned := by
    refine (h.learned c' hc' lesson hlesson).resolve_left ?_
    rw [Call.pending_of_hasEnded hended]
    exact List.not_mem_nil
  have hknows : w.store.knows c.diagnosis lesson.construct = true := by
    refine Store.knows_iff.2 (List.mem_map.2 ⟨_, hl, ?_⟩)
    rw [Learned.key, Call.diagnosis, hmessage, Call.diagnosis]
  rw [hs, Store.learn_of_knows hknows]

/-- All calls have ended. -/
def Finished (w : Sharing) : Prop := ∀ c ∈ w.calls, c.hasEnded = true

instance (w : Sharing) : Decidable w.Finished :=
  inferInstanceAs (Decidable (∀ c ∈ w.calls, c.hasEnded = true))

/-- **In the end the store holds just what the messages teach.** -/
theorem Keeps.mem_learned_iff (h : Keeps w) (hw : w.Finished) {l : Learned} :
    l ∈ w.store.learned ↔ ∃ message ∈ w.messages,
      l.diagnosis = .ofMessage message ∧ l.lesson ∈ lessons (.ofMessage message) message := by
  refine ⟨h.taught l, ?_⟩
  rintro ⟨message, hmessage, hd, hlesson⟩
  obtain ⟨c, hc, rfl⟩ := List.mem_map.1 hmessage
  have hl := h.learned c hc l.lesson hlesson
  rw [Call.pending_of_hasEnded (hw c hc), Call.diagnosis, ← hd] at hl
  exact hl.resolve_left List.not_mem_nil

/-- **The order in which calls come to the store makes no difference to what it ends up with.** -/
theorem Keeps.perm {w' : Sharing} (h : Keeps w) (h' : Keeps w') (hw : w.Finished)
    (hw' : w'.Finished) (hmessages : w'.messages = w.messages) :
    w'.store.learned.Perm w.store.learned := by
  refine (List.perm_ext_iff_of_nodup (h'.distinct.of_map _) (h.distinct.of_map _)).2 fun l => ?_
  rw [h'.mem_learned_iff hw', h.mem_learned_iff hw, hmessages]

theorem messages_opening (calls : List (String × String)) :
    (opening calls).messages = calls.map (·.2) := by
  rw [messages, opening, List.map_map]
  rfl

/-- A call that nobody disturbs is a repair. -/
theorem after_alone (s : Store) (code message : String) :
    (⟨s, [.opening code message]⟩ : Sharing).after
        (List.replicate ((lessons (.ofMessage message) message).length + 1) 0) =
      ⟨(s.repair code message).2, [⟨code, message, .ended (s.repair code message).1⟩]⟩ := by
  rw [Call.opening, Store.repair, Store.read]
  generalize lessons (.ofMessage message) message = rest
  induction rest generalizing s with
  | nil => rfl
  | cons lesson rest ih =>
    have hstep : (⟨s, [⟨code, message, .learning (lesson :: rest)⟩]⟩ : Sharing).step 0 =
        ⟨(s.learn (.ofMessage message) lesson).1, [⟨code, message, .learning rest⟩]⟩ := rfl
    rw [List.length_cons, List.replicate_succ, after, List.foldl_cons, hstep]
    exact ih (s.learn (.ofMessage message) lesson).1

end Sharing

/-- **A shared store is append-only and free of duplicates, and in the end the same whatever the
schedule.** At every moment: no construct stands twice under a kind of error; what stands in the
store stays as and where it is; every rule was taught by the message of some call, and is the rule
that any message of its kind teaches about its construct; learning tells whether the store has
grown; a call adds rules only for the kind of error in its own message, and none when the same
message was read to its end before. Two schedules by which all calls end leave the same rules. -/
theorem Sharing.learned_after {calls : List (String × String)} {schedule : List Nat} {w : Sharing}
    (hw : (opening calls).after schedule = w) :
    (∀ d, ((w.store.lessonsFor d).map (·.construct)).Nodup) ∧
    (∀ more, w.store.learned <+: (w.after more).store.learned) ∧
    (∀ l ∈ w.store.learned,
      (∃ call ∈ calls, l.diagnosis = .ofMessage call.2 ∧
        l.lesson ∈ lessons l.diagnosis call.2) ∧
      ∀ message, ∀ lesson ∈ lessons l.diagnosis message,
        lesson.construct = l.lesson.construct → lesson = l.lesson) ∧
    (∀ d lesson,
      ((w.store.learn d lesson).2 = true ↔ (w.store.learn d lesson).1.size = w.store.size + 1) ∧
      ((w.store.learn d lesson).2 = false ↔ (w.store.learn d lesson).1 = w.store)) ∧
    (∀ i c, w.calls[i]? = some c →
      (∀ d, d ≠ c.diagnosis → (w.step i).store.lessonsFor d = w.store.lessonsFor d) ∧
      ∀ c' ∈ w.calls, c'.message = c.message → c'.hasEnded = true →
        (w.step i).store = w.store) ∧
    ∀ schedule' w', (opening calls).after schedule' = w' → w.Finished → w'.Finished →
      w'.store.learned.Perm w.store.learned ∧ w'.store.size = w.store.size := by
  have hkeeps : Keeps w := hw ▸ (Keeps.opening calls).after schedule
  have hmessages : w.messages = calls.map (·.2) := by
    rw [← hw, messages_after, messages_opening]
  refine ⟨hkeeps.nodup_constructs, w.store_after_prefix, fun l hl => ⟨?_, ?_⟩, ?_, ?_, ?_⟩
  · obtain ⟨message, hmessage, hd, hlesson⟩ := hkeeps.taught l hl
    rw [hmessages] at hmessage
    obtain ⟨call, hcall, rfl⟩ := List.mem_map.1 hmessage
    rw [← hd] at hlesson
    exact ⟨call, hcall, hd, hlesson⟩
  · intro message lesson hlesson hconstruct
    exact hkeeps.eq_lesson hl hlesson hconstruct
  · intro d lesson
    exact ⟨Store.learn_grew_iff, Store.learn_same_iff⟩
  · intro i c hc
    refine ⟨fun d hd => ?_, fun c' hc' hmessage hended => ?_⟩
    · exact lessonsFor_step hc hd
    · exact hkeeps.step_of_read hc hc' hmessage hended
  · intro schedule' w' hw' hfinished hfinished'
    have hkeeps' : Keeps w' := hw' ▸ (Keeps.opening calls).after schedule'
    have hmessages' : w'.messages = w.messages := by
      rw [← hw', messages_after, messages_opening, hmessages]
    have hperm := hkeeps.perm hkeeps' hfinished hfinished' hmessages'
    exact ⟨hperm, hperm.length_eq⟩

/-- Two calls whose messages both tell of the same failing call, the first of one more. -/
def overlapping : List (String × String) :=
  [(".", "error[E103] `to_int()` `split()`"), (".", "error[E103] `split()`")]

/-- Whichever of the two comes to the store first, both rules are learned, each of them once. -/
theorem Sharing.learned_after_overlapping :
    let first := (opening overlapping).after [0, 0, 0, 1, 1]
    let second := (opening overlapping).after [1, 0, 0, 0, 1]
    first.store.learned.map (·.lesson.construct) = ["to_int()", "split()"] ∧
    second.store.learned.map (·.lesson.construct) = ["split()", "to_int()"] ∧
    second.store.learned.Perm first.store.learned := by
  refine ⟨by decide +kernel, by decide +kernel, ?_⟩
  have hfirst : (opening overlapping).after [0, 0, 0, 1, 1] = _ := rfl
  obtain ⟨-, -, -, -, -, hsame⟩ := learned_after hfirst
  exact (hsame [1, 0, 0, 0, 1] _ rfl (by decide +kernel) (by decide +kernel)).1

end RemapSynth.Fix
