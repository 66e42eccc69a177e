/-
Programs that ask others for answers. A dialogue is finished, or asks one
question and goes on with the answer. Who answers is not part of it, so a
statement about a dialogue holds for every way of answering.
-/
namespace RemapSynth

/-- A course of questions `Ask`, each answered by an `Answer`, with a result of type `α`. -/
inductive Dialogue (Ask : Type) (Answer : Ask → Type) (α : Type)
  | done (result : α)
  | ask (question : Ask) (next : Answer question → Dialogue Ask Answer α)

namespace Dialogue

variable {Ask : Type} {Answer : Ask → Type} {α β : Type}

/-- A dialogue that goes on with another one once it has a result. -/
def bind : Dialogue Ask Answer α → (α → Dialogue Ask Answer β) → Dialogue Ask Answer β
  | done a, f => f a
  | ask q next, f => ask q fun answer => (next answer).bind f

/-- A dialogue with its result changed. -/
def map (f : α → β) : Dialogue Ask Answer α → Dialogue Ask Answer β
  | done a => done (f a)
  | ask q next => ask q fun answer => (next answer).map f

/-- Asks one question; the answer is the result. -/
def question (q : Ask) : Dialogue Ask Answer (Answer q) := ask q done

instance : Monad (Dialogue Ask Answer) where
  pure := done
  bind := bind

/-- A question together with the answer it got. -/
abbrev Exchange (Ask : Type) (Answer : Ask → Type) : Type := (q : Ask) × Answer q

/-- The result when each answer is a function of the question and of a state that every question
may change; also all that was asked and answered, in order, and the state at the end. -/
def run {σ : Type} (answer : (q : Ask) → σ → Answer q × σ) :
    Dialogue Ask Answer α → σ → α × List (Exchange Ask Answer) × σ
  | done a, s => (a, [], s)
  | ask q next, s =>
    let (reply, s) := answer q s
    let (a, exchanges, s) := (next reply).run answer s
    (a, ⟨q, reply⟩ :: exchanges, s)

/-- Answers each question by a dialogue of another kind, with a state kept between questions. -/
def through {Ask' : Type} {Answer' : Ask' → Type} {σ : Type}
    (answer : (q : Ask) → σ → Dialogue Ask' Answer' (Answer q × σ)) :
    Dialogue Ask Answer α → σ → Dialogue Ask' Answer' (α × σ)
  | done a, s => done (a, s)
  | ask q next, s => (answer q s).bind fun (reply, s) => (next reply).through answer s

/-- A dialogue whose questions are put as questions of another kind. -/
def via {Ask' : Type} {Answer' : Ask' → Type} (put : Ask → Ask')
    (read : (q : Ask) → Answer' (put q) → Answer q) :
    Dialogue Ask Answer α → Dialogue Ask' Answer' α
  | done a => done a
  | ask q next => ask (put q) fun answer => (next (read q answer)).via put read

/-- `History d exchanges a`: given the answers in `exchanges`, the dialogue asks just the questions
there, in order, and results in `a`. -/
inductive History : Dialogue Ask Answer α → List (Exchange Ask Answer) → α → Prop
  | done (a : α) : History (done a) [] a
  | ask (q : Ask) (next : Answer q → Dialogue Ask Answer α) (reply : Answer q)
      {exchanges : List (Exchange Ask Answer)} {a : α} :
      History (next reply) exchanges a → History (ask q next) (⟨q, reply⟩ :: exchanges) a

/-- What a run asks and results in is a history of the dialogue. -/
theorem history_run {σ : Type} (answer : (q : Ask) → σ → Answer q × σ)
    (d : Dialogue Ask Answer α) (s : σ) : History d (d.run answer s).2.1 (d.run answer s).1 := by
  induction d generalizing s with
  | done a => exact .done a
  | ask q next ih => exact .ask q next _ (ih _ _)

theorem history_done {a b : α} {xs : List (Exchange Ask Answer)} :
    History (done a : Dialogue Ask Answer α) xs b ↔ xs = [] ∧ b = a := by
  constructor
  · rintro ⟨⟩
    exact ⟨rfl, rfl⟩
  · rintro ⟨rfl, rfl⟩
    exact .done b

theorem history_ask {q : Ask} {next : Answer q → Dialogue Ask Answer α}
    {xs : List (Exchange Ask Answer)} {a : α} :
    History (ask q next) xs a ↔
      ∃ reply rest, xs = ⟨q, reply⟩ :: rest ∧ History (next reply) rest a := by
  constructor
  · rintro (_ | ⟨_, _, reply, h⟩)
    exact ⟨reply, _, rfl, h⟩
  · rintro ⟨reply, rest, rfl, h⟩
    exact .ask q next reply h

/-- A history of two dialogues in a row is a history of each. -/
theorem history_bind {d : Dialogue Ask Answer α} {f : α → Dialogue Ask Answer β}
    {xs : List (Exchange Ask Answer)} {b : β} :
    History (d.bind f) xs b ↔
      ∃ a first rest, xs = first ++ rest ∧ History d first a ∧ History (f a) rest b := by
  induction d generalizing xs with
  | done a =>
    simp only [bind, history_done]
    constructor
    · intro h
      exact ⟨a, [], xs, rfl, ⟨rfl, rfl⟩, h⟩
    · rintro ⟨_, _, rest, rfl, ⟨rfl, rfl⟩, h⟩
      exact h
  | ask q next ih =>
    simp only [bind, history_ask, ih]
    constructor
    · rintro ⟨reply, _, rfl, a, first, rest, rfl, h, h'⟩
      exact ⟨a, ⟨q, reply⟩ :: first, rest, rfl, ⟨reply, first, rfl, h⟩, h'⟩
    · rintro ⟨a, _, rest, rfl, ⟨reply, first, rfl, h⟩, h'⟩
      exact ⟨reply, first ++ rest, rfl, a, first, rest, rfl, h, h'⟩

theorem history_map {d : Dialogue Ask Answer α} {f : α → β} {xs : List (Exchange Ask Answer)}
    {b : β} : History (d.map f) xs b ↔ ∃ a, History d xs a ∧ b = f a := by
  induction d generalizing xs with
  | done a =>
    simp only [map, history_done]
    constructor
    · rintro ⟨rfl, rfl⟩
      exact ⟨a, ⟨rfl, rfl⟩, rfl⟩
    · rintro ⟨_, ⟨rfl, rfl⟩, rfl⟩
      exact ⟨rfl, rfl⟩
  | ask q next ih =>
    simp only [map, history_ask, ih]
    constructor
    · rintro ⟨reply, rest, rfl, a, h, hb⟩
      exact ⟨a, ⟨reply, rest, rfl, h⟩, hb⟩
    · rintro ⟨a, ⟨reply, rest, rfl, h⟩, hb⟩
      exact ⟨reply, rest, rfl, a, h, hb⟩

/-- The answers determine the result. -/
theorem History.unique {d : Dialogue Ask Answer α} {xs : List (Exchange Ask Answer)} {a b : α}
    (h : History d xs a) (h' : History d xs b) : a = b := by
  induction h with
  | done a => exact (history_done.1 h').2.symm
  | ask q next reply h ih =>
    obtain ⟨reply', rest, hcons, h'⟩ := history_ask.1 h'
    cases hcons
    exact ih h'

/-- `Reaches d exchanges rest`: given the answers in `exchanges`, the dialogue asks just the
questions there, in order, and then goes on as `rest`. -/
inductive Reaches (d : Dialogue Ask Answer α) :
    List (Exchange Ask Answer) → Dialogue Ask Answer α → Prop
  | refl : Reaches d [] d
  | ask {xs : List (Exchange Ask Answer)} {q : Ask} {next : Answer q → Dialogue Ask Answer α}
      (h : Reaches d xs (ask q next)) (reply : Answer q) :
      Reaches d (xs ++ [⟨q, reply⟩]) (next reply)

/-- What a dialogue goes on as completes a history of the whole. -/
theorem Reaches.history {d rest : Dialogue Ask Answer α} {xs ys : List (Exchange Ask Answer)}
    {a : α} (h : Reaches d xs rest) (hrest : History rest ys a) : History d (xs ++ ys) a := by
  induction h generalizing ys with
  | refl => exact hrest
  | ask h reply ih =>
    rw [List.append_assoc]
    exact ih (.ask _ _ reply hrest)

theorem Reaches.history_of_done {d : Dialogue Ask Answer α} {xs : List (Exchange Ask Answer)}
    {a : α} (h : Reaches d xs (done a)) : History d xs a := by
  simpa using h.history (.done a)

end Dialogue
end RemapSynth
