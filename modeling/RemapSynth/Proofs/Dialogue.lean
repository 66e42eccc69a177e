/-
Dialogues put together. A dialogue whose questions are answered by dialogues
of another kind asks, one after another, what those ask (`history_through`):
so whatever is asked in the end was asked to answer some question, and is
found at one place of what that answer took (`Told.split`).
-/
import RemapSynth.Dialogue

namespace RemapSynth

/-! ## Places in a list -/

section
variable {α : Type} {ys before after : List α} {x last : α}

/-- An element of two lists in a row is one of the first or one of the second. -/
theorem split_of_append_eq (xs : List α) (h : xs ++ ys = before ++ x :: after) :
    (∃ rest, xs = before ++ x :: rest ∧ after = rest ++ ys) ∨
      ∃ init, before = xs ++ init ∧ ys = init ++ x :: after := by
  obtain ⟨init, rfl, hys⟩ | ⟨rest, rfl, hrest⟩ := List.append_eq_append_iff.1 h
  · exact .inr ⟨init, rfl, hys⟩
  · obtain ⟨rfl, rfl⟩ | ⟨rest, rfl, rfl⟩ := List.cons_eq_append_iff.1 hrest
    · exact .inr ⟨[], by simp, rfl⟩
    · exact .inl ⟨rest, rfl, rfl⟩

theorem mem_of_split {xs : List α} (h : xs = before ++ x :: after) : x ∈ xs := by
  simp [h]

/-- An element that stands out from all before the last is the last. -/
theorem eq_last_of_split (earlier : List α) (h : earlier ++ [last] = before ++ x :: after)
    (hx : x ∉ earlier) : before = earlier ∧ x = last ∧ after = [] := by
  obtain ⟨rest, rfl, -⟩ | ⟨init, rfl, hlast⟩ := split_of_append_eq _ h
  · simp at hx
  · obtain ⟨rfl, hlast⟩ | ⟨more, -, hnil⟩ := List.append_eq_cons_iff.1 hlast.symm
    · obtain ⟨rfl, rfl⟩ := List.cons.inj hlast
      exact ⟨by simp, rfl, rfl⟩
    · simp at hnil

end

namespace Dialogue

variable {Ask Ask' : Type} {Answer : Ask → Type} {Answer' : Ask' → Type} {α β σ : Type}

/-! ## One dialogue after another -/

theorem run_bind (answer : (q : Ask) → σ → Answer q × σ) (d : Dialogue Ask Answer α)
    (f : α → Dialogue Ask Answer β) (s : σ) :
    (d.bind f).run answer s =
      (((f (d.run answer s).1).run answer (d.run answer s).2.2).1,
        (d.run answer s).2.1 ++ ((f (d.run answer s).1).run answer (d.run answer s).2.2).2.1,
        ((f (d.run answer s).1).run answer (d.run answer s).2.2).2.2) := by
  induction d generalizing s with
  | done a => rfl
  | ask q next ih => simp only [bind, run, ih, List.cons_append]

theorem run_map (answer : (q : Ask) → σ → Answer q × σ) (d : Dialogue Ask Answer α) (f : α → β)
    (s : σ) :
    (d.map f).run answer s = (f (d.run answer s).1, (d.run answer s).2.1, (d.run answer s).2.2) := by
  induction d generalizing s with
  | done a => rfl
  | ask q next ih => simp only [map, run, ih]

/-! ## Questions put otherwise -/

/-- A history of a dialogue whose questions are put otherwise is a history of it, put otherwise. -/
theorem history_via {put : Ask → Ask'} {read : (q : Ask) → Answer' (put q) → Answer q}
    {d : Dialogue Ask Answer α} {ys : List (Exchange Ask' Answer')} {a : α} :
    History (d.via put read) ys a ↔
      ∃ zs : List ((q : Ask) × Answer' (put q)), ys = zs.map (fun z => ⟨put z.1, z.2⟩) ∧
        History d (zs.map fun z => ⟨z.1, read z.1 z.2⟩) a := by
  induction d generalizing ys with
  | done b =>
    simp only [via, history_done]
    constructor
    · rintro ⟨rfl, rfl⟩
      exact ⟨[], rfl, rfl, rfl⟩
    · rintro ⟨zs, rfl, hnil, rfl⟩
      obtain rfl := List.map_eq_nil_iff.1 hnil
      exact ⟨rfl, rfl⟩
  | ask q next ih =>
    simp only [via, history_ask, ih]
    constructor
    · rintro ⟨reply, _, rfl, zs, rfl, h⟩
      exact ⟨⟨q, reply⟩ :: zs, rfl, read q reply, _, rfl, h⟩
    · rintro ⟨zs, rfl, reply, rest, hcons, h⟩
      obtain ⟨⟨q', reply'⟩, zs, rfl, hz, rfl⟩ := List.map_eq_cons_iff.1 hcons
      cases hz
      exact ⟨reply', _, rfl, zs, rfl, h⟩

/-! ## One dialogue through another -/

/-- `Told answer s xs ys t`: to answer the questions in `xs` as they are answered there, one after
another from `s` on, just what is in `ys` is asked, and `t` is left. -/
inductive Told (answer : (q : Ask) → σ → Dialogue Ask' Answer' (Answer q × σ)) :
    σ → List (Exchange Ask Answer) → List (Exchange Ask' Answer') → σ → Prop
  | nil (s : σ) : Told answer s [] [] s
  | cons {q : Ask} {reply : Answer q} {s s' t : σ} {xs : List (Exchange Ask Answer)}
      {first rest : List (Exchange Ask' Answer')} (h : History (answer q s) first (reply, s'))
      (more : Told answer s' xs rest t) : Told answer s (⟨q, reply⟩ :: xs) (first ++ rest) t

variable {answer : (q : Ask) → σ → Dialogue Ask' Answer' (Answer q × σ)} {s t : σ}
  {xs zs : List (Exchange Ask Answer)} {ys : List (Exchange Ask' Answer')}

/-- **A history of one dialogue led through another** is a history of it, with each of its answers
told by what the other one asked. -/
theorem history_through {d : Dialogue Ask Answer α} {a : α} :
    History (d.through answer s) ys (a, t) ↔ ∃ xs, History d xs a ∧ Told answer s xs ys t := by
  induction d generalizing s ys with
  | done b =>
    simp only [through, history_done, Prod.mk.injEq]
    constructor
    · rintro ⟨rfl, rfl, rfl⟩
      exact ⟨[], ⟨rfl, rfl⟩, .nil t⟩
    · rintro ⟨_, ⟨rfl, rfl⟩, ⟨⟩⟩
      exact ⟨rfl, rfl, rfl⟩
  | ask q next ih =>
    simp only [through, history_bind, history_ask]
    constructor
    · rintro ⟨⟨reply, s'⟩, first, rest, rfl, hfirst, hrest⟩
      obtain ⟨xs, hnext, htold⟩ := (ih reply).1 hrest
      exact ⟨_, ⟨reply, xs, rfl, hnext⟩, .cons hfirst htold⟩
    · rintro ⟨_, ⟨reply, xs, rfl, hnext⟩, _ | ⟨hfirst, htold⟩⟩
      exact ⟨_, _, _, rfl, hfirst, (ih reply).2 ⟨xs, hnext, htold⟩⟩

/-- What is asked in the end, at any place, was asked to answer one of the questions. -/
theorem Told.split {before after : List (Exchange Ask' Answer')} {y : Exchange Ask' Answer'}
    (h : Told answer s xs (before ++ y :: after) t) :
    ∃ q reply s' s'' earlier init rest later, ⟨q, reply⟩ ∈ xs ∧
      History (answer q s') (init ++ y :: rest) (reply, s'') ∧
      before = earlier ++ init ∧ after = rest ++ later := by
  generalize hys : before ++ y :: after = ys at h
  induction h generalizing before with
  | nil s => simp at hys
  | @cons q reply s s' t xs first rest h more ih =>
    obtain ⟨tail, rfl, rfl⟩ | ⟨init, rfl, hrest⟩ := split_of_append_eq _ hys.symm
    · exact ⟨q, reply, s, s', [], before, tail, rest, by simp, h, rfl, rfl⟩
    · obtain ⟨q', reply', u, u', earlier, init, tail, later, hm, hhistory, rfl, rfl⟩ :=
        ih hrest.symm
      exact ⟨q', reply', u, u', first ++ earlier, init, tail, later, List.mem_cons_of_mem _ hm,
        hhistory, by simp, rfl⟩

/-- What the last answer took comes last. -/
theorem Told.concat {q : Ask} {reply : Answer q} (h : Told answer s (xs ++ [⟨q, reply⟩]) ys t) :
    ∃ s' earlier last, ys = earlier ++ last ∧ History (answer q s') last (reply, t) := by
  generalize hxs : xs ++ [⟨q, reply⟩] = xs' at h
  induction h generalizing xs with
  | nil s => simp at hxs
  | @cons q' reply' s s' t xs' first rest h more ih =>
    cases xs with
    | nil =>
      cases hxs
      cases more
      exact ⟨s, [], first, by simp, h⟩
    | cons x xs =>
      obtain ⟨-, hxs⟩ := List.cons.inj hxs
      obtain ⟨u, earlier, last, rfl, hlast⟩ := ih hxs
      exact ⟨u, first ++ earlier, last, by simp, hlast⟩

end Dialogue
end RemapSynth
