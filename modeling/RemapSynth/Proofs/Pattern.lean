/-
What a match says about the line: the text a pattern has consumed is what it
spells (`Consumes`), and the groups are pieces of it. Where a match starts
and how long it gets is left open, so one text may be consumed in many ways;
what is said of all of them holds of the one that is found.
-/
import RemapSynth.Pattern

namespace RemapSynth.Pattern

/-- The pattern can consume the text, and makes `after` of the groups `before`. What it needs to
see on either side of the text is not asked for. -/
def Consumes : Pattern → List Char → Groups → Groups → Prop
  | text chars, s, before, after => s = chars.toList ∧ after = before
  | one inClass, s, before, after => (∃ c, s = [c] ∧ inClass c = true) ∧ after = before
  | many inClass least, s, before, after =>
    least ≤ s.length ∧ (∀ c ∈ s, inClass c = true) ∧ after = before
  | andThen first second, s, before, after =>
    ∃ s₁ s₂ between, s = s₁ ++ s₂ ∧ first.Consumes s₁ before between ∧
      second.Consumes s₂ between after
  | orElse first second, s, before, after =>
    first.Consumes s before after ∨ second.Consumes s before after
  | maybe inner, s, before, after => inner.Consumes s before after ∨ s = [] ∧ after = before
  | group number inner, s, before, after =>
    ∃ within, inner.Consumes s before within ∧ after = (number, s) :: within
  | lineStart, s, before, after => s = [] ∧ after = before
  | lineEnd, s, before, after => s = [] ∧ after = before
  | wordEdge, s, before, after => s = [] ∧ after = before

/-- Whether the pattern remembers nothing. -/
def groupless : Pattern → Bool
  | text _ | one _ | many _ _ | lineStart | lineEnd | wordEdge => true
  | andThen first second | orElse first second => first.groupless && second.groupless
  | maybe inner => inner.groupless
  | group _ _ => false

theorem Consumes.groups_eq {p : Pattern} {s : List Char} {before after : Groups}
    (h : p.Consumes s before after) (hp : p.groupless = true) : after = before := by
  induction p generalizing s before after with
  | text | one | lineStart | lineEnd | wordEdge => exact h.2
  | many => exact h.2.2
  | andThen first second ih₁ ih₂ =>
    rw [groupless, Bool.and_eq_true] at hp
    obtain ⟨s₁, s₂, between, -, h₁, h₂⟩ := h
    rw [ih₂ h₂ hp.2, ih₁ h₁ hp.1]
  | orElse first second ih₁ ih₂ =>
    rw [groupless, Bool.and_eq_true] at hp
    rcases h with h | h
    · exact ih₁ h hp.1
    · exact ih₂ h hp.2
  | maybe inner ih =>
    rcases h with h | h
    · exact ih h hp
    · exact h.2
  | group => cases hp

/-- The fewest characters the pattern can consume. -/
def least : Pattern → Nat
  | text chars => chars.length
  | one _ => 1
  | many _ least => least
  | andThen first second => first.least + second.least
  | orElse first second => min first.least second.least
  | group _ inner => inner.least
  | maybe _ | lineStart | lineEnd | wordEdge => 0

theorem Consumes.least_le {p : Pattern} {s : List Char} {before after : Groups}
    (h : p.Consumes s before after) : p.least ≤ s.length := by
  induction p generalizing s before after with
  | text chars =>
    rw [h.1, String.length_toList]
    exact Nat.le_refl _
  | one inClass =>
    obtain ⟨⟨c, rfl, -⟩, -⟩ := h
    exact Nat.le_refl 1
  | many => exact h.1
  | andThen first second ih₁ ih₂ =>
    obtain ⟨s₁, s₂, between, rfl, h₁, h₂⟩ := h
    rw [least, List.length_append]
    exact Nat.add_le_add (ih₁ h₁) (ih₂ h₂)
  | orElse first second ih₁ ih₂ =>
    rw [least]
    rcases h with h | h
    · exact Nat.le_trans (Nat.min_le_left _ _) (ih₁ h)
    · exact Nat.le_trans (Nat.min_le_right _ _) (ih₂ h)
  | group number inner ih =>
    obtain ⟨within, h, -⟩ := h
    exact ih h
  | maybe | lineStart | lineEnd | wordEdge => exact Nat.zero_le _

theorem groupless_oneOf (texts : List String) : (oneOf texts).groupless = true := by
  induction texts with
  | nil => rfl
  | cons t ts ih =>
    cases ts with
    | nil => rfl
    | cons => exact ih

@[simp] theorem sequence_cons_cons (p q : Pattern) (ps : List Pattern) :
    sequence (p :: q :: ps) = andThen p (sequence (q :: ps)) := rfl

@[simp] theorem sequence_singleton (p : Pattern) : sequence [p] = p := rfl

section Sound

variable {β : Type} {b : β}

theorem advance_append (s before rest : List Char) :
    Place.advance s.length ⟨before, s ++ rest⟩ = ⟨s.reverse ++ before, rest⟩ := by
  induction s generalizing before with
  | nil => cases rest <;> rfl
  | cons c s ih =>
    rw [List.cons_append, List.length_cons, Place.advance, ih, List.reverse_cons,
      List.append_assoc]
    rfl

theorem takeMany_sound {inClass : Char → Bool} {k : Place → Option β} {least : Nat}
    {before rest : List Char} (h : takeMany inClass k least before rest = some b) :
    ∃ s after, rest = s ++ after ∧ least ≤ s.length ∧ (∀ c ∈ s, inClass c = true) ∧
      k ⟨s.reverse ++ before, after⟩ = some b := by
  induction rest generalizing least before with
  | nil =>
    rw [takeMany] at h
    split at h
    case isTrue hleast => exact ⟨[], [], rfl, by simp [hleast], by simp, h⟩
    case isFalse => cases h
  | cons c rest ih =>
    -- the shortest way to go on, tried after all the longer ones
    have hstop : (if least = 0 then k ⟨before, c :: rest⟩ else none) = some b →
        ∃ s after, c :: rest = s ++ after ∧ least ≤ s.length ∧ (∀ c ∈ s, inClass c = true) ∧
          k ⟨s.reverse ++ before, after⟩ = some b := by
      intro hk
      split at hk
      case isTrue hleast => exact ⟨[], c :: rest, rfl, by simp [hleast], by simp, hk⟩
      case isFalse => cases hk
    rw [takeMany] at h
    split at h
    case isFalse => exact hstop h
    case isTrue hc =>
      split at h
      case h_2 => exact hstop h
      case h_1 found hfound =>
        obtain ⟨s, after, hrest, hleast, hs, hk⟩ := ih (hfound.trans h)
        refine ⟨c :: s, after, by rw [hrest, List.cons_append], ?_, ?_, ?_⟩
        · rw [List.length_cons]
          omega
        · intro d hd
          rcases List.mem_cons.mp hd with rfl | hd
          · exact hc
          · exact hs d hd
        · rw [List.reverse_cons, List.append_assoc]
          exact hk

/-- **What a pattern matches is what it spells:** the place where matching goes on lies behind a
text that the pattern can consume. -/
theorem matchAt_sound {p : Pattern} {place : Place} {groups : Groups}
    {k : Place → Groups → Option β} (h : p.matchAt place groups k = some b) :
    ∃ s after groups', place.rest = s ++ after.rest ∧ after.before = s.reverse ++ place.before ∧
      p.Consumes s groups groups' ∧ k after groups' = some b := by
  induction p generalizing place groups k with
  | text chars =>
    rw [matchAt] at h
    split at h
    case isFalse => cases h
    case isTrue hprefix =>
      obtain ⟨rest, hrest⟩ := List.isPrefixOf_iff_prefix.mp hprefix
      have hplace : place.advance chars.length = ⟨chars.toList.reverse ++ place.before, rest⟩ := by
        rw [← advance_append, String.length_toList, hrest]
      rw [hplace] at h
      exact ⟨chars.toList, _, groups, hrest.symm, rfl, ⟨rfl, rfl⟩, h⟩
  | one inClass =>
    rw [matchAt] at h
    split at h
    case h_2 => cases h
    case h_1 c rest hrest =>
      split at h
      case isFalse => cases h
      case isTrue hc =>
        exact ⟨[c], ⟨c :: place.before, rest⟩, groups, hrest, rfl, ⟨⟨c, rfl, hc⟩, rfl⟩, h⟩
  | many inClass least =>
    rw [matchAt] at h
    obtain ⟨s, after, hrest, hleast, hs, hk⟩ := takeMany_sound h
    exact ⟨s, _, groups, hrest, rfl, ⟨hleast, hs, rfl⟩, hk⟩
  | andThen first second ih₁ ih₂ =>
    rw [matchAt] at h
    obtain ⟨s₁, place₁, groups₁, hrest₁, hbefore₁, hs₁, h⟩ := ih₁ h
    obtain ⟨s₂, place₂, groups₂, hrest₂, hbefore₂, hs₂, h⟩ := ih₂ h
    refine ⟨s₁ ++ s₂, place₂, groups₂, ?_, ?_, ⟨s₁, s₂, groups₁, rfl, hs₁, hs₂⟩, h⟩
    · rw [hrest₁, hrest₂, List.append_assoc]
    · rw [hbefore₂, hbefore₁, List.reverse_append, List.append_assoc]
  | orElse first second ih₁ ih₂ =>
    rw [matchAt] at h
    split at h
    case h_1 found hfound =>
      obtain ⟨s, after, groups', hrest, hbefore, hs, hk⟩ := ih₁ (hfound.trans h)
      exact ⟨s, after, groups', hrest, hbefore, .inl hs, hk⟩
    case h_2 =>
      obtain ⟨s, after, groups', hrest, hbefore, hs, hk⟩ := ih₂ h
      exact ⟨s, after, groups', hrest, hbefore, .inr hs, hk⟩
  | maybe inner ih =>
    rw [matchAt] at h
    split at h
    case h_1 found hfound =>
      obtain ⟨s, after, groups', hrest, hbefore, hs, hk⟩ := ih (hfound.trans h)
      exact ⟨s, after, groups', hrest, hbefore, .inl hs, hk⟩
    case h_2 => exact ⟨[], place, groups, rfl, rfl, .inr ⟨rfl, rfl⟩, h⟩
  | group number inner ih =>
    rw [matchAt] at h
    obtain ⟨s, after, groups', hrest, hbefore, hs, hk⟩ := ih h
    have htaken : place.rest.take (place.rest.length - after.rest.length) = s := by
      rw [hrest, List.length_append, Nat.add_sub_cancel, List.take_left]
    rw [htaken] at hk
    exact ⟨s, after, (number, s) :: groups', hrest, hbefore, ⟨groups', hs, rfl⟩, hk⟩
  | lineStart | lineEnd | wordEdge =>
    rw [matchAt] at h
    split at h
    case isTrue => exact ⟨[], place, groups, rfl, rfl, ⟨rfl, rfl⟩, h⟩
    case isFalse => cases h

/-- A match that starts at the front of `rest`. -/
theorem matchAt_front_sound {p : Pattern} {before rest : List Char} {m : Match}
    (h : (p.matchAt ⟨before, rest⟩ [] fun after groups =>
      some (Match.mk before.reverse groups after.rest)) = some m) :
    ∃ s, before.reverse ++ rest = m.before ++ s ++ m.after ∧ p.Consumes s [] m.groups := by
  obtain ⟨s, after, groups, hrest, -, hs, hm⟩ := matchAt_sound h
  cases hm
  refine ⟨s, ?_, hs⟩
  rw [List.append_assoc, ← hrest]

theorem searchFrom_sound {p : Pattern} {before rest : List Char} {m : Match}
    (h : searchFrom p before rest = some m) :
    ∃ s, before.reverse ++ rest = m.before ++ s ++ m.after ∧ p.Consumes s [] m.groups := by
  induction rest generalizing before with
  | nil => exact matchAt_front_sound h
  | cons c rest ih =>
    rw [searchFrom] at h
    split at h
    case h_1 found hfound => exact matchAt_front_sound (hfound.trans h)
    case h_2 =>
      obtain ⟨s, hline, hs⟩ := ih h
      rw [List.reverse_cons, List.append_assoc, List.singleton_append] at hline
      exact ⟨s, hline, hs⟩

end Sound

/-- A line with a match in it is cut into what lies before, a text the pattern consumes, and what
lies after. -/
theorem search_sound {p : Pattern} {line : List Char} {m : Match} (h : p.search line = some m) :
    ∃ s, line = m.before ++ s ++ m.after ∧ p.Consumes s [] m.groups :=
  searchFrom_sound h

/-- A pattern that consumes something does not occur in an empty line. -/
theorem occursIn_nil {p : Pattern} (hp : 0 < p.least) : p.occursIn [] = false := by
  rw [occursIn]
  cases hm : p.search [] with
  | none => rfl
  | some m =>
    obtain ⟨s, hline, hs⟩ := search_sound hm
    have hnil : s = [] := by
      simp only [List.nil_eq, List.append_eq_nil_iff] at hline
      exact hline.1.2
    have hleast := hs.least_le
    rw [hnil, List.length_nil] at hleast
    omega

end RemapSynth.Pattern
