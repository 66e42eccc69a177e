/-
What kind of failure the messages of the policy tell of. They are made of
names from the configuration and of paths from the program; a path has no
bracket in it, so as long as no tag opens in a configured name the messages
tell of the policy (`ofMessage_conflictMessage`, `ofMessage_rejectionMessage`).
-/
import RemapSynth.Proofs.Diagnosis
import RemapSynth.Proofs.Policy.Conflict

namespace RemapSynth.Policy

open Diagnosis (Untagged)

variable {p : Policy} {program : String} {path : List (List Char)} {reserved : List String}

/-- No tag opens in a name that a policy has. -/
structure NamesUntagged (p : Policy) : Prop where
  rejected : ∀ name ∈ p.rejected, Untagged name.toList
  preferred : ∀ name ∈ p.preferred, Untagged name.toList
  reserved : ∀ name ∈ p.reserved, Untagged name.toList

/-- Trimming a name opens no tag in it. -/
theorem namesUntagged_ofLists {rejected preferred reserved : List String}
    (h : ∀ name ∈ rejected ++ preferred ++ reserved, Untagged name.toList) :
    (ofLists rejected preferred reserved).NamesUntagged where
  rejected name hname := h name (by simp [show name ∈ rejected from hname])
  preferred name hname := h name (by simp [show name ∈ preferred from hname])
  reserved name hname := by
    obtain ⟨⟨whole, hwhole, rfl⟩, -⟩ := mem_reservedSet.1 hname
    have hin : Untagged whole.toList := h whole (by simp [hwhole])
    rw [Text.trim, String.toList_ofList]
    exact hin.part (Chars.infix_of_trim whole.toList)

/-! ## Conflicts -/

/-- The reserved name that a collision is with, when it is not the path. -/
def Collision.name? : Collision → Option String
  | .exact => none
  | .parentOf name | .inside name => some name

theorem mem_of_collisionWith? {name : String} {collision : Collision}
    (h : collisionWith? path name = some collision) : collision.name? = some name := by
  rw [collisionWith?] at h
  split at h
  next => cases h; rfl
  next =>
    split at h
    next => cases h; rfl
    next => cases h

theorem mem_of_collision? {collision : Collision} (h : collision? reserved path = some collision) :
    ∀ name ∈ collision.name?, name ∈ reserved := by
  intro name hname
  rw [collision?] at h
  split at h
  next =>
    cases h
    cases hname
  next =>
    obtain ⟨name', hname', hwith⟩ := List.exists_of_findSome?_eq_some h
    rw [mem_of_collisionWith? hwith] at hname
    obtain rfl := Option.some.inj hname
    exact (List.mem_filter.1 hname').1

/-- A path has no bracket in it. -/
theorem untagged_path (h : path ∈ assignedPaths program.toList) :
    Untagged (pathText path).toList := by
  refine .of_not_mem fun hbracket => ?_
  rw [pathText, String.toList_ofList] at hbracket
  rcases (isPath_of_mem_assignedPaths h).mem_joinWith hbracket with hword | hdot
  · exact absurd hword (by decide)
  · exact absurd hdot (by decide)

theorem untagged_conflict (hp : p.NamesUntagged) {conflict : Conflict}
    (h : conflict ∈ p.findConflicts program) : Untagged conflict.message.toList := by
  obtain ⟨path, hpath, hcollision, htext⟩ := mem_findConflicts_iff.1 h
  have hshown : Untagged conflict.path.toList := by
    rw [htext]
    exact untagged_path hpath
  -- What stands around a reserved name in the message has no bracket either.
  have haround (words name : String) (hwords : '[' ∉ words.toList)
      (hname : name ∈ conflict.collision.name?) :
      Untagged (conflict.path ++ (" " ++ words ++ " ") ++ name ++ ")").toList := by
    have hreserved : Untagged name.toList :=
      hp.reserved name (mem_of_collision? hcollision name hname)
    have hbehind : Untagged (words.toList ++ ' ' :: (name.toList ++ ')' :: [])) :=
      (Untagged.of_not_mem hwords).append_cons (by decide)
        (hreserved.append_cons (by decide) (.of_not_mem List.not_mem_nil))
    have hall := hshown.append_cons (by decide : ' ' ∉ Diagnosis.tagOpener) hbehind
    simpa using hall
  rw [Conflict.message]
  cases hkind : conflict.collision with
  | exact =>
    have hbehind : Untagged "(reserved)".toList := .of_not_mem (by decide)
    have hall := hshown.append_cons (by decide : ' ' ∉ Diagnosis.tagOpener) hbehind
    simpa using hall
  | parentOf name =>
    exact haround "(conflicts with nested reserved field:" name (by simp) (by rw [hkind]; rfl)
  | inside name => exact haround "(inside reserved field:" name (by simp) (by rw [hkind]; rfl)

theorem untagged_joinWith {sep : Char} (hsep : sep ∉ Diagnosis.tagOpener) {texts : List String}
    (h : ∀ text ∈ texts, Untagged text.toList) :
    Untagged (Text.joinWith (.ofList [sep, ' ']) texts).toList := by
  rw [Text.toList_joinWith, String.toList_ofList]
  refine Untagged.joinWith hsep fun piece hpiece => ?_
  obtain ⟨text, htext, rfl⟩ := List.mem_map.1 hpiece
  exact h text htext

/-- **A message about conflicts tells of a conflict.** -/
theorem ofMessage_conflictMessage (hp : p.NamesUntagged) (program : String) :
    Diagnosis.ofMessage (conflictMessage ((p.findConflicts program).map Conflict.message)) =
      .fieldConflict := by
  have hmessages : Untagged
      (Text.joinWith "; " ((p.findConflicts program).map Conflict.message)).toList := by
    refine untagged_joinWith (by decide : ';' ∉ Diagnosis.tagOpener) fun text htext => ?_
    obtain ⟨conflict, hconflict, rfl⟩ := List.mem_map.1 htext
    exact untagged_conflict hp hconflict
  have hbefore : Untagged " VRL writes reserved fields:".toList := .of_not_mem (by simp)
  have hbehind : Untagged " Rename these outputs.".toList := .of_not_mem (by simp)
  have hall := hbefore.append_cons (by decide : ' ' ∉ Diagnosis.tagOpener)
    (hmessages.append_cons (by decide : '.' ∉ Diagnosis.tagOpener) hbehind)
  simp only [conflictMessage, String.append_assoc]
  refine Diagnosis.ofMessage_conflict ?_
  simpa using hall

/-! ## Rejected functions -/

/-- **A message about rejected functions tells of a rejected function.** -/
theorem ofMessage_rejectionMessage (hp : p.NamesUntagged) (program : String) :
    Diagnosis.ofMessage (p.rejectionMessage (p.findRejected program)) = .rejectedConstruct := by
  have hcomma : ',' ∉ Diagnosis.tagOpener := by decide
  have hblank : ' ' ∉ Diagnosis.tagOpener := by decide
  have hfound : Untagged (Text.joinWith ", " (p.findRejected program)).toList :=
    untagged_joinWith hcomma fun name hname => hp.rejected name (List.mem_filter.1 hname).1
  have hpreferred : Untagged (Text.joinWith ", " p.preferred).toList :=
    untagged_joinWith hcomma hp.preferred
  have hbefore : Untagged " VRL contains regex functions:".toList := .of_not_mem (by simp)
  have hbetween : Untagged
      " Regex matching is too slow for this pipeline. Use instead:".toList :=
    .of_not_mem (by simp)
  have hall := hbefore.append_cons hblank
    (hfound.append_cons (by decide : '.' ∉ Diagnosis.tagOpener)
      (hbetween.append_cons hblank hpreferred))
  simp only [rejectionMessage, String.append_assoc]
  refine Diagnosis.ofMessage_rejected ?_
  simpa using hall

end RemapSynth.Policy
