import Mathlib.Data.String.Basic
import Mathlib.Data.List.Basic

/-!
# Joined texts

When the pieces of a text can be told from the whole. What stands before the first of some mark is
determined, and so are texts that are joined by a separator, as long as each of them ends at a place
that its own text determines and what follows them does not begin like the separator.
-/

namespace RecordAccess

/-- What stands before the first of some mark is determined. -/
theorem eq_of_append_cons {α : Type} {mark : α} {before other after otherAfter : List α}
    (unmarked : mark ∉ before) (otherUnmarked : mark ∉ other)
    (same : before ++ mark :: after = other ++ mark :: otherAfter) :
    before = other ∧ after = otherAfter := by
  rcases List.append_eq_append_iff.1 same with ⟨more, rfl, rest⟩ | ⟨more, rfl, rest⟩
  · cases more with
    | nil => exact ⟨(List.append_nil _).symm, (List.cons.inj rest).2⟩
    | cons first _ =>
      obtain ⟨rfl, -⟩ := List.cons.inj rest
      simp at otherUnmarked
  · cases more with
    | nil => exact ⟨List.append_nil _, (List.cons.inj rest).2.symm⟩
    | cons first _ =>
      obtain ⟨rfl, -⟩ := List.cons.inj rest
      simp at unmarked

/-- A spelling of which the beginning of a text determines the thing that is spelt and the place where
its spelling ends. -/
def IsSelfDelimiting {α : Type} (Spells : α → String → Prop) : Prop :=
  ∀ {thing other : α} {text otherText : String} {rest otherRest : List Char},
    Spells thing text → Spells other otherText →
    text.toList ++ rest = otherText.toList ++ otherRest → thing = other ∧ rest = otherRest

/-- Joined texts are the first of them, and each of the others behind a separator. -/
theorem toList_intercalate_cons (separator text : String) (texts : List String) :
    (separator.intercalate (text :: texts)).toList =
      text.toList ++ texts.flatMap fun next => separator.toList ++ next.toList := by
  rw [String.toList_intercalate, List.map_cons]
  induction texts generalizing text with
  | nil => simp
  | cons next texts ih =>
    rw [List.map_cons, List.intercalate_cons_cons, ih next, List.flatMap_cons]
    simp only [List.append_assoc]

namespace IsSelfDelimiting

variable {α : Type} {Spells : α → String → Prop} {separator : String}
  {things others : List α} {texts otherTexts : List String} {rest otherRest : List Char}

/-- A text behind a separator begins like the separator. -/
theorem head?_behind (separates : separator.toList ≠ []) (text : String) (texts : List String)
    (rest : List Char) :
    (((text :: texts).flatMap fun next => separator.toList ++ next.toList) ++ rest).head? =
      separator.toList.head? := by
  obtain ⟨mark, more, opens⟩ := List.exists_cons_of_ne_nil separates
  simp [opens]

/-- Texts that each stand behind a separator determine what they spell, when what follows the last of
them does not begin like the separator. -/
theorem eq_of_behind (delimiting : IsSelfDelimiting Spells) (separates : separator.toList ≠ [])
    (spelt : List.Forall₂ Spells things texts) (otherSpelt : List.Forall₂ Spells others otherTexts)
    (ends : rest.head? ≠ separator.toList.head?) (otherEnds : otherRest.head? ≠ separator.toList.head?)
    (same : (texts.flatMap fun next => separator.toList ++ next.toList) ++ rest =
      (otherTexts.flatMap fun next => separator.toList ++ next.toList) ++ otherRest) :
    things = others ∧ rest = otherRest := by
  induction spelt generalizing others otherTexts with
  | nil =>
    cases otherSpelt with
    | nil => exact ⟨rfl, same⟩
    | cons =>
      have same : rest = _ := same
      exact absurd (same ▸ head?_behind separates _ _ _) ends
  | cons first _ ih =>
    cases otherSpelt with
    | nil =>
      have same : _ = otherRest := same
      exact absurd (same ▸ head?_behind separates _ _ _) otherEnds
    | cons otherFirst otherSpelt =>
      simp only [List.flatMap_cons, List.append_assoc, List.append_cancel_left_eq] at same
      obtain ⟨rfl, same⟩ := delimiting first otherFirst same
      obtain ⟨rfl, same⟩ := ih otherSpelt same
      exact ⟨rfl, same⟩

/-- Joined texts determine what they spell, when what follows does not begin like the separator. -/
theorem eq_of_joined (delimiting : IsSelfDelimiting Spells) (separates : separator.toList ≠ [])
    (spelt : List.Forall₂ Spells things texts) (otherSpelt : List.Forall₂ Spells others otherTexts)
    (present : things ≠ []) (otherPresent : others ≠ [])
    (ends : rest.head? ≠ separator.toList.head?) (otherEnds : otherRest.head? ≠ separator.toList.head?)
    (same : (separator.intercalate texts).toList ++ rest =
      (separator.intercalate otherTexts).toList ++ otherRest) :
    things = others ∧ rest = otherRest := by
  cases spelt with
  | nil => exact absurd rfl present
  | cons first spelt =>
    cases otherSpelt with
    | nil => exact absurd rfl otherPresent
    | cons otherFirst otherSpelt =>
      rw [toList_intercalate_cons, toList_intercalate_cons, List.append_assoc,
        List.append_assoc] at same
      obtain ⟨rfl, same⟩ := delimiting first otherFirst same
      obtain ⟨rfl, same⟩ := delimiting.eq_of_behind separates spelt otherSpelt ends otherEnds same
      exact ⟨rfl, same⟩

end IsSelfDelimiting

end RecordAccess
