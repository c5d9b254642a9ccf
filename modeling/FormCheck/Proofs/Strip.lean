import FormCheck.Text.Blank
import Mathlib.Data.List.TakeWhile
import Mathlib.Data.List.DropRight

namespace FormCheck.Text

/-!
# Stripping

Stripping keeps every character that is not blank, and what was stripped once
stays as it is when it is stripped again.
-/

/-- Dropping blanks in front keeps every character that is not blank. -/
theorem mem_dropWhile_of_not_isBlank
    {characters : List Char}
    {character : Char}
    (member : character ∈ characters)
    (visible : isBlank character = false) :
    character ∈ characters.dropWhile isBlank := by
  rw [← List.takeWhile_append_dropWhile (p := isBlank) (l := characters),
    List.mem_append] at member
  rcases member with dropped | kept
  · rw [List.mem_takeWhile_imp dropped] at visible
    cases visible
  · exact kept

/-- Stripping keeps every character that is not blank. -/
theorem mem_stripped_of_not_isBlank
    {characters : List Char}
    {character : Char}
    (member : character ∈ characters)
    (visible : isBlank character = false) :
    character ∈ stripped characters := by
  unfold stripped
  rw [List.mem_reverse]
  apply mem_dropWhile_of_not_isBlank _ visible
  rw [List.mem_reverse]
  exact mem_dropWhile_of_not_isBlank member visible

/-- Nothing is left of a text that is stripped exactly if it is blank. -/
theorem stripped_eq_nil_iff
    {characters : List Char} :
    stripped characters = [] ↔
      ∀ character ∈ characters, isBlank character = true := by
  constructor
  · intro nothing character member
    by_contra visible
    have kept :=
      mem_stripped_of_not_isBlank member (eq_false_of_ne_true visible)
    rw [nothing] at kept
    cases kept
  · intro isBlank
    have dropped := List.dropWhile_eq_nil_iff.mpr isBlank
    rw [stripped, dropped]
    rfl

/-- What was stripped stays as it is. -/
theorem stripped_stripped
    (characters : List Char) :
    stripped (stripped characters) = stripped characters := by
  let front := characters.dropWhile isBlank
  have inFront :
      (stripped characters).dropWhile isBlank = stripped characters := by
    rw [List.dropWhile_eq_self_iff]
    intro present
    have isBeginning : stripped characters <+: front :=
      List.rdropWhile_prefix isBlank front
    have longer := Nat.lt_of_lt_of_le present isBeginning.length_le
    rw [isBeginning.getElem present]
    exact List.dropWhile_get_zero_not isBlank characters longer
  unfold stripped at inFront ⊢
  rw [inFront, List.reverse_reverse, List.dropWhile_idempotent]

/-- A text that was stripped stays as it is. -/
theorem strip_strip
    (text : String) :
    strip (strip text) = strip text := by
  unfold strip
  rw [String.toList_ofList, stripped_stripped]

end FormCheck.Text
