import FormCheck.Proofs.Check.Decision.Selection
import FormCheck.Proofs.Sanitizing.Number

namespace FormCheck

/-!
# Options are sanitized once

What is stored for a selection is the list of the texts of its options, and texts
are their own texts. An option that is an integer is stored as that integer.
-/

namespace Check

variable
  {field : String}
  {allowed : List String}
  {options : List Value}
  {result : Result}

/-- Sorting out writes nothing but messages. -/
theorem Writes.sortOut_isError
    (key : Value)
    (allowed : List String)
    (options : List Value) :
    Writes (Entry.isError · = true) (Check.sortOut key allowed options) := by
  induction options with
  | nil =>
      exact pure _
  | cons option rest inductionHypothesis =>
      unfold Check.sortOut
      refine bind (lift _) fun text => ite ?_ ?_
      · exact bind inductionHypothesis fun sorted => pure _
      · refine bind (addError_isError ..) fun _ => ?_
        exact bind inductionHypothesis fun sorted => pure _

/-- Options that are sorted out without a message have the texts that are kept. -/
theorem shownAll_of_sortOut_eq
    {texts : List String}
    {flawless : Bool}
    (sorts :
      sortOut (.text field) allowed options result =
        ⟨[], .ok (texts, flawless)⟩) :
    shownAll options = .ok texts := by
  obtain ⟨all, shows⟩ := exists_shownAll_of_sortOut (by rw [sorts])
  rw [sortOut_eq field allowed shows, Journal.mk.injEq] at sorts
  obtain ⟨noMessages, kept⟩ := sorts
  cases kept
  have noFlaws : all.filter (!allowed.contains ·) = [] :=
    List.map_eq_nil_iff.mp noMessages
  have isKept : all.filter allowed.contains = all := by
    simpa using noFlaws
  rw [isKept, shows]

namespace Idempotent

theorem integerOption
    {environment : Environment}
    {allowed : List Int}
    (areWritable :
      ∀ number ∈ allowed, Number.isWritable number = true) :
    Idempotent field fun value =>
      Check.integerOption environment value (.text field) allowed := by
  refine of_integer (fun same => ?_) fun {value stored} sanitizes => ?_
  · unfold Check.integerOption
    rw [Value.readInteger_congr same]
  · unfold Check.integerOption at sanitizes
    obtain ⟨read, isRead, sanitizes⟩ := sanitizes.exists_of_lift
    obtain ⟨_, isInteger⟩ := Value.readInteger_eq_ok_iff.mp isRead
    cases read with
    | none =>
        exact sanitizes.false_of_reject.elim
    | some number =>
        dsimp only at sanitizes
        split at sanitizes
        case isTrue isAllowed =>
          exact ⟨number, isInteger,
            areWritable number (List.contains_iff_mem.mp isAllowed),
            sanitizes.eq_of_writes .setValue_self⟩
        case isFalse =>
          obtain ⟨text, _, sanitizes⟩ := sanitizes.exists_of_lift
          exact sanitizes.false_of_reject.elim

/-- Ratings and the states of a switch are digits. -/
theorem integerOption_of_digits
    {environment : Environment}
    {allowed : List Int}
    (areDigits : ∀ number ∈ allowed, 0 ≤ number ∧ number ≤ 9) :
    Idempotent field fun value =>
      Check.integerOption environment value (.text field) allowed :=
  integerOption fun number member =>
    Number.isWritable_of_lt (by have := areDigits number member; omega)

/-- The texts that are stored are sorted out like the options that they stand for. -/
theorem selection
    (allowed byKey : Value) :
    Idempotent field fun value =>
      Check.selection value (.text field) allowed byKey := by
  refine of_eq fun value stored sanitizes => ?_
  unfold Check.selection at sanitizes
  obtain ⟨allowedTexts, _, sanitizes⟩ := sanitizes.exists_of_lift
  obtain ⟨⟨texts, flawless⟩, sorts, sanitizes⟩ :=
    sanitizes.exists_of_messages (.sortOut_isError ..)
  have shows : shownAll (selectedOptions value) = .ok texts :=
    shownAll_of_sortOut_eq sorts
  have isStored : stored = .list (texts.map Value.text) :=
    sanitizes.eq_of_writes (.ite .setValue_self (.pure ()))
  have sortsAlike
      (allowed : List String) :
      sortOut (.text field) allowed (texts.map Value.text) =
        sortOut (.text field) allowed (selectedOptions value) := by
    funext result
    rw [sortOut_eq field allowed (shownAll_texts texts),
      sortOut_eq field allowed shows]
  have selects :
      selectedOptions (.list (texts.map Value.text)) =
        texts.map Value.text :=
    rfl
  unfold Check.selection
  simp only [isStored, selects, sortsAlike]

end Idempotent

end Check

end FormCheck
