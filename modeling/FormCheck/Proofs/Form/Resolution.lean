import FormCheck.Form.Configured
import FormCheck.Proofs.Journal
import Mathlib.Data.List.Forall2

namespace FormCheck

/-!
# Resolved plans

The arguments that the steps of a configured form list are resolved in a
context: an argument that refers to it stands for what the context holds, every
other one for itself. Where a step is in its plan matters only for a fault.
-/

namespace Form.Configured

/-- What an argument stands for in a context: itself, or what it refers to. -/
inductive ResolvesArgument
    (context argument : Value) :
    Value → Prop where
  | plain
      (isPlain : contextKey? argument = none) :
      ResolvesArgument context argument argument
  | referring
      (key : String)
      (held : Value)
      (refers : contextKey? argument = some key)
      (holds : context.holdsText key = .ok true)
      (isHeld : context.atKey key = .ok held) :
      ResolvesArgument context argument held

/-- What a raw step stands for in a context: its listed arguments are resolved. -/
inductive ResolvesStep
    (context : Value) :
    Value → Value → Prop where
  | listed
      (entries : Entries)
      (items resolved : List Value)
      (lists : lookup (Value.text "args") entries = some (.list items))
      (each : List.Forall₂ (ResolvesArgument context) items resolved) :
      ResolvesStep context (.dict entries)
        (.dict (put (.text "args") (.list resolved) entries))
  | unlisted
      (raw : Value)
      (listsNothing :
        ∀ entries items,
          raw = .dict entries →
            lookup (Value.text "args") entries ≠ some (.list items)) :
      ResolvesStep context raw raw

section Resolving

variable
  {form : String}
  {context : Value}
  {index : Nat}

/-- An argument is resolved to what it stands for. -/
theorem resolveArgument_answers_iff
    {argument resolved : Value} :
    (resolveArgument form context index argument).ended = .ok resolved ↔
      ResolvesArgument context argument resolved := by
  unfold resolveArgument
  cases refers : contextKey? argument with
  | none =>
      constructor
      · rintro ⟨⟩
        exact .plain refers
      · rintro (_ | ⟨key, _, refersToo, _, _⟩)
        · rfl
        · rw [refers] at refersToo
          cases refersToo
  | some key =>
      constructor
      · intro answered
        obtain ⟨holds, found, answered⟩ :=
          Journal.ended_bind_eq_ok_iff.mp answered
        cases holds with
        | true =>
            exact .referring key resolved refers found answered
        | false =>
            obtain ⟨⟨⟩, _, stopped⟩ :=
              Journal.ended_bind_eq_ok_iff.mp answered
            cases stopped
      · rintro (isPlain | ⟨other, _, refersToo, holds, isHeld⟩)
        · rw [refers] at isPlain
          cases isPlain
        · rw [refers] at refersToo
          cases refersToo
          exact Journal.ended_bind_eq_ok_iff.mpr ⟨true, holds, isHeld⟩

/-- Arguments are resolved to what each of them stands for. -/
theorem resolveArguments_answers_iff
    {arguments resolved : List Value} :
    (resolveArguments form context index arguments).ended = .ok resolved ↔
      List.Forall₂ (ResolvesArgument context) arguments resolved := by
  induction arguments generalizing resolved with
  | nil =>
      simp [resolveArguments, eq_comm]
  | cons argument rest inductionHypothesis =>
      simp only [resolveArguments, Journal.ended_bind_eq_ok_iff,
        resolveArgument_answers_iff, inductionHypothesis,
        List.forall₂_cons_left_iff]
      constructor
      · rintro ⟨first, isFirst, others, areOthers, complete⟩
        cases complete
        exact ⟨first, others, isFirst, areOthers, rfl⟩
      · rintro ⟨first, others, isFirst, areOthers, rfl⟩
        exact ⟨first, isFirst, others, areOthers, rfl⟩

/-- A raw step is resolved to what it stands for. -/
theorem resolveStep_answers_iff
    {raw resolved : Value} :
    (resolveStep form context index raw).ended = .ok resolved ↔
      ResolvesStep context raw resolved := by
  unfold resolveStep
  split
  case h_1 entries =>
    split
    case h_1 items lists =>
      rw [Journal.ended_bind_eq_ok_iff]
      simp only [resolveArguments_answers_iff]
      constructor
      · rintro ⟨arguments, each, complete⟩
        cases complete
        exact .listed entries items arguments lists each
      · intro resolves
        cases resolves with
        | listed _ others arguments listsToo each =>
            rw [lists] at listsToo
            cases listsToo
            exact ⟨arguments, each, rfl⟩
        | unlisted _ listsNothing =>
            exact absurd lists (listsNothing entries items rfl)
    case h_2 listsNothing =>
      constructor
      · rintro ⟨⟩
        refine .unlisted _ fun others items same lists => ?_
        cases same
        exact listsNothing items lists
      · intro resolves
        cases resolves with
        | listed _ items _ lists =>
            exact absurd lists (listsNothing items)
        | unlisted =>
            rfl
  case h_2 isOther =>
    constructor
    · rintro ⟨⟩
      exact .unlisted raw fun entries _ same => absurd same (isOther entries)
    · intro resolves
      cases resolves with
      | listed entries =>
          exact absurd rfl (isOther entries)
      | unlisted =>
          rfl

/-- Raw steps are resolved to what each of them stands for. -/
theorem resolveSteps_answers_iff
    {steps resolved : List Value} :
    (resolveSteps form context steps index).ended = .ok resolved ↔
      List.Forall₂ (ResolvesStep context) steps resolved := by
  induction steps generalizing index resolved with
  | nil =>
      simp [resolveSteps, eq_comm]
  | cons step rest inductionHypothesis =>
      simp only [resolveSteps, Journal.ended_bind_eq_ok_iff,
        resolveStep_answers_iff, inductionHypothesis,
        List.forall₂_cons_left_iff]
      constructor
      · rintro ⟨first, isFirst, others, areOthers, complete⟩
        cases complete
        exact ⟨first, others, isFirst, areOthers, rfl⟩
      · rintro ⟨first, others, isFirst, areOthers, rfl⟩
        exact ⟨first, isFirst, others, areOthers, rfl⟩

end Resolving

end Form.Configured

end FormCheck
