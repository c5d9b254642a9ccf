import FormCheck.Proofs.Course
import FormCheck.Proofs.Notices

namespace FormCheck

/-!
# Steps that spare each other

A step spares another if it records alone under no key that the other owns, as
every stranger does. Visited one after the other, steps that spare those behind
them each do what they would do on an empty result. So what their run leaves
behind is, step by step, what each of them leaves behind alone. Of steps that are
apart, which are strangers, all the rest is even far from each step.
-/

namespace Step

/-- What a step leaves behind alone. -/
def own
    (environment : Environment)
    (data : Value)
    (step : Step) : Result :=
  Result.empty.extend (step.act environment data .empty).written

/-- What a fitting step leaves behind alone is recorded under texts. -/
theorem Fits.hasTextKeys_own
    {step : Step}
    (fits : step.Fits)
    (environment : Environment)
    (data : Value) :
    (step.own environment data).HasTextKeys :=
  fun _ member => (fits.owns_of_mem_act member).isText

/--
A message that a fitting step leaves behind alone is recorded under an input, or
it is recorded under a key of the field and is not empty.
-/
theorem Fits.accounts_for_errors
    {step : Step}
    (fits : step.Fits)
    {environment : Environment}
    {data key message : Value}
    (recorded :
      Entry.error key message ∈ (step.own environment data).entries) :
    (∃ input ∈ step.inputs, key = .text input) ∨
      key.BelongsTo step.field ∧ message.isTruthy = true :=
  fits.accounts_for recorded

/-- What a step records is far from a step apart from it. -/
theorem Fits.isFarFrom
    {step other : Step}
    (fits : step.Fits)
    (apart : step.Apart other)
    {environment : Environment}
    {data : Value}
    {found : Result}
    {entry : Entry}
    (member : entry ∈ (step.act environment data found).written) :
    entry.IsFarFrom other := by
  have owned := fits.owns_of_mem_act member
  obtain ⟨characters, isText⟩ := owned.isText
  rw [isText] at owned
  obtain ⟨name, isName, starts⟩ := owned.startsWith
  exact ⟨characters, isText, fun otherName isOther =>
    apart.not_startsWith isName isOther starts⟩

/-- A step spares another if it records alone under no key that the other owns. -/
def Spares
    (environment : Environment)
    (data : Value)
    (step other : Step) : Prop :=
  ∀ entry ∈ (step.own environment data).entries, ¬other.Owns entry.key

/-- Steps that fit the library spare strangers. -/
theorem Fits.spares
    {step other : Step}
    (fits : step.Fits)
    (strangers : step.Strangers other)
    (environment : Environment)
    (data : Value) :
    Spares environment data step other :=
  fun _ member => strangers.not_owns (fits.owns_of_mem_act member)

/-- Of strangers that fit the library, each spares those behind it. -/
theorem pairwise_spares
    {steps : List Step}
    (fits : ∀ step ∈ steps, step.Fits)
    (strangers : steps.Pairwise Strangers)
    (environment : Environment)
    (data : Value) :
    steps.Pairwise (Spares environment data) :=
  strangers.imp_of_mem fun isFirst _ areStrangers =>
    (fits _ isFirst).spares areStrangers environment data

end Step

namespace Validator

variable
  {validator : Validator}
  {environment : Environment}
  {data : Value}

/-- What a step records leaves untouched what a step that it spares owns. -/
theorem untouched_runStep
    (gate :
      validator.registry.find? Registry.requiredName =
        some .requiredField)
    (mapping : data.IsMapping)
    {step other : Step}
    (fits : step.Fits)
    (spares : step.Spares environment data other)
    (index : Nat)
    {found : Result}
    (itself : Result.AgreeOn step.Owns found .empty)
    (untouched : Result.AgreeOn other.Owns found .empty) :
    Result.AgreeOn other.Owns
      (found.follow
        (validator.runStep environment data index step found).written)
      .empty := by
  refine Result.AgreeOn.trans ?_ untouched
  refine .of_foreign (fun _ owned => owned.isText) found ?_
  intro entry member
  have regular :=
    regular_runStep gate mapping environment step found index
  have recorded := regular.entries_eq
  unfold Visit.entries at recorded
  rw [recorded, fits.act_congr environment data itself] at member
  exact spares entry member

/-- Steps are all done exactly if each of them is at no fault alone. -/
theorem runSteps_ended_iff
    (gate :
      validator.registry.find? Registry.requiredName =
        some .requiredField)
    (mapping : data.IsMapping)
    {steps : List Step}
    (fits : ∀ step ∈ steps, step.Fits)
    (spares : steps.Pairwise (Step.Spares environment data))
    (index : Nat)
    {found : Result}
    (untouched :
      ∀ step ∈ steps, Result.AgreeOn step.Owns found .empty) :
    (validator.runSteps environment data steps index found).ended =
        .ok () ↔
      ∀ step ∈ steps, (step.act environment data .empty).ended = .ok () := by
  -- What a later step owns is untouched by then, so it acts as it would alone.
  induction steps generalizing index found with
  | nil =>
      exact ⟨fun _ => List.forall_mem_nil _, fun _ => rfl⟩
  | cons step rest inductionHypothesis =>
      rw [List.forall_mem_cons] at fits untouched
      rw [List.pairwise_cons] at spares
      have ended :
          (validator.runStep environment data index step found).ended =
            (step.act environment data .empty).ended := by
        rw [(regular_runStep gate mapping environment step found
          index).ended_eq, fits.1.act_congr environment data untouched.1]
      have continued :=
        inductionHypothesis fits.2 spares.2 (index + 1)
          fun other isRest =>
            untouched_runStep gate mapping fits.1 (spares.1 other isRest)
              index untouched.1 (untouched.2 other isRest)
      rw [List.forall_mem_cons, ← continued, ← ended]
      exact Journal.ended_bind_eq_ok_iff.trans
        ⟨fun ⟨(), first, second⟩ => ⟨first, second⟩,
          fun ⟨first, second⟩ => ⟨(), first, second⟩⟩

/-- Steps that are all done record what each of them records alone. -/
theorem entries_visits_of_spares
    (gate :
      validator.registry.find? Registry.requiredName =
        some .requiredField)
    (mapping : data.IsMapping)
    {steps : List Step}
    (fits : ∀ step ∈ steps, step.Fits)
    (spares : steps.Pairwise (Step.Spares environment data))
    (answers :
      ∀ step ∈ steps, (step.act environment data .empty).ended = .ok ())
    (index : Nat)
    {found : Result}
    (untouched :
      ∀ step ∈ steps, Result.AgreeOn step.Owns found .empty) :
    (validator.visits environment data steps index found).flatMap
        Visit.entries =
      steps.flatMap fun step => (step.own environment data).entries := by
  induction steps generalizing index found with
  | nil =>
      rfl
  | cons step rest inductionHypothesis =>
      rw [List.forall_mem_cons] at fits answers untouched
      rw [List.pairwise_cons] at spares
      have regular :=
        regular_runStep gate mapping environment step found index
      have sameAct :=
        fits.1.act_congr environment data untouched.1
      have ended := regular.ended_eq
      have recorded := regular.entries_eq
      dsimp only at ended recorded
      rw [sameAct] at ended recorded
      rw [answers.1] at ended
      have restEntries :=
        inductionHypothesis fits.2 spares.2 answers.2 (index + 1)
          fun other isRest =>
            untouched_runStep gate mapping fits.1 (spares.1 other isRest)
              index untouched.1 (untouched.2 other isRest)
      unfold visits
      simp only [ended]
      rw [List.flatMap_cons, List.flatMap_cons, restEntries, recorded]
      rfl

/-- Steps apart that are at no fault alone are at no fault one after the other. -/
theorem runSteps_of_apart
    (gate :
      validator.registry.find? Registry.requiredName =
        some .requiredField)
    (mapping : data.IsMapping)
    {steps : List Step}
    (fits : ∀ step ∈ steps, step.Fits)
    (apart : steps.Pairwise Step.Apart)
    (answers :
      ∀ step ∈ steps, (step.act environment data .empty).ended = .ok ())
    (index : Nat)
    {found : Result}
    (untouched :
      ∀ step ∈ steps, Result.AgreeOn step.Owns found .empty) :
    (validator.runSteps environment data steps index found).ended =
        .ok () ∧
      (validator.visits environment data steps index found).flatMap
          Visit.entries =
        steps.flatMap fun step => (step.own environment data).entries := by
  have spares :=
    Step.pairwise_spares fits (apart.imp fun isApart => isApart.strangers)
      environment data
  exact
    ⟨(runSteps_ended_iff gate mapping fits spares index
        untouched).mpr answers,
      entries_visits_of_spares gate mapping fits spares answers index
        untouched⟩

end Validator

namespace Plan

/-- What the steps of a plan leave behind alone, put together. -/
def own
    (environment : Environment)
    (data : Value)
    (plan : Plan) : Result :=
  Result.empty.extend
    (plan.flatMap fun step => (step.own environment data).entries)

variable
  {environment : Environment}
  {data : Value}
  {plan : Plan}

/-- The steps of a plan leave a message behind if one of them leaves one alone. -/
theorem hasErrors_own :
    (plan.own environment data).hasErrors =
      plan.any fun step => (step.own environment data).hasErrors := by
  unfold own Result.hasErrors
  simp only [Result.empty, Result.entries_extend, List.nil_append]
  rw [List.any_flatMap]

/-- What fitting steps leave behind is recorded under texts. -/
theorem hasTextKeys_own
    (fits : ∀ step ∈ plan, step.Fits)
    (environment : Environment)
    (data : Value) :
    (plan.own environment data).HasTextKeys := by
  intro entry isEntry
  obtain ⟨step, member, recorded⟩ := List.mem_flatMap.mp isEntry
  exact (fits step member).hasTextKeys_own environment data entry recorded

/-- What steps apart leave behind encloses what each leaves behind alone. -/
theorem encloses_own_of_apart
    (fits : ∀ step ∈ plan, step.Fits)
    (apart : plan.Pairwise Step.Apart)
    (environment : Environment)
    (data : Value) :
    ∀ step ∈ plan,
      (plan.own environment data).Encloses
        (step.own environment data) step := by
  intro step member
  obtain ⟨before, after, rfl⟩ := List.append_of_mem member
  rw [List.pairwise_append, List.pairwise_cons] at apart
  refine ⟨before.flatMap fun other => (other.own environment data).entries,
    after.flatMap fun other => (other.own environment data).entries, ?_, ?_⟩
  · simp [own, Result.empty, Result.extend]
  · intro entry isOther
    rcases List.mem_append.mp isOther with early | late
    · obtain ⟨other, isBefore, recorded⟩ := List.mem_flatMap.mp early
      exact (fits other (List.mem_append_left _ isBefore)).isFarFrom
        (apart.2.2 other isBefore step (List.mem_cons_self ..)) recorded
    · obtain ⟨other, isAfter, recorded⟩ := List.mem_flatMap.mp late
      exact (fits other
          (List.mem_append_right _
            (List.mem_cons_of_mem _ isAfter))).isFarFrom
        (apart.2.1.1 other isAfter).symm recorded

end Plan

end FormCheck
