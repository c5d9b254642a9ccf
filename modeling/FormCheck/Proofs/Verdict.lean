import FormCheck.Proofs.Ending
import FormCheck.Proofs.Plan
import FormCheck.Registry.Elementary

namespace FormCheck

/-!
# The verdict of a run

With the original gate a run passes exactly if it recorded no message. The gate
records a message for each lacking input, so in a run that passes no required
input was empty, no step was held back, and each capability was called once, in
the order of the plan.
-/

/-- Entries are recorded in events exactly if the events hold them. -/
theorem Event.mem_entries_iff
    {entry : Entry}
    {events : List Event} :
    entry ∈ events.filterMap Event.entry? ↔
      Event.recorded entry ∈ events := by
  rw [List.mem_filterMap]
  constructor
  · rintro ⟨event, member, shows⟩
    cases event with
    | recorded present =>
        cases shows
        exact member
    | logged record =>
        cases shows
    | called method arguments =>
        cases shows
  · intro member
    exact ⟨_, member, rfl⟩

namespace Validator

variable
  {validator : Validator}
  {environment : Environment}
  {data context : Value}
  {outcome : Outcome}

/-- A run passes exactly if what it leaves behind has no message. -/
theorem hasPassed_iff
    {plan : Plan}
    {result : Result}
    (concluded :
      (validator.conclude environment plan result).ended = .ok outcome) :
    outcome.hasPassed = true ↔ result.hasErrors = false := by
  cases failed : result.hasErrors with
  | true =>
      obtain ⟨payload, _, _, rfl⟩ :=
        (conclude_of_hasErrors failed).mp concluded
      simp [Outcome.hasPassed]
  | false =>
      obtain ⟨values, _, rfl⟩ :=
        (conclude_of_not_hasErrors failed).mp concluded
      simp [Outcome.hasPassed]

/--
In a run without a message every visit is of a step that lacks nothing and calls
its capability once.
-/
theorem calls_of_not_hasErrors
    (gate :
      validator.registry.find? Registry.requiredName =
        some .requiredField)
    (mapping : data.IsMapping)
    (passed :
      (validator.reached environment data context).hasErrors = false) :
    ∀ visit ∈ validator.course environment data context,
      (∀ input ∈ visit.step.inputs,
          visit.step.isLacking data input = false) ∧
        visit.calls =
          [(visit.step.method, visit.step.callValues data)] := by
  intro visit member
  have regular := regular_course gate mapping environment context visit member
  have clean
      (key message : Value) :
      Entry.error key message ∉
        (visit.step.act environment data visit.found).written := by
    intro recorded
    rw [← regular.entries_eq] at recorded
    have failed :
        (validator.reached environment data context).hasErrors = true :=
      Result.hasErrors_iff.mpr
        ⟨key, message, List.mem_flatMap.mpr ⟨visit, member, recorded⟩⟩
    rw [passed] at failed
    cases failed
  have complete
      (input : String)
      (isInput : input ∈ visit.step.inputs) :
      visit.step.isLacking data input = false :=
    Step.isLacking_eq_false clean isInput
  have notHeld : visit.isHeldBack data = false :=
    Step.isHeldBack_eq_false complete visit.found
  refine ⟨complete, ?_⟩
  rw [regular.calls_eq, notHeld]
  rfl

/-- The plan that a validator builds comes from its registry. -/
theorem find?_of_buildPlan
    {plan : Plan}
    (built :
      (validator.buildPlan environment data context).ended = .ok plan) :
    ∀ step ∈ plan,
      validator.registry.find? step.method = some step.capability := by
  obtain ⟨raw, _, accepted, _⟩ := buildPlan_answers_iff.mp built
  exact Plan.find?_of_normalize accepted

/--
The verdict of a run that answers. It passes exactly if no message was recorded
in its whole history. If it passes, no required input is empty, and the calls
are those of the steps, once each and in order. If it fails, there are no values
and the payload is not empty.
-/
theorem verdict_of_run
    (gate :
      validator.registry.find? Registry.requiredName =
        some .requiredField)
    (answered :
      (validator.run environment data context).ended = .ok outcome) :
    ∃ plan,
      (validator.buildPlan environment data context).ended = .ok plan ∧
        (∀ step ∈ plan,
          validator.registry.find? step.method =
            some step.capability) ∧
        (outcome.hasPassed = true ↔
          ∀ key message,
            Event.recorded (.error key message) ∉
              (validator.run environment data context).written) ∧
        (outcome.hasPassed = true →
          (∀ step ∈ plan, step.isRequired = true →
            ∀ input ∈ step.inputs,
              (data.submitted input).isEmpty = false) ∧
            (validator.run environment data context).written.filterMap
                Event.call? =
              plan.map fun step => (step.method, step.callValues data)) ∧
        (outcome.hasPassed = false →
          outcome.values = .dict [] ∧
            ∃ first rest, outcome.errors = .dict (first :: rest)) := by
  obtain ⟨plan, mapping, built, rfl, _, concluded⟩ :=
    course_of_answers answered
  have passedIff := hasPassed_iff concluded
  refine ⟨_, built, find?_of_buildPlan built, ?_, ?_, ?_⟩
  · rw [passedIff, ← Bool.not_eq_true, Result.hasErrors_iff]
    simp only [← Event.mem_entries_iff, entries_run, not_exists]
    rfl
  · intro passed
    have clean :=
      calls_of_not_hasErrors gate mapping (passedIff.mp passed)
    constructor
    · intro step member isRequired input isInput
      obtain ⟨visit, visited, rfl⟩ := List.mem_map.mp member
      have filled := (clean visit visited).1 input isInput
      unfold Step.isLacking at filled
      rw [isRequired] at filled
      exact filled
    · rw [calls_run, List.flatMap_def, List.map_map]
      have sameCalls :
          (validator.course environment data context).map Visit.calls =
            (validator.course environment data context).map
              fun visit =>
                [(visit.step.method, visit.step.callValues data)] :=
        List.map_congr_left fun visit visited => (clean visit visited).2
      rw [sameCalls, ← List.flatMap_def]
      exact List.map_eq_flatMap.symm
  · intro failed
    cases hasErrors :
        (validator.reached environment data context).hasErrors with
    | false =>
        rw [passedIff.mpr hasErrors] at failed
        cases failed
    | true =>
        obtain ⟨payload, reported, _, rfl⟩ :=
          (conclude_of_hasErrors hasErrors).mp concluded
        exact ⟨rfl, failurePayload_ne_empty hasErrors reported⟩

/-- A form of two steps, the first of which has a required input. -/
def twoSteps : Validator :=
  fixed "Form" (Registry.elementary .requiredField) <|
    .list
      [.record
          [("field", .text "first"), ("method", .text "accept"),
            ("required", .bool true)],
        .record [("field", .text "second"), ("method", .text "accept")]]

/-- Data for the form of two steps, with both inputs filled in. -/
def twoInputs : Value :=
  .record [("first", .text "a"), ("second", .text "b")]

/-- Filled in, the form of two steps passes and calls both capabilities. -/
theorem verdict_of_twoSteps :
    ∃ (outcome : Outcome) (plan : Plan),
      (twoSteps.run (.on ⟨2024, 1, 1⟩) twoInputs .null).ended =
          .ok outcome ∧
        outcome.hasPassed = true ∧
        (twoSteps.run (.on ⟨2024, 1, 1⟩) twoInputs .null).written.filterMap
            Event.call? =
          plan.map fun step =>
            (step.method, step.callValues twoInputs) := by
  have answers :
      (twoSteps.run (.on ⟨2024, 1, 1⟩) twoInputs .null).answersWith
          Outcome.hasPassed =
        true := by
    decide +kernel
  obtain ⟨outcome, answered, passed⟩ :=
    Journal.exists_of_answersWith answers
  obtain ⟨plan, _, _, _, ifPassed, _⟩ := verdict_of_run rfl answered
  exact ⟨outcome, plan, answered, passed, (ifPassed passed).2⟩

end Validator

end FormCheck
