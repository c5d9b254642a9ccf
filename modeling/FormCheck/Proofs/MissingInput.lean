import FormCheck.Proofs.Course
import FormCheck.Registry.Elementary

namespace FormCheck

/-!
# Required inputs that are missing

A required step is held back for an input that was not filled in, unless a value
stored under the input earlier in the run stands in for it. The missing input
leaves the message of the step behind in either case.
-/

namespace Visit

/-- Whether a visit stored something under a textual key. -/
def Stores
    (visit : Visit)
    (input : String) : Prop :=
  ∃ stored, Entry.value (.text input) stored ∈ visit.entries

end Visit

namespace Validator

/-- Two steps with one input, which only the second of them requires. -/
def oneInputTwice : Validator :=
  fixed "Form" (Registry.elementary .requiredField) <|
    .list
      [.record
          [("field", .text "first"), ("fields", .list [.text "k"]),
            ("method", .text "accept")],
        .record
          [("field", .text "second"), ("fields", .list [.text "k"]),
            ("method", .text "accept"), ("required", .bool true)]]

/--
A missing input does not always hold back a step that requires it: what the gate
of an earlier step stored for the same input stands in for it.
-/
theorem not_forall_calls_of_missing_input :
    ¬∀ (validator : Validator) (environment : Environment)
        (data context : Value) (visit : Visit),
      validator.registry.find? Registry.requiredName =
          some .requiredField →
        data.IsMapping →
        visit ∈ validator.course environment data context →
        visit.step.isRequired = true →
        (∃ input ∈ visit.step.inputs,
          (data.submitted input).isEmpty = true) →
        visit.calls = [] := by
  intro heldBack
  have called :
      ((oneInputTwice.course (.on ⟨2024, 1, 1⟩) (.dict []) .null).any
          fun visit =>
            visit.step.isRequired &&
              (visit.step.inputs.any fun input =>
                ((Value.dict []).submitted input).isEmpty) &&
              !visit.calls.isEmpty) =
        true := by
    decide +kernel
  obtain ⟨visit, member, holds⟩ := List.any_eq_true.mp called
  simp only [Bool.and_eq_true, List.any_eq_true, Bool.not_eq_true',
    List.isEmpty_eq_false_iff] at holds
  exact holds.2
    (heldBack oneInputTwice _ _ _ visit rfl ⟨[], rfl⟩ member holds.1.1
      holds.1.2)

variable
  {validator : Validator}
  {environment : Environment}
  {data context : Value}
  {earlier later : List Visit}
  {visit : Visit}

/--
A visit finds a value under a text exactly if an earlier visit stored one there.
-/
theorem hasValue_found_iff
    (split :
      validator.course environment data context =
        earlier ++ visit :: later)
    (input : String) :
    visit.found.hasValue (.text input) = true ↔
      ∃ before ∈ earlier, before.Stores input := by
  rw [found_of_split split, Result.hasValue_text_iff]
  simp only [Result.empty, Result.entries_extend, List.nil_append,
    List.mem_flatMap, Visit.Stores]
  constructor
  · rintro ⟨stored, before, isEarlier, recorded⟩
    exact ⟨before, isEarlier, stored, recorded⟩
  · rintro ⟨before, isEarlier, stored, recorded⟩
    exact ⟨stored, before, isEarlier, recorded⟩

/--
A visit finds its step held back exactly if the step requires an input that is
empty and that no earlier visit stored.
-/
theorem isHeldBack_iff
    (split :
      validator.course environment data context =
        earlier ++ visit :: later) :
    visit.isHeldBack data = true ↔
      visit.step.isRequired = true ∧
        ∃ input ∈ visit.step.inputs,
          (data.submitted input).isEmpty = true ∧
            ∀ before ∈ earlier, ¬before.Stores input := by
  have absent
      (input : String) :
      visit.found.hasValue (.text input) = false ↔
        ∀ before ∈ earlier, ¬before.Stores input := by
    rw [← Bool.not_eq_true, hasValue_found_iff split]
    simp only [not_exists, not_and]
  unfold Visit.isHeldBack Step.isHeldBack Step.isLacking
  simp only [List.any_eq_true, Bool.and_eq_true, Bool.not_eq_true', absent]
  constructor
  · rintro ⟨input, isInput, ⟨isRequired, isEmpty⟩, notStored⟩
    exact ⟨isRequired, input, isInput, isEmpty, notStored⟩
  · rintro ⟨isRequired, input, isInput, isEmpty, notStored⟩
    exact ⟨input, isInput, ⟨isRequired, isEmpty⟩, notStored⟩

/-- The visits up to one are of the first steps of the plan, in order. -/
theorem steps_prefix_plan
    (split :
      validator.course environment data context =
        earlier ++ visit :: later) :
    ∃ plan,
      (validator.buildPlan environment data context).ended = .ok plan ∧
        earlier.map Visit.step ++ [visit.step] <+: plan := by
  have member : visit ∈ validator.course environment data context := by
    rw [split]
    exact List.mem_append_cons_self
  obtain ⟨plan, built, sameCourse⟩ := course_of_mem member
  refine ⟨plan, built, ?_⟩
  have visited :=
    steps_visits_prefix validator environment data plan 0 .empty
  rw [← sameCourse, split, List.map_append, List.map_cons] at visited
  exact List.IsPrefix.trans ⟨later.map Visit.step, by simp⟩ visited

/--
In a run with the original gate, a step that is visited is not called exactly if
it is required and one of its inputs is empty and was stored by no earlier
visit. Otherwise it is called once. A required input that is empty has the
message of the step recorded, whether the step is called or not.
-/
theorem call_of_visit
    (gate :
      validator.registry.find? Registry.requiredName =
        some .requiredField)
    (mapping : data.IsMapping)
    (split :
      validator.course environment data context =
        earlier ++ visit :: later) :
    (∃ plan,
        (validator.buildPlan environment data context).ended = .ok plan ∧
          earlier.map Visit.step ++ [visit.step] <+: plan) ∧
      (visit.calls = [] ↔
        visit.step.isRequired = true ∧
          ∃ input ∈ visit.step.inputs,
            (data.submitted input).isEmpty = true ∧
              ∀ before ∈ earlier, ¬before.Stores input) ∧
      (visit.calls ≠ [] →
        visit.calls =
          [(visit.step.method, visit.step.callValues data)]) ∧
      (∀ input ∈ visit.step.inputs,
        visit.step.isRequired = true →
          (data.submitted input).isEmpty = true →
            Entry.error (.text input) (.text visit.step.message) ∈
              visit.entries) ∧
      (validator.run environment data context).written.filterMap
          Event.call? =
        (validator.course environment data context).flatMap
          Visit.calls := by
  have member : visit ∈ validator.course environment data context := by
    rw [split]
    exact List.mem_append_cons_self
  have regular := regular_course gate mapping environment context visit member
  refine ⟨steps_prefix_plan split, ?_, ?_, ?_, calls_run ..⟩
  · rw [← isHeldBack_iff split, regular.calls_eq]
    cases visit.isHeldBack data <;>
      simp
  · rw [regular.calls_eq]
    cases visit.isHeldBack data <;>
      simp
  · intro input isInput isRequired isEmpty
    rw [regular.entries_eq]
    apply Step.mem_act_of_isLacking isInput
    unfold Step.isLacking
    rw [isRequired, isEmpty]
    rfl

/-- Without the first step, the second one of the form is held back. -/
def oneInputOnce : Validator :=
  fixed "Form" (Registry.elementary .requiredField) <|
    .list
      [.record
          [("field", .text "second"), ("fields", .list [.text "k"]),
            ("method", .text "accept"), ("required", .bool true)]]

/-- A step that requires an input nobody filled in is not called. -/
theorem call_of_visit_oneInputOnce :
    ∃ (visit : Visit) (later : List Visit),
      oneInputOnce.course (.on ⟨2024, 1, 1⟩) (.dict []) .null =
          [] ++ visit :: later ∧
        visit.calls = [] := by
  have required :
      ((oneInputOnce.course (.on ⟨2024, 1, 1⟩) (.dict []) .null).head?.any
          fun visit =>
            visit.step.isRequired &&
              visit.step.inputs.any fun input =>
                ((Value.dict []).submitted input).isEmpty) =
        true := by
    decide +kernel
  cases course :
      oneInputOnce.course (.on ⟨2024, 1, 1⟩) (.dict []) .null with
  | nil =>
      rw [course] at required
      cases required
  | cons visit later =>
      rw [course] at required
      simp only [List.head?_cons, Option.any_some, Bool.and_eq_true,
        List.any_eq_true] at required
      obtain ⟨isRequired, input, isInput, isEmpty⟩ := required
      obtain ⟨_, calledIff, _⟩ :=
        call_of_visit rfl ⟨[], rfl⟩ (course.trans (List.nil_append _).symm)
      exact ⟨visit, later, rfl,
        calledIff.mpr
          ⟨isRequired, input, isInput, isEmpty, List.forall_mem_nil _⟩⟩

end Validator

end FormCheck
