import FormCheck.Proofs.Territory
import FormCheck.Proofs.Verdict

namespace FormCheck

/-!
# Who recorded an entry

Whatever a run records, it records in the visit of a step of its plan, through
the gate or through the capability of the step. A message of the gate is under
an input of the step. A message of a capability of the library, called with as
many inputs as it takes, is under a key of the field and is not empty.
-/

namespace Validator

variable
  {validator : Validator}
  {environment : Environment}
  {data context : Value}
  {plan : Plan}
  {visit : Visit}
  {entry : Entry}

/-- The visits of a run are of steps of its plan. -/
theorem step_mem_of_mem_course
    (built :
      (validator.buildPlan environment data context).ended = .ok plan)
    (member : visit ∈ validator.course environment data context) :
    visit.step ∈ plan := by
  obtain ⟨ranPlan, ranBuilt, sameCourse⟩ := course_of_mem member
  cases built.symm.trans ranBuilt
  rw [sameCourse] at member
  have inOrder :=
    steps_visits_prefix validator environment data plan 0 .empty
  exact inOrder.subset (List.mem_map_of_mem member)

/-- The steps that a run over the library visits fit if their inputs do. -/
theorem fits_of_mem_course
    (library : validator.registry = Registry.standard)
    (built :
      (validator.buildPlan environment data context).ended = .ok plan)
    (ungated : ∀ step ∈ plan, step.method ≠ Registry.requiredName)
    (arity :
      ∀ step ∈ plan, step.inputs.length = step.capability.inputs)
    (member : visit ∈ validator.course environment data context) :
    visit.step.Fits := by
  have inPlan := step_mem_of_mem_course built member
  have found := find?_of_buildPlan built visit.step inPlan
  rw [library] at found
  exact ⟨found, ungated _ inPlan, arity _ inPlan⟩

/-- The original gate guards the capabilities of the library. -/
theorem gate_of_library
    (library : validator.registry = Registry.standard) :
    validator.registry.find? Registry.requiredName =
      some .requiredField := by
  rw [library]
  rfl

/-- Only data that are a mapping let a run visit anything. -/
theorem isMapping_of_mem_course
    (member : visit ∈ validator.course environment data context) :
    data.IsMapping := by
  unfold course at member
  split at member
  case h_1 plan opened =>
    obtain ⟨⟨⟩, announced, _⟩ := Journal.ended_bind_eq_ok_iff.mp opened
    exact isMapping_of_announce announced
  case h_2 =>
    cases member

/-- Every entry was recorded by the step of a visit. -/
theorem exists_visit_of_mem_reached
    (library : validator.registry = Registry.standard)
    (member :
      entry ∈ (validator.reached environment data context).entries) :
    ∃ visit ∈ validator.course environment data context,
      entry ∈
        (visit.step.act environment data visit.found).written := by
  obtain ⟨visit, visited, isEntry⟩ := List.mem_flatMap.mp member
  have regular :=
    regular_course (gate_of_library library)
      (isMapping_of_mem_course visited) environment context visit visited
  rw [regular.entries_eq] at isEntry
  exact ⟨visit, visited, isEntry⟩

/-- Fitting steps leave nothing behind but under texts. -/
theorem hasTextKeys_reached
    (library : validator.registry = Registry.standard)
    (built :
      (validator.buildPlan environment data context).ended = .ok plan)
    (ungated : ∀ step ∈ plan, step.method ≠ Registry.requiredName)
    (arity :
      ∀ step ∈ plan, step.inputs.length = step.capability.inputs) :
    (validator.reached environment data context).HasTextKeys := by
  intro entry member
  obtain ⟨visit, visited, written⟩ :=
    exists_visit_of_mem_reached library member
  have fits := fits_of_mem_course library built ungated arity visited
  exact (fits.owns_of_mem_act written).isText

/-- What a run records is what it leaves behind. -/
theorem mem_reached_iff :
    entry ∈ (validator.reached environment data context).entries ↔
      Event.recorded entry ∈
        (validator.run environment data context).written := by
  rw [← Event.mem_entries_iff, entries_run]
  rfl

/-- A plan that is checked to have two steps of the library, with some names. -/
theorem exists_two_steps
    {first second : List String}
    (checked :
      (validator.buildPlan environment data context).answersWith
          (fun plan =>
            plan.all (fun step =>
                step.method != Registry.requiredName &&
                  step.inputs.length == step.capability.inputs) &&
              plan.map Step.names == [first, second]) =
        true) :
    ∃ one other,
      (validator.buildPlan environment data context).ended =
          .ok [one, other] ∧
        (∀ step ∈ [one, other], step.method ≠ Registry.requiredName) ∧
        (∀ step ∈ [one, other],
          step.inputs.length = step.capability.inputs) ∧
        one.names = first ∧
        other.names = second := by
  obtain ⟨plan, built, holds⟩ := Journal.exists_of_answersWith checked
  simp only [List.all_eq_true, Bool.and_eq_true, bne_iff_ne, ne_eq,
    beq_iff_eq] at holds
  obtain ⟨proper, names⟩ := holds
  obtain ⟨one, others, rfl, isFirst, follow⟩ :=
    List.map_eq_cons_iff.mp names
  obtain ⟨other, none, rfl, isSecond, ends⟩ :=
    List.map_eq_cons_iff.mp follow
  cases List.map_eq_nil_iff.mp ends
  exact ⟨one, other, built, fun step member => (proper step member).1,
    fun step member => (proper step member).2, isFirst, isSecond⟩

end Validator

end FormCheck
