import FormCheck.Proofs.Course
import FormCheck.Proofs.Messages

namespace FormCheck

/-!
# How a run ends

A run that answers has announced its data, which is a mapping then, has built
its plan and has visited every step of it. The answer depends on one thing that
the visits leave behind, whether any message was recorded: with one the run
fails with a payload that is never empty, without one it passes.
-/

/-- A run in two parts answers exactly if both parts do. -/
theorem Run.ended_bind_eq_ok_iff
    {leading : Run middle}
    {continuation : middle → Run answer}
    {result : Result}
    {value : answer} :
    ((leading >>= continuation) result).ended = .ok value ↔
      ∃ reached,
        (leading result).ended = .ok reached ∧
          (continuation reached
              (result.follow (leading result).written)).ended =
            .ok value :=
  Journal.ended_bind_eq_ok_iff

/-- Only mappings have keys. -/
theorem Value.isMapping_of_keys
    {value : Value}
    {keys : List Value}
    (answered : value.keys = .ok keys) :
    value.IsMapping := by
  cases value with
  | dict entries =>
      exact ⟨entries, rfl⟩
  | null | bool | int | float | text | bytes | date | dateTime
    | list | tuple | set | cycle =>
      cases answered

namespace Validator

variable
  {validator : Validator}
  {environment : Environment}
  {data context : Value}

/-- Data whose fields are announced are a mapping. -/
theorem isMapping_of_announce
    (announced : (validator.announce data).ended = .ok ()) :
    data.IsMapping := by
  obtain ⟨listing, listed, _⟩ := Journal.ended_bind_eq_ok_iff.mp announced
  cases keys : data.keys with
  | ok keys =>
      exact Value.isMapping_of_keys keys
  | error fault =>
      change keyListing data = .ok listing at listed
      unfold keyListing at listed
      rw [keys] at listed
      cases listed

/-- A validator builds what its raw plan is normalised to, if that can be written. -/
theorem buildPlan_answers_iff
    {plan : Plan} :
    (validator.buildPlan environment data context).ended = .ok plan ↔
      ∃ raw,
        (validator.rawPlan environment data
            (context.orElse (.dict []))).ended =
            .ok raw ∧
          (Plan.normalize environment.settings validator.registry
              raw).ended =
            .ok plan ∧
          ∃ description, plan.toValue.written = .ok description := by
  unfold buildPlan
  simp only [Journal.ended_bind_eq_ok_iff]
  constructor
  · rintro ⟨raw, drafted, normal, accepted, description, isWritten,
      ⟨⟩, _, ended⟩
    cases ended
    exact ⟨raw, drafted, accepted, description, isWritten⟩
  · rintro ⟨raw, drafted, accepted, description, isWritten⟩
    exact ⟨raw, drafted, plan, accepted, description, isWritten, (), rfl,
      rfl⟩

/-- What the visits of a run leave behind. -/
def reached
    (validator : Validator)
    (environment : Environment)
    (data context : Value) : Result :=
  Result.empty.extend
    ((validator.course environment data context).flatMap Visit.entries)

/--
A run answers exactly if its data are announced, its plan is built, all steps
are done and the conclusion of what they leave behind answers.
-/
theorem run_answers_iff
    {outcome : Outcome} :
    (validator.run environment data context).ended = .ok outcome ↔
      ∃ plan,
        (validator.announce data).ended = .ok () ∧
          (validator.buildPlan environment data context).ended = .ok plan ∧
          (validator.runSteps environment data plan 0 .empty).ended =
            .ok () ∧
          (validator.conclude environment plan
              (validator.reached environment data context)).ended =
            .ok outcome := by
  have openingAnswers
      (plan : Plan) :
      (validator.opening environment data context).ended = .ok plan ↔
        (validator.announce data).ended = .ok () ∧
          (validator.buildPlan environment data context).ended =
            .ok plan := by
    refine Journal.ended_bind_eq_ok_iff.trans ?_
    constructor
    · rintro ⟨⟨⟩, announced, built⟩
      exact ⟨announced, built⟩
    · rintro ⟨announced, built⟩
      exact ⟨(), announced, built⟩
  unfold reached course
  cases opened : validator.opening environment data context with
  | mk records ended =>
      have answers := openingAnswers
      rw [opened] at answers
      cases ended with
      | error fault =>
          rw [run_of_opening_error opened]
          constructor
          · intro answered
            cases answered
          · rintro ⟨plan, announced, built, _⟩
            cases (answers plan).mpr ⟨announced, built⟩
      | ok plan =>
          obtain ⟨rest, ran, rfl⟩ := run_of_opening_ok opened
          obtain ⟨announced, built⟩ := (answers plan).mp rfl
          have left :
              Result.empty.follow
                  (validator.runSteps environment data plan 0
                    .empty).written =
                Result.empty.extend
                  ((validator.visits environment data plan 0
                    .empty).flatMap Visit.entries) := by
            rw [Result.follow, written_runSteps, List.filterMap_flatMap]
            rfl
          rw [ran]
          refine Run.ended_bind_eq_ok_iff.trans ?_
          rw [left]
          constructor
          · rintro ⟨⟨⟩, stepped, concluded⟩
            exact ⟨plan, announced, built, stepped, concluded⟩
          · rintro ⟨other, _, builtOther, stepped, concluded⟩
            cases built.symm.trans builtOther
            exact ⟨(), stepped, concluded⟩

/-- The visits of a run whose plan is built are those of its steps. -/
theorem course_of_buildPlan
    {plan : Plan}
    (announced : (validator.announce data).ended = .ok ())
    (built :
      (validator.buildPlan environment data context).ended = .ok plan) :
    validator.course environment data context =
      validator.visits environment data plan 0 .empty := by
  have opened :
      (validator.opening environment data context).ended = .ok plan :=
    Journal.ended_bind_eq_ok_iff.mpr ⟨(), announced, built⟩
  unfold course
  rw [opened]

/--
A run that answers has visited each step of its plan, none of them at fault, and
has answered with the conclusion of what they left behind.
-/
theorem course_of_answers
    {outcome : Outcome}
    (answered :
      (validator.run environment data context).ended = .ok outcome) :
    ∃ plan,
      data.IsMapping ∧
        (validator.buildPlan environment data context).ended = .ok plan ∧
        (validator.course environment data context).map Visit.step =
          plan ∧
        (∀ visit ∈ validator.course environment data context,
          visit.history.ended = .ok ()) ∧
        (validator.conclude environment plan
            (validator.reached environment data context)).ended =
          .ok outcome := by
  obtain ⟨plan, announced, built, done, concluded⟩ :=
    run_answers_iff.mp answered
  have sameCourse := course_of_buildPlan announced built
  refine ⟨plan, isMapping_of_announce announced, built, ?_, ?_, concluded⟩
  · rw [sameCourse]
    exact steps_visits done
  · rw [sameCourse]
    exact ended_of_mem_visits done

/-- What a run leaves behind is what one visit does, and the later visits. -/
theorem reached_of_split
    {earlier later : List Visit}
    {visit : Visit}
    (split :
      validator.course environment data context =
        earlier ++ visit :: later) :
    validator.reached environment data context =
      (visit.found.extend visit.entries).extend
        (later.flatMap Visit.entries) := by
  unfold reached
  rw [found_of_split split, split]
  simp

/-! ## The conclusion -/

/-- With a message recorded, a conclusion answers with the payload. -/
theorem conclude_of_hasErrors
    {plan : Plan}
    {result : Result}
    {outcome : Outcome}
    (failed : result.hasErrors = true) :
    (validator.conclude environment plan result).ended = .ok outcome ↔
      ∃ payload,
        validator.failurePayload environment plan result = .ok payload ∧
          (∃ listing, keyListing payload = .ok listing) ∧
          outcome = .failed payload := by
  have looked :
      Run.result result = ⟨[], .ok result⟩ :=
    rfl
  unfold conclude
  rw [Run.bind_of_ok looked, result.follow_of_silent rfl]
  simp only [failed, ↓reduceIte]
  constructor
  · intro answered
    obtain ⟨payload, reported, listed⟩ :=
      Run.ended_bind_eq_ok_iff.mp answered
    obtain ⟨listing, written, logged⟩ := Run.ended_bind_eq_ok_iff.mp listed
    obtain ⟨⟨⟩, _, ended⟩ := Run.ended_bind_eq_ok_iff.mp logged
    cases ended
    exact ⟨payload, reported, ⟨listing, written⟩, rfl⟩
  · rintro ⟨payload, reported, ⟨listing, written⟩, rfl⟩
    rw [reported, Run.lift_ok_bind, written, Run.lift_ok_bind]
    rfl

/-- Without a message recorded, a conclusion answers with the values. -/
theorem conclude_of_not_hasErrors
    {plan : Plan}
    {result : Result}
    {outcome : Outcome}
    (passed : result.hasErrors = false) :
    (validator.conclude environment plan result).ended = .ok outcome ↔
      ∃ values,
        validator.style.values plan result = .ok values ∧
          outcome = .passed (.record values) := by
  have looked :
      Run.result result = ⟨[], .ok result⟩ :=
    rfl
  unfold conclude
  rw [Run.bind_of_ok looked, result.follow_of_silent rfl]
  simp only [passed, Bool.false_eq_true, ↓reduceIte]
  constructor
  · intro answered
    obtain ⟨⟨⟩, _, reported⟩ := Run.ended_bind_eq_ok_iff.mp answered
    obtain ⟨values, listed, ended⟩ := Run.ended_bind_eq_ok_iff.mp reported
    cases ended
    exact ⟨values, listed, rfl⟩
  · rintro ⟨values, reported, rfl⟩
    rw [reported]
    rfl

/-- The standard report of a failure: its payload, or all errors without one. -/
theorem failurePayload_eq_ok_iff
    (reporting : validator.style = Report.standard)
    {plan : Plan}
    {result : Result}
    {errors : Value} :
    validator.failurePayload environment plan result = .ok errors ↔
      ∃ notices,
        Report.standardErrors environment.settings plan result =
            .ok notices ∧
          errors =
            if notices.isEmpty then .dict result.errorEntries
            else notices.toValue := by
  unfold failurePayload
  rw [reporting, Except.bind_eq_ok_iff]
  constructor
  · rintro ⟨notices, reported, chosen⟩
    cases chosen
    exact ⟨notices, reported, rfl⟩
  · rintro ⟨notices, reported, rfl⟩
    exact ⟨notices, reported, rfl⟩

/-- The payload of a failed run is never empty. -/
theorem failurePayload_ne_empty
    {plan : Plan}
    {result : Result}
    {payload : Value}
    (failed : result.hasErrors = true)
    (answered :
      validator.failurePayload environment plan result = .ok payload) :
    ∃ first rest, payload = .dict (first :: rest) := by
  unfold failurePayload at answered
  cases reported :
      validator.style.errors environment.settings plan result with
  | error fault =>
      rw [reported] at answered
      cases answered
  | ok notices =>
      rw [reported] at answered
      cases notices with
      | cons first rest =>
          cases answered
          exact ⟨_, _, rfl⟩
      | nil =>
          cases answered
          change ∃ first rest, Value.dict result.errorEntries = _
          unfold Result.errorEntries
          cases errors : result.errors with
          | nil =>
              exact (Result.errors_ne_nil failed errors).elim
          | cons first rest =>
              exact ⟨_, _, rfl⟩

end Validator

end FormCheck
