import FormCheck.Proofs.Authorship
import FormCheck.Proofs.PayloadLookup

namespace FormCheck

/-!
# Which messages a payload shows

A message is shown under its key if the key is an input or a field of the plan,
and under the field from which its key is derived otherwise. There is one way to
lose it: the payload holds it only under a field that a later step reads as an
input. If there are messages under the field itself, that step puts their list
in the place of the notice.
-/

/-- Errors show a message under a name if their notice there does. -/
def Value.Shows
    (settings : Settings)
    (errors : Value)
    (name : String)
    (message : Value) : Prop :=
  ∃ notice : Notice,
    errors.at? (.text name) = some notice.toValue ∧
      notice.Shows settings message

/-- Whether errors name one field alone, with one message in its list. -/
def Value.listsOnly
    (errors : Value)
    (field message : String) : Bool :=
  match errors with
  | .dict [(.text name, .list [.text only])] =>
      name == field && only == message
  | _ => false

/-- Errors name a field alone exactly if they are the mapping that does so. -/
theorem Value.listsOnly_iff
    {errors : Value}
    {field message : String} :
    errors.listsOnly field message = true ↔
      errors = .dict [(.text field, .list [.text message])] := by
  unfold listsOnly
  constructor
  · intro names
    split at names
    · rw [Bool.and_eq_true, beq_iff_eq, beq_iff_eq] at names
      rw [names.1, names.2]
    · cases names
  · rintro rfl
    simp

/-- What a payload shows, it shows as a mapping. -/
theorem Payload.Shows.toValue
    {settings : Settings}
    {payload : Payload}
    {name : String}
    {message : Value}
    (shown : payload.Shows settings name message) :
    payload.toValue.Shows settings name message := by
  obtain ⟨notice, found, shows⟩ := shown
  refine ⟨notice, ?_, shows⟩
  rw [Payload.at?_toValue, found]
  rfl

/-- A payload that shows a message is not empty. -/
theorem Payload.Shows.ne_nil
    {settings : Settings}
    {payload : Payload}
    {name : String}
    {message : Value}
    (shown : payload.Shows settings name message) :
    payload ≠ [] := by
  obtain ⟨notice, found, _⟩ := shown
  rintro rfl
  cases found

namespace Plan

/-- Of the steps with some property, one comes last. -/
theorem exists_last_step
    (property : Step → Prop)
    {plan : Plan}
    {step : Step}
    (member : step ∈ plan)
    (holds : property step) :
    ∃ before last after,
      plan = before ++ last :: after ∧
        property last ∧
        ∀ other ∈ after, ¬property other := by
  induction plan generalizing step with
  | nil =>
      cases member
  | cons first rest inductionHypothesis =>
      by_cases later : ∃ other ∈ rest, property other
      · obtain ⟨other, isRest, otherHolds⟩ := later
        obtain ⟨before, last, after, split, lastHolds, isLast⟩ :=
          inductionHypothesis isRest otherHolds
        exact ⟨first :: before, last, after, by rw [split]; rfl, lastHolds,
          isLast⟩
      · have isFirst : step = first :=
          (List.mem_cons.mp member).resolve_right fun isRest =>
            later ⟨step, isRest, holds⟩
        subst isFirst
        exact ⟨[], step, rest, rfl, holds, fun other isRest otherHolds =>
          later ⟨other, isRest, otherHolds⟩⟩

end Plan

namespace Report

variable
  {settings : Settings}
  {result : Result}
  {plan : Plan}
  {notices : Payload}
  {characters : String}
  {message : Value}

/-- What was recorded under an input or a field is shown under it. -/
theorem shows_of_mem_names
    (textual : result.HasTextKeys)
    (reported : standardErrors settings plan result = .ok notices)
    (recorded : Entry.error (.text characters) message ∈ result.entries)
    (accounted :
      (∃ step ∈ plan, characters ∈ step.inputs) ∨
        message.isTruthy = true)
    {step : Step}
    (member : step ∈ plan)
    (isName : characters ∈ step.names) :
    notices.Shows settings characters message := by
  by_cases isInput : ∃ reader ∈ plan, characters ∈ reader.inputs
  · exact shows_of_foldlM textual reported recorded (.inr isInput)
  · have truthy := accounted.resolve_left isInput
    have isNoInput
        (other : Step)
        (isStep : other ∈ plan) :
        characters ∉ other.inputs :=
      fun isInputThere => isInput ⟨other, isStep, isInputThere⟩
    rcases List.mem_cons.mp isName with rfl | isOwnInput
    · obtain ⟨before, after, split⟩ := List.append_of_mem member
      obtain ⟨early, between, _, stepped, others⟩ :=
        standardErrors_split split reported
      have shown :=
        shows_field_of_standardStep textual stepped recorded (.self _)
          ⟨by simpa using isNoInput, isNoInput step member⟩ truthy
      exact shows_of_foldlM textual others recorded (.inl shown)
    · exact (isNoInput step member isOwnInput).elim

/--
What was recorded under a key of a field, but under no input, is shown under the
field by its last step. It stays shown there unless a later step reads the field
and there are messages under the field, which take the place of the notice.
-/
theorem shows_field_or_listed
    (textual : result.HasTextKeys)
    (reported : standardErrors settings plan result = .ok notices)
    (recorded : Entry.error (.text characters) message ∈ result.entries)
    (truthy : message.isTruthy = true)
    {before after : List Step}
    {step : Step}
    (split : plan = before ++ step :: after)
    (belongs : (Value.text characters).BelongsTo step.field)
    (isNoInput : ∀ other ∈ plan, characters ∉ other.inputs)
    (isLast : ∀ other ∈ after, other.field ≠ step.field) :
    if (∃ reader ∈ after, step.field ∈ reader.inputs) ∧
        result.errorsAt step.key ≠ [] then
      lookup step.field notices =
        some (.many (result.errorsAt step.key))
    else
      notices.Shows settings step.field message := by
  obtain ⟨early, between, _, stepped, others⟩ :=
    standardErrors_split split reported
  have member : step ∈ plan := by
    rw [split]
    exact List.mem_append_cons_self
  have shown :=
    shows_field_of_standardStep textual stepped recorded belongs
      ⟨by simpa using isNoInput, isNoInput step member⟩ truthy
  have found := lookup_of_foldlM others isLast
  split
  case isTrue overwritten =>
    exact found.trans (if_pos overwritten)
  case isFalse kept =>
    obtain ⟨notice, held, shows⟩ := shown
    exact ⟨notice, (found.trans (if_neg kept)).trans held, shows⟩

/--
A recorded message makes the payload, and is shown somewhere in it if no step
reads the field of an earlier one.
-/
theorem shows_of_pairwise
    (textual : result.HasTextKeys)
    (reported : standardErrors settings plan result = .ok notices)
    (recorded : Entry.error (.text characters) message ∈ result.entries)
    {step : Step}
    (member : step ∈ plan)
    (accounted :
      characters ∈ step.inputs ∨
        (Value.text characters).BelongsTo step.field ∧
          message.isTruthy = true) :
    notices ≠ [] ∧
      (plan.Pairwise (fun earlier reader =>
          earlier.field ∉ reader.inputs) →
        ∃ name, notices.Shows settings name message) := by
  by_cases isInput : ∃ reader ∈ plan, characters ∈ reader.inputs
  · obtain ⟨reader, isReader, reads⟩ := id isInput
    have shown :=
      shows_of_mem_names textual reported recorded (.inl isInput) isReader
        (List.mem_cons_of_mem _ reads)
    exact ⟨shown.ne_nil, fun _ => ⟨_, shown⟩⟩
  · have isNoInput :
        ∀ other ∈ plan, characters ∉ other.inputs :=
      fun other isStep reads => isInput ⟨other, isStep, reads⟩
    obtain ⟨belongs, truthy⟩ :=
      accounted.resolve_left (isNoInput step member)
    obtain ⟨before, last, after, split, sameField, isLast⟩ :=
      Plan.exists_last_step (·.field = step.field) member rfl
    rw [← sameField] at belongs isLast
    have fate :=
      shows_field_or_listed textual reported recorded truthy split belongs
        isNoInput isLast
    by_cases overwritten :
        (∃ reader ∈ after, last.field ∈ reader.inputs) ∧
          result.errorsAt last.key ≠ []
    · rw [if_pos overwritten] at fate
      refine ⟨?_, fun apart => ?_⟩
      · rintro rfl
        cases fate
      · obtain ⟨⟨reader, isAfter, reads⟩, _⟩ := overwritten
        rw [split, List.pairwise_append, List.pairwise_cons] at apart
        exact (apart.2.1.1 reader isAfter reads).elim
    · rw [if_neg overwritten] at fate
      exact ⟨fate.ne_nil, fun _ => ⟨_, fate⟩⟩

end Report

namespace Validator

/-- A date, and a required step that reads the field of the date. -/
def dateReadAgain : Validator :=
  fixed "Form" Registry.standard <|
    .list
      [.record
          [("field", .text "dates"),
            ("fields", .list [.text "y", .text "m", .text "d"]),
            ("method", .text "validate_full_date")],
        .record
          [("field", .text "other"), ("fields", .list [.text "dates"]),
            ("method", .text "validate_integer"),
            ("required", .bool true)]]

/-- Without any data the two steps fail, and the payload names the date alone. -/
theorem exists_errors_dateReadAgain :
    ∃ errors,
      (dateReadAgain.run (.on ⟨2024, 1, 1⟩) (.dict []) .null).ended =
          .ok (.failed errors) ∧
        errors =
          .dict
            [(.text "dates", .list [.text "This field is required"])] := by
  have fails :
      (dateReadAgain.run (.on ⟨2024, 1, 1⟩) (.dict []) .null).answersWith
          (fun outcome =>
            !outcome.hasPassed &&
              outcome.errors.listsOnly "dates" "This field is required") =
        true := by
    decide +kernel
  obtain ⟨outcome, answered, shape⟩ := Journal.exists_of_answersWith fails
  rw [Bool.and_eq_true] at shape
  cases outcome with
  | passed values =>
      cases shape.1
  | failed errors =>
      exact ⟨errors, answered, Value.listsOnly_iff.mp shape.2⟩

/-- Neither step is one of the gate, and both get the inputs that they take. -/
theorem exists_plan_dateReadAgain :
    ∃ date other,
      (dateReadAgain.buildPlan (.on ⟨2024, 1, 1⟩) (.dict []) .null).ended =
          .ok [date, other] ∧
        (∀ step ∈ [date, other], step.method ≠ Registry.requiredName) ∧
        (∀ step ∈ [date, other],
          step.inputs.length = step.capability.inputs) ∧
        date.names = ["dates", "y", "m", "d"] ∧
        other.names = ["other", "dates"] := by
  apply exists_two_steps
  decide +kernel

/-- The year that is missing leaves a message under the key of its part. -/
theorem recorded_dateReadAgain :
    Event.recorded
        (.error (.text "dates_year")
          (.text "Value must be a valid integer.")) ∈
      (dateReadAgain.run (.on ⟨2024, 1, 1⟩) (.dict []) .null).written := by
  have found :
      ((dateReadAgain.reached (.on ⟨2024, 1, 1⟩) (.dict [])
            .null).errorsAt (.text "dates_year")).any
          (· == .text "Value must be a valid integer.") =
        true := by
    decide +kernel
  obtain ⟨message, member, same⟩ := List.any_eq_true.mp found
  rw [Value.beq_text_iff.mp same, Result.mem_errorsAt_iff] at member
  exact mem_reached_iff.mp member

/--
A payload does not always show every message: a required step that reads the
field of a date puts its own message in the place of those of the date's parts.
-/
theorem not_forall_messages_shown :
    ¬∀ (validator : Validator) (environment : Environment)
        (data context errors key message : Value) (plan : Plan),
      data.IsRecord →
        validator.registry = Registry.standard →
        validator.style = Report.standard →
        (validator.buildPlan environment data context).ended = .ok plan →
        (∀ step ∈ plan, step.method ≠ Registry.requiredName) →
        (∀ step ∈ plan, step.inputs.length = step.capability.inputs) →
        (validator.run environment data context).ended =
          .ok (.failed errors) →
        Event.recorded (.error key message) ∈
          (validator.run environment data context).written →
        ∃ name, errors.Shows environment.settings name message := by
  intro isShown
  obtain ⟨date, other, built, ungated, arity, _⟩ :=
    exists_plan_dateReadAgain
  obtain ⟨errors, answered, rfl⟩ := exists_errors_dateReadAgain
  obtain ⟨name, notice, found, shows⟩ :=
    isShown dateReadAgain _ _ _ _ _ _ _ ⟨[], rfl⟩ rfl rfl built ungated arity
      answered recorded_dateReadAgain
  have listed :
      notice.toValue = .list [.text "This field is required"] := by
    simp only [Value.at?, lookup] at found
    split at found
    · exact (Option.some.inj found).symm
    · cases found
  cases notice with
  | many messages =>
      cases listed
      simp only [Notice.Shows, List.mem_singleton, Value.text.injEq] at shows
      revert shows
      decide
  | one combined =>
      cases listed
      obtain ⟨_, _, _, _, isText, _⟩ := shows
      cases isText

variable
  {validator : Validator}
  {environment : Environment}
  {data context errors key message : Value}
  {plan : Plan}

/--
The fate of a message in a run that fails. Recorded under an input or a field of
the plan, it is shown under that name. Recorded under another key of a field, it
is shown under the field, unless a step behind the last one of the field reads
the field as an input and there are messages under the field itself: the payload
lists these alone then. So nothing is lost if no step reads the field of an
earlier one.
-/
theorem fate_of_message
    (library : validator.registry = Registry.standard)
    (reporting : validator.style = Report.standard)
    (built :
      (validator.buildPlan environment data context).ended = .ok plan)
    (ungated : ∀ step ∈ plan, step.method ≠ Registry.requiredName)
    (arity :
      ∀ step ∈ plan, step.inputs.length = step.capability.inputs)
    (answered :
      (validator.run environment data context).ended =
        .ok (.failed errors))
    (recorded :
      Event.recorded (.error key message) ∈
        (validator.run environment data context).written) :
    ∃ characters,
      key = .text characters ∧
        (∀ step ∈ plan, characters ∈ step.names →
          errors.Shows environment.settings characters message) ∧
        (∀ before step after,
          plan = before ++ step :: after →
            key.BelongsTo step.field →
            (∀ other ∈ plan, characters ∉ other.inputs) →
            (∀ other ∈ after, other.field ≠ step.field) →
            let own :=
              (validator.reached environment data context).errorsAt
                step.key
            if (∃ reader ∈ after, step.field ∈ reader.inputs) ∧
                own ≠ [] then
              errors.at? step.key = some (.list own)
            else
              errors.Shows environment.settings step.field message) ∧
        (plan.Pairwise (fun earlier reader =>
            earlier.field ∉ reader.inputs) →
          ∃ name, errors.Shows environment.settings name message) := by
  obtain ⟨ranPlan, _, ranBuilt, _, _, concluded⟩ :=
    course_of_answers answered
  cases built.symm.trans ranBuilt
  rw [← mem_reached_iff] at recorded
  obtain ⟨visit, visited, written⟩ :=
    exists_visit_of_mem_reached library recorded
  have inPlan := step_mem_of_mem_course built visited
  have fits := fits_of_mem_course library built ungated arity visited
  have textual := hasTextKeys_reached library built ungated arity
  generalize validator.reached environment data context = reached
    at recorded concluded textual ⊢
  have failed : reached.hasErrors = true :=
    Result.hasErrors_iff.mpr ⟨key, message, recorded⟩
  obtain ⟨payload, refused, _, same⟩ :=
    (conclude_of_hasErrors failed).mp concluded
  cases same
  obtain ⟨notices, reported, isPayload⟩ :=
    (failurePayload_eq_ok_iff reporting).mp refused
  obtain ⟨characters, rfl⟩ := textual _ recorded
  have accounted :
      characters ∈ visit.step.inputs ∨
        (Value.text characters).BelongsTo visit.step.field ∧
          message.isTruthy = true := by
    refine (fits.accounts_for written).imp_left ?_
    rintro ⟨input, isInput, same⟩
    cases same
    exact isInput
  have accountedInPlan :
      (∃ step ∈ plan, characters ∈ step.inputs) ∨
        message.isTruthy = true :=
    accounted.imp (fun isInput => ⟨visit.step, inPlan, isInput⟩) And.right
  obtain ⟨present, somewhere⟩ :=
    Report.shows_of_pairwise textual reported recorded inPlan accounted
  rw [if_neg (by simpa using present)] at isPayload
  subst isPayload
  refine ⟨characters, rfl, ?_, ?_, ?_⟩
  · intro step member isName
    exact (Report.shows_of_mem_names textual reported recorded
      accountedInPlan member isName).toValue
  · intro before step after split belongs isNoInput isLast
    have truthy :=
      accountedInPlan.resolve_left
        fun ⟨other, isStep, reads⟩ => isNoInput other isStep reads
    have fate :=
      Report.shows_field_or_listed textual reported recorded truthy split
        belongs isNoInput isLast
    dsimp only
    split
    case isTrue overwritten =>
      rw [if_pos overwritten] at fate
      unfold Step.key
      rw [Payload.at?_toValue, fate]
      rfl
    case isFalse kept =>
      rw [if_neg kept] at fate
      exact fate.toValue
  · intro apart
    obtain ⟨name, shown⟩ := somewhere apart
    exact ⟨name, shown.toValue⟩

/-- The list of the required field stands where the messages of the date were. -/
theorem fate_of_message_dateReadAgain :
    ∃ errors,
      (dateReadAgain.run (.on ⟨2024, 1, 1⟩) (.dict []) .null).ended =
          .ok (.failed errors) ∧
        errors.at? (.text "dates") =
          some
            (.list
              ((dateReadAgain.reached (.on ⟨2024, 1, 1⟩) (.dict [])
                .null).errorsAt (.text "dates"))) := by
  obtain ⟨date, other, built, ungated, arity, dateNames, otherNames⟩ :=
    exists_plan_dateReadAgain
  obtain ⟨errors, answered, _⟩ := exists_errors_dateReadAgain
  obtain ⟨characters, isText, _, fate, _⟩ :=
    fate_of_message rfl rfl built ungated arity answered
      recorded_dateReadAgain
  cases isText
  obtain ⟨isField, dateInputs⟩ := List.cons.inj dateNames
  obtain ⟨isOther, otherInputs⟩ := List.cons.inj otherNames
  have belongs : (Value.text "dates_year").BelongsTo date.field := by
    rw [isField, Value.belongsTo_text_iff]
    decide
  have isNoInput :
      ∀ step ∈ [date, other], "dates_year" ∉ step.inputs := by
    simp [dateInputs, otherInputs]
  have isLast : ∀ step ∈ [other], step.field ≠ date.field := by
    simp [isField, isOther]
  have failed :
      (dateReadAgain.reached (.on ⟨2024, 1, 1⟩) (.dict [])
        .null).errorsAt date.key ≠ [] := by
    unfold Step.key
    rw [isField]
    decide +kernel
  have overwritten :=
    fate [] date [other] rfl belongs isNoInput isLast
  dsimp only at overwritten
  rw [if_pos ⟨⟨other, List.mem_singleton_self _, by
    simp [isField, otherInputs]⟩, failed⟩] at overwritten
  unfold Step.key at overwritten
  rw [isField] at overwritten
  exact ⟨errors, answered, overwritten⟩

end Validator

end FormCheck
