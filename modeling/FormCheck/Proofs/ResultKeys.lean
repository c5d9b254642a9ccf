import FormCheck.Proofs.Authorship
import FormCheck.Proofs.PayloadLookup

namespace FormCheck

/-!
# Where the keys of a result come from

The arguments of a call are the values of the inputs, the field and the extra
arguments of the step, in a row, and a capability counts off the inputs that it
takes to find the key of its field. No check compares that number with the
inputs of the step. So the key is the field if the numbers are the same, a
submitted value if the step has more inputs, and an extra argument of the plan
if it has fewer; and whatever a capability of the library records, it records
under that key or under keys derived from it.
-/

namespace Step

/-- What the capability of a step takes for the key of its field. -/
def receivedKey?
    (step : Step)
    (data : Value) : Option Value :=
  (step.callValues data)[step.capability.inputs]?

/-- With as many inputs as its capability takes, a step hands over its field. -/
theorem receivedKey?_of_same
    {step : Step}
    (same : step.inputs.length = step.capability.inputs)
    (data : Value) :
    step.receivedKey? data = some step.key := by
  unfold receivedKey? callValues
  rw [List.getElem?_append_right (by simp [same])]
  simp [same]

/-- With more inputs, a step hands over the submitted value of one of them. -/
theorem receivedKey?_of_more
    {step : Step}
    (more : step.capability.inputs < step.inputs.length)
    (data : Value) :
    ∃ input ∈ step.inputs,
      step.receivedKey? data = some (data.submitted input) := by
  refine ⟨_, List.getElem_mem more, ?_⟩
  unfold receivedKey? callValues
  rw [List.getElem?_append_left (by simpa using more)]
  simp [more]

/-- With fewer inputs, a step hands over one of its extra arguments, if any. -/
theorem mem_arguments_of_receivedKey?
    {step : Step}
    (fewer : step.inputs.length < step.capability.inputs)
    {data owner : Value}
    (received : step.receivedKey? data = some owner) :
    owner ∈ step.arguments := by
  unfold receivedKey? callValues at received
  rw [List.getElem?_append_right (by simp; omega), List.getElem?_cons,
    if_neg (by simp; omega)] at received
  exact List.mem_of_getElem? received

/--
A key is within the reach of a step if it is an input, or if it stems from what
the capability takes for the key of its field.
-/
def Reaches
    (step : Step)
    (data key : Value) : Prop :=
  (∃ input ∈ step.inputs, key = .text input) ∨
    ∃ owner,
      step.receivedKey? data = some owner ∧ key.StemsFrom owner

end Step

/-- A disciplined capability records under what stems from the key it takes. -/
theorem Capability.Disciplined.stemsFrom_of_mem_call
    {capability : Capability}
    (disciplined : capability.Disciplined)
    {environment : Environment}
    {arguments : List Value}
    {result : Result}
    {entry : Entry}
    (member :
      entry ∈
        (capability.call environment arguments result).written) :
    ∃ owner,
      arguments[capability.inputs]? = some owner ∧
        entry.key.StemsFrom owner := by
  have sameKey :
      (arguments.drop capability.inputs).head? =
        arguments[capability.inputs]? :=
    List.head?_drop
  rw [← sameKey]
  cases taken : arguments.drop capability.inputs with
  | nil =>
      simp only [call, taken] at member
      cases member
  | cons owner extra =>
      simp only [call, taken] at member
      exact ⟨owner, rfl,
        ((disciplined ..).confined.writes result entry member).1⟩

/-- A step over the library records within its reach, whatever inputs it has. -/
theorem Step.reaches_of_mem_act
    {step : Step}
    (found : Registry.standard.find? step.method = some step.capability)
    (isOther : step.method ≠ Registry.requiredName)
    {environment : Environment}
    {data : Value}
    {result : Result}
    {entry : Entry}
    (member : entry ∈ (step.act environment data result).written) :
    step.Reaches data entry.key := by
  rcases mem_act member with gated | called
  · exact .inl (exists_input_of_mem_gateEntries gated)
  · have disciplined := Registry.disciplined_of_standard found isOther
    exact .inr (disciplined.stemsFrom_of_mem_call called)

/-- Values are held under keys under which values were recorded. -/
theorem Result.exists_value_of_mem_values
    {result : Result}
    {key : Value}
    (member : key ∈ result.values.map Prod.fst) :
    ∃ stored, Entry.value key stored ∈ result.entries := by
  have collected
      (entries : List Entry)
      (values : Entries)
      (isKey :
        key ∈ (entries.foldl collectValue values).map Prod.fst) :
      key ∈ values.map Prod.fst ∨
        ∃ stored, Entry.value key stored ∈ entries := by
    induction entries generalizing values with
    | nil =>
        exact .inl isKey
    | cons entry rest inductionHypothesis =>
        rcases inductionHypothesis _ isKey with early | ⟨stored, later⟩
        · cases entry with
          | error present message =>
              exact .inl early
          | value present stored =>
              rcases mem_keys_put early with rfl | old
              · exact .inr ⟨stored, List.mem_cons_self ..⟩
              · exact .inl old
        · exact .inr ⟨stored, List.mem_cons_of_mem _ later⟩
  rcases collected result.entries [] member with none | found
  · cases none
  · exact found

namespace Validator

/-- An email address with an input too many. -/
def emailOfTwo : Validator :=
  fixed "Form" Registry.standard <|
    .list
      [.record
        [("field", .text "email"),
          ("fields", .list [.text "email", .text "other"]),
          ("method", .text "validate_email_field")]]

/-- Data of which the second text ends up as the key of the field. -/
def twoTexts : Value :=
  .record [("email", .text "bad"), ("other", .text "evil")]

/-- The plan is accepted: one step, with its own field and both inputs. -/
theorem exists_plan_emailOfTwo :
    ∃ raw step,
      (emailOfTwo.rawPlan (.on ⟨2024, 1, 1⟩) twoTexts
          (Value.null.orElse (.dict []))).ended =
          .ok raw ∧
        (Plan.normalize {} emailOfTwo.registry raw).ended = .ok [step] ∧
        step.method ≠ Registry.requiredName ∧
        step.names = ["email", "email", "other"] := by
  have planned :
      (emailOfTwo.buildPlan (.on ⟨2024, 1, 1⟩) twoTexts .null).answersWith
          (fun plan =>
            plan.map (fun step => (step.method, step.names)) ==
              [("validate_email_field", ["email", "email", "other"])]) =
        true := by
    decide +kernel
  obtain ⟨plan, built, shape⟩ := Journal.exists_of_answersWith planned
  obtain ⟨raw, drafted, accepted, _⟩ := buildPlan_answers_iff.mp built
  rw [beq_iff_eq] at shape
  obtain ⟨step, none, rfl, same, ends⟩ := List.map_eq_cons_iff.mp shape
  cases List.map_eq_nil_iff.mp ends
  simp only [Prod.mk.injEq] at same
  refine ⟨raw, step, drafted, accepted, ?_, same.2⟩
  rw [same.1]
  decide

/-- The run records a message under the text that was submitted. -/
theorem mem_errors_emailOfTwo :
    Value.text "evil" ∈
      (Result.empty.follow
          (emailOfTwo.run (.on ⟨2024, 1, 1⟩) twoTexts
            .null).written).errors.map Prod.fst := by
  have found :
      ((Result.empty.follow
          (emailOfTwo.run (.on ⟨2024, 1, 1⟩) twoTexts
            .null).written).errors.any
          (fun item => item.1 == .text "evil")) =
        true := by
    decide +kernel
  obtain ⟨item, member, same⟩ := List.any_eq_true.mp found
  exact List.mem_map.mpr ⟨item, member, Value.beq_text_iff.mp same⟩

/--
The keys of a result do not always stem from the plan: with an input too many,
the capability takes a submitted text for the key of its field.
-/
theorem not_forall_keys_owned :
    ¬∀ (validator : Validator) (environment : Environment)
        (data context raw key : Value) (plan : Plan)
        (earlier : List Event),
      data.IsRecord →
        validator.registry = Registry.standard →
        (validator.rawPlan environment data
            (context.orElse (.dict []))).ended =
          .ok raw →
        (Plan.normalize environment.settings validator.registry
            raw).ended =
          .ok plan →
        (∀ step ∈ plan, step.method ≠ Registry.requiredName) →
        earlier <+: (validator.run environment data context).written →
        key ∈ (Result.empty.follow earlier).errors.map Prod.fst →
        ∃ step ∈ plan, step.Owns key := by
  intro isOwned
  obtain ⟨raw, step, drafted, accepted, isOther, names⟩ :=
    exists_plan_emailOfTwo
  obtain ⟨isField, inputs⟩ := List.cons.inj names
  have ungated :
      ∀ other ∈ [step], other.method ≠ Registry.requiredName := by
    simpa using isOther
  obtain ⟨other, member, owned⟩ :=
    isOwned emailOfTwo _ _ _ raw _ [step] _ ⟨_, rfl⟩ rfl drafted accepted
      ungated List.prefix_rfl mem_errors_emailOfTwo
  cases List.mem_singleton.mp member
  rw [Step.owns_text_iff, isField, inputs] at owned
  revert owned
  decide

variable
  {validator : Validator}
  {environment : Environment}
  {data context raw : Value}
  {plan : Plan}

/-- A run builds no other plan than the one that its raw plan is normalised to. -/
theorem eq_of_buildPlan
    (drafted :
      (validator.rawPlan environment data
        (context.orElse (.dict []))).ended = .ok raw)
    (accepted :
      (Plan.normalize environment.settings validator.registry raw).ended =
        .ok plan)
    {built : Plan}
    (answered :
      (validator.buildPlan environment data context).ended =
        .ok built) :
    built = plan := by
  obtain ⟨ownRaw, ownDrafted, ownAccepted, _⟩ :=
    buildPlan_answers_iff.mp answered
  cases drafted.symm.trans ownDrafted
  exact Except.ok.inj (ownAccepted.symm.trans accepted)

/-- All that a run over the library leaves behind is within reach of a step. -/
theorem reaches_of_mem_reached
    (library : validator.registry = Registry.standard)
    (drafted :
      (validator.rawPlan environment data
        (context.orElse (.dict []))).ended = .ok raw)
    (accepted :
      (Plan.normalize environment.settings validator.registry raw).ended =
        .ok plan)
    (ungated : ∀ step ∈ plan, step.method ≠ Registry.requiredName)
    {entry : Entry}
    (member :
      entry ∈ (validator.reached environment data context).entries) :
    ∃ step ∈ plan, step.Reaches data entry.key := by
  obtain ⟨visit, visited, written⟩ :=
    exists_visit_of_mem_reached library member
  obtain ⟨built, answered, _⟩ := course_of_mem visited
  obtain rfl := eq_of_buildPlan drafted accepted answered
  have inPlan := step_mem_of_mem_course answered visited
  have found := find?_of_buildPlan answered visit.step inPlan
  rw [library] at found
  exact ⟨visit.step, inPlan,
    Step.reaches_of_mem_act found (ungated _ inPlan) written⟩

/-- Whatever was recorded up to some point of a run is there in the end. -/
theorem mem_reached_of_earlier
    {earlier : List Event}
    (isEarlier :
      earlier <+: (validator.run environment data context).written)
    {entry : Entry}
    (member : entry ∈ (Result.empty.follow earlier).entries) :
    entry ∈ (validator.reached environment data context).entries := by
  rw [mem_reached_iff]
  exact isEarlier.subset (Event.mem_entries_iff.mp member)

/--
Where the keys of a run come from. A step whose inputs are as many as its
capability takes hands over its field for a key; with more inputs it hands over
what was submitted for one of them, and with fewer an extra argument, if any.
Every key of every state of the run is within reach of a step: an input of it,
or what stems from the key that it hands over. The payload has no other keys,
but those of the fields.
-/
theorem keys_of_run
    (library : validator.registry = Registry.standard)
    (reporting : validator.style = Report.standard)
    (drafted :
      (validator.rawPlan environment data
        (context.orElse (.dict []))).ended = .ok raw)
    (accepted :
      (Plan.normalize environment.settings validator.registry raw).ended =
        .ok plan)
    (ungated : ∀ step ∈ plan, step.method ≠ Registry.requiredName) :
    (∀ step ∈ plan,
        (step.inputs.length = step.capability.inputs →
            step.receivedKey? data = some step.key) ∧
          (step.capability.inputs < step.inputs.length →
            ∃ input ∈ step.inputs,
              step.receivedKey? data = some (data.submitted input)) ∧
          (step.inputs.length < step.capability.inputs →
            ∀ owner, step.receivedKey? data = some owner →
              owner ∈ step.arguments)) ∧
      (∀ earlier,
        earlier <+: (validator.run environment data context).written →
          ∀ key,
            key ∈ (Result.empty.follow earlier).values.map Prod.fst ∨
              key ∈ (Result.empty.follow earlier).errors.map Prod.fst →
            ∃ step ∈ plan, step.Reaches data key) ∧
      ∀ entries,
        (validator.run environment data context).ended =
            .ok (.failed (.dict entries)) →
          ∀ key ∈ entries.map Prod.fst,
            ∃ step ∈ plan, key = step.key ∨ step.Reaches data key := by
  refine ⟨?_, ?_, ?_⟩
  · intro step _
    exact ⟨fun same => Step.receivedKey?_of_same same data,
      fun more => Step.receivedKey?_of_more more data,
      fun fewer _ received =>
        Step.mem_arguments_of_receivedKey? fewer received⟩
  · intro earlier isEarlier key isKey
    rcases isKey with isKey | isKey
    · obtain ⟨stored, member⟩ := Result.exists_value_of_mem_values isKey
      exact reaches_of_mem_reached library drafted accepted ungated
        (mem_reached_of_earlier isEarlier member)
    · obtain ⟨message, member⟩ := Result.exists_error_of_mem_errors isKey
      exact reaches_of_mem_reached library drafted accepted ungated
        (mem_reached_of_earlier isEarlier member)
  · intro entries answered key isKey
    obtain ⟨built, _, answeredPlan, _, _, concluded⟩ :=
      course_of_answers answered
    obtain rfl := eq_of_buildPlan drafted accepted answeredPlan
    have failed :
        (validator.reached environment data context).hasErrors = true := by
      rw [← Bool.not_eq_false, ← hasPassed_iff concluded]
      exact Bool.false_ne_true
    obtain ⟨payload, refused, _, same⟩ :=
      (conclude_of_hasErrors failed).mp concluded
    obtain ⟨notices, reported, isPayload⟩ :=
      (failurePayload_eq_ok_iff reporting).mp refused
    rw [← Outcome.failed.inj same] at isPayload
    split at isPayload
    · cases isPayload
      simp only [Result.errorEntries, List.map_map] at isKey
      obtain ⟨message, member⟩ :=
        Result.exists_error_of_mem_errors isKey
      obtain ⟨step, inPlan, reaches⟩ :=
        reaches_of_mem_reached library drafted accepted ungated member
      exact ⟨step, inPlan, .inr reaches⟩
    · cases isPayload
      simp only [List.map_map] at isKey
      obtain ⟨⟨name, notice⟩, isNotice, rfl⟩ := List.mem_map.mp isKey
      obtain ⟨step, inPlan, isName⟩ :=
        Report.mem_names_of_standardErrors reported
          (List.mem_map.mpr ⟨_, isNotice, rfl⟩)
      refine ⟨step, inPlan, ?_⟩
      rcases List.mem_cons.mp isName with rfl | isInput
      · exact .inl rfl
      · exact .inr (.inl ⟨name, isInput, rfl⟩)

/-- The submitted text is within reach of a step with an input too many. -/
theorem keys_of_run_emailOfTwo :
    ∃ raw step,
      (emailOfTwo.rawPlan (.on ⟨2024, 1, 1⟩) twoTexts
          (Value.null.orElse (.dict []))).ended =
          .ok raw ∧
        (Plan.normalize {} emailOfTwo.registry raw).ended = .ok [step] ∧
        step.method ≠ Registry.requiredName ∧
        step.Reaches twoTexts (.text "evil") := by
  obtain ⟨raw, step, drafted, accepted, isOther, _⟩ :=
    exists_plan_emailOfTwo
  have ungated :
      ∀ other ∈ [step], other.method ≠ Registry.requiredName := by
    simpa using isOther
  have library : emailOfTwo.registry = Registry.standard :=
    rfl
  have reporting : emailOfTwo.style = Report.standard :=
    rfl
  obtain ⟨other, member, reaches⟩ :=
    (keys_of_run library reporting drafted accepted ungated).2.1 _
      List.prefix_rfl _ (.inr mem_errors_emailOfTwo)
  cases List.mem_singleton.mp member
  exact ⟨raw, step, drafted, accepted, isOther, reaches⟩

end Validator

end FormCheck
