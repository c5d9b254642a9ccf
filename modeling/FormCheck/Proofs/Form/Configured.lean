import FormCheck.Form.Configured
import FormCheck.PlanFile.Bundled
import FormCheck.Proofs.Form.Step
import FormCheck.Proofs.PlanFile
import FormCheck.Proofs.Wording

namespace FormCheck.Form.Configured

/-!
# The configured forms of the bundled plans

A session that has read nothing else takes the plans of these forms from the
bundled configuration. The options of a restoration stand for those that the
context supplies.
-/

/-- A session is loyal if its snapshot, if any, is the bundled configuration. -/
def IsLoyal
    (session : PlanFile.Session) : Prop :=
  session.snapshot = none ∨ session.snapshot = some PlanFile.bundled

/-- A loyal session asks the bundled configuration. -/
theorem query_of_isLoyal
    {session : PlanFile.Session}
    (loyal : IsLoyal session)
    (question : Value → Except Fault answer) :
    (session.query (some (.ok PlanFile.bundled)) question).2.ended =
      question PlanFile.bundled := by
  have answered :
      (session.configuration (some (.ok PlanFile.bundled))).2.ended =
        .ok PlanFile.bundled := by
    obtain ⟨path, snapshot⟩ := session
    rcases loyal with rfl | rfl <;> rfl
  exact PlanFile.Session.ended_query_of_configuration answered question

/-! ## Resolved plans -/

section Resolution

variable
  {form : String}
  {context : Value}

/-- What a step stands for under a context, wherever it is in its plan. -/
def StandsFor
    (form : String)
    (context step resolved : Value) : Prop :=
  ∀ index, (resolveStep form context index step).ended = .ok resolved

/-- Steps stand for what each of them stands for. -/
theorem resolveSteps_of_standsFor
    {steps resolved : List Value}
    (stand : List.Forall₂ (StandsFor form context) steps resolved)
    (index : Nat) :
    (resolveSteps form context steps index).ended = .ok resolved := by
  induction stand generalizing index with
  | nil =>
      rfl
  | cons stands _ inductionHypothesis =>
      unfold resolveSteps
      rw [Journal.bind_of_ok (stands index),
        Journal.bind_of_ok (inductionHypothesis (index + 1))]
      rfl

/-- An argument that refers to supplied options stands for them. -/
theorem resolveArgument_of_supplies
    {argument : Value}
    {key : String}
    (refers : contextKey? argument = some key)
    {options : List (String × Value)}
    (supplies : context.Supplies key options)
    (index : Nat) :
    resolveArgument form context index argument =
      ⟨[], .ok (.record options)⟩ := by
  obtain ⟨entries, rfl, found⟩ := supplies
  have holds : (Value.dict entries).holdsText key = .ok true := by
    change Except.ok (lookup (Value.text key) entries).isSome = _
    rw [found]
    rfl
  have holdsValue :
      (Value.dict entries).atKey key = .ok (.record options) := by
    unfold Value.atKey
    simp only [found]
  unfold resolveArgument
  simp only [refers, holds, holdsValue]
  rfl

/-- A step whose only argument refers to supplied options stands for one with them. -/
theorem standsFor_of_supplies
    {entries : Entries}
    {argument : Value}
    (lists : lookup (Value.text "args") entries = some (.list [argument]))
    {key : String}
    (refers : contextKey? argument = some key)
    {options : List (String × Value)}
    (supplies : context.Supplies key options) :
    StandsFor form context (.dict entries)
      (.dict
        (put (.text "args") (.list [.record options]) entries)) := by
  intro index
  unfold resolveStep
  simp only [lists]
  unfold resolveArguments
  rw [resolveArgument_of_supplies refers supplies]
  rfl

end Resolution

/-! ## The three plans -/

/-- The message for required inputs of the bundled configuration. -/
def message : String :=
  "This field is required"

/-- The plan for changing the date of an application. -/
def applicationDatePlan : Plan :=
  [requiredField message "obsapp_id" "validate_obs_app_id_field"
      .applicationNumber [],
    requiredField message "timestamp" "validate_unix_timestamp" .timestamp
      [.int 1]]

/-- The plan for requesting the restoration of data. -/
def restorationPlan
    (instruments : List (String × Value)) : Plan :=
  [requiredField message "program" "validate_program_number_field"
      .programNumber [],
    requiredField message "email" "validate_email_field" .email [.int 70],
    dateRangeField,
    requiredField message "instrument" "validate_selection" .selection
      [.record instruments],
    optionalField message "comments" "validate_long_text_field" .longText
      []]

/-- The step of a two-way switch. -/
def switchField
    (field method : String) : Step :=
  requiredField message field method .binaryOption []

/-- The step of the interval between reminders. -/
def intervalField : Step :=
  requiredField message "interval" "validate_number_in_range" .numberInRange
    [.int 1, .int 52]

/-- The plan for sending reminders of feedback. -/
def reminderPlan : Plan :=
  [requiredField message "semester" "validate_semester_field" .semester [],
    switchField "emails_send_type" "validate_emails_send_type",
    intervalField,
    switchField "interval_unit" "validate_interval_unit_type"]

/--
A name stands for a plan under a context if its raw plan in the bundled
configuration is normalised to the plan once its arguments are resolved.
-/
structure Names
    (name : String)
    (context : Value)
    (plan : Plan) : Prop where
  normal :
    ∀ settings, ∃ raw resolved,
      PlanFile.formPlan (.text name) PlanFile.bundled = .ok raw ∧
        List.Forall₂ (StandsFor name context) raw resolved ∧
        (Plan.normalize settings Registry.standard
            (.list resolved)).ended =
          .ok plan

/-- The plan for changing the date of an application has its name. -/
theorem names_applicationDatePlan
    (context : Value) :
    Names "update_application_date" context applicationDatePlan where
  normal _ :=
    ⟨_, _, rfl, .cons (fun _ => rfl) (.cons (fun _ => rfl) .nil), rfl⟩

/-- The plan for sending reminders has its name. -/
theorem names_reminderPlan
    (context : Value) :
    Names "process_feedback_reminders" context reminderPlan where
  normal _ :=
    ⟨_, _, rfl,
      .cons (fun _ => rfl) <| .cons (fun _ => rfl) <|
        .cons (fun _ => rfl) <| .cons (fun _ => rfl) .nil,
      rfl⟩

/-- The plan for requesting a restoration has its name where there are options. -/
theorem names_restorationPlan
    {context : Value}
    {instruments : List (String × Value)}
    (supplies : context.Supplies "instruments" instruments) :
    Names "obs_data_restoration_request" context
      (restorationPlan instruments) where
  normal _ := by
    exact ⟨_, _, rfl,
      .cons (fun _ => rfl) <| .cons (fun _ => rfl) <|
        .cons (fun _ => rfl) <|
        .cons (standsFor_of_supplies rfl rfl supplies) <|
        .cons (fun _ => rfl) .nil,
      rfl⟩

/-! ## Runs -/

section Runs

variable
  {session : PlanFile.Session}
  {name : String}
  {validator : Validator}
  {environment : Environment}
  {minimal future : Int}
  {data context : Value}

/-- A configured form arranges the plan that its name stands for. -/
theorem arranges_of_names
    (loyal : IsLoyal session)
    (made :
      Configured.validator Registry.standard session
          (some (.ok PlanFile.bundled)) (.text name) =
        .ok validator)
    {plan : Plan}
    (names : Names name (context.orElse (.dict [])) plan)
    (isRecord : data.IsRecord)
    (fits : ∀ step ∈ plan, step.Fits)
    (spares : plan.Pairwise (Step.Spares environment data)) :
    validator.style = Report.standard ∧
      validator.Arranges environment data context plan := by
  cases made
  refine ⟨rfl, rfl, isRecord, ?_, fits, spares⟩
  obtain ⟨raw, resolved, found, stand, normal⟩ :=
    names.normal environment.settings
  refine ⟨_, ?_, normal⟩
  have asked :=
    (query_of_isLoyal loyal (PlanFile.formPlan (.text name))).trans found
  change
    (rawPlan session (some (.ok PlanFile.bundled)) (.text name) name
        (context.orElse (.dict []))).ended =
      _
  unfold rawPlan
  rw [Journal.bind_of_ok asked]
  have resolves := resolveSteps_of_standsFor stand 0
  dsimp only
  split
  · rw [Journal.bind_of_ok resolves]
    rfl
  · rw [Journal.bind_of_ok resolves]
    rfl

/-! ### Changing the date of an application -/

/-- The steps of the plan for changing a date fit the library. -/
theorem fits_of_mem_applicationDatePlan :
    ∀ step ∈ applicationDatePlan, step.Fits := by
  simp only [applicationDatePlan, List.forall_mem_cons]
  exact ⟨fits_requiredField rfl (by decide) rfl ..,
    fits_requiredField rfl (by decide) rfl .., List.forall_mem_nil _⟩

/-- The steps of the plan for changing a date decide on numbers that fit. -/
theorem decides_of_mem_applicationDatePlan
    (numberFits : (data.submitted "obsapp_id").FitsInto environment.memory)
    (timeFits : (data.submitted "timestamp").FitsInto environment.memory) :
    ∀ step ∈ applicationDatePlan,
      ∃ rulings, step.Decides environment data rulings := by
  have number : Check.Rules "obsapp_id" [] _ _ _ :=
    Check.Rules.integerRange numberFits (some 1) none
      (Value.isAnswerable_of_writable
        (.some (Number.isWritable_of_lt (by decide))) .none _)
  have timestamp : Check.Rules "timestamp" [] _ _ _ :=
    Check.Rules.clampedRange timeFits
      (Number.isWritable_of_lt (by decide : Int.natAbs (max 0 1) < _))
      (Number.isWritable_of_lt
        (by decide :
          Int.natAbs (min Check.maximalTimestamp Check.maximalTimestamp) <
            _))
  simp only [applicationDatePlan, List.forall_mem_cons]
  exact ⟨(requiredField_judges number _ _).exists_decides,
    (requiredField_judges timestamp _ _).exists_decides,
    List.forall_mem_nil _⟩

/-- A submission of a date of an application is answered if its numbers fit. -/
theorem applicationDate_answers_iff
    (loyal : IsLoyal session)
    (made :
      Configured.validator Registry.standard session
          (some (.ok PlanFile.bundled)) (.text "update_application_date") =
        .ok validator)
    (sound : environment.IsSound minimal future)
    (submission : data.IsSubmission) :
    (∃ outcome,
        (validator.run environment data context).ended = .ok outcome) ↔
      ∀ name ∈ ["obsapp_id", "timestamp"],
        (data.submitted name).FitsInto environment.memory := by
  have foreign :
      ([["obsapp_id", "obsapp_id"], ["timestamp", "timestamp"]] :
          List (List String)).Pairwise
        Step.AreForeign := by
    decide
  obtain ⟨reporting, arranged⟩ :=
    arranges_of_names loyal made (names_applicationDatePlan _)
      submission.isRecord fits_of_mem_applicationDatePlan
      (Step.pairwise_spares fits_of_mem_applicationDatePlan
        (Step.pairwise_strangers_of_names rfl foreign) environment data)
  simp only [List.forall_mem_cons]
  constructor
  · rintro ⟨outcome, answered⟩
    have ended := (arranged.run_answers_iff.mp answered).2.1
    simp only [applicationDatePlan, List.forall_mem_cons] at ended
    obtain ⟨number, timestamp, _⟩ := ended
    exact ⟨requiredField_fitsInto (.integerRange ..) number,
      requiredField_fitsInto (.clampedRange ..) timestamp,
      List.forall_mem_nil _⟩
  · rintro ⟨numberFits, timeFits, _⟩
    refine arranged.run_answers_of_standard reporting sound.delimiter ?_
      (decides_of_mem_applicationDatePlan numberFits timeFits)
    have isOne : (Value.int 1).IsWritable :=
      Value.isWritable_int_of_lt (by decide)
    rw [Plan.isWritable_toValue_iff]
    simp [applicationDatePlan, requiredField, isOne]

/-! ### Requesting a restoration -/

/-- The steps of the plan for a restoration fit the library. -/
theorem fits_of_mem_restorationPlan
    {instruments : List (String × Value)} :
    ∀ step ∈ restorationPlan instruments, step.Fits := by
  simp only [restorationPlan, List.forall_mem_cons]
  exact ⟨fits_requiredField rfl (by decide) rfl ..,
    fits_requiredField rfl (by decide) rfl .., fits_dateRangeField,
    fits_requiredField rfl (by decide) rfl ..,
    fits_optionalField rfl (by decide) rfl .., List.forall_mem_nil _⟩

/-- The plan for a restoration can be written exactly if its options can. -/
theorem isWritable_restorationPlan_iff
    {instruments : List (String × Value)} :
    (Plan.toValue (restorationPlan instruments)).IsWritable ↔
      (Value.record instruments).IsWritable := by
  have isSeventy : (Value.int 70).IsWritable :=
    Value.isWritable_int_of_lt (by decide)
  rw [Plan.isWritable_toValue_iff]
  simp [restorationPlan, dateRangeField, optionalField, requiredField,
    isSeventy]

/-- The steps of the plan for a restoration decide if the dates can be read. -/
theorem decides_of_mem_restorationPlan
    (sound : environment.IsSound minimal future)
    (submission : data.IsSubmission)
    (canRead : CanRead environment.memory data dateRangeField.inputs)
    (instruments : List (String × Value)) :
    ∀ step ∈ restorationPlan instruments,
      ∃ rulings, step.Decides environment data rulings := by
  have isInput := submission.isInput_submitted
  have shows
      (field : String) :
      (data.submitted field).asText = .ok (data.entered field) :=
    Value.asText_submitted (isInput field)
  have years :
      environment.HasYears .null
        (Value.null.orDefault (.int environment.nextYear)) _ _ :=
    sound.hasProgramYears sound.minimalYear rfl
  have program : Check.Rules "program" [] _ _ _ :=
    Check.Rules.programNumber (shows "program") years
  have email : Check.Rules "email" [] _ _ _ :=
    Check.Rules.email (shows "email")
      (Number.isWritable_of_lt (by decide : Int.natAbs 70 < _))
  have comments : Check.Rules "comments" [] _ _ _ :=
    Check.Rules.textLength (shows "comments")
      (Number.isWritable_of_lt (by decide : Int.natAbs 500 < _))
  simp only [restorationPlan, List.forall_mem_cons]
  exact ⟨(requiredField_judges program _ _).exists_decides,
    (requiredField_judges email _ _).exists_decides,
    (dateRangeField_judges sound canRead).exists_decides,
    (selectionField_judges (isInput _) instruments environment
      _).exists_decides,
    (optionalField_judges comments _ _).exists_decides,
    List.forall_mem_nil _⟩

/--
A request for a restoration is answered if its options can be written and its dates
can be read.
-/
theorem restoration_answers_iff
    (loyal : IsLoyal session)
    (made :
      Configured.validator Registry.standard session
          (some (.ok PlanFile.bundled))
          (.text "obs_data_restoration_request") =
        .ok validator)
    (sound : environment.IsSound minimal future)
    (submission : data.IsSubmission)
    {instruments : List (String × Value)}
    (supplies : context.Supplies "instruments" instruments) :
    (∃ outcome,
        (validator.run environment data context).ended = .ok outcome) ↔
      (Value.record instruments).IsWritable ∧
        CanRead environment.memory data dateRangeField.inputs := by
  have foreign :
      ([["program", "program"], ["email", "email"], dateRangeField.names,
            ["instrument", "instrument"], ["comments", "comments"]] :
          List (List String)).Pairwise
        Step.AreForeign := by
    decide
  have names :
      Names "obs_data_restoration_request" (context.orElse (.dict []))
        (restorationPlan instruments) := by
    rw [supplies.orElse]
    exact names_restorationPlan supplies
  obtain ⟨reporting, arranged⟩ :=
    arranges_of_names loyal made names submission.isRecord
      fits_of_mem_restorationPlan
      (Step.pairwise_spares fits_of_mem_restorationPlan
        (Step.pairwise_strangers_of_names rfl foreign) environment data)
  rw [← isWritable_restorationPlan_iff]
  constructor
  · rintro ⟨outcome, answered⟩
    obtain ⟨writable, ended, _⟩ := arranged.run_answers_iff.mp answered
    exact ⟨writable,
      canRead_dateRangeField (ended _ (.tail _ (.tail _ (.head _))))⟩
  · rintro ⟨writable, canRead⟩
    exact arranged.run_answers_of_standard reporting sound.delimiter writable
      (decides_of_mem_restorationPlan sound submission canRead instruments)

/-! ### Sending reminders -/

/-- The switches of reminders. -/
def switches : List (String × List Int) :=
  [("emails_send_type", [0, 1]), ("interval_unit", [0, 1])]

/-- The steps of the plan for reminders fit the library. -/
theorem fits_of_mem_reminderPlan :
    ∀ step ∈ reminderPlan, step.Fits := by
  simp only [reminderPlan, List.forall_mem_cons]
  refine ⟨?_, ?_, ?_, ?_, List.forall_mem_nil _⟩
  all_goals exact fits_requiredField rfl (by decide) rfl ..

/-- An interval that fits is decided on. -/
theorem intervalField_decides
    (fits : (data.submitted "interval").FitsInto environment.memory) :
    ∃ rulings, intervalField.Decides environment data rulings := by
  have rules : Check.Rules "interval" [] _ _ _ :=
    Check.Rules.numberInRange fits
      (Number.isWritable_of_lt (by decide : Int.natAbs 1 < _))
      (Number.isWritable_of_lt (by decide : Int.natAbs 52 < _))
  exact (requiredField_judges rules _ _).exists_decides

/-- The interval is recorded under its own key alone. -/
theorem key_of_mem_own_intervalField
    {entry : Entry}
    (member : entry ∈ (intervalField.own environment data).entries) :
    entry.key = .text "interval" := by
  have fits : intervalField.Fits :=
    fits_requiredField rfl (by decide) rfl ..
  have admits :
      Entry.Admits (fun entry => entry.key = .text "interval")
        (.text "interval") :=
    ⟨fun _ => rfl, fun _ => rfl⟩
  rcases Step.mem_act member with gated | called
  · obtain ⟨input, isInput, isKey⟩ :=
      Step.exists_input_of_mem_gateEntries gated
    rw [isKey, List.mem_singleton.mp isInput]
  · have writes :
        Check.Writes (fun entry => entry.key = .text "interval")
          (Check.numberInRange environment (data.submitted "interval")
            (.text "interval") (.int 1) (.int 52) .null) :=
      .numberInRange admits environment (fun _ => rfl) ..
    exact fits.isAllowed_of_mem_call writes called

/--
The steps of the plan for reminders spare those behind them. The key of the unit
is one that could be derived from the interval, but is not recorded there.
-/
theorem spares_reminderPlan
    (environment : Environment)
    (data : Value) :
    reminderPlan.Pairwise (Step.Spares environment data) := by
  have spares
      {step other : Step}
      (member : step ∈ reminderPlan)
      (foreign : Step.AreForeign step.names other.names) :
      step.Spares environment data other :=
    (fits_of_mem_reminderPlan step member).spares foreign environment data
  have sparesUnit :
      intervalField.Spares environment data
        (switchField "interval_unit" "validate_interval_unit_type") := by
    intro entry member
    rw [key_of_mem_own_intervalField member, Step.owns_text_iff]
    decide
  refine .cons ?_ (.cons ?_ (.cons ?_ (List.pairwise_singleton _ _)))
  · simp only [List.forall_mem_cons]
    exact ⟨spares (.head _) (by decide), spares (.head _) (by decide),
      spares (.head _) (by decide), List.forall_mem_nil _⟩
  · simp only [List.forall_mem_cons]
    exact ⟨spares (.tail _ (.head _)) (by decide),
      spares (.tail _ (.head _)) (by decide), List.forall_mem_nil _⟩
  · exact List.forall_mem_singleton.mpr sparesUnit

/--
A request for reminders is answered if its switches can be refused and the interval
fits.
-/
theorem reminder_answers_iff
    (loyal : IsLoyal session)
    (made :
      Configured.validator Registry.standard session
          (some (.ok PlanFile.bundled))
          (.text "process_feedback_reminders") =
        .ok validator)
    (sound : environment.IsSound minimal future)
    (submission : data.IsSubmission) :
    (∃ outcome,
        (validator.run environment data context).ended = .ok outcome) ↔
      (∀ switch ∈ switches,
          (data.submitted switch.1).IsRefusable switch.2) ∧
        (data.submitted "interval").FitsInto environment.memory := by
  obtain ⟨reporting, arranged⟩ :=
    arranges_of_names loyal made (names_reminderPlan _)
      submission.isRecord fits_of_mem_reminderPlan
      (spares_reminderPlan environment data)
  simp only [switches, List.forall_mem_cons]
  constructor
  · rintro ⟨outcome, answered⟩
    have ended := (arranged.run_answers_iff.mp answered).2.1
    simp only [reminderPlan, List.forall_mem_cons] at ended
    obtain ⟨_, sendType, interval, unit, _⟩ := ended
    exact
      ⟨⟨requiredOption_isRefusable Capability.offers_binaryOption sendType,
          requiredOption_isRefusable Capability.offers_binaryOption unit,
          List.forall_mem_nil _⟩,
        requiredField_fitsInto (.numberInRange ..) interval⟩
  · rintro ⟨⟨sendType, unit, _⟩, fits⟩
    refine arranged.run_answers_of_standard reporting sound.delimiter ?_ ?_
    · have isOne : (Value.int 1).IsWritable :=
        Value.isWritable_int_of_lt (by decide)
      have isFiftyTwo : (Value.int 52).IsWritable :=
        Value.isWritable_int_of_lt (by decide)
      rw [Plan.isWritable_toValue_iff]
      simp [reminderPlan, switchField, intervalField, requiredField, isOne,
        isFiftyTwo]
    · have semester : Check.Rules "semester" [] _ _ _ :=
        Check.Rules.semester
          (Value.asText_submitted (submission.isInput_submitted "semester"))
          sound.hasYears
      simp only [reminderPlan, List.forall_mem_cons]
      exact ⟨(requiredField_judges semester _ _).exists_decides,
        (requiredOption_judges Capability.offers_binaryOption sendType _
          _).exists_decides,
        intervalField_decides fits,
        (requiredOption_judges Capability.offers_binaryOption unit _
          _).exists_decides,
        List.forall_mem_nil _⟩

end Runs

end FormCheck.Form.Configured
