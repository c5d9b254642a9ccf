import FormCheck.Form.Feedback
import FormCheck.Proofs.Form.Step

namespace FormCheck.Form.Feedback

/-!
# What the feedback form accepts

A run of the form answers exactly if the options that the context supplies can
be written, each rating can be refused and the dates can be read. If it answers, it
passes exactly if
each input is as the form asks for: names and remarks are short enough, the
address is one of email, the dates exist and are in order, the selections have
options of the context, and the ratings are on their scales.
-/

/-! ## The plan -/

/-- The step of a name. -/
def nameField
    (message field : String) : Step :=
  requiredField message field "validate_name_field" .personName [.int 70]

/-- The step of an email address. -/
def emailField
    (message field : String) : Step :=
  requiredField message field "validate_email_field" .email [.int 70]

/-- The step of a text of limited length that has to be there. -/
def longTextField
    (message field : String) : Step :=
  requiredField message field "validate_long_text_field" .longText
    [.int 500]

/-- The step of a remark. -/
def remarkField
    (message field : String) : Step :=
  optionalField message field "validate_long_text_field" .longText
    [.int 500]

/-- The step of a selection. -/
def selectionField
    (message field : String)
    (options : List (String × Value)) : Step :=
  requiredField message field "validate_selection" .selection
    [.record options]

/-- The step of a selection, whatever the context has as options. -/
def choiceField
    (message field : String)
    (options : Value) : Step :=
  requiredField message field "validate_selection" .selection [options]

/-- The step of the location. -/
def locationField
    (message : String) : Step :=
  requiredField message "location" "validate_location" .binaryOption []

/-- The step of a rating, which may stand for "not applicable". -/
def ratingField
    (message field : String)
    (allowsNone : Bool) : Step :=
  requiredField message field "validate_rating" .rating [.bool allowsNone]

/-- The options that the form takes from its context. -/
structure Supply where
  support : List (String × Value)
  operator : List (String × Value)
  instruments : List (String × Value)

/-- A context gives a supply if it supplies each kind of options. -/
structure Supply.IsGivenBy
    (supply : Supply)
    (context : Value) : Prop where
  support : context.Supplies "support" supply.support
  operator : context.Supplies "operator" supply.operator
  instruments : context.Supplies "instruments" supply.instruments

/-- The plan of the form. -/
def plan
    (message : String)
    (supply : Supply) : Plan :=
  [nameField message "respondent",
    emailField message "email",
    dateRangeField,
    selectionField message "support_staff" supply.support,
    selectionField message "operator_staff" supply.operator,
    selectionField "At least one instrument must be selected" "instruments"
      supply.instruments,
    locationField message,
    ratingField message "experience" false,
    longTextField message "technical",
    ratingField message "scientificstaff" true,
    ratingField message "operators" true,
    ratingField message "daycrew" true,
    remarkField message "personnel",
    remarkField message "scientific",
    remarkField message "comments"]

/-- The plan of the form, whatever the context has as options. -/
def planFor
    (message : String)
    (support operator instruments : Value) : Plan :=
  [nameField message "respondent",
    emailField message "email",
    dateRangeField,
    choiceField message "support_staff" support,
    choiceField message "operator_staff" operator,
    choiceField "At least one instrument must be selected" "instruments"
      instruments,
    locationField message,
    ratingField message "experience" false,
    longTextField message "technical",
    ratingField message "scientificstaff" true,
    ratingField message "operators" true,
    ratingField message "daycrew" true,
    remarkField message "personnel",
    remarkField message "scientific",
    remarkField message "comments"]

/-- The form takes the options that its context supplies. -/
theorem options_of_supplies
    {context : Value}
    {key : String}
    {held : List (String × Value)}
    (supplies : context.Supplies key held) :
    options context key = .ok (.record held) := by
  obtain ⟨entries, rfl, found⟩ := supplies
  change Except.ok ((lookup (Value.text key) entries).getD _) = _
  rw [found]
  rfl

/-- The raw plan stands for the plan of the form. -/
theorem exists_rawPlan
    {settings : Settings}
    {message : String}
    (isText : settings.requiredMessage = .text message)
    {context : Value}
    {supply : Supply}
    (given : supply.IsGivenBy context) :
    ∃ raw,
      rawPlan context = .ok raw ∧
        (Plan.normalize settings Registry.standard raw).ended =
          .ok (plan message supply) := by
  cases settings
  subst isText
  unfold rawPlan
  rw [options_of_supplies given.support, options_of_supplies given.operator,
    options_of_supplies given.instruments]
  exact ⟨_, rfl, rfl⟩

/-- A supply can be written if each kind of options can. -/
def Supply.IsWritable
    (supply : Supply) : Prop :=
  (Value.record supply.support).IsWritable ∧
    (Value.record supply.operator).IsWritable ∧
    (Value.record supply.instruments).IsWritable

/-- The plan can be written exactly if its supply can. -/
theorem isWritable_plan_iff
    {message : String}
    {supply : Supply} :
    (Plan.toValue (plan message supply)).IsWritable ↔
      supply.IsWritable := by
  have short : (Value.int 70).IsWritable :=
    Value.isWritable_int_of_lt (by decide)
  have long : (Value.int 500).IsWritable :=
    Value.isWritable_int_of_lt (by decide)
  have truth
      (allowsNone : Bool) :
      (Value.bool allowsNone).IsWritable :=
    ⟨_, rfl⟩
  rw [Plan.isWritable_toValue_iff]
  simp [plan, nameField, emailField, dateRangeField, selectionField,
    locationField, ratingField, longTextField, remarkField, optionalField,
    requiredField, Supply.IsWritable, short, long, truth]

/-- The names of the steps of the plan. -/
def stepNames : List (List String) :=
  [["respondent", "respondent"], ["email", "email"], dateRangeField.names,
    ["support_staff", "support_staff"],
    ["operator_staff", "operator_staff"], ["instruments", "instruments"],
    ["location", "location"], ["experience", "experience"],
    ["technical", "technical"], ["scientificstaff", "scientificstaff"],
    ["operators", "operators"], ["daycrew", "daycrew"],
    ["personnel", "personnel"], ["scientific", "scientific"],
    ["comments", "comments"]]

/-- The steps fit the library, whatever the options are. -/
theorem fits_of_mem_planFor
    {message : String}
    {support operator instruments : Value} :
    ∀ step ∈ planFor message support operator instruments, step.Fits := by
  simp only [planFor, List.forall_mem_cons]
  refine ⟨?_, ?_, fits_dateRangeField, ?_, ?_, ?_, ?_, ?_, ?_, ?_, ?_, ?_,
    ?_, ?_, ?_, List.forall_mem_nil _⟩
  all_goals
    first
    | exact fits_requiredField rfl (by decide) rfl ..
    | exact fits_optionalField rfl (by decide) rfl ..

/-- The steps are strangers, whatever the options are. -/
theorem strangers_planFor
    (message : String)
    (support operator instruments : Value) :
    (planFor message support operator instruments).Pairwise
      Step.Strangers := by
  have foreign : stepNames.Pairwise Step.AreForeign := by
    decide
  exact Step.pairwise_strangers_of_names rfl foreign

/-- The form arranges its plan. -/
theorem arranges
    {environment : Environment}
    {data context : Value}
    {message : String}
    {supply : Supply}
    (isText : environment.settings.requiredMessage = .text message)
    (isRecord : data.IsRecord)
    (given : supply.IsGivenBy context) :
    (validator Registry.standard).Arranges environment data context
      (plan message supply) where
  gate := rfl
  isRecord := isRecord
  stands := by
    rw [given.support.orElse]
    exact exists_rawPlan isText given
  fits := fits_of_mem_planFor
  spares :=
    Step.pairwise_spares fits_of_mem_planFor (strangers_planFor ..)
      environment data

/-! ## What is acceptable -/

/-- The selections of the form, which may have several texts. -/
def selectionFields : List String :=
  ["support_staff", "operator_staff", "instruments"]

/--
What the form is submitted with: a single text, if any, for each input, and
possibly several for a selection.
-/
def IsSubmission
    (data : Value) : Prop :=
  ∃ entries,
    data = .record entries ∧
      ∀ entry ∈ entries,
        entry.2.IsInput ∧
          ∀ options, entry.2 = .list options → entry.1 ∈ selectionFields

/-- What the form is submitted with is a submission. -/
theorem IsSubmission.inputs
    {data : Value}
    (submission : IsSubmission data) :
    data.IsSubmission := by
  obtain ⟨entries, rfl, proper⟩ := submission
  exact ⟨entries, rfl, fun entry member => (proper entry member).1⟩

/-- There are several texts only for a selection. -/
theorem IsSubmission.single
    {data : Value}
    (submission : IsSubmission data)
    {name : String}
    (isOther : name ∉ selectionFields)
    (options : List Value) :
    data.submitted name ≠ .list options := by
  obtain ⟨entries, rfl, proper⟩ := submission
  intro several
  rcases Value.submitted_record entries name with absent | present
  · rw [several] at absent
    cases absent
  · exact isOther ((proper _ present).2 options several)

/-- What is submitted under a name is a number on a scale. -/
def Rates
    (data : Value)
    (field : String)
    (scale : List Int) : Prop :=
  ∃ number ∈ scale, (data.submitted field).toInt? = some number

/-- A submission is acceptable if each input is as the form asks for. -/
structure IsAcceptable
    (data : Value)
    (earliest latest : Int)
    (supply : Supply) : Prop where
  respondent :
    Text.strip (data.entered "respondent") ≠ "" ∧
      (Text.strip (data.entered "respondent")).length ≤ 70
  email :
    Text.isEmailAddress (Text.strip (data.entered "email")).toList = true ∧
      (Text.strip (data.entered "email")).length ≤ 70
  dates : ∃ first last, DenoteRange data earliest latest first last
  support : Selects data "support_staff" supply.support
  operator : Selects data "operator_staff" supply.operator
  instruments : Selects data "instruments" supply.instruments
  location : Rates data "location" [0, 1]
  experience : Rates data "experience" [1, 2, 3, 4, 5]
  technical :
    Text.strip (data.entered "technical") ≠ "" ∧
      (data.entered "technical").length ≤ 500
  scientificStaff : Rates data "scientificstaff" [0, 1, 2, 3, 4, 5]
  operators : Rates data "operators" [0, 1, 2, 3, 4, 5]
  dayCrew : Rates data "daycrew" [0, 1, 2, 3, 4, 5]
  personnel : (data.entered "personnel").length ≤ 500
  scientific : (data.entered "scientific").length ≤ 500
  comments : (data.entered "comments").length ≤ 500

/-- The ratings of the form, each with its scale. -/
def ratings : List (String × List Int) :=
  [("location", [0, 1]), ("experience", [1, 2, 3, 4, 5]),
    ("scientificstaff", [0, 1, 2, 3, 4, 5]),
    ("operators", [0, 1, 2, 3, 4, 5]), ("daycrew", [0, 1, 2, 3, 4, 5])]

/-- Each rating of some data can be refused. -/
def AreRefusable
    (data : Value) : Prop :=
  ∀ rating ∈ ratings, (data.submitted rating.1).IsRefusable rating.2

section Steps

variable
  {environment : Environment}
  {data : Value}
  {field : String}

/-- A text is short enough exactly if its verdict does not reject it. -/
theorem someFails_textWithin_iff
    {text : String}
    {limit : Nat} :
    Ruling.someFails [⟨field, .textWithin text limit⟩] = false ↔
      text.length ≤ limit := by
  unfold Verdict.textWithin
  simp

/-- A text that has to be there is judged by whether it is, and by its length. -/
theorem longTextField_judges
    (isInput : (data.submitted field).IsInput)
    (message : String) :
    (longTextField message field).Judges environment data
      ((data.submitted field).isEmpty = false ∧
        (data.entered field).length ≤ 500) := by
  have writable : Number.isWritable 500 = true :=
    Number.isWritable_of_lt (by decide)
  have rules : Check.Rules field [] _ _ _ :=
    Check.Rules.textLength (Value.asText_submitted isInput) writable
  exact (requiredField_judges rules message _).congr
    (and_congr_right' someFails_textWithin_iff)

/-- A remark is judged by its length. -/
theorem remarkField_judges
    (isInput : (data.submitted field).IsInput)
    (message : String) :
    (remarkField message field).Judges environment data
      ((data.entered field).length ≤ 500) := by
  have writable : Number.isWritable 500 = true :=
    Number.isWritable_of_lt (by decide)
  have rules : Check.Rules field [] _ _ _ :=
    Check.Rules.textLength (Value.asText_submitted isInput) writable
  exact (optionalField_judges rules message _).congr
    someFails_textWithin_iff

/-- A name is judged by what is left of it without the blanks around it. -/
theorem nameField_judges
    (isInput : (data.submitted field).IsInput)
    (message : String) :
    (nameField message field).Judges environment data
      ((data.submitted field).isEmpty = false ∧
        (Text.strip (data.entered field)).length ≤ 70) := by
  have writable : Number.isWritable 70 = true :=
    Number.isWritable_of_lt (by decide)
  have rules : Check.Rules field [] _ _ _ :=
    Check.Rules.name (Value.asText_submitted isInput) writable
  exact (requiredField_judges rules message _).congr
    (and_congr_right' someFails_textWithin_iff)

/-- An address is judged by what is left of it without the blanks around it. -/
theorem emailField_judges
    (isInput : (data.submitted field).IsInput)
    (message : String) :
    (emailField message field).Judges environment data
      ((data.submitted field).isEmpty = false ∧
        Text.isEmailAddress (Text.strip (data.entered field)).toList =
            true ∧
          (Text.strip (data.entered field)).length ≤ 70) := by
  have writable : Number.isWritable 70 = true :=
    Number.isWritable_of_lt (by decide)
  have rules : Check.Rules field [] _ _ _ :=
    Check.Rules.email (Value.asText_submitted isInput) writable
  refine (requiredField_judges rules message _).congr
    (and_congr_right' ?_)
  unfold Verdict.email
  split
  case isTrue isAddress =>
    rw [and_iff_right isAddress]
    exact someFails_textWithin_iff
  case isFalse isOther =>
    simp [Verdict.isRejected, isOther]

end Steps

/-! ## What passes -/

/-- What the steps of the plan judge by. -/
def criteria
    (data : Value)
    (earliest latest : Int)
    (supply : Supply) : List Prop :=
  [(data.submitted "respondent").isEmpty = false ∧
      (Text.strip (data.entered "respondent")).length ≤ 70,
    (data.submitted "email").isEmpty = false ∧
      Text.isEmailAddress (Text.strip (data.entered "email")).toList =
          true ∧
        (Text.strip (data.entered "email")).length ≤ 70,
    ∃ first last, DenoteRange data earliest latest first last,
    Selects data "support_staff" supply.support,
    Selects data "operator_staff" supply.operator,
    Selects data "instruments" supply.instruments,
    Rates data "location" [0, 1],
    Rates data "experience" [1, 2, 3, 4, 5],
    (data.submitted "technical").isEmpty = false ∧
      (data.entered "technical").length ≤ 500,
    Rates data "scientificstaff" [0, 1, 2, 3, 4, 5],
    Rates data "operators" [0, 1, 2, 3, 4, 5],
    Rates data "daycrew" [0, 1, 2, 3, 4, 5],
    (data.entered "personnel").length ≤ 500,
    (data.entered "scientific").length ≤ 500,
    (data.entered "comments").length ≤ 500]

/--
The steps of the plan judge by these criteria if ratings can be refused and dates can
be read.
-/
theorem judges_plan
    {environment : Environment}
    {minimal future : Int}
    (sound : environment.IsSound minimal future)
    {data : Value}
    (submission : data.IsSubmission)
    (refusable : AreRefusable data)
    (canRead : CanRead environment.memory data dateRangeField.inputs)
    (message : String)
    (supply : Supply) :
    List.Forall₂ (Step.Judges environment data) (plan message supply)
      (criteria data (max Check.earliestYear minimal)
        (environment.today.year + future) supply) := by
  have isInput := submission.isInput_submitted
  simp only [AreRefusable, ratings, List.forall_mem_cons] at refusable
  obtain ⟨location, experience, scientificStaff, operators, dayCrew, _⟩ :=
    refusable
  refine .cons (nameField_judges (isInput _) message) ?_
  refine .cons (emailField_judges (isInput _) message) ?_
  refine .cons (dateRangeField_judges sound canRead) ?_
  refine .cons (selectionField_judges (isInput _) _ environment _) ?_
  refine .cons (selectionField_judges (isInput _) _ environment _) ?_
  refine .cons (selectionField_judges (isInput _) _ environment _) ?_
  refine .cons
    (requiredOption_judges Capability.offers_binaryOption location _ _) ?_
  refine .cons
    (requiredOption_judges (Capability.offers_rating false) experience _ _)
    ?_
  refine .cons (longTextField_judges (isInput _) message) ?_
  refine .cons
    (requiredOption_judges (Capability.offers_rating true) scientificStaff
      _ _)
    ?_
  refine .cons
    (requiredOption_judges (Capability.offers_rating true) operators _ _) ?_
  refine .cons
    (requiredOption_judges (Capability.offers_rating true) dayCrew _ _) ?_
  refine .cons (remarkField_judges (isInput _) message) ?_
  refine .cons (remarkField_judges (isInput _) message) ?_
  exact .cons (remarkField_judges (isInput _) message) .nil

/-- The criteria ask for an acceptable submission. -/
theorem criteria_iff
    {data : Value}
    (submission : IsSubmission data)
    {earliest latest : Int}
    {supply : Supply} :
    (∀ criterion ∈ criteria data earliest latest supply, criterion) ↔
      IsAcceptable data earliest latest supply := by
  have present
      (name : String)
      (isOther : name ∉ selectionFields) :=
    Value.isEmpty_submitted_iff (submission.inputs.isInput_submitted name)
      (submission.single isOther)
  simp only [criteria, List.forall_mem_cons]
  rw [present "respondent" (by decide), present "email" (by decide),
    present "technical" (by decide)]
  constructor
  · rintro ⟨respondent, ⟨_, email⟩, dates, support, operator, instruments,
      location, experience, technical, scientificStaff, operators, dayCrew,
      personnel, scientific, comments, _⟩
    exact ⟨respondent, email, dates, support, operator, instruments,
      location, experience, technical, scientificStaff, operators, dayCrew,
      personnel, scientific, comments⟩
  · rintro ⟨respondent, email, dates, support, operator, instruments,
      location, experience, technical, scientificStaff, operators, dayCrew,
      personnel, scientific, comments⟩
    have filled : Text.strip (data.entered "email") ≠ "" := by
      intro blank
      rw [blank] at email
      exact absurd email.1 (by decide)
    exact ⟨respondent, ⟨filled, email⟩, dates, support, operator,
      instruments, location, experience, technical, scientificStaff,
      operators, dayCrew, personnel, scientific, comments,
      List.forall_mem_nil _⟩

/-- The payload of the form is put together from textual messages. -/
theorem errors_answers
    {settings : Settings}
    {result : Result}
    (keys : result.HasTextKeys)
    (messages : result.HasTextMessages)
    (delimiter : settings.HasDelimiter)
    (steps : Plan) :
    ∃ notices, errors settings steps result = .ok notices := by
  refine Report.foldlM_answers (fun step _ payload => ?_) []
  unfold withStepErrors
  dsimp only
  split
  case isTrue =>
    exact Report.withCombined_answers keys messages delimiter _ step
  case isFalse =>
    split
    · exact ⟨_, rfl⟩
    · split <;> exact ⟨_, rfl⟩

/-- If the steps end without a fault, each rating can be refused. -/
theorem areRefusable_of_ended
    {environment : Environment}
    {data : Value}
    {message : String}
    {supply : Supply}
    (ended :
      ∀ step ∈ plan message supply,
        (step.act environment data .empty).ended = .ok ()) :
    AreRefusable data := by
  simp only [plan, List.forall_mem_cons] at ended
  obtain ⟨_, _, _, _, _, _, location, experience, _, scientificStaff,
    operators, dayCrew, _⟩ := ended
  simp only [AreRefusable, ratings, List.forall_mem_cons]
  exact ⟨requiredOption_isRefusable Capability.offers_binaryOption location,
    requiredOption_isRefusable (Capability.offers_rating false) experience,
    requiredOption_isRefusable (Capability.offers_rating true)
      scientificStaff,
    requiredOption_isRefusable (Capability.offers_rating true) operators,
    requiredOption_isRefusable (Capability.offers_rating true) dayCrew,
    List.forall_mem_nil _⟩

/-- If the steps end without a fault, the dates can be read. -/
theorem canRead_of_ended
    {environment : Environment}
    {data : Value}
    {message : String}
    {supply : Supply}
    (ended :
      ∀ step ∈ plan message supply,
        (step.act environment data .empty).ended = .ok ()) :
    CanRead environment.memory data dateRangeField.inputs :=
  canRead_dateRangeField (ended _ (.tail _ (.tail _ (.head _))))

section Runs

variable
  {environment : Environment}
  {minimal future : Int}
  {data context : Value}
  {supply : Supply}
  {outcome : Outcome}

/--
A run of the form answers exactly if the options that the context supplies can
be written, each rating of the submission can be refused and its dates can be read.
-/
theorem run_answers_iff
    (sound : environment.IsSound minimal future)
    (submission : data.IsSubmission)
    (given : supply.IsGivenBy context) :
    (∃ outcome,
        ((validator Registry.standard).run environment data
            context).ended =
          .ok outcome) ↔
      supply.IsWritable ∧ AreRefusable data ∧
        CanRead environment.memory data dateRangeField.inputs := by
  obtain ⟨message, isText⟩ := sound.requiredMessage
  have arranged := arranges isText submission.isRecord given
  constructor
  · rintro ⟨outcome, answered⟩
    obtain ⟨writable, ended, _⟩ := arranged.run_answers_iff.mp answered
    exact ⟨isWritable_plan_iff.mp writable, areRefusable_of_ended ended,
      canRead_of_ended ended⟩
  · rintro ⟨writable, refusable, canRead⟩
    have judges :=
      judges_plan sound submission refusable canRead message supply
    have decides := Plan.decides_of_judges judges
    refine arranged.run_answers (isWritable_plan_iff.mpr writable) decides
      ?_ fun _ => ⟨_, rfl⟩
    exact errors_answers
      (Plan.hasTextKeys_own arranged.fits environment data)
      (Plan.hasTextMessages_own decides) sound.delimiter _

/--
A run of the form that answers passes exactly if what is submitted is acceptable.
-/
theorem passes_iff_isAcceptable
    (sound : environment.IsSound minimal future)
    (submission : IsSubmission data)
    (given : supply.IsGivenBy context)
    (answered :
      ((validator Registry.standard).run environment data context).ended =
        .ok outcome) :
    outcome.hasPassed = true ↔
      IsAcceptable data (max Check.earliestYear minimal)
        (environment.today.year + future) supply := by
  obtain ⟨message, isText⟩ := sound.requiredMessage
  have arranged := arranges isText submission.inputs.isRecord given
  obtain ⟨_, ended, concluded⟩ := arranged.run_answers_iff.mp answered
  have judges :=
    judges_plan sound submission.inputs (areRefusable_of_ended ended)
      (canRead_of_ended ended) message supply
  rw [Validator.hasPassed_iff concluded, Plan.hasErrors_own_iff judges,
    criteria_iff submission]

end Runs

/-- The single texts of a submission without remarks. -/
def praiseTexts : List (String × String) :=
  [("respondent", " Ada "), ("email", "ada@example.org"),
    ("startyear", "2025"), ("startmonth", "2"), ("startday", "28"),
    ("endyear", "2025"), ("endmonth", "03"), ("endday", "1"),
    ("support_staff", "s1"), ("operator_staff", "o1"), ("location", "0"),
    ("experience", "5"), ("technical", "fine"), ("scientificstaff", "0"),
    ("operators", "3"), ("daycrew", "5")]

/-- A submission of feedback with two instruments. -/
def praise : Value :=
  .record
    (("instruments", .list (["i1", "i2"].map .text)) ::
      praiseTexts.map fun entry => (entry.1, .text entry.2))

/-- What may be selected in that submission. -/
def praiseSupply : Supply where
  support := [("s1", .text "Support")]
  operator := [("o1", .text "Operator")]
  instruments := [("i1", .text "First"), ("i2", .text "Second")]

/-- The context that supplies it. -/
def praiseContext : Value :=
  .record
    [("support", .record praiseSupply.support),
      ("operator", .record praiseSupply.operator),
      ("instruments", .record praiseSupply.instruments)]

/-- The submission passes, so it is acceptable. -/
theorem passes_iff_isAcceptable_praise :
    let environment : Environment := .on ⟨2025, 6, 1⟩
    environment.IsSound 2000 5 ∧
      IsSubmission praise ∧
      praiseSupply.IsGivenBy praiseContext ∧
      ∃ outcome,
        ((validator Registry.standard).run environment praise
              praiseContext).ended =
            .ok outcome ∧
          outcome.hasPassed = true ∧
          IsAcceptable praise 2000 2030 praiseSupply := by
  intro environment
  have sound : environment.IsSound 2000 5 :=
    Environment.isSound_default rfl
  have submission : IsSubmission praise := by
    refine ⟨_, rfl, ?_⟩
    rw [List.forall_mem_cons, List.forall_mem_map]
    exact ⟨⟨.texts _, fun _ _ => by decide⟩,
      fun entry _ => ⟨.text _, fun _ several => nomatch several⟩⟩
  have given : praiseSupply.IsGivenBy praiseContext :=
    ⟨⟨_, rfl, rfl⟩, ⟨_, rfl, rfl⟩, ⟨_, rfl, rfl⟩⟩
  have passes :
      ((validator Registry.standard).run environment praise
          praiseContext).answersWith Outcome.hasPassed =
        true := by
    decide +kernel
  obtain ⟨outcome, answered, passed⟩ := Journal.exists_of_answersWith passes
  exact ⟨sound, submission, given, outcome, answered, passed,
    (passes_iff_isAcceptable sound submission given answered).mp passed⟩

end FormCheck.Form.Feedback
