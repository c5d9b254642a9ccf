import FormCheck.Proofs.Form.Configured
import FormCheck.Proofs.Form.Feedback
import FormCheck.Proofs.Form.GuestAccount
import FormCheck.Proofs.Form.Login

namespace FormCheck.Form

/-!
# The forms that come with the library

Whatever is submitted, a run of a form that comes with the library answers, but
for three causes: options of the context that cannot be written, an option that has
to be an integer and is one with too many digits to be written in the message that
refuses it, and any other integer that does not fit into the memory when it is read.
-/

/-- The forms that come with the library. -/
inductive Shipped where
  | login
  | feedback
  | guestAccount
  | applicationDate
  | restoration
  | reminders
deriving DecidableEq

namespace Shipped

/-- The validator of a configured form of the bundled plans. -/
def configured
    (session : PlanFile.Session)
    (name : String) : Except Fault Validator :=
  Configured.validator Registry.standard session
    (some (.ok PlanFile.bundled)) (.text name)

/-- The validator of a form, which may look into a session of plans. -/
def validator
    (session : PlanFile.Session) : Shipped → Except Fault Validator
  | login => .ok (Login.validator Registry.standard)
  | feedback => .ok (Feedback.validator Registry.standard)
  | guestAccount => .ok (GuestAccount.validator Registry.standard)
  | applicationDate => configured session "update_application_date"
  | restoration => configured session "obs_data_restoration_request"
  | reminders => configured session "process_feedback_reminders"

/-- The keys under which the context of a form supplies options. -/
def optionKeys : Shipped → List String
  | feedback => ["support", "operator", "instruments"]
  | restoration => ["instruments"]
  | _ => []

/-- The inputs of a form that have to be one of some integers. -/
def choices : Shipped → List (String × List Int)
  | feedback => Feedback.ratings
  | reminders => Configured.switches
  | _ => []

/--
The other inputs of a form that are read as integers, some of which depend on what is
submitted. Those in one group are read once all of them are filled in.
-/
def readings
    (data : Value) : Shipped → List (List String)
  | login => []
  | feedback => [dateRangeField.inputs]
  | guestAccount =>
      (GuestAccount.numberFields (GuestAccount.requestedCommand data)).map
        fun field => [field]
  | applicationDate => [["obsapp_id"], ["timestamp"]]
  | restoration => [dateRangeField.inputs]
  | reminders => [["interval"]]

/-- Every form has a validator. -/
theorem exists_validator
    (form : Shipped)
    (session : PlanFile.Session) :
    ∃ formValidator, form.validator session = .ok formValidator := by
  cases form <;> exact ⟨_, rfl⟩

/--
A run of a form answers exactly if the options that its context supplies can be
written, each submitted choice is no integer, or an integer that is offered, or one
that is short enough to be named in the message that refuses it, and the other
integers that the form reads fit into the memory.
-/
theorem answers_iff
    (form : Shipped)
    {session : PlanFile.Session}
    (loyal : Configured.IsLoyal session)
    {environment : Environment}
    {minimal future : Int}
    (sound : environment.IsSound minimal future)
    {data context : Value}
    (submission : data.IsSubmission)
    (supplied :
      ∀ key ∈ form.optionKeys, ∃ options, context.Supplies key options) :
    ∃ formValidator,
      form.validator session = .ok formValidator ∧
        ((∃ outcome,
            (formValidator.run environment data context).ended =
              .ok outcome) ↔
          (∀ key ∈ form.optionKeys,
              (context.submitted key).IsWritable) ∧
            (∀ choice ∈ form.choices,
              (data.submitted choice.1).IsRefusable choice.2) ∧
            ∀ inputs ∈ form.readings data,
              CanRead environment.memory data inputs) := by
  obtain ⟨formValidator, made⟩ := exists_validator form session
  refine ⟨formValidator, made, ?_⟩
  obtain ⟨message, isText⟩ := sound.requiredMessage
  cases form with
  | login =>
      cases made
      exact iff_of_true (Login.answers sound submission context)
        ⟨List.forall_mem_nil _, List.forall_mem_nil _, List.forall_mem_nil _⟩
  | guestAccount =>
      cases made
      rw [GuestAccount.answers_iff_fitInto isText submission context]
      simp only [optionKeys, choices, readings, List.not_mem_nil,
        false_implies, implies_true, true_and, List.forall_mem_map,
        canRead_singleton_iff]
  | feedback =>
      cases made
      simp only [optionKeys, List.forall_mem_cons] at supplied ⊢
      obtain ⟨⟨support, hasSupport⟩, ⟨operator, hasOperator⟩,
        ⟨instruments, hasInstruments⟩, _⟩ := supplied
      let supply : Feedback.Supply := ⟨support, operator, instruments⟩
      have given : supply.IsGivenBy context :=
        ⟨hasSupport, hasOperator, hasInstruments⟩
      rw [Feedback.run_answers_iff sound submission given,
        hasSupport.submitted, hasOperator.submitted,
        hasInstruments.submitted, and_iff_left (List.forall_mem_nil _),
        readings, List.forall_mem_singleton]
      rfl
  | applicationDate =>
      rw [Configured.applicationDate_answers_iff loyal made sound submission]
      simp only [optionKeys, choices, readings, List.not_mem_nil,
        false_implies, implies_true, true_and, List.forall_mem_cons,
        canRead_singleton_iff]
  | restoration =>
      obtain ⟨instruments, supplies⟩ :=
        supplied "instruments" (List.mem_singleton_self _)
      rw [Configured.restoration_answers_iff loyal made sound submission
        supplies, ← supplies.submitted]
      simp only [optionKeys, choices, readings, List.not_mem_nil,
        false_implies, implies_true, true_and, List.forall_mem_singleton]
  | reminders =>
      rw [Configured.reminder_answers_iff loyal made sound submission]
      simp only [optionKeys, choices, readings, List.not_mem_nil,
        false_implies, implies_true, true_and, List.forall_mem_singleton,
        canRead_singleton_iff]

/-- A session that has read no plans yet. -/
def fresh : PlanFile.Session :=
  PlanFile.Session.start "plans.json"

/-- What reminders are asked for with, but for how they are sent. -/
def reminder
    (sendType : String) : Value :=
  .record
    [("semester", .text "2025A"), ("emails_send_type", .text sendType),
      ("interval", .text "4"), ("interval_unit", .text "0")]

/-- Reminders are asked for with single texts. -/
theorem isSubmission_reminder
    (sendType : String) :
    (reminder sendType).IsSubmission := by
  refine ⟨_, rfl, ?_⟩
  simp only [List.forall_mem_cons]
  exact ⟨.text _, .text _, .text _, .text _, List.forall_mem_nil _⟩

/--
Reminders are answered where both switches are ones that are offered and the interval
is short.
-/
theorem answers_iff_reminder :
    let environment : Environment := .on ⟨2025, 6, 1⟩
    Configured.IsLoyal fresh ∧
      environment.IsSound 2000 5 ∧
      (reminder "1").IsSubmission ∧
      (∀ key ∈ reminders.optionKeys,
        ∃ options, Value.null.Supplies key options) ∧
      ∃ formValidator,
        reminders.validator fresh = .ok formValidator ∧
          ∃ outcome,
            (formValidator.run environment (reminder "1") .null).ended =
              .ok outcome := by
  intro environment
  have sound : environment.IsSound 2000 5 :=
    Environment.isSound_default rfl
  have submission := isSubmission_reminder "1"
  have supplied :
      ∀ key ∈ reminders.optionKeys,
        ∃ options, Value.null.Supplies key options :=
    List.forall_mem_nil _
  have loyal : Configured.IsLoyal fresh := .inl rfl
  have isFour : ((reminder "1").submitted "interval").toInt? = some 4 := rfl
  have fits :
      ((reminder "1").submitted "interval").FitsInto environment.memory :=
    Value.fitsInto_of_lt isFour (by decide)
  have canRead :
      ∀ inputs ∈ reminders.readings (reminder "1"),
        CanRead environment.memory (reminder "1") inputs :=
    List.forall_mem_singleton.mpr (canRead_singleton_iff.mpr fits)
  obtain ⟨formValidator, made, answers⟩ :=
    answers_iff reminders loyal sound submission supplied
  refine ⟨loyal, sound, submission, supplied, formValidator, made,
    answers.mpr ⟨List.forall_mem_nil _, ?_, canRead⟩⟩
  have refusable
      (name : String)
      (number : Int)
      (isInteger :
        ((reminder "1").submitted name).toInt? = some number)
      (isOffered : [0, 1].contains number = true) :
      ((reminder "1").submitted name).IsRefusable [0, 1] := by
    intro other isOther
    rw [isInteger] at isOther
    exact .inl (Option.some.inj isOther ▸ isOffered)
  refine List.forall_mem_cons.mpr
    ⟨refusable "emails_send_type" 1 rfl rfl,
      List.forall_mem_singleton.mpr ?_⟩
  exact refusable "interval_unit" 0 rfl rfl

/--
Not every submission of a form is answered: an integer of five thousand digits
in the place of a switch cannot be named in the message that refuses it.
-/
theorem not_forall_answers :
    ¬∀ (form : Shipped) (session : PlanFile.Session)
        (environment : Environment) (minimal future : Int)
        (data context : Value),
      Configured.IsLoyal session →
        environment.IsSound minimal future →
        data.IsSubmission →
        (∀ key ∈ form.optionKeys,
          ∃ options, context.Supplies key options) →
        ∃ formValidator,
          form.validator session = .ok formValidator ∧
            ∃ outcome,
              (formValidator.run environment data context).ended =
                .ok outcome := by
  intro isAnswered
  let environment : Environment := .on ⟨2025, 6, 1⟩
  have unanswered :
      (reminders.validator fresh).toOption.any
          (fun formValidator =>
            (formValidator.run environment (reminder "1e5000")
                .null).answersWith
              fun _ => true) =
        false := by
    decide +kernel
  obtain ⟨formValidator, made, outcome, answered⟩ :=
    isAnswered reminders fresh environment 2000 5 (reminder "1e5000") .null
      (.inl rfl) (Environment.isSound_default rfl) (isSubmission_reminder _)
      (List.forall_mem_nil _)
  rw [made] at unanswered
  unfold Journal.answersWith at unanswered
  simp [Except.toOption, answered] at unanswered

end Shipped

end FormCheck.Form
