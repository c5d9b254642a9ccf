import FormCheck.Proofs.Form.Configured
import FormCheck.Proofs.Form.Feedback
import FormCheck.Proofs.Form.GuestAccount
import FormCheck.Proofs.Form.Login
import FormCheck.Proofs.NamedInputs
import FormCheck.Proofs.PlanFile.Snapshot

namespace FormCheck.Form

/-!
# Inputs that a plan does not name

However a validator comes by its plan, a run depends on the inputs that the plan
names and on nothing else that is submitted. The guest account form chooses its
plan by the submitted command, but every plan that it may choose names the
command. A configured form may have taken a snapshot of its plans file in an
earlier run, and a run from the snapshot ends as the earlier one did.
-/

/-! ## The guest account form -/

namespace GuestAccount

/-- The command that a submission is taken to have. -/
def commandOf
    (data : Value) : Value :=
  (data.submitted "command").orElse (.text defaultCommand)

/-- The fault of a required step in a plan for which there is no message. -/
def noMessage : Fault :=
  .malformedPlan "'required_msg' must be a string for field 'command'"
    (some 0)

/-- The raw steps for any command begin with the step of the command. -/
theorem exists_rawSteps_eq_cons
    (command : Value) :
    ∃ others, rawSteps command = commandStep :: others := by
  unfold rawSteps
  split
  · exact ⟨_, rfl⟩
  · split
    · exact ⟨_, rfl⟩
    · split <;> exact ⟨_, rfl⟩

/-- Without a text as the message, the raw steps for any command are refused. -/
theorem normalize_rawSteps_of_noText
    {settings : Settings}
    (noText : Plan.characters? settings.requiredMessage = none)
    (command : Value) :
    (Plan.normalize settings Registry.standard
        (.list (rawSteps command))).ended =
      .error noMessage := by
  obtain ⟨others, begins⟩ := exists_rawSteps_eq_cons command
  rw [begins]
  rcases settings with ⟨_, _, _, _, required, _, _, _, _⟩
  cases required with
  | text =>
      cases noText
  | _ =>
      rfl

/-- The plan that the form builds, and the fault where it builds none. -/
theorem ended_buildPlan
    {data : Value}
    (environment : Environment)
    (mapping : data.IsMapping)
    (context : Value) :
    ((validator Registry.standard).buildPlan environment data
        context).ended =
      match Plan.characters? environment.settings.requiredMessage with
      | some message => .ok (plan message (commandOf data))
      | none => .error noMessage := by
  have drafted : rawPlan data = .ok (.list (rawSteps (commandOf data))) := by
    unfold rawPlan
    rw [Value.get_text mapping]
    rfl
  cases isText :
      Plan.characters? environment.settings.requiredMessage with
  | some message =>
      refine Validator.buildPlan_answers_iff.mpr
        ⟨_, drafted, normalize_rawSteps_of_characters isText _, ?_⟩
      exact Plan.isWritable_toValue_iff.mpr fun step member =>
        isWritable_arguments member
  | none =>
      unfold Validator.buildPlan
      rw [Journal.ended_bind_eq_error_iff]
      refine .inr ⟨_, drafted, ?_⟩
      rw [Journal.ended_bind_eq_error_iff]
      exact .inl (normalize_rawSteps_of_noText isText _)

/-- The form builds one plan for submissions that hold the same at its inputs. -/
theorem ended_buildPlan_congr
    {environment : Environment}
    {data other context : Value}
    (mapping : data.IsMapping)
    (isOtherMapping : other.IsMapping)
    (alike :
      ∀ plan,
        ((validator Registry.standard).buildPlan environment data
            context).ended =
            .ok plan →
          plan.ReadsAlike data other) :
    ((validator Registry.standard).buildPlan environment data
        context).ended =
      ((validator Registry.standard).buildPlan environment other
        context).ended := by
  have built := ended_buildPlan environment mapping context
  rw [built, ended_buildPlan environment isOtherMapping]
  cases isText :
      Plan.characters? environment.settings.requiredMessage with
  | none =>
      rfl
  | some message =>
      rw [isText] at built
      -- Every plan names the command, by which the plan was chosen.
      have sameCommand :
          data.get (.text "command") = other.get (.text "command") :=
        alike _ built _ (commandField_mem_plan ..) _
          (List.mem_singleton_self _)
      unfold commandOf Value.submitted
      rw [sameCommand]

end GuestAccount

/-! ## Configured forms -/

namespace Configured

/-- A query after a query of the same file is answered as that one was. -/
theorem ended_query_sessionAfterPlan
    (session : PlanFile.Session)
    (content : PlanFile.Content)
    (question : Value → Except Fault answer) :
    ((sessionAfterPlan session content).query content question).2.ended =
      (session.query content question).2.ended := by
  cases snapshot : session.snapshot with
  | some value =>
      unfold sessionAfterPlan PlanFile.Session.configuration
      rw [snapshot]
  | none =>
      have loads :
          sessionAfterPlan session content = (session.load content).1 := by
        unfold sessionAfterPlan PlanFile.Session.configuration
        rw [snapshot]
      rw [loads]
      cases configured : content.configuration with
      | error fault =>
          rw [PlanFile.Session.load_of_error configured]
      | ok value =>
          have held :=
            PlanFile.Session.snapshot_load_of_ok configured session
          rw [PlanFile.Session.query_of_some held,
            (PlanFile.Session.query_of_none snapshot content question).2,
            configured]
          rfl

/-- A query after a run is answered as one before it. -/
theorem ended_query_sessionAfterRun
    (session : PlanFile.Session)
    (content : PlanFile.Content)
    (data : Value)
    (question : Value → Except Fault answer) :
    ((sessionAfterRun session content data).query content
        question).2.ended =
      (session.query content question).2.ended := by
  unfold sessionAfterRun
  split
  · exact ended_query_sessionAfterPlan ..
  · rfl

/-- The raw plan of a form ends after a run as it did before. -/
theorem ended_rawPlan_sessionAfterRun
    (session : PlanFile.Session)
    (content : PlanFile.Content)
    (data form : Value)
    (formText : String)
    (context : Value) :
    (rawPlan (sessionAfterRun session content data) content form formText
        context).ended =
      (rawPlan session content form formText context).ended := by
  unfold rawPlan
  rw [Journal.ended_bind, Journal.ended_bind, ended_query_sessionAfterRun]

end Configured

/-! ## Every validator over the library -/

/-- The validators over the library: the forms, and those with a fixed plan. -/
inductive Kind where
  | login
  | feedback
  | guestAccount
  | configured
      (session : PlanFile.Session)
      (content : PlanFile.Content)
      (form : Value)
  | fixed
      (name : String)
      (raw : Value)

namespace Kind

/-- The validator of a kind, if it can be named. -/
def validator : Kind → Except Fault Validator
  | login => .ok (Login.validator Registry.standard)
  | feedback => .ok (Feedback.validator Registry.standard)
  | guestAccount => .ok (GuestAccount.validator Registry.standard)
  | configured session content form =>
      Configured.validator Registry.standard session content form
  | fixed name raw => .ok (Validator.fixed name Registry.standard raw)

/-- The kind after a run on some data, which may have read the plans file. -/
def afterRun
    (kind : Kind)
    (data : Value) : Kind :=
  match kind with
  | configured session content form =>
      configured (Configured.sessionAfterRun session content data) content
        form
  | other => other

variable
  {kind : Kind}
  {validator : Validator}
  {environment : Environment}
  {data other context : Value}

/-- A kind builds one plan for data that hold the same at the inputs of it. -/
theorem ended_buildPlan_congr
    (made : kind.validator = .ok validator)
    (isRecord : data.IsRecord)
    (isOtherRecord : other.IsRecord)
    (alike :
      ∀ plan,
        (validator.buildPlan environment data context).ended = .ok plan →
          plan.ReadsAlike data other) :
    (validator.buildPlan environment data context).ended =
      (validator.buildPlan environment other context).ended := by
  cases kind with
  | guestAccount =>
      cases made
      exact GuestAccount.ended_buildPlan_congr isRecord.isMapping
        isOtherRecord.isMapping alike
  | configured session content form =>
      obtain ⟨formText, _, isMade⟩ := Except.bind_eq_ok_iff.mp made
      cases isMade
      rfl
  | login | feedback | fixed =>
      cases made
      rfl

/-- After a run, a kind has a validator with raw plans that end as before. -/
theorem exists_validator_afterRun
    (made : kind.validator = .ok validator)
    (data : Value) :
    ∃ raw,
      (kind.afterRun data).validator =
          .ok { validator with rawPlan := raw } ∧
        ∀ environment other context,
          (raw environment other context).ended =
            (validator.rawPlan environment other context).ended := by
  cases kind with
  | configured session content form =>
      obtain ⟨formText, shows, isMade⟩ := Except.bind_eq_ok_iff.mp made
      cases isMade
      refine ⟨_, Except.bind_eq_ok_iff.mpr ⟨formText, shows, rfl⟩, ?_⟩
      intro environment other context
      exact Configured.ended_rawPlan_sessionAfterRun session content data
        form formText context
  | login | feedback | guestAccount | fixed =>
      cases made
      exact ⟨_, rfl, fun _ _ _ => rfl⟩

/--
If two mappings with textual keys hold the same at each input of the plan that is
built for the first, then a run on the second ends as one on the first, with the
same outcome or the same fault, and so does a run on the second after one on the
first.
-/
theorem ended_run_of_readsAlike
    (made : kind.validator = .ok validator)
    (isRecord : data.IsRecord)
    (isOtherRecord : other.IsRecord)
    (alike :
      ∀ plan,
        (validator.buildPlan environment data context).ended = .ok plan →
          plan.ReadsAlike data other) :
    (validator.run environment other context).ended =
        (validator.run environment data context).ended ∧
      ∃ later,
        (kind.afterRun data).validator = .ok later ∧
          (later.run environment other context).ended =
            (validator.run environment data context).ended := by
  have built := ended_buildPlan_congr made isRecord isOtherRecord alike
  constructor
  · exact (Validator.ended_run_congr isRecord isOtherRecord built alike).symm
  · obtain ⟨raw, remade, drafted⟩ := exists_validator_afterRun made data
    have rebuilt :=
      Validator.ended_buildPlan_congr
        (drafted environment other (context.orElse (.dict []))).symm
    refine ⟨_, remade, Eq.symm ?_⟩
    exact Validator.ended_run_congr isRecord isOtherRecord
      (built.trans rebuilt) alike

/-- Data that name a guest and leave the command to its default. -/
def enrolment : Value :=
  .record [("username", .text "guest7")]

/-- The same data with null for two inputs and with a key that no plan names. -/
def paddedEnrolment : Value :=
  .record
    [("remark", .int 1), ("gid", .null), ("username", .text "guest7"),
      ("command", .null)]

/-- Padding the data of a guest account changes nothing about how a run ends. -/
theorem ended_run_of_readsAlike_padded :
    let environment : Environment := .on ⟨2025, 6, 1⟩
    let form := GuestAccount.validator Registry.standard
    Kind.guestAccount.validator = .ok form ∧
      enrolment.IsRecord ∧
      paddedEnrolment.IsRecord ∧
      (∀ plan,
        (form.buildPlan environment enrolment .null).ended = .ok plan →
          plan.ReadsAlike enrolment paddedEnrolment) ∧
      (form.run environment paddedEnrolment .null).ended =
        (form.run environment enrolment .null).ended := by
  intro environment form
  have isRecord : enrolment.IsRecord :=
    ⟨_, rfl⟩
  have isPaddedRecord : paddedEnrolment.IsRecord :=
    ⟨_, rfl⟩
  have alike :
      ∀ plan,
        (form.buildPlan environment enrolment .null).ended = .ok plan →
          plan.ReadsAlike enrolment paddedEnrolment := by
    intro plan built
    have known :=
      GuestAccount.ended_buildPlan environment isRecord.isMapping .null
    cases built.symm.trans known
    intro step member input isInput
    have named :
        input ∈ ["command", "username", "acctname", "uid", "gid", "shell",
          "passwd", "accttype"] :=
      List.mem_flatMap.mpr ⟨step, member, isInput⟩
    simp only [List.mem_cons, List.not_mem_nil, or_false] at named
    rcases named with rfl | rfl | rfl | rfl | rfl | rfl | rfl | rfl <;> rfl
  have made : Kind.guestAccount.validator = .ok form :=
    rfl
  exact ⟨made, isRecord, isPaddedRecord, alike,
    (ended_run_of_readsAlike made isRecord isPaddedRecord alike).1⟩

end Kind

end FormCheck.Form
