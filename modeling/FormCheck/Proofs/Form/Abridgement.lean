import FormCheck.Form.Feedback
import FormCheck.Proofs.LostMessages

namespace FormCheck

/-!
# Payloads with one message for each key

The feedback form reports by a loop of its own, which keeps the first message of
each input and the combined text of several. Where every step either reads
several inputs or has its field as its only input, and nothing else to report,
that loop and the standard one put notices under the same keys in the same order,
and the form's payload is the standard one with every list cut to its first
message.
-/

/-- A notice cut to its first message. A combined text is kept whole. -/
def Notice.abridged : Notice → Notice
  | .many (message :: _) => .one message
  | notice => notice

/-- A payload with its notices cut to their first messages. -/
def Payload.abridged
    (payload : Payload) : Payload :=
  payload.map fun item => (item.1, item.2.abridged)

namespace Payload

variable {payload : Payload}

/-- Cutting notices changes no key. -/
theorem keys_abridged
    (payload : Payload) :
    payload.abridged.map Prod.fst = payload.map Prod.fst := by
  unfold abridged
  rw [List.map_map]
  rfl

/-- What a cut payload holds under a name is what the whole one holds, cut. -/
theorem lookup_abridged
    (name : String)
    (payload : Payload) :
    lookup name payload.abridged =
      (lookup name payload).map Notice.abridged :=
  lookup_map Notice.abridged name payload

/-- A cut notice is put into a cut payload as the whole one into the whole. -/
theorem put_abridged
    (name : String)
    (notice : Notice)
    (payload : Payload) :
    put name notice.abridged payload.abridged =
      Payload.abridged (put name notice payload) :=
  put_map_values Notice.abridged name notice payload

end Payload

/--
A step reports plainly on a result if its field is its only input and no message
was recorded under another key that would be reported under the field.
-/
structure Step.ReportsPlainly
    (inputKeys : List String)
    (result : Result)
    (step : Step) : Prop where
  inputs_eq : step.inputs = [step.field]
  underived :
    Report.messagesUnder
        (fun key =>
          Report.startsWith key (step.field ++ "_") &&
            !inputKeys.contains key)
        result =
      []

/-- A step that reports plainly has a single input. -/
theorem Step.ReportsPlainly.isSingle
    {inputKeys : List String}
    {result : Result}
    {step : Step}
    (plain : step.ReportsPlainly inputKeys result) :
    step.isComposite = false := by
  simp [isComposite, plain.inputs_eq]

namespace Report

variable
  {settings : Settings}
  {inputKeys : List String}
  {result : Result}
  {payload notices : Payload}
  {step : Step}

/-- A step that reports plainly adds the messages of its input and nothing else. -/
theorem standardStep_of_reportsPlainly
    (keys : result.HasTextKeys)
    (plain : step.ReportsPlainly inputKeys result) :
    standardStep settings inputKeys result payload step =
      .ok (withInputErrors result payload step) := by
  have noOwn :
      (if step.inputs.contains step.field then []
        else result.errorsAt step.key) =
        [] :=
    if_pos (by simp [plain.inputs_eq])
  unfold standardStep
  dsimp only
  rw [if_neg (by simp [plain.isSingle]), messagesWhere_errors keys,
    plain.underived, noOwn]
  generalize withInputErrors result payload step = collected
  -- What is listed under the field already is put there once more.
  cases found : lookup step.field collected with
  | none =>
      rfl
  | some notice =>
      cases notice with
      | one message =>
          rfl
      | many messages =>
          cases messages with
          | nil =>
              rfl
          | cons message others =>
              have same :
                  put step.field (.many (message :: others)) collected =
                    collected :=
                put_of_lookup (.of_lawful _) found
              simp only [bind, Except.bind, List.append_nil, same]
              rfl

/-- A step of several inputs adds their messages and combines those of its field. -/
theorem standardStep_of_isComposite
    (isComposite : step.isComposite = true) :
    standardStep settings inputKeys result payload step =
      withCombined settings result (withInputErrors result payload step)
        step :=
  if_pos isComposite

/-- Combining messages is the same in a cut payload. -/
theorem withCombined_abridged
    (settings : Settings)
    (result : Result)
    (payload : Payload)
    (step : Step) :
    withCombined settings result payload.abridged step =
      Payload.abridged <$> withCombined settings result payload step := by
  unfold withCombined
  cases combined settings result step.key .null with
  | error fault =>
      rfl
  | ok text =>
      by_cases none : text = ""
      · simp [bind, Except.bind, pure, Except.pure, none]
      · have added :
            put step.field (.one (.text text)) payload.abridged = _ :=
          Payload.put_abridged step.field (.one (.text text)) payload
        simp [bind, Except.bind, pure, Except.pure, none, added]

end Report

namespace Form.Feedback

variable
  {settings : Settings}
  {inputKeys : List String}
  {result : Result}
  {step : Step}

/-- The first messages of inputs are what is left of their messages, cut. -/
theorem withFirstErrors_abridged
    (result : Result)
    (payload : Payload)
    (step : Step) :
    withFirstErrors result payload.abridged step =
      (Report.withInputErrors result payload step).abridged := by
  unfold withFirstErrors Report.withInputErrors
  induction step.inputs generalizing payload with
  | nil =>
      rfl
  | cons input rest inductionHypothesis =>
      rw [List.foldl_cons, List.foldl_cons, ← inductionHypothesis]
      cases result.errorsAt (.text input) with
      | nil =>
          rfl
      | cons message others =>
          have added :
              put input (.one message) payload.abridged = _ :=
            Payload.put_abridged input (.many (message :: others)) payload
          rw [← added]

/-- Behind its inputs, a step that reports plainly has nothing to add. -/
theorem withStepErrors_of_reportsPlainly
    (plain : step.ReportsPlainly inputKeys result)
    (payload : Payload) :
    withStepErrors settings result payload step =
      .ok (withFirstErrors result payload step) := by
  unfold withStepErrors
  dsimp only
  rw [if_neg (by simp [plain.isSingle])]
  split
  · rfl
  case isFalse absent =>
    cases errors : result.errorsAt step.key with
    | nil =>
        rfl
    | cons message others =>
        have shown :
            lookup step.field (withFirstErrors result payload step) =
              some (.one message) := by
          have first :
              withFirstErrors result payload step =
                put step.field (.one message) payload := by
            have atField :
                result.errorsAt (.text step.field) = message :: others :=
              errors
            unfold withFirstErrors
            rw [plain.inputs_eq, List.foldl_cons, List.foldl_nil, atField]
          rw [first]
          exact lookup_put_self (.of_lawful _) _ _
        rw [shown] at absent
        exact absurd rfl absent

/-- One step of the form's report is the standard one, cut. -/
theorem withStepErrors_abridged
    (keys : result.HasTextKeys)
    (reports :
      step.isComposite = true ∨ step.ReportsPlainly inputKeys result)
    (payload : Payload) :
    withStepErrors settings result payload.abridged step =
      Payload.abridged <$>
        Report.standardStep settings inputKeys result payload step := by
  rcases reports with isComposite | plain
  · rw [Report.standardStep_of_isComposite isComposite,
      ← Report.withCombined_abridged, ← withFirstErrors_abridged]
    exact if_pos isComposite
  · rw [Report.standardStep_of_reportsPlainly keys plain,
      withStepErrors_of_reportsPlainly plain, withFirstErrors_abridged]
    rfl

/-- The form's report of some steps is the standard one, cut. -/
theorem foldlM_abridged
    (keys : result.HasTextKeys)
    {steps : List Step}
    (reports :
      ∀ step ∈ steps,
        step.isComposite = true ∨ step.ReportsPlainly inputKeys result)
    (payload : Payload) :
    steps.foldlM (withStepErrors settings result) payload.abridged =
      Payload.abridged <$>
        steps.foldlM (Report.standardStep settings inputKeys result)
          payload := by
  -- Both loops go through the steps together, the form's with a cut payload.
  induction steps generalizing payload with
  | nil =>
      rfl
  | cons step rest inductionHypothesis =>
      rw [List.forall_mem_cons] at reports
      rw [List.foldlM_cons, List.foldlM_cons,
        withStepErrors_abridged keys reports.1]
      cases Report.standardStep settings inputKeys result payload step with
      | error fault =>
          rfl
      | ok notices =>
          exact inductionHypothesis reports.2 notices

/-- The payload of the form is the standard one, cut. -/
theorem errors_eq_abridged
    (keys : result.HasTextKeys)
    {plan : Plan}
    (reports :
      ∀ step ∈ plan,
        step.isComposite = true ∨
          step.ReportsPlainly (plan.flatMap Step.inputs) result) :
    errors settings plan result =
      Payload.abridged <$> Report.standardErrors settings plan result :=
  foldlM_abridged keys reports []

end Form.Feedback

/-! ## What a payload displays -/

/--
How a payload displays what was recorded, if one field at most combines messages:
a text under that field, where there is a message to combine, and under any other
name all messages of that name, at least one.
-/
inductive Result.Displays
    (result : Result)
    (field : String) : String × Notice → Prop where
  | combined
      (text : String)
      (present :
        Report.messagesUnder (Report.startsWith · field) result ≠ []) :
      Displays result field (field, .one (.text text))
  | listed
      (name : String)
      (isOther : name ≠ field)
      (message : Value)
      (others : List Value)
      (errors : result.errorsAt (.text name) = message :: others) :
      Displays result field (name, .many (message :: others))

namespace Result.Displays

variable
  {result : Result}
  {field name : String}
  {notice : Notice}

/-- Where the field that combines messages has a notice, there is a message. -/
theorem messagesUnder_ne_nil
    (displays : result.Displays field (field, notice)) :
    Report.messagesUnder (Report.startsWith · field) result ≠ [] := by
  cases displays with
  | combined _ present =>
      exact present
  | listed _ isOther =>
      exact absurd rfl isOther

/-- Where another name has a notice, the name has a message. -/
theorem errorsAt_ne_nil
    (displays : result.Displays field (name, notice))
    (isOther : name ≠ field) :
    result.errorsAt (.text name) ≠ [] := by
  cases displays with
  | combined =>
      exact absurd rfl isOther
  | listed _ _ message others errors =>
      rw [errors]
      exact List.cons_ne_nil message others

end Result.Displays

/-- A payload is a display of a result if each of its notices is. -/
def Payload.IsDisplay
    (payload : Payload)
    (result : Result)
    (field : String) : Prop :=
  ∀ item ∈ payload, result.Displays field item

namespace Payload.IsDisplay

variable
  {settings : Settings}
  {inputKeys : List String}
  {result : Result}
  {field : String}
  {payload notices : Payload}
  {step : Step}

/-- A notice that displays something may be put into a display. -/
theorem put
    (isDisplay : payload.IsDisplay result field)
    {name : String}
    {notice : Notice}
    (displays : result.Displays field (name, notice)) :
    Payload.IsDisplay (FormCheck.put name notice payload) result field := by
  intro item member
  rcases eq_of_mem_put (.of_lawful name) member with old | rfl
  · exact isDisplay item old
  · exact displays

/-- The messages of inputs are displayed if no input is the combining field. -/
theorem withInputErrors
    (isDisplay : payload.IsDisplay result field)
    (isOther : ∀ input ∈ step.inputs, input ≠ field) :
    (Report.withInputErrors result payload step).IsDisplay result field := by
  unfold Report.withInputErrors
  generalize step.inputs = inputs at isOther ⊢
  induction inputs generalizing payload with
  | nil =>
      exact isDisplay
  | cons input rest inductionHypothesis =>
      rw [List.forall_mem_cons] at isOther
      rw [List.foldl_cons]
      refine inductionHypothesis ?_ isOther.2
      cases errors : result.errorsAt (.text input) with
      | nil =>
          exact isDisplay
      | cons message others =>
          exact isDisplay.put (.listed input isOther.1 message others errors)

/-- The combined text of the combining field is displayed. -/
theorem withCombined
    (keys : result.HasTextKeys)
    (isDisplay : payload.IsDisplay result step.field)
    (answered :
      Report.withCombined settings result payload step = .ok notices) :
    notices.IsDisplay result step.field := by
  obtain ⟨text, combines, added⟩ := Except.bind_eq_ok_iff.mp answered
  cases added
  split
  case isTrue =>
    exact isDisplay
  case isFalse present =>
    refine isDisplay.put (.combined text fun none => present ?_)
    obtain ⟨delimiter, texts, _, areTexts, rfl⟩ :=
      (Report.combined_eq_ok_iff keys).mp combines
    rw [none] at areTexts
    rw [List.map_eq_nil_iff.mp areTexts.symm]
    rfl

/-- What a step adds to a display is displayed. -/
theorem standardStep
    (keys : result.HasTextKeys)
    (isDisplay : payload.IsDisplay result field)
    (isOther : ∀ input ∈ step.inputs, input ≠ field)
    (reports :
      step.isComposite = true ∧ step.field = field ∨
        step.ReportsPlainly inputKeys result)
    (answered :
      Report.standardStep settings inputKeys result payload step =
        .ok notices) :
    notices.IsDisplay result field := by
  have early := isDisplay.withInputErrors isOther
  rcases reports with ⟨isComposite, rfl⟩ | plain
  · rw [Report.standardStep_of_isComposite isComposite] at answered
    exact withCombined keys early answered
  · rw [Report.standardStep_of_reportsPlainly keys plain] at answered
    cases answered
    exact early

/-- What some steps add to a display is displayed. -/
theorem foldlM
    (keys : result.HasTextKeys)
    {steps : List Step}
    (isDisplay : payload.IsDisplay result field)
    (isOther : ∀ step ∈ steps, ∀ input ∈ step.inputs, input ≠ field)
    (reports :
      ∀ step ∈ steps,
        step.isComposite = true ∧ step.field = field ∨
          step.ReportsPlainly inputKeys result)
    (answered :
      steps.foldlM (Report.standardStep settings inputKeys result) payload =
        .ok notices) :
    notices.IsDisplay result field := by
  have keeps
      (step : Step)
      (member : step ∈ steps)
      (before after : Payload)
      (early : before.IsDisplay result field)
      (added :
        Report.standardStep settings inputKeys result before step =
          .ok after) :
      after.IsDisplay result field :=
    standardStep keys early (isOther step member) (reports step member) added
  exact Report.foldlM_keeps keeps isDisplay answered

end Payload.IsDisplay

/--
A payload abridges another if it has the same keys, the same text under the field
that combines messages, and under each other key the first message of the other's
list there.
-/
structure Payload.Abridges
    (short full : Payload)
    (field : String) : Prop where
  keys : short.map Prod.fst = full.map Prod.fst
  combined :
    ∀ notice, lookup field full = some notice →
      ∃ text,
        notice = .one (.text text) ∧ lookup field short = some notice
  first :
    ∀ name notice, name ≠ field → lookup name full = some notice →
      ∃ message others,
        notice = .many (message :: others) ∧
          lookup name short = some (.one message)

/-- A display abridges itself once its notices are cut. -/
theorem Payload.IsDisplay.abridges
    {result : Result}
    {field : String}
    {payload : Payload}
    (isDisplay : payload.IsDisplay result field) :
    payload.abridged.Abridges payload field where
  keys := keys_abridged payload
  combined := by
    intro notice found
    rw [lookup_abridged, found]
    have displays := isDisplay _ (mem_of_lookup (.of_lawful field) found)
    cases displays with
    | combined text =>
        exact ⟨text, rfl, rfl⟩
    | listed _ isOther =>
        exact absurd rfl isOther
  first := by
    intro name notice isOther found
    rw [lookup_abridged, found]
    have displays := isDisplay _ (mem_of_lookup (.of_lawful name) found)
    cases displays with
    | combined text =>
        exact absurd rfl isOther
    | listed _ _ message others =>
        exact ⟨message, others, rfl, rfl⟩

end FormCheck
