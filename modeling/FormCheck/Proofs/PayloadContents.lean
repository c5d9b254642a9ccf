import FormCheck.Proofs.PayloadLookup
import FormCheck.Proofs.RecordedMessages
import FormCheck.Proofs.Reporting

namespace FormCheck

/-!
# What a payload consists of

The steps of a plan overwrite and extend each other's notices, and a notice may
change from a list to a text and back. Whatever the order of the steps, each
notice stays founded: a list holds messages recorded under its name or under
keys derived from it, a text joins all messages under keys that start with its
name. No name occurs twice, and no input that failed is left out.
-/

/-- No key occurs twice after an entry was put if none did before. -/
theorem nodup_keys_put
    {key entry : Type}
    [BEq key]
    {wanted : key}
    (isExact : ExactKey wanted)
    (value : entry)
    {entries : List (key × entry)}
    (distinct : (entries.map Prod.fst).Nodup) :
    ((put wanted value entries).map Prod.fst).Nodup := by
  induction entries with
  | nil =>
      exact List.nodup_singleton _
  | cons item rest inductionHypothesis =>
      obtain ⟨present, held⟩ := item
      rw [List.map_cons, List.nodup_cons] at distinct
      unfold put
      split
      case isTrue =>
        exact List.nodup_cons.mpr distinct
      case isFalse differs =>
        rw [List.map_cons, List.nodup_cons]
        refine ⟨fun again => ?_, inductionHypothesis distinct.2⟩
        rcases mem_keys_put again with same | old
        · exact differs ((isExact present).mpr same)
        · exact distinct.1 old

/--
A notice under a name is founded if it is a list, not empty, of messages that
were recorded under the name or under keys derived from it, or if it is a text,
not empty, that joins all messages under keys that start with the name, which is
the field of a step with several inputs.
-/
inductive Notice.IsFounded
    (settings : Settings)
    (plan : Plan)
    (result : Result)
    (name : String) : Notice → Prop where
  | many
      {messages : List Value}
      (present : messages ≠ [])
      (recorded :
        ∀ message ∈ messages, ∃ characters,
          (Value.text characters).BelongsTo name ∧
            Entry.error (.text characters) message ∈ result.entries) :
      IsFounded settings plan result name (.many messages)
  | one
      {step : Step}
      {delimiter : String}
      {texts : List String}
      (isStep : step ∈ plan)
      (isComposite : step.isComposite = true)
      (isField : step.field = name)
      (isDelimiter : settings.compositeDelimiter = .text delimiter)
      (areAll :
        Report.messagesUnder (Report.startsWith · name) result =
          texts.map Value.text)
      (present : Value.joined delimiter texts ≠ "") :
      IsFounded settings plan result name
        (.one (.text (Value.joined delimiter texts)))

/-- A payload is founded if each of its notices is. -/
def Payload.IsFounded
    (settings : Settings)
    (plan : Plan)
    (result : Result)
    (payload : Payload) : Prop :=
  ∀ item ∈ payload, item.2.IsFounded settings plan result item.1

namespace Report

variable
  {settings : Settings}
  {plan : Plan}
  {inputKeys : List String}
  {result : Result}
  {step : Step}
  {payload notices : Payload}
  {name : String}

/-! ## One step -/

/-- Putting a founded notice keeps a payload founded. -/
theorem isFounded_put
    {notice : Notice}
    (founded : payload.IsFounded settings plan result)
    (isNew : notice.IsFounded settings plan result name) :
    Payload.IsFounded settings plan result (put name notice payload) := by
  intro item member
  rcases eq_of_mem_put (.of_lawful _) member with old | rfl
  · exact founded item old
  · exact isNew

/-- The messages of an input are founded. -/
theorem isFounded_errorsAt
    (present : result.errorsAt (.text name) ≠ []) :
    (Notice.many (result.errorsAt (.text name))).IsFounded settings plan
      result name :=
  .many present fun _ member =>
    ⟨name, .self name, Result.mem_errorsAt_iff.mp member⟩

/-- The report of an input keeps a payload founded. -/
theorem isFounded_withErrorsOf
    (founded : payload.IsFounded settings plan result) :
    (withErrorsOf result payload name).IsFounded settings plan result := by
  by_cases none : result.errorsAt (.text name) = []
  · rw [withErrorsOf_of_none none]
    exact founded
  · unfold withErrorsOf
    split
    case h_1 =>
      exact founded
    case h_2 =>
      exact isFounded_put founded (isFounded_errorsAt none)

/-- The report of all inputs of a step keeps a payload founded. -/
theorem isFounded_withInputErrors
    (founded : payload.IsFounded settings plan result) :
    (withInputErrors result payload step).IsFounded settings plan result := by
  rw [withInputErrors_eq_foldl]
  generalize step.inputs = inputs
  induction inputs generalizing payload with
  | nil =>
      exact founded
  | cons input rest inductionHypothesis =>
      exact inductionHypothesis (isFounded_withErrorsOf founded)

/-- What a founded payload lists under a name was recorded under its keys. -/
theorem recorded_of_listed
    (founded : payload.IsFounded settings plan result)
    {message : Value}
    (member : message ∈ Notice.listed (lookup name payload)) :
    ∃ characters,
      (Value.text characters).BelongsTo name ∧
        Entry.error (.text characters) message ∈ result.entries := by
  unfold Notice.listed at member
  split at member
  case h_1 messages found =>
    have isItem := mem_of_lookup (.of_lawful _) found
    cases founded _ isItem with
    | many present recorded =>
        exact recorded message member
  case h_2 =>
    cases member

/-- What a step with one input lists under its field was recorded there. -/
theorem recorded_of_mem_singleMessages
    (founded : payload.IsFounded settings plan result)
    {message : Value}
    (member : message ∈ singleMessages inputKeys result payload step) :
    ∃ characters,
      (Value.text characters).BelongsTo step.field ∧
        Entry.error (.text characters) message ∈ result.entries := by
  unfold singleMessages at member
  rw [List.append_assoc, List.mem_append, List.mem_append] at member
  rcases member with listed | own | derived
  · exact recorded_of_listed (isFounded_withInputErrors founded) listed
  · split at own
    · cases own
    · exact ⟨step.field, .self _, Result.mem_errorsAt_iff.mp own⟩
  · obtain ⟨characters, passes, recorded⟩ :=
      mem_messagesUnder_iff.mp derived
    rw [Bool.and_eq_true] at passes
    exact ⟨characters, Value.belongsTo_text_iff.mpr (.inr passes.1),
      recorded⟩

/-- What is under the field of a step after it is founded. -/
theorem isFounded_field
    (textual : result.HasTextKeys)
    (isStep : step ∈ plan)
    (founded : payload.IsFounded settings plan result)
    (answered :
      standardStep settings inputKeys result payload step = .ok notices)
    {notice : Notice}
    (found : lookup step.field notices = some notice) :
    notice.IsFounded settings plan result step.field := by
  have ofInputs
      (before :
        lookup step.field (withInputErrors result payload step) =
          some notice) :
      notice.IsFounded settings plan result step.field :=
    isFounded_withInputErrors founded _
      (mem_of_lookup (.of_lawful _) before)
  cases isComposite : step.isComposite with
  | true =>
      obtain ⟨delimiter, texts, isDelimiter, areAll, after⟩ :=
        lookup_standardStep_of_composite textual answered isComposite
      rw [found] at after
      split at after
      case isTrue =>
        exact ofInputs after.symm
      case isFalse present =>
        cases after
        exact .one isStep isComposite rfl isDelimiter areAll present
  | false =>
      have after :=
        lookup_standardStep_of_single textual answered isComposite
      rw [found] at after
      split at after
      case isTrue =>
        exact ofInputs after.symm
      case isFalse present =>
        cases after
        exact .many present fun _ member =>
          recorded_of_mem_singleMessages founded member

/-- A step keeps a payload founded. -/
theorem isFounded_standardStep
    (textual : result.HasTextKeys)
    (isStep : step ∈ plan)
    (founded : payload.IsFounded settings plan result)
    (answered :
      standardStep settings inputKeys result payload step = .ok notices) :
    notices.IsFounded settings plan result := by
  have inputsFounded :
      (withInputErrors result payload step).IsFounded settings plan
        result :=
    isFounded_withInputErrors founded
  rcases standardStep_cases answered with rfl | ⟨notice, rfl⟩
  · exact inputsFounded
  · apply isFounded_put inputsFounded
    exact isFounded_field textual isStep founded answered
      (lookup_put_self (.of_lawful _) _ _)

/-- A step adds no notice under a name that has one. -/
theorem nodup_standardStep
    (distinct : (payload.map Prod.fst).Nodup)
    (answered :
      standardStep settings inputKeys result payload step = .ok notices) :
    (notices.map Prod.fst).Nodup := by
  have afterInputs
      (inputs : List String)
      (payload : Payload)
      (distinct : (payload.map Prod.fst).Nodup) :
      ((inputs.foldl (withErrorsOf result) payload).map
        Prod.fst).Nodup := by
    induction inputs generalizing payload with
    | nil =>
        exact distinct
    | cons input rest inductionHypothesis =>
        apply inductionHypothesis
        unfold withErrorsOf
        split
        · exact distinct
        · exact nodup_keys_put (.of_lawful _) _ distinct
  have inputsDistinct := afterInputs step.inputs payload distinct
  rw [← withInputErrors_eq_foldl] at inputsDistinct
  rcases standardStep_cases answered with rfl | ⟨notice, rfl⟩
  · exact inputsDistinct
  · exact nodup_keys_put (.of_lawful _) _ inputsDistinct

/-! ## A whole plan -/

/-- The notices of a standard payload are founded. -/
theorem isFounded_of_standardErrors
    (textual : result.HasTextKeys)
    (reported : standardErrors settings plan result = .ok notices) :
    notices.IsFounded settings plan result :=
  foldlM_keeps
    (fun _ isStep _ _ founded answered =>
      isFounded_standardStep textual isStep founded answered)
    (List.forall_mem_nil _) reported

/-- A standard payload has one notice under each of its names. -/
theorem nodup_of_standardErrors
    (reported : standardErrors settings plan result = .ok notices) :
    (notices.map Prod.fst).Nodup := by
  have keeps
      (step : Step)
      (_ : step ∈ plan)
      (before after : Payload)
      (distinct : (before.map Prod.fst).Nodup)
      (answered :
        standardStep settings (plan.flatMap Step.inputs) result before step =
          .ok after) :
      (after.map Prod.fst).Nodup :=
    nodup_standardStep distinct answered
  refine foldlM_keeps keeps ?_ reported
  exact List.nodup_nil

/-- An input that failed is one of the names of a standard payload. -/
theorem mem_names_of_failed_input
    (textual : result.HasTextKeys)
    (reported : standardErrors settings plan result = .ok notices)
    (isStep : step ∈ plan)
    (isInput : name ∈ step.inputs)
    (failed : result.hasErrorsAt (.text name) = true) :
    name ∈ notices.map Prod.fst := by
  obtain ⟨message, recorded⟩ := Result.hasErrorsAt_text_iff.mp failed
  obtain ⟨notice, found, _⟩ :=
    shows_of_foldlM textual reported recorded
      (.inr ⟨step, isStep, isInput⟩)
  exact mem_keys_of_lookup (.of_lawful _) found

/--
The standard payload of a result whose messages are texts. Each of its names is
an input or a field of the plan and has one notice, each input that failed is
among them, and each notice is founded.
-/
theorem standardErrors_contents
    (plan : Plan)
    (keys : result.HasTextKeys)
    (messages : result.HasTextMessages)
    (delimiter : settings.HasDelimiter) :
    ∃ payload,
      standardErrors settings plan result = .ok payload ∧
        (payload.map Prod.fst).Nodup ∧
        (∀ name ∈ payload.map Prod.fst, ∃ step ∈ plan,
          name ∈ step.inputs ∨ name = step.field) ∧
        (∀ step ∈ plan, ∀ input ∈ step.inputs,
          result.hasErrorsAt (.text input) = true →
            input ∈ payload.map Prod.fst) ∧
        ∀ item ∈ payload,
          item.2.IsFounded settings plan result item.1 := by
  obtain ⟨payload, reported⟩ :
      ∃ payload, standardErrors settings plan result = .ok payload :=
    standardErrors_answers keys (.inr ⟨messages, delimiter⟩)
  refine ⟨payload, reported, nodup_of_standardErrors reported, ?_, ?_,
    isFounded_of_standardErrors keys reported⟩
  · intro name member
    obtain ⟨step, isStep, isName⟩ :=
      mem_names_of_standardErrors reported member
    exact ⟨step, isStep, (List.mem_cons.mp isName).symm⟩
  · intro step isStep input isInput failed
    exact mem_names_of_failed_input keys reported isStep isInput failed

/-- A date that is read from its parts, and a name. -/
def dateAndName : Plan :=
  [{ field := "date"
     inputs := ["year", "month", "day"]
     method := "validate_full_date"
     capability := Capability.fullDate
     arguments := []
     isRequired := true
     message := "No date" },
   { field := "name"
     inputs := ["name"]
     method := "validate_name_field"
     capability := Capability.personName
     arguments := []
     isRequired := false
     message := "No name" }]

/-- A month that is none, and a day and a name that are missing. -/
def unnamedDay : Result :=
  ⟨[.error (.text "day") (.text "No date"),
    .error (.text "date_month") (.text "No such month"),
    .error (.text "name") (.text "No name")]⟩

/-- The payload of the missing day and name is founded and names them. -/
theorem standardErrors_contents_unnamedDay :
    ∃ payload,
      standardErrors {} dateAndName unnamedDay = .ok payload ∧
        "day" ∈ payload.map Prod.fst ∧
        "name" ∈ payload.map Prod.fst ∧
        ∀ item ∈ payload,
          item.2.IsFounded {} dateAndName unnamedDay item.1 := by
  have keys : unnamedDay.HasTextKeys := by
    simp [Result.HasTextKeys, unnamedDay, Entry.key]
  have messages : unnamedDay.HasTextMessages := by
    intro key message recorded
    simp only [unnamedDay, List.mem_cons, Entry.error.injEq,
      List.not_mem_nil, or_false] at recorded
    rcases recorded with ⟨_, rfl⟩ | ⟨_, rfl⟩ | ⟨_, rfl⟩ <;> exact ⟨_, rfl⟩
  have delimiter : Settings.HasDelimiter {} :=
    ⟨"; ", rfl⟩
  obtain ⟨payload, reported, _, _, covers, founded⟩ :=
    standardErrors_contents dateAndName keys messages delimiter
  refine ⟨payload, reported, ?_, ?_, founded⟩
  · exact covers _ (List.mem_cons_self ..) "day" (by decide) (by decide)
  · exact covers _ (List.mem_cons_of_mem _ (List.mem_cons_self ..)) "name"
      (by decide) (by decide)

end Report

end FormCheck
