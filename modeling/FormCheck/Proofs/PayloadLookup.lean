import FormCheck.Proofs.Notices

namespace FormCheck

/-!
# What a payload holds under one name

The steps of a plan write into the payload one after the other, and each may
replace what it finds there. Under any one name a step does three things at
most: it puts the messages of an input, it puts the combined text of its field,
or it adds to the messages that are listed under its field. So a notice under a
name can be followed through the plan without a look at the other names.
-/

/-- The messages that a notice lists, none if there is no list. -/
def Notice.listed : Option Notice → List Value
  | some (.many messages) => messages
  | _ => []

/-- A notice shows a message if it lists it or has its text among joined texts. -/
def Notice.Shows
    (settings : Settings)
    (message : Value) : Notice → Prop
  | .many messages => message ∈ messages
  | .one combined =>
      ∃ delimiter texts text,
        settings.compositeDelimiter = .text delimiter ∧
          combined = .text (Value.joined delimiter texts) ∧
          text ∈ texts ∧
          message = .text text

/-- A payload shows a message under a name if its notice there does. -/
def Payload.Shows
    (settings : Settings)
    (payload : Payload)
    (name : String)
    (message : Value) : Prop :=
  ∃ notice,
    lookup name payload = some notice ∧ notice.Shows settings message

/-- A message was recorded under a text if it is among the messages there. -/
theorem Result.mem_errorsAt_iff
    {result : Result}
    {characters : String}
    {message : Value} :
    message ∈ result.errorsAt (.text characters) ↔
      Entry.error (.text characters) message ∈ result.entries := by
  unfold errorsAt
  rw [List.mem_filterMap]
  constructor
  · rintro ⟨entry, member, shows⟩
    exact Entry.key_of_messageAt? shows ▸ member
  · intro member
    exact ⟨_, member, by simp [Entry.messageAt?]⟩

namespace Report

variable
  {settings : Settings}
  {inputKeys : List String}
  {result : Result}
  {step : Step}
  {payload notices : Payload}
  {name : String}
  {message : Value}

/-! ## One step -/

/-- Under the input that it reports, a step lists the messages that there are. -/
theorem lookup_withErrorsOf_self
    (present : result.errorsAt (.text name) ≠ []) :
    lookup name (withErrorsOf result payload name) =
      some (.many (result.errorsAt (.text name))) := by
  unfold withErrorsOf
  split
  case h_1 none =>
    exact (present none).elim
  case h_2 =>
    exact lookup_put_self (.of_lawful _) _ _

/-- Under other names, the report of an input changes nothing. -/
theorem lookup_withErrorsOf_of_ne
    {input : String}
    (differs : name ≠ input) :
    lookup name (withErrorsOf result payload input) =
      lookup name payload := by
  unfold withErrorsOf
  split
  · rfl
  · exact lookup_put_of_ne (.of_lawful _) (.of_lawful _) differs _ _

/-- Under an input without messages, its report changes nothing. -/
theorem withErrorsOf_of_none
    (none : result.errorsAt (.text name) = []) :
    withErrorsOf result payload name = payload := by
  unfold withErrorsOf
  rw [none]

/-- Under an input with messages, a step lists them. -/
theorem lookup_withInputErrors :
    lookup name (withInputErrors result payload step) =
      if name ∈ step.inputs ∧ result.errorsAt (.text name) ≠ [] then
        some (.many (result.errorsAt (.text name)))
      else
        lookup name payload := by
  rw [withInputErrors_eq_foldl]
  induction step.inputs generalizing payload with
  | nil =>
      simp
  | cons input rest inductionHypothesis =>
      rw [List.foldl_cons, inductionHypothesis]
      by_cases none : result.errorsAt (.text name) = []
      · simp only [none, ne_eq, not_true_eq_false, and_false, ↓reduceIte]
        by_cases same : name = input
        · subst same
          rw [withErrorsOf_of_none none]
        · rw [lookup_withErrorsOf_of_ne same]
      · simp only [ne_eq, none, not_false_eq_true, and_true,
          List.mem_cons]
        by_cases same : name = input
        · subst same
          simp [lookup_withErrorsOf_self none]
        · simp [lookup_withErrorsOf_of_ne same, same]

/-- Under a name that is not its field, a step only lists messages of an input. -/
theorem lookup_standardStep_of_ne
    (answered :
      standardStep settings inputKeys result payload step = .ok notices)
    (differs : name ≠ step.field) :
    lookup name notices =
      lookup name (withInputErrors result payload step) := by
  rcases standardStep_cases answered with rfl | ⟨notice, rfl⟩
  · rfl
  · exact lookup_put_of_ne (.of_lawful _) (.of_lawful _) differs _ _

/-- With several inputs, a step puts the combined text of its field, if any. -/
theorem lookup_standardStep_of_composite
    (textual : result.HasTextKeys)
    (answered :
      standardStep settings inputKeys result payload step = .ok notices)
    (isComposite : step.isComposite = true) :
    ∃ delimiter texts,
      settings.compositeDelimiter = .text delimiter ∧
        messagesUnder (startsWith · step.field) result =
          texts.map Value.text ∧
        lookup step.field notices =
          if Value.joined delimiter texts = "" then
            lookup step.field (withInputErrors result payload step)
          else
            some (.one (.text (Value.joined delimiter texts))) := by
  unfold standardStep at answered
  dsimp only at answered
  rw [if_pos isComposite] at answered
  obtain ⟨text, combines, put⟩ := Except.bind_eq_ok_iff.mp answered
  obtain ⟨delimiter, texts, isText, areTexts, rfl⟩ :=
    (combined_eq_ok_iff textual).mp combines
  refine ⟨delimiter, texts, isText, areTexts, ?_⟩
  cases put
  split
  · rfl
  · exact lookup_put_self (.of_lawful _) _ _

/-- The messages that a step with one input lists under its field. -/
def singleMessages
    (inputKeys : List String)
    (result : Result)
    (payload : Payload)
    (step : Step) : List Value :=
  Notice.listed
      (lookup step.field (withInputErrors result payload step)) ++
    (if step.inputs.contains step.field then []
      else result.errorsAt step.key) ++
    messagesUnder
      (fun key =>
        startsWith key (step.field ++ "_") && !inputKeys.contains key)
      result

/-- With one input, a step adds to the messages listed under its field. -/
theorem lookup_standardStep_of_single
    (textual : result.HasTextKeys)
    (answered :
      standardStep settings inputKeys result payload step = .ok notices)
    (isSingle : step.isComposite = false) :
    lookup step.field notices =
      if singleMessages inputKeys result payload step = [] then
        lookup step.field (withInputErrors result payload step)
      else
        some (.many (singleMessages inputKeys result payload step)) := by
  unfold standardStep at answered
  dsimp only at answered
  rw [if_neg (by simp [isSingle]), messagesWhere_errors textual] at answered
  obtain ⟨derived, same, answered⟩ := Except.bind_eq_ok_iff.mp answered
  cases same
  split at answered
  case h_1 none =>
    cases answered
    exact (if_pos none).symm
  case h_2 present =>
    cases answered
    refine (lookup_put_self (.of_lawful _) _ _).trans (if_neg ?_).symm
    exact present

/-! ## Messages that are shown -/

/-- A list shows each of its members. -/
theorem shows_of_mem
    {messages : List Value}
    (found : lookup name notices = some (.many messages))
    (member : message ∈ messages) :
    notices.Shows settings name message :=
  ⟨_, found, member⟩

/-- With several inputs, a step shows all messages under keys of its field. -/
theorem shows_field_of_composite
    (textual : result.HasTextKeys)
    (answered :
      standardStep settings inputKeys result payload step = .ok notices)
    (isComposite : step.isComposite = true)
    {characters : String}
    (recorded : Entry.error (.text characters) message ∈ result.entries)
    (starts : startsWith characters step.field = true)
    (notEmpty :
      message.isTruthy = true ∨
        (withInputErrors result payload step).Shows settings step.field
          message) :
    notices.Shows settings step.field message := by
  obtain ⟨delimiter, texts, isText, areTexts, found⟩ :=
    lookup_standardStep_of_composite textual answered isComposite
  have member :
      message ∈ messagesUnder (startsWith · step.field) result :=
    mem_messagesUnder textual recorded starts
  rw [areTexts] at member
  obtain ⟨text, isPart, rfl⟩ := List.mem_map.mp member
  by_cases none : Value.joined delimiter texts = ""
  · rw [if_pos none] at found
    rcases notEmpty with truthy | ⟨notice, held, shown⟩
    · refine (Value.joined_ne_empty isPart ?_ none).elim
      simpa [Value.isTruthy] using truthy
    · exact ⟨notice, found.trans held, shown⟩
  · rw [if_neg none] at found
    exact ⟨_, found, delimiter, texts, text, isText, rfl, isPart, rfl⟩

/-- With one input, a step shows what it lists under its field. -/
theorem shows_field_of_single
    (textual : result.HasTextKeys)
    (answered :
      standardStep settings inputKeys result payload step = .ok notices)
    (isSingle : step.isComposite = false)
    (member : message ∈ singleMessages inputKeys result payload step) :
    notices.Shows settings step.field message := by
  have found := lookup_standardStep_of_single textual answered isSingle
  rw [if_neg (List.ne_nil_of_mem member)] at found
  exact shows_of_mem found member

/-- The messages of an input are shown under it once it is reported. -/
theorem shows_withInputErrors
    (recorded : Entry.error (.text name) message ∈ result.entries)
    (before :
      payload.Shows settings name message ∨ name ∈ step.inputs) :
    (withInputErrors result payload step).Shows settings name message := by
  have member := Result.mem_errorsAt_iff.mpr recorded
  have found :
      lookup name (withInputErrors result payload step) = _ :=
    lookup_withInputErrors
  by_cases isInput : name ∈ step.inputs
  · rw [if_pos ⟨isInput, List.ne_nil_of_mem member⟩] at found
    exact shows_of_mem found member
  · rw [if_neg fun both => isInput both.1] at found
    rcases before with ⟨notice, held, shown⟩ | isInput'
    · exact ⟨notice, found.trans held, shown⟩
    · exact (isInput isInput').elim

/--
What was recorded under a name stays shown there, and is shown there from the
first step on that has the name among its inputs.
-/
theorem shows_of_standardStep
    (textual : result.HasTextKeys)
    (answered :
      standardStep settings inputKeys result payload step = .ok notices)
    (recorded : Entry.error (.text name) message ∈ result.entries)
    (before :
      payload.Shows settings name message ∨ name ∈ step.inputs) :
    notices.Shows settings name message := by
  have listed := shows_withInputErrors recorded before
  by_cases isField : name = step.field
  · subst isField
    cases composite : step.isComposite with
    | true =>
        exact shows_field_of_composite textual answered composite recorded
          (startsWith_self _) (.inr listed)
    | false =>
        apply shows_field_of_single textual answered composite
        have member := Result.mem_errorsAt_iff.mpr recorded
        by_cases isInput : step.field ∈ step.inputs
        · refine List.mem_append_left _ (List.mem_append_left _ ?_)
          rw [lookup_withInputErrors,
            if_pos ⟨isInput, List.ne_nil_of_mem member⟩]
          exact member
        · refine List.mem_append_left _ (List.mem_append_right _ ?_)
          rw [if_neg (by simpa using isInput)]
          exact member
  · obtain ⟨notice, found, shown⟩ := listed
    exact ⟨notice,
      (lookup_standardStep_of_ne answered isField).trans found, shown⟩

/--
A message that is not empty, recorded under a key of the field of a step that is
no input, is shown under the field.
-/
theorem shows_field_of_standardStep
    (textual : result.HasTextKeys)
    (answered :
      standardStep settings inputKeys result payload step = .ok notices)
    {characters : String}
    (recorded : Entry.error (.text characters) message ∈ result.entries)
    (belongs : (Value.text characters).BelongsTo step.field)
    (isNoInput : characters ∉ inputKeys ∧ characters ∉ step.inputs)
    (truthy : message.isTruthy = true) :
    notices.Shows settings step.field message := by
  rw [Value.belongsTo_text_iff] at belongs
  cases composite : step.isComposite with
  | true =>
      have starts : startsWith characters step.field = true := by
        rcases belongs with rfl | derived
        · exact startsWith_self _
        · exact startsWith_trans derived (startsWith_append _ _)
      exact shows_field_of_composite textual answered composite recorded
        starts (.inl truthy)
  | false =>
      apply shows_field_of_single textual answered composite
      rcases belongs with rfl | derived
      · refine List.mem_append_left _ (List.mem_append_right _ ?_)
        rw [if_neg (by simpa using isNoInput.2)]
        exact Result.mem_errorsAt_iff.mpr recorded
      · refine List.mem_append_right _ ?_
        exact mem_messagesUnder textual recorded
          (by simp [derived, isNoInput.1])

/-! ## A whole plan -/

variable {steps : List Step}

/-- What each step of a report keeps true of the payload stays true of it. -/
theorem foldlM_keeps
    {add : Payload → Step → Except Fault Payload}
    {invariant : Payload → Prop}
    (keeps :
      ∀ step ∈ steps, ∀ before after,
        invariant before → add before step = .ok after → invariant after)
    (holds : invariant payload)
    (answered : steps.foldlM add payload = .ok notices) :
    invariant notices := by
  induction steps generalizing payload with
  | nil =>
      cases answered
      exact holds
  | cons step rest inductionHypothesis =>
      rw [List.forall_mem_cons] at keeps
      rw [List.foldlM_cons] at answered
      obtain ⟨between, first, others⟩ := Except.bind_eq_ok_iff.mp answered
      have middle := keeps.1 payload between holds first
      exact inductionHypothesis keeps.2 middle others

/-- Some steps put notices only under their names. -/
theorem mem_names_of_foldlM
    (answered :
      steps.foldlM (standardStep settings inputKeys result) payload =
        .ok notices)
    (member : name ∈ notices.map Prod.fst) :
    name ∈ payload.map Prod.fst ∨ ∃ step ∈ steps, name ∈ step.names := by
  induction steps generalizing payload with
  | nil =>
      cases answered
      exact .inl member
  | cons step rest inductionHypothesis =>
      rw [List.foldlM_cons] at answered
      obtain ⟨between, first, others⟩ := Except.bind_eq_ok_iff.mp answered
      rcases inductionHypothesis others with early | ⟨other, isRest, isName⟩
      · rcases mem_names_of_standardStep first early with before | isName
        · exact .inl before
        · exact .inr ⟨step, List.mem_cons_self .., isName⟩
      · exact .inr ⟨other, List.mem_cons_of_mem _ isRest, isName⟩

/-- The standard payload of a plan has notices only under names of its steps. -/
theorem mem_names_of_standardErrors
    {plan : Plan}
    (reported : standardErrors settings plan result = .ok notices)
    (member : name ∈ notices.map Prod.fst) :
    ∃ step ∈ plan, name ∈ step.names := by
  rcases mem_names_of_foldlM reported member with none | found
  · cases none
  · exact found

/-- Along some steps, what was recorded under a name stays shown there. -/
theorem shows_of_foldlM
    (textual : result.HasTextKeys)
    (answered :
      steps.foldlM (standardStep settings inputKeys result) payload =
        .ok notices)
    (recorded : Entry.error (.text name) message ∈ result.entries)
    (before :
      payload.Shows settings name message ∨
        ∃ step ∈ steps, name ∈ step.inputs) :
    notices.Shows settings name message := by
  induction steps generalizing payload with
  | nil =>
      cases answered
      rcases before with shown | ⟨_, none, _⟩
      · exact shown
      · cases none
  | cons step rest inductionHypothesis =>
      rw [List.foldlM_cons] at answered
      obtain ⟨between, first, others⟩ := Except.bind_eq_ok_iff.mp answered
      apply inductionHypothesis others
      rcases before with shown | ⟨reader, member, isInput⟩
      · exact .inl (shows_of_standardStep textual first recorded (.inl shown))
      · rcases List.mem_cons.mp member with rfl | isRest
        · exact .inl
            (shows_of_standardStep textual first recorded (.inr isInput))
        · exact .inr ⟨reader, isRest, isInput⟩

/--
Along steps with other fields, a notice stays what it is unless a step has the
name among its inputs and there are messages under it, which are listed then.
-/
theorem lookup_of_foldlM
    (answered :
      steps.foldlM (standardStep settings inputKeys result) payload =
        .ok notices)
    (differs : ∀ step ∈ steps, step.field ≠ name) :
    lookup name notices =
      if (∃ step ∈ steps, name ∈ step.inputs) ∧
          result.errorsAt (.text name) ≠ [] then
        some (.many (result.errorsAt (.text name)))
      else
        lookup name payload := by
  induction steps generalizing payload with
  | nil =>
      cases answered
      simp
  | cons step rest inductionHypothesis =>
      rw [List.foldlM_cons] at answered
      obtain ⟨between, first, others⟩ := Except.bind_eq_ok_iff.mp answered
      rw [List.forall_mem_cons] at differs
      rw [inductionHypothesis others differs.2,
        lookup_standardStep_of_ne first (Ne.symm differs.1),
        lookup_withInputErrors]
      simp only [List.mem_cons, exists_eq_or_imp]
      by_cases later : ∃ reader ∈ rest, name ∈ reader.inputs <;>
        by_cases here : name ∈ step.inputs <;>
        by_cases none : result.errorsAt (.text name) = [] <;>
        simp [later, here, none]

/-- The payload of a plan, opened at one of its steps. -/
theorem standardErrors_split
    {plan : Plan}
    {before after : List Step}
    (split : plan = before ++ step :: after)
    (reported : standardErrors settings plan result = .ok notices) :
    ∃ early between,
      before.foldlM
            (standardStep settings (plan.flatMap Step.inputs) result) [] =
          .ok early ∧
        standardStep settings (plan.flatMap Step.inputs) result early step =
          .ok between ∧
        after.foldlM
            (standardStep settings (plan.flatMap Step.inputs) result)
            between =
          .ok notices := by
  unfold standardErrors at reported
  generalize plan.flatMap Step.inputs = inputKeys at reported ⊢
  rw [split, List.foldlM_append] at reported
  obtain ⟨early, first, continued⟩ := Except.bind_eq_ok_iff.mp reported
  rw [List.foldlM_cons] at continued
  obtain ⟨between, stepped, others⟩ :=
    Except.bind_eq_ok_iff.mp continued
  exact ⟨early, between, first, stepped, others⟩

end Report

end FormCheck
