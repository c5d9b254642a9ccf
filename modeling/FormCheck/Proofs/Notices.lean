import FormCheck.Proofs.Payload
import FormCheck.Settings.Reader

namespace FormCheck

/-!
# A failing step has a notice

A step without messages puts no notice. A step with a message always puts one:
under an input, under its field, or, with several inputs, in the combined text,
which is not empty since the messages of capabilities are not. So the report of
a single failing step never has to fall back on all messages.
-/

namespace Value

/-- Texts of which one is not empty are not empty when joined. -/
theorem joined_ne_empty
    {separator text : String}
    {texts : List String}
    (member : text ∈ texts)
    (present : text ≠ "") :
    joined separator texts ≠ "" := by
  fun_induction joined separator texts with
  | case1 =>
      cases member
  | case2 single =>
      rw [List.mem_singleton] at member
      rwa [← member]
  | case3 leading rest several inductionHypothesis =>
      intro empty
      have noCharacters := congrArg String.toList empty
      simp only [String.toList_append, String.toList_empty,
        List.append_eq_nil_iff, String.toList_eq_nil_iff] at noCharacters
      rcases List.mem_cons.mp member with rfl | later
      · exact present noCharacters.1.1
      · exact inductionHypothesis later noCharacters.2

end Value

/-- The delimiter of composite messages is a text, as settings promise. -/
def Settings.HasDelimiter
    (settings : Settings) : Prop :=
  ∃ delimiter, settings.compositeDelimiter = .text delimiter

/-- Settings that were read have a delimiter. -/
theorem Settings.hasDelimiter_of_read
    {assignments : List (String × String)}
    {file : Option String}
    {settings : Settings}
    (answered : Settings.read assignments file = .ok settings) :
    settings.HasDelimiter := by
  unfold Settings.read Settings.ofFound at answered
  dsimp only at answered
  split at answered
  case h_1 =>
    cases answered
    unfold Settings.HasDelimiter Settings.readText
    cases Settings.found assignments file
        "VALIDATION_COMPOSITE_DELIMITER" with
    | none =>
        exact ⟨_, rfl⟩
    | some delimiter =>
        exact ⟨delimiter, rfl⟩
  case h_2 =>
    cases answered

namespace Report

variable
  {settings : Settings}
  {step : Step}
  {own : Result}
  {notices : Payload}

/-- Texts as messages have these texts. -/
theorem mapM_messageText_map
    (texts : List String) :
    (texts.map Value.text).mapM messageText = .ok texts := by
  induction texts with
  | nil =>
      rfl
  | cons text rest inductionHypothesis =>
      rw [List.map_cons, List.mapM_cons, inductionHypothesis]
      rfl

/-- Messages that have texts are these texts. -/
theorem eq_map_of_mapM_messageText
    {messages : List Value}
    {texts : List String}
    (answered : messages.mapM messageText = .ok texts) :
    messages = texts.map Value.text := by
  induction messages generalizing texts with
  | nil =>
      cases answered
      rfl
  | cons message rest inductionHypothesis =>
      rw [List.mapM_cons] at answered
      obtain ⟨text, isText, continued⟩ :=
        Except.bind_eq_ok_iff.mp answered
      obtain ⟨restTexts, others, same⟩ :=
        Except.bind_eq_ok_iff.mp continued
      cases same
      rw [List.map_cons, ← inductionHypothesis others]
      unfold messageText at isText
      split at isText
      · cases isText
        rfl
      · cases isText

/-- The combined text joins all messages under keys that start with a field. -/
theorem combined_eq_ok_iff
    (textual : own.HasTextKeys)
    {field text : String} :
    combined settings own (.text field) .null = .ok text ↔
      ∃ delimiter texts,
        settings.compositeDelimiter = .text delimiter ∧
          messagesUnder (startsWith · field) own =
            texts.map Value.text ∧
          text = Value.joined delimiter texts := by
  have found :
      messagesWhere (startsWithValue (.text field)) own.errors =
        .ok (messagesUnder (startsWith · field) own) :=
    messagesWhere_errors textual _
  unfold combined
  rw [Except.bind_eq_ok_iff]
  simp only [found, Except.ok.injEq, exists_eq_left', Value.orDefault]
  constructor
  · intro answered
    split at answered
    case h_1 delimiter isText =>
      obtain ⟨texts, mapped, joined⟩ :=
        Except.bind_eq_ok_iff.mp answered
      cases joined
      exact ⟨delimiter, texts, isText,
        eq_map_of_mapM_messageText mapped, rfl⟩
    case h_2 =>
      cases answered
  · rintro ⟨delimiter, texts, isText, areTexts, rfl⟩
    rw [isText, areTexts]
    exact Except.bind_eq_ok_iff.mpr
      ⟨texts, mapM_messageText_map texts, rfl⟩

/-- A step without messages puts no notice. -/
theorem standardStep_of_not_hasErrors
    (delimiter : settings.HasDelimiter)
    (passed : own.hasErrors = false)
    (step : Step) :
    standardStep settings step.inputs own [] step = .ok [] := by
  have noInputErrors : withInputErrors own [] step = [] := by
    rw [withInputErrors_eq_foldl]
    induction step.inputs with
    | nil =>
        rfl
    | cons input rest inductionHypothesis =>
        rw [List.foldl_cons, withErrorsOf,
          Result.errorsAt_of_not_hasErrors passed]
        exact inductionHypothesis
  obtain ⟨text, isText⟩ := delimiter
  unfold standardStep
  dsimp only
  rw [noInputErrors]
  split
  · unfold withCombined combined
    rw [Result.errors_of_not_hasErrors passed]
    simp only [messagesWhere, Value.orDefault, isText]
    rfl
  · rw [Result.errors_of_not_hasErrors passed,
      Result.errorsAt_of_not_hasErrors passed, ite_self]
    rfl

/-- The combined text is not empty if one of its messages is not. -/
theorem combined_ne_empty
    (textual : own.HasTextKeys)
    {characters text : String}
    {message : Value}
    (recorded : Entry.error (.text characters) message ∈ own.entries)
    (starts : startsWith characters step.field = true)
    (present : message.isTruthy = true)
    (answered : combined settings own step.key .null = .ok text) :
    text ≠ "" := by
  have member :
      message ∈ messagesUnder (startsWith · step.field) own :=
    mem_messagesUnder textual recorded starts
  obtain ⟨delimiter, texts, _, areTexts, rfl⟩ :=
    (combined_eq_ok_iff textual).mp answered
  rw [areTexts] at member
  obtain ⟨text, isText, rfl⟩ := List.mem_map.mp member
  apply Value.joined_ne_empty isText
  simpa [Value.isTruthy] using present

/-- A message under the field of a step, or under a key of it, puts a notice. -/
theorem notices_ne_nil_of_belongs
    (textual : own.HasTextKeys)
    {characters : String}
    {message : Value}
    (recorded : Entry.error (.text characters) message ∈ own.entries)
    (belongs : (Value.text characters).BelongsTo step.field)
    (present : message.isTruthy = true)
    (isNoInput : characters ∉ step.inputs)
    (answered :
      standardStep settings step.inputs own [] step = .ok notices) :
    notices ≠ [] := by
  unfold standardStep at answered
  dsimp only at answered
  generalize withInputErrors own [] step = collected at answered
  split at answered
  · unfold withCombined at answered
    cases joined : combined settings own step.key .null with
    | error fault =>
        rw [joined] at answered
        cases answered
    | ok text =>
        have starts : startsWith characters step.field = true := by
          obtain ⟨_, same, rfl | derived⟩ := belongs
          · cases same
            exact startsWith_self _
          · cases same
            exact startsWith_trans derived (startsWith_append _ _)
        have notEmpty :=
          combined_ne_empty textual recorded starts present joined
        rw [joined] at answered
        change Except.ok (if text = "" then _ else _) = _ at answered
        rw [if_neg notEmpty] at answered
        cases answered
        exact put_ne_nil _ _ _
  · rw [messagesWhere_errors textual] at answered
    simp only [bind, Except.bind] at answered
    split at answered
    case h_1 none =>
      exfalso
      simp only [List.append_eq_nil_iff] at none
      obtain ⟨_, same, rfl | derived⟩ := belongs
      · cases same
        have ownNone := none.1.2
        rw [if_neg (by simpa using isNoInput)] at ownNone
        have failed :=
          Result.hasErrorsAt_text_iff.mpr ⟨message, recorded⟩
        rw [Result.hasErrorsAt, ← Step.key, ownNone] at failed
        cases failed
      · cases same
        have isDerived :
            (startsWith characters (step.field ++ "_") &&
              !step.inputs.contains characters) = true := by
          simpa [derived] using isNoInput
        have member :
            message ∈
              messagesUnder
                (fun key =>
                  startsWith key (step.field ++ "_") &&
                    !step.inputs.contains key)
                own :=
          mem_messagesUnder textual recorded isDerived
        rw [none.2] at member
        cases member
    case h_2 =>
      cases answered
      exact put_ne_nil _ _ _

/--
A step with a message puts a notice, if its messages are recorded under its
inputs or else under keys of its field and are not empty there.
-/
theorem notices_ne_nil
    (textual : own.HasTextKeys)
    (accounted :
      ∀ key message, Entry.error key message ∈ own.entries →
        (∃ input ∈ step.inputs, key = .text input) ∨
          key.BelongsTo step.field ∧ message.isTruthy = true)
    (failed : own.hasErrors = true)
    (answered :
      standardStep settings step.inputs own [] step = .ok notices) :
    notices ≠ [] := by
  have ofInput
      (input : String)
      (isInput : input ∈ step.inputs)
      (message : Value)
      (recorded : Entry.error (.text input) message ∈ own.entries) :
      notices ≠ [] := by
    have failedHere :=
      Result.hasErrorsAt_text_iff.mpr ⟨message, recorded⟩
    rw [Result.hasErrorsAt, Bool.not_eq_true',
      List.isEmpty_eq_false_iff] at failedHere
    rcases standardStep_cases answered with rfl | ⟨notice, rfl⟩
    · exact withInputErrors_ne_nil isInput failedHere []
    · exact put_ne_nil _ _ _
  obtain ⟨key, message, recorded⟩ := Result.hasErrors_iff.mp failed
  rcases accounted key message recorded with
      ⟨input, isInput, rfl⟩ | ⟨belongs, present⟩
  · exact ofInput input isInput message recorded
  · obtain ⟨characters, rfl⟩ := textual _ recorded
    by_cases isInput : characters ∈ step.inputs
    · exact ofInput characters isInput message recorded
    · exact notices_ne_nil_of_belongs textual recorded belongs present
        isInput answered

end Report

end FormCheck
