import FormCheck.Proofs.PayloadLookup
import FormCheck.Proofs.Wording
import FormCheck.Response

namespace FormCheck

/-!
# Responses to runs

There are two ways to a response to a failure: from the outcome itself, and from
the refusal of its values. Both need a payload that fits the types of a response,
texts as keys and under each of them a text or a list of texts. Whichever branch
of the report a payload comes from, it fits them if all messages are texts, and
no key in it is without a message. Then both ways give the same response, which
hands on the payload and the submitted data, whatever validates its fields, as long
as that takes messages by key and entries with textual keys as they are.
-/

namespace Value

/-- A value that a response can hold under a key: a text, or texts in a list. -/
def IsMessages
    (value : Value) : Prop :=
  ∃ messages : Messages,
    value = messages.toValue ∧ messages.toList ≠ []

/-- A text can be held. -/
theorem isMessages_text
    (text : String) :
    (Value.text text).IsMessages :=
  ⟨.single text, rfl, List.cons_ne_nil _ _⟩

/-- A list can be held if it has members and all of them are texts. -/
theorem isMessages_list_iff
    {items : List Value} :
    (Value.list items).IsMessages ↔
      items ≠ [] ∧ ∀ item ∈ items, item.IsText := by
  constructor
  · rintro ⟨messages, same, present⟩
    cases messages with
    | single text =>
        cases same
    | several texts =>
        cases same
        refine ⟨fun none => present (List.map_eq_nil_iff.mp none), ?_⟩
        exact List.forall_mem_map.mpr fun text _ => ⟨text, rfl⟩
  · rintro ⟨present, areTexts⟩
    obtain ⟨texts, rfl⟩ := exists_texts areTexts
    refine ⟨.several texts, rfl, fun none => present ?_⟩
    exact List.map_eq_nil_iff.mpr none

/-- The entries of a record, also where nothing takes the place of an empty one. -/
theorem entries_orElse_record
    (rows : List (String × Value)) :
    ((record rows).orElse (.dict [])).entries =
      .ok (rows.map fun row => (.text row.1, row.2)) := by
  cases rows <;> rfl

end Value

/-- The payload that messages by key make. -/
def Messages.payload
    (rows : List (String × Messages)) : Value :=
  .record (rows.map fun row => (row.1, row.2.toValue))

/-! ## Payloads -/

/-- A payload is presentable if a response can hold what is under each key. -/
def Payload.IsPresentable
    (payload : Payload) : Prop :=
  ∀ item ∈ payload, item.2.toValue.IsMessages

namespace Payload.IsPresentable

variable {payload : Payload}

/-- What is put into a presentable payload has to be held by a response as well. -/
theorem put
    (presentable : payload.IsPresentable)
    {notice : Notice}
    (isMessages : notice.toValue.IsMessages)
    (name : String) :
    Payload.IsPresentable (FormCheck.put name notice payload) := by
  intro item member
  rcases mem_of_mem_put member with old | new
  · exact presentable item old
  · rw [new]
    exact isMessages

/-- A text may be put into a presentable payload. -/
theorem put_one
    (presentable : payload.IsPresentable)
    (name text : String) :
    Payload.IsPresentable
      (FormCheck.put name (.one (.text text)) payload) :=
  have isMessages : (Notice.one (.text text)).toValue.IsMessages :=
    Value.isMessages_text text
  presentable.put isMessages name

/-- Texts, at least one, may be put into a presentable payload. -/
theorem put_many
    (presentable : payload.IsPresentable)
    {messages : List Value}
    (present : messages ≠ [])
    (areTexts : ∀ message ∈ messages, message.IsText)
    (name : String) :
    Payload.IsPresentable (FormCheck.put name (.many messages) payload) :=
  have isMessages : (Notice.many messages).toValue.IsMessages :=
    Value.isMessages_list_iff.mpr ⟨present, areTexts⟩
  presentable.put isMessages name

end Payload.IsPresentable

namespace Report

variable
  {settings : Settings}
  {inputKeys : List String}
  {result : Result}
  {step : Step}
  {payload notices : Payload}

/-- The messages under an input are presentable. -/
theorem isPresentable_withInputErrors
    (messages : result.HasTextMessages)
    (presentable : payload.IsPresentable) :
    (withInputErrors result payload step).IsPresentable := by
  rw [withInputErrors_eq_foldl]
  induction step.inputs generalizing payload with
  | nil =>
      exact presentable
  | cons input rest inductionHypothesis =>
      apply inductionHypothesis
      by_cases none : result.errorsAt (.text input) = []
      · rw [withErrorsOf_of_none none]
        exact presentable
      · have shown :
            withErrorsOf result payload input =
              put input (.many (result.errorsAt (.text input))) payload := by
          unfold withErrorsOf
          split
          · exact absurd (by assumption) none
          · rfl
        rw [shown]
        refine presentable.put_many none (fun message member => ?_) input
        exact messages _ message (Result.mem_errorsAt_iff.mp member)

/-- What one step adds to a presentable payload is presentable. -/
theorem isPresentable_standardStep
    (keys : result.HasTextKeys)
    (messages : result.HasTextMessages)
    (presentable : payload.IsPresentable)
    (answered :
      standardStep settings inputKeys result payload step = .ok notices) :
    notices.IsPresentable := by
  have early :
      (withInputErrors result payload step).IsPresentable :=
    isPresentable_withInputErrors messages presentable
  unfold standardStep at answered
  dsimp only at answered
  split at answered
  case isTrue =>
    obtain ⟨text, _, added⟩ := Except.bind_eq_ok_iff.mp answered
    cases added
    split
    · exact early
    · exact early.put_one step.field text
  case isFalse =>
    rw [messagesWhere_errors keys] at answered
    obtain ⟨derived, isDerived, added⟩ := Except.bind_eq_ok_iff.mp answered
    cases isDerived
    split at added
    case h_1 =>
      cases added
      exact early
    case h_2 present =>
      cases added
      refine early.put_many present ?_ step.field
      -- The list has three parts: what is there, the field's own, the derived.
      rw [List.forall_mem_append, List.forall_mem_append]
      refine ⟨⟨?_, ?_⟩, ?_⟩
      · split
        case h_1 listed found =>
          have held := mem_of_lookup (.of_lawful _) found
          exact (Value.isMessages_list_iff.mp (early _ held)).2
        case h_2 =>
          exact List.forall_mem_nil _
      · split
        · exact List.forall_mem_nil _
        · intro message member
          exact messages _ message (Result.mem_errorsAt_iff.mp member)
      · intro message member
        exact isText_of_mem_messagesUnder messages member

/-- What some steps add to a presentable payload is presentable. -/
theorem isPresentable_foldlM
    (keys : result.HasTextKeys)
    (messages : result.HasTextMessages)
    {steps : List Step}
    (presentable : payload.IsPresentable)
    (answered :
      steps.foldlM (standardStep settings inputKeys result) payload =
        .ok notices) :
    notices.IsPresentable := by
  refine foldlM_keeps (fun step _ before after => ?_) presentable answered
  exact isPresentable_standardStep keys messages

end Report

/-- Under every key of the messages by key there is one. -/
theorem Result.ne_nil_of_mem_errors
    {result : Result}
    {item : Value × List Value}
    (member : item ∈ result.errors) :
    item.2 ≠ [] := by
  have collected
      (entries : List Entry)
      (errors : List (Value × List Value))
      (present : ∀ item ∈ errors, item.2 ≠ []) :
      ∀ item ∈ entries.foldl collectError errors, item.2 ≠ [] := by
    induction entries generalizing errors with
    | nil =>
        exact present
    | cons entry rest inductionHypothesis =>
        apply inductionHypothesis
        cases entry with
        | value key stored =>
            exact present
        | error key message =>
            intro item isItem
            rcases mem_of_mem_put isItem with old | new
            · exact present item old
            · rw [new]
              exact List.concat_ne_nil _ _
  exact collected result.entries [] (List.forall_mem_nil _) item member

/-- Entries that a response can hold are messages by key. -/
theorem Messages.exists_rows
    {entries : Entries}
    (fit : ∀ entry ∈ entries, entry.1.IsText ∧ entry.2.IsMessages) :
    ∃ rows : List (String × Messages),
      Value.dict entries = payload rows ∧
        ∀ row ∈ rows, row.2.toList ≠ [] := by
  induction entries with
  | nil =>
      exact ⟨[], rfl, List.forall_mem_nil _⟩
  | cons entry rest inductionHypothesis =>
      obtain ⟨key, value⟩ := entry
      rw [List.forall_mem_cons] at fit
      obtain ⟨⟨⟨name, isName⟩, messages, isMessages, present⟩, restFit⟩ := fit
      obtain ⟨rows, same, restPresent⟩ := inductionHypothesis restFit
      refine ⟨(name, messages) :: rows, ?_,
        List.forall_mem_cons.mpr ⟨present, restPresent⟩⟩
      have sameRest := Value.dict.inj same
      dsimp only at isName isMessages
      rw [sameRest, isName, isMessages]
      rfl

/-- The standard payload of a failure is messages by key, at least one for each. -/
theorem Validator.exists_rows_of_failurePayload
    {validator : Validator}
    {environment : Environment}
    {plan : Plan}
    {result : Result}
    {errors : Value}
    (reporting : validator.style = Report.standard)
    (keys : result.HasTextKeys)
    (messages : result.HasTextMessages)
    (answered :
      validator.failurePayload environment plan result = .ok errors) :
    ∃ rows : List (String × Messages),
      errors = Messages.payload rows ∧ ∀ row ∈ rows, row.2.toList ≠ [] := by
  obtain ⟨notices, reported, rfl⟩ :=
    (failurePayload_eq_ok_iff reporting).mp answered
  split
  · refine Messages.exists_rows (List.forall_mem_map.mpr fun item member => ?_)
    obtain ⟨message, recorded⟩ :=
      Result.exists_error_of_mem_errors (List.mem_map_of_mem member)
    refine ⟨keys _ recorded, Value.isMessages_list_iff.mpr ?_⟩
    exact ⟨Result.ne_nil_of_mem_errors member,
      Result.isText_of_mem_errors messages member⟩
  · have presentable : notices.IsPresentable :=
      Report.isPresentable_foldlM keys messages (List.forall_mem_nil _)
        reported
    refine Messages.exists_rows ?_
    rw [List.forall_mem_map, List.forall_mem_map]
    exact fun item member => ⟨⟨item.1, rfl⟩, presentable item member⟩

/-! ## Responses -/

/-- A validation of fields is faithful if it takes what fits them as it is. -/
structure Response.Validation.IsFaithful
    (validation : Response.Validation) : Prop where
  errors : ∀ rows, validation.errors (Messages.payload rows) = .ok rows
  entries : ∀ rows, validation.entries (.record rows) = .ok rows

/-- Items that are written one by one are read back one by one. -/
theorem mapM_map_eq_ok
    {write : item → written}
    {read : written → Except Fault item}
    (readsBack : ∀ item, read (write item) = .ok item)
    (items : List item) :
    (items.map write).mapM read = .ok items := by
  induction items with
  | nil =>
      rfl
  | cons item rest inductionHypothesis =>
      rw [List.map_cons, List.mapM_cons, readsBack, inductionHypothesis]
      rfl

/-- What messages are written as is read as these messages. -/
theorem Messages.ofValue_toValue
    (messages : Messages) :
    ofValue messages.toValue = .ok messages := by
  cases messages with
  | single text =>
      rfl
  | several texts =>
      refine congrArg (Messages.several <$> ·) (mapM_map_eq_ok ?_ texts)
      intro text
      rfl

namespace Response

/-- The entries of a record with its texts as keys. -/
theorem Validation.textEntries_record
    (rows : List (String × Value)) :
    textEntries (.record rows) = .ok rows := by
  refine mapM_map_eq_ok ?_ rows
  intro row
  rfl

/-- The validation that goes by kinds is faithful. -/
theorem Validation.isFaithful_byKind :
    byKind.IsFaithful where
  errors rows := by
    have readsBack
        (row : String × Messages) :
        (do return (row.1, ← Messages.ofValue row.2.toValue)) =
          (.ok row : Except Fault (String × Messages)) := by
      rw [Messages.ofValue_toValue]
      rfl
    unfold byKind Messages.payload
    dsimp only
    rw [textEntries_record]
    exact mapM_map_eq_ok readsBack rows
  entries := textEntries_record

/-- An error response holds the messages of a payload and the submitted input. -/
theorem ofErrors_payload
    {validation : Validation}
    (faithful : validation.IsFaithful)
    (message : String)
    (rows : List (String × Messages))
    (input : List (String × Value)) :
    ofErrors validation message (Messages.payload rows) (.record input) =
      .ok ⟨message, rows, input⟩ := by
  unfold ofErrors
  rw [Value.entries_orElse_record]
  refine Except.bind_eq_ok_iff.mpr ⟨_, rfl, ?_⟩
  refine Except.bind_eq_ok_iff.mpr ⟨_, faithful.errors rows, ?_⟩
  exact Except.bind_eq_ok_iff.mpr ⟨_, faithful.entries input, rfl⟩

end Response

/--
A response to a failure presents a payload together with the submitted data: it
holds both unchanged, and of the fields exactly those that are keys of the payload
have messages.
-/
structure ErrorResponse.Presents
    (response : ErrorResponse)
    (errors data : Value) : Prop where
  errors_eq : Messages.payload response.errors = errors
  input_eq : .record response.input = data
  named :
    ∀ field, (errors.at? (.text field)).isSome = true →
      response.fieldMessages field ≠ []
  unnamed :
    ∀ field, errors.at? (.text field) = none →
      response.fieldMessages field = []

/-- A response made of a payload presents it, if no key is without a message. -/
theorem ErrorResponse.presents_payload
    {rows : List (String × Messages)}
    (present : ∀ row ∈ rows, row.2.toList ≠ [])
    (message : String)
    (input : List (String × Value)) :
    ErrorResponse.Presents ⟨message, rows, input⟩ (Messages.payload rows)
      (.record input) where
  errors_eq := rfl
  input_eq := rfl
  named := by
    intro field isKey
    rw [Messages.payload, Value.at?_record, lookup_map,
      Option.isSome_map] at isKey
    obtain ⟨messages, found⟩ := Option.isSome_iff_exists.mp isKey
    unfold fieldMessages
    dsimp only
    rw [found]
    exact present _ (mem_of_lookup (.of_lawful field) found)
  unnamed := by
    intro field noKey
    rw [Messages.payload, Value.at?_record, lookup_map,
      Option.map_eq_none_iff] at noKey
    unfold fieldMessages
    dsimp only
    rw [noKey]

namespace Validator

variable
  {validator : Validator}
  {environment : Environment}
  {data context : Value}
  {plan : Plan}
  {outcome : Outcome}

/-- Validating ends as the run does, with the values or their refusal. -/
theorem ended_validate
    (answered :
      (validator.run environment data context).ended = .ok outcome) :
    (validator.validate environment data context).ended =
      outcome.unwrap := by
  unfold validate
  rw [Journal.ended_bind, answered]
  rfl

/-- A run that passes has a record as its values. -/
theorem exists_record_of_passed
    {values : Value}
    (answered :
      (validator.run environment data context).ended =
        .ok (.passed values)) :
    ∃ clean : CleanValues, values = .record clean := by
  obtain ⟨plan, _, _, _, _, concluded⟩ := course_of_answers answered
  have passed := (hasPassed_iff concluded).mp rfl
  obtain ⟨clean, _, same⟩ :=
    (conclude_of_not_hasErrors passed).mp concluded
  cases same
  exact ⟨clean, rfl⟩

/-- A run that fails with texts as messages has messages by key as its payload. -/
theorem exists_rows_of_failed
    {errors : Value}
    (reporting : validator.style = Report.standard)
    (keys :
      (validator.reached environment data context).HasTextKeys)
    (messages :
      (validator.reached environment data context).HasTextMessages)
    (answered :
      (validator.run environment data context).ended =
        .ok (.failed errors)) :
    ∃ rows : List (String × Messages),
      errors = Messages.payload rows ∧ ∀ row ∈ rows, row.2.toList ≠ [] := by
  obtain ⟨plan, _, _, _, _, concluded⟩ := course_of_answers answered
  cases failed :
      (validator.reached environment data context).hasErrors with
  | false =>
      obtain ⟨_, _, same⟩ :=
        (conclude_of_not_hasErrors failed).mp concluded
      cases same
  | true =>
      obtain ⟨payload, chosen, _, same⟩ :=
        (conclude_of_hasErrors failed).mp concluded
      cases same
      exact exists_rows_of_failurePayload reporting keys messages chosen

/--
How a run over the library responds to data with textual keys, if no step calls
the gate's check, each has as many inputs as its capability takes and the
messages that the plan gives are texts. A failure makes a response that presents
its payload and the data, validating refuses the values with the same payload,
and the refusal makes the same response. A success makes a response of the values
that validating gives. All that has to be known of the validation of the fields of a
response is that it is faithful.
-/
theorem toResponse_of_run
    {validation : Response.Validation}
    (faithful : validation.IsFaithful)
    (library : validator.registry = Registry.standard)
    (reporting : validator.style = Report.standard)
    (isRecord : data.IsRecord)
    (built :
      (validator.buildPlan environment data context).ended = .ok plan)
    (ungated : ∀ step ∈ plan, step.method ≠ Registry.requiredName)
    (arity :
      ∀ step ∈ plan, step.inputs.length = step.capability.inputs)
    (givesTexts : ∀ step ∈ plan, step.GivesTexts)
    (answered :
      (validator.run environment data context).ended = .ok outcome) :
    match outcome with
    | .failed errors =>
        ∃ response refusal,
          outcome.toResponse validation data = .ok (.failure response) ∧
            response.Presents errors data ∧
            (validator.validate environment data context).ended =
              .ok (.error refusal) ∧
            .dict refusal.errors = errors ∧
            refusal.toResponse validation data = .ok response
    | .passed values =>
        ∃ clean,
          outcome.toResponse validation data = .ok (.success clean) ∧
            .record clean = values ∧
            (validator.validate environment data context).ended =
              .ok (.ok values) := by
  have validated := ended_validate answered
  cases outcome with
  | passed values =>
      obtain ⟨clean, rfl⟩ := exists_record_of_passed answered
      refine ⟨clean, ?_, rfl, validated⟩
      exact congrArg (Response.success <$> ·)
        (faithful.entries clean)
  | failed errors =>
      obtain ⟨input, rfl⟩ := isRecord
      obtain ⟨rows, rfl, present⟩ :=
        exists_rows_of_failed reporting
          (hasTextKeys_reached library built ungated arity)
          (hasTextMessages_reached library built ungated arity givesTexts)
          answered
      let response : ErrorResponse :=
        ⟨"Validation errors occurred.", rows, input⟩
      have responds :
          Response.ofErrors validation "Validation errors occurred."
              (Messages.payload rows) (.record input) =
            .ok response :=
        Response.ofErrors_payload faithful ..
      have refuses :
          Outcome.unwrap (.failed (Messages.payload rows)) =
            .ok (.error ⟨"Validation errors occurred.",
              (rows.map fun row => (row.1, row.2.toValue)).map fun row =>
                (.text row.1, row.2)⟩) := by
        unfold Outcome.unwrap Refusal.ofPayload Messages.payload
        dsimp only
        rw [Value.entries_orElse_record]
        rfl
      refine ⟨response, _, ?_, ErrorResponse.presents_payload present ..,
        validated.trans refuses, rfl, responds⟩
      exact congrArg (Response.failure <$> ·) responds

/-- The plan of a form that asks for a number of seats and for a day. -/
def seatsAndDay : Plan :=
  [⟨"seats", ["seats"], "validate_number_in_range", .numberInRange,
      [.int 1, .int 8, .text "One to eight seats."], true,
      "This field is required"⟩,
    ⟨"day", ["year", "month", "dayofmonth"], "validate_full_date",
      .fullDate, [], true, "This field is required"⟩]

/-- A form that asks for a number of seats and for a day. -/
def reservation : Validator :=
  fixed "ReservationValidator" Registry.standard seatsAndDay.toValue

/-- A reservation of too many seats on a day that does not exist. -/
def overbooking : Value :=
  .record
    [("seats", .text "9"), ("year", .text "2024"), ("month", .text "2"),
      ("dayofmonth", .text "30")]

/-- The reservation of too many seats is responded to with both complaints. -/
theorem toResponse_of_run_overbooking :
    let validation : Response.Validation := .byKind
    validation.IsFaithful ∧
      ∃ errors response refusal,
        (reservation.run (.on ⟨2024, 1, 1⟩) overbooking .null).ended =
            .ok (.failed errors) ∧
          (∀ step ∈ seatsAndDay, step.GivesTexts) ∧
          (Outcome.failed errors).toResponse validation overbooking =
            .ok (.failure response) ∧
          response.Presents errors overbooking ∧
          (reservation.validate (.on ⟨2024, 1, 1⟩) overbooking
                .null).ended =
            .ok (.error refusal) ∧
          .dict refusal.errors = errors ∧
          refusal.toResponse validation overbooking = .ok response := by
  intro validation
  let environment : Environment := .on ⟨2024, 1, 1⟩
  have isRecord : overbooking.IsRecord :=
    ⟨_, rfl⟩
  have built :
      (reservation.buildPlan environment overbooking .null).ended =
        .ok seatsAndDay := by
    refine buildPlan_answers_iff.mpr ⟨_, rfl, rfl, ?_⟩
    have bound
        {number : Int}
        (small : number.natAbs < 1000000000000) :
        (Value.int number).IsWritable :=
      Value.isWritable_int_iff.mpr (Number.isWritable_of_lt small)
    refine Plan.isWritable_toValue_iff.mpr ?_
    unfold seatsAndDay
    rw [List.forall_mem_cons, List.forall_mem_singleton]
    refine ⟨?_, List.forall_mem_nil _⟩
    simp only [List.forall_mem_cons]
    exact ⟨bound (by decide), bound (by decide), ⟨_, rfl⟩,
      List.forall_mem_nil _⟩
  have ungated :
      ∀ step ∈ seatsAndDay, step.method ≠ Registry.requiredName := by
    decide
  have arity :
      ∀ step ∈ seatsAndDay,
        step.inputs.length = step.capability.inputs := by
    decide
  have givesTexts : ∀ step ∈ seatsAndDay, step.GivesTexts := by
    unfold seatsAndDay
    rw [List.forall_mem_cons, List.forall_mem_singleton]
    constructor
    · refine List.forall_mem_singleton.mpr fun _ => ?_
      exact ⟨_, rfl⟩
    · exact List.forall_mem_nil _
  have fails :
      (reservation.run environment overbooking .null).answersWith
          (!·.hasPassed) =
        true := by
    decide +kernel
  obtain ⟨outcome, answered, failed⟩ := Journal.exists_of_answersWith fails
  cases outcome with
  | passed values =>
      cases failed
  | failed errors =>
      obtain ⟨response, refusal, responds⟩ :=
        toResponse_of_run Response.Validation.isFaithful_byKind rfl rfl
          isRecord built ungated arity givesTexts answered
      exact ⟨Response.Validation.isFaithful_byKind, errors, response, refusal,
        answered, givesTexts, responds⟩

end Validator

end FormCheck
