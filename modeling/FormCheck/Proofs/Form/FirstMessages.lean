import FormCheck.Proofs.Form.Abridgement
import FormCheck.Proofs.Form.Feedback
import FormCheck.Proofs.Wording

namespace FormCheck

/-!
# The first messages of the feedback form

The feedback form answers a failure with one message for each input and all those
of its dates combined. Its payload is the standard one, abridged. For that it has
to be known under which keys each of its steps can leave a message: a plain step
does so under its field alone, which is its input, and the step of the dates
either under the inputs that are missing or, if none is, under keys of its field.
-/

namespace Step

variable
  {environment : Environment}
  {data : Value}
  {step : Step}

/--
A step is plain if its field is its only input, and its capability records under
the key of the field alone.
-/
structure IsPlain
    (step : Step) : Prop where
  inputs_eq : step.inputs = [step.field]
  writes : step.capability.Writes fun field entry => entry.key = field

/-- What a plain step leaves behind alone is recorded under its field. -/
theorem IsPlain.key_of_mem_own
    (plain : step.IsPlain)
    (fits : step.Fits)
    {entry : Entry}
    (member : entry ∈ (step.own environment data).entries) :
    entry.key = .text step.field := by
  rcases mem_act member with gated | called
  · obtain ⟨input, isInput, isKey⟩ := exists_input_of_mem_gateEntries gated
    rw [plain.inputs_eq, List.mem_singleton] at isInput
    rw [isKey, isInput]
  · have writes :=
      plain.writes environment (step.inputs.map data.submitted) step.key
        step.arguments
    exact fits.isAllowed_of_mem_call writes called

/--
The messages of a fitting step alone are all of its gate, under inputs, or all of
its capability, under keys of the field.
-/
theorem Fits.errors_of_gate_or_call
    (fits : step.Fits)
    (environment : Environment)
    (data : Value) :
    (∀ key message,
        Entry.error key message ∈ (step.own environment data).entries →
          ∃ input ∈ step.inputs, key = .text input) ∨
      ∀ key message,
        Entry.error key message ∈ (step.own environment data).entries →
          key.BelongsTo step.field := by
  cases lacking : step.inputs.any (step.isLacking data) with
  | true =>
      -- The gate holds the step back, and the capability is not called.
      left
      intro key message recorded
      have heldBack : step.isHeldBack data .empty = true := by
        unfold isHeldBack
        simpa [Result.hasValue, Result.value?, Result.empty] using lacking
      change _ ∈ (step.act environment data .empty).written at recorded
      unfold act at recorded
      rw [if_pos heldBack] at recorded
      exact exists_input_of_mem_gateEntries recorded
  | false =>
      -- The gate has no message.
      right
      intro key message recorded
      have complete :
          ∀ input ∈ step.inputs, step.isLacking data input = false := by
        simpa using lacking
      rcases mem_act recorded with gated | called
      · cases quiet_gateEntries complete _ gated
      · exact ((fits.orderly environment data).within.writes _ _ called).1

/-- A message of strangers under a key that one of them owns is of that step. -/
theorem error_mem_own
    {plan : Plan}
    (fits : ∀ step ∈ plan, step.Fits)
    (strangers : plan.Pairwise Strangers)
    (member : step ∈ plan)
    {key message : Value}
    (owned : step.Owns key)
    (recorded :
      Entry.error key message ∈ (plan.own environment data).entries) :
    Entry.error key message ∈ (step.own environment data).entries := by
  obtain ⟨other, isOther, isOwn⟩ := List.mem_flatMap.mp recorded
  have ownedToo := (fits other isOther).owns_of_mem_act isOwn
  by_cases same : step = other
  · rw [same]
    exact isOwn
  · have symmetric : Std.Symm Strangers :=
      ⟨fun _ _ => Strangers.symm⟩
    have apart := strangers.forall member isOther same
    exact (apart.not_owns owned ownedToo).elim

/-- Among strangers, a plain step reports plainly. -/
theorem IsPlain.reportsPlainly
    {plan : Plan}
    (plain : step.IsPlain)
    (fits : ∀ step ∈ plan, step.Fits)
    (strangers : plan.Pairwise Strangers)
    (member : step ∈ plan) :
    step.ReportsPlainly (plan.flatMap Step.inputs)
      (plan.own environment data) where
  inputs_eq := plain.inputs_eq
  underived := by
    apply Report.messagesUnder_eq_nil
    intro characters message derived recorded
    rw [Bool.and_eq_true] at derived
    have owned : step.Owns (.text characters) :=
      owns_text_iff.mpr (.inl (.inr derived.1))
    have isField :=
      plain.key_of_mem_own (fits step member)
        (error_mem_own fits strangers member owned recorded)
    cases isField
    rw [Report.not_startsWith_self] at derived
    cases derived.1

end Step

namespace Form.Feedback

/-! ## The steps of the form -/

variable
  {environment : Environment}
  {data context : Value}

/-- Whatever plan the form builds is one for some options. -/
theorem exists_planFor
    {plan : Plan}
    (built :
      ((validator Registry.standard).buildPlan environment data
          context).ended =
        .ok plan) :
    ∃ message support operator instruments,
      plan = planFor message support operator instruments := by
  obtain ⟨raw, drafted, normal, _⟩ :=
    Validator.buildPlan_answers_iff.mp built
  change rawPlan _ = .ok raw at drafted
  obtain ⟨support, _, drafted⟩ := Except.bind_eq_ok_iff.mp drafted
  obtain ⟨operator, _, drafted⟩ := Except.bind_eq_ok_iff.mp drafted
  obtain ⟨instruments, _, drafted⟩ := Except.bind_eq_ok_iff.mp drafted
  cases drafted
  rcases environment with ⟨⟨_, _, _, _, required, _, _, _, _⟩, _⟩
  cases required with
  | text message =>
      exact ⟨message, support, operator, instruments,
        (Except.ok.inj normal).symm⟩
  | _ =>
      cases normal

/-- Each step is the one of the dates, or it is plain. -/
theorem isPlain_of_mem_planFor
    {message : String}
    {support operator instruments : Value} :
    ∀ step ∈ planFor message support operator instruments,
      step = dateRangeField ∨ step.IsPlain := by
  have admits
      (field : Value) :
      Entry.Admits (fun entry => entry.key = field) field :=
    ⟨fun _ => rfl, fun _ => rfl⟩
  have name : Capability.personName.Writes _ := .personName admits
  have email : Capability.email.Writes _ := .email admits
  have choice : Capability.selection.Writes _ := .selection admits
  have option : Capability.binaryOption.Writes _ := .binaryOption admits
  have rating : Capability.rating.Writes _ := .rating admits
  have text : Capability.longText.Writes _ := .textLimit admits
  simp only [planFor, List.forall_mem_cons]
  exact ⟨.inr ⟨rfl, name⟩, .inr ⟨rfl, email⟩, .inl trivial,
    .inr ⟨rfl, choice⟩, .inr ⟨rfl, choice⟩, .inr ⟨rfl, choice⟩,
    .inr ⟨rfl, option⟩, .inr ⟨rfl, rating⟩, .inr ⟨rfl, text⟩,
    .inr ⟨rfl, rating⟩, .inr ⟨rfl, rating⟩, .inr ⟨rfl, rating⟩,
    .inr ⟨rfl, text⟩, .inr ⟨rfl, text⟩, .inr ⟨rfl, text⟩,
    List.forall_mem_nil _⟩

/--
A plan has one range of dates if its steps are strangers that fit the library,
all of them are plain but the one of the dates, and no input starts with the
field of the dates.
-/
structure HasOneRange
    (plan : Plan) : Prop where
  fits : ∀ step ∈ plan, step.Fits
  strangers : plan.Pairwise Step.Strangers
  range : dateRangeField ∈ plan
  others : ∀ step ∈ plan, step = dateRangeField ∨ step.IsPlain
  inputs :
    ∀ input ∈ plan.flatMap Step.inputs,
      Report.startsWith input datesField = false

/-- Every plan of the form has one range of dates. -/
theorem hasOneRange_planFor
    (message : String)
    (support operator instruments : Value) :
    HasOneRange (planFor message support operator instruments) where
  fits := fits_of_mem_planFor
  strangers := strangers_planFor ..
  range := by
    simp [planFor]
  others := isPlain_of_mem_planFor
  inputs := by
    have apart :
        ∀ name ∈ stepNames.flatMap List.tail,
          Report.startsWith name datesField = false := by
      decide
    exact apart

namespace HasOneRange

variable
  {plan : Plan}
  {key text : Value}
  {full : Payload}

/-! ## Where the messages are -/

/-- Messages are recorded under inputs, or under keys of the dates. -/
theorem input_or_belongsTo
    (one : HasOneRange plan)
    (recorded : Entry.error key text ∈ (plan.own environment data).entries) :
    (∃ input ∈ plan.flatMap Step.inputs, key = .text input) ∨
      key.BelongsTo datesField := by
  obtain ⟨step, member, isOwn⟩ := List.mem_flatMap.mp recorded
  have fits := one.fits step member
  have isListed
      {input : String}
      (isInput : input ∈ step.inputs) :
      input ∈ plan.flatMap Step.inputs :=
    List.mem_flatMap_of_mem member isInput
  rcases one.others step member with rfl | plain
  · refine (fits.accounts_for_errors isOwn).imp ?_ And.left
    rintro ⟨input, isInput, isKey⟩
    exact ⟨input, isListed isInput, isKey⟩
  · refine .inl ⟨step.field, isListed ?_, plain.key_of_mem_own fits isOwn⟩
    rw [plain.inputs_eq]
    exact List.mem_singleton_self _

/-- Where the dates have a message, none of their inputs has one. -/
theorem errorsAt_eq_nil
    (one : HasOneRange plan)
    (recorded : Entry.error key text ∈ (plan.own environment data).entries)
    (belongs : key.BelongsTo datesField)
    {input : String}
    (isDate : input ∈ dateInputs) :
    (plan.own environment data).errorsAt (.text input) = [] := by
  have ofDates :=
    Step.error_mem_own one.fits one.strangers one.range (.inl belongs)
      recorded
  rw [List.eq_nil_iff_forall_not_mem]
  intro message missing
  have ofInput :=
    Step.error_mem_own one.fits one.strangers one.range
      (.inr ⟨input, isDate, rfl⟩) (Result.mem_errorsAt_iff.mp missing)
  have apart :
      ∀ name ∈ dateInputs, ¬(Value.text name).BelongsTo datesField := by
    decide
  -- The gate and the capability of the step do not both complain.
  rcases fits_dateRangeField.errors_of_gate_or_call environment data with
    gated | called
  · obtain ⟨name, isName, rfl⟩ := gated _ _ ofDates
    exact apart name isName belongs
  · exact apart input isDate (called _ _ ofInput)

/-- Each step has several inputs, or it reports plainly. -/
theorem reports
    (one : HasOneRange plan)
    (environment : Environment)
    (data : Value) :
    ∀ step ∈ plan,
      step.isComposite = true ∧ step.field = datesField ∨
        step.ReportsPlainly (plan.flatMap Step.inputs)
          (plan.own environment data) := by
  intro step member
  rcases one.others step member with rfl | plain
  · exact .inl ⟨rfl, rfl⟩
  · exact .inr (plain.reportsPlainly one.fits one.strangers member)

/-- The form's payload is the standard one, cut, whenever it can be given. -/
theorem exists_standardErrors
    (one : HasOneRange plan)
    {settings : Settings}
    {short : Payload}
    (answered :
      errors settings plan (plan.own environment data) = .ok short) :
    ∃ full,
      Report.standardErrors settings plan (plan.own environment data) =
          .ok full ∧
        short = full.abridged := by
  have keys := Plan.hasTextKeys_own one.fits environment data
  have reports := one.reports environment data
  rw [errors_eq_abridged keys fun step member =>
    (reports step member).imp_left And.left] at answered
  cases reported :
      Report.standardErrors settings plan (plan.own environment data) with
  | error fault =>
      rw [reported] at answered
      cases answered
  | ok full =>
      rw [reported] at answered
      cases answered
      exact ⟨full, rfl, rfl⟩

/-- The standard payload displays what a run of the form leaves behind. -/
theorem isDisplay
    (one : HasOneRange plan)
    {settings : Settings}
    (reported :
      Report.standardErrors settings plan (plan.own environment data) =
        .ok full) :
    full.IsDisplay (plan.own environment data) datesField := by
  have keys := Plan.hasTextKeys_own one.fits environment data
  refine Payload.IsDisplay.foldlM keys (List.forall_mem_nil _) ?_
    (one.reports environment data) reported
  rintro step member input isInput rfl
  have apart :=
    one.inputs _ (List.mem_flatMap_of_mem member isInput)
  rw [Report.startsWith_self] at apart
  cases apart

/-- A payload with the dates has none of their inputs. -/
theorem dates_exclude_inputs
    (one : HasOneRange plan)
    (isDisplay : full.IsDisplay (plan.own environment data) datesField)
    (combined : datesField ∈ full.map Prod.fst)
    {input : String}
    (isDate : input ∈ dateInputs) :
    input ∉ full.map Prod.fst := by
  intro listed
  obtain ⟨⟨_, combination⟩, isCombined, rfl⟩ := List.mem_map.mp combined
  obtain ⟨⟨_, notice⟩, isListed, rfl⟩ := List.mem_map.mp listed
  -- A combined text has a message, and it is under a key of the dates.
  have present := (isDisplay _ isCombined).messagesUnder_ne_nil
  apply present
  apply Report.messagesUnder_eq_nil
  intro characters message starts recorded
  have belongs :
      (Value.text characters).BelongsTo datesField := by
    refine (one.input_or_belongsTo recorded).resolve_left ?_
    rintro ⟨name, isInput, same⟩
    cases same
    rw [one.inputs _ isInput] at starts
    cases starts
  have apart : ∀ name ∈ dateInputs, name ≠ datesField := by
    decide
  exact (isDisplay _ isListed).errorsAt_ne_nil (apart _ isDate)
    (one.errorsAt_eq_nil recorded belongs isDate)

/--
A key that has messages is itself in the payload, or it starts with the field of
the dates.
-/
theorem mem_keys_or_startsWith
    (one : HasOneRange plan)
    {settings : Settings}
    (reported :
      Report.standardErrors settings plan (plan.own environment data) =
        .ok full)
    (failed : key ∈ (plan.own environment data).errors.map Prod.fst) :
    ∃ name,
      key = .text name ∧
        (name ∈ full.map Prod.fst ∨
          Report.startsWith name datesField = true) := by
  obtain ⟨message, recorded⟩ := Result.exists_error_of_mem_errors failed
  rcases one.input_or_belongsTo recorded with
    ⟨name, isInput, rfl⟩ | belongs
  · refine ⟨name, rfl, .inl ?_⟩
    have keys := Plan.hasTextKeys_own one.fits environment data
    obtain ⟨notice, found, _⟩ :=
      Report.shows_of_foldlM keys reported recorded
        (.inr (List.mem_flatMap.mp isInput))
    exact mem_keys_of_lookup (.of_lawful name) found
  · obtain ⟨name, rfl, _⟩ := id belongs
    exact ⟨name, rfl, .inr belongs.startsWith⟩

/-- Where a message is left behind, the payload is not empty. -/
theorem ne_nil
    (one : HasOneRange plan)
    {settings : Settings}
    (reported :
      Report.standardErrors settings plan (plan.own environment data) =
        .ok full)
    (failed : (plan.own environment data).hasErrors = true) :
    full ≠ [] := by
  obtain ⟨key, message, recorded⟩ := Result.hasErrors_iff.mp failed
  have keys := Plan.hasTextKeys_own one.fits environment data
  obtain ⟨step, member, isOwn⟩ := List.mem_flatMap.mp recorded
  obtain ⟨characters, rfl⟩ := keys _ recorded
  have accounted :
      characters ∈ step.inputs ∨
        (Value.text characters).BelongsTo step.field ∧
          message.isTruthy = true := by
    refine ((one.fits step member).accounts_for_errors isOwn).imp_left ?_
    rintro ⟨input, isInput, same⟩
    cases same
    exact isInput
  exact (Report.shows_of_pairwise keys reported recorded member accounted).1

end HasOneRange

/-! ## What a failure shows -/

variable {payload : Value}

/-- The form arranges whatever plan it builds. -/
theorem arranges_of_buildPlan
    {plan : Plan}
    (isRecord : data.IsRecord)
    (built :
      ((validator Registry.standard).buildPlan environment data
          context).ended =
        .ok plan)
    (one : HasOneRange plan) :
    (validator Registry.standard).Arranges environment data context
      plan where
  gate := rfl
  isRecord := isRecord
  stands := by
    obtain ⟨raw, drafted, normal, _⟩ :=
      Validator.buildPlan_answers_iff.mp built
    exact ⟨raw, drafted, normal⟩
  fits := one.fits
  spares :=
    Step.pairwise_spares one.fits one.strangers environment data

/--
A failed run of the form shows the standard payload of what it leaves behind, cut
to the first messages. Its keys are the same, in both there are the dates or some
of their inputs but not both, and no key with messages is missing, unless it
starts with the field of the dates.
-/
theorem abridges_of_run
    (isRecord : data.IsRecord)
    (answered :
      ((validator Registry.standard).run environment data context).ended =
        .ok (.failed payload)) :
    ∃ plan full short,
      let result :=
        (validator Registry.standard).reached environment data context
      ((validator Registry.standard).buildPlan environment data
            context).ended =
          .ok plan ∧
        Report.standardErrors environment.settings plan result = .ok full ∧
        errors environment.settings plan result = .ok short ∧
        payload = short.toValue ∧
        short.Abridges full datesField ∧
        (datesField ∈ full.map Prod.fst →
          ∀ input ∈ dateInputs, input ∉ full.map Prod.fst) ∧
        ∀ key ∈ result.errors.map Prod.fst,
          ∃ name,
            key = .text name ∧
              (name ∈ full.map Prod.fst ∨
                Report.startsWith name datesField = true) := by
  obtain ⟨plan, _, built, _, _, _⟩ := Validator.course_of_answers answered
  obtain ⟨message, support, operator, instruments, rfl⟩ :=
    exists_planFor built
  have one := hasOneRange_planFor message support operator instruments
  generalize planFor message support operator instruments = plan
    at built one
  have arranged := arranges_of_buildPlan isRecord built one
  obtain ⟨_, ended, concluded⟩ := arranged.run_answers_iff.mp answered
  have failed : (plan.own environment data).hasErrors = true := by
    rw [← Bool.not_eq_false, ← Validator.hasPassed_iff concluded]
    exact Bool.false_ne_true
  obtain ⟨_, refused, _, same⟩ :=
    (Validator.conclude_of_hasErrors failed).mp concluded
  cases same
  obtain ⟨short, shown, isPayload⟩ := Except.bind_eq_ok_iff.mp refused
  obtain ⟨full, reported, rfl⟩ := one.exists_standardErrors shown
  have isDisplay := one.isDisplay reported
  have present : full.abridged.isEmpty = false := by
    rw [List.isEmpty_eq_false_iff]
    exact List.map_eq_nil_iff.not.mpr (one.ne_nil reported failed)
  rw [present] at isPayload
  rw [arranged.reached_eq built ended]
  exact ⟨plan, full, full.abridged, built, reported, shown,
    (Except.ok.inj isPayload).symm, isDisplay.abridges,
    fun combined _ isDate =>
      one.dates_exclude_inputs isDisplay combined isDate,
    fun _ isKey => one.mem_keys_or_startsWith reported isKey⟩

/-- The inputs of two dates, of which the first does not exist. -/
def misdatedTexts : List (String × String) :=
  [("startyear", "2025"), ("startmonth", "13"), ("startday", "40"),
    ("endyear", "2025"), ("endmonth", "03"), ("endday", "1")]

/-- Feedback on two instruments that there are not, from a day that is none. -/
def misdated : Value :=
  .record
    (("instruments", .list (["i3", "i4"].map .text)) ::
      misdatedTexts.map fun entry => (entry.1, .text entry.2))

/-- The text of the dates is that of the standard payload, without their inputs. -/
theorem abridges_of_run_misdated :
    misdated.IsRecord ∧
      ∃ (payload : Value) (full short : Payload),
        ((validator Registry.standard).run (.on ⟨2025, 6, 1⟩) misdated
              praiseContext).ended =
            .ok (.failed payload) ∧
          payload = short.toValue ∧
          payload.at? (.text "instruments") =
            some (.text "Invalid option: 'i3'.") ∧
          short.Abridges full datesField ∧
          datesField ∈ full.map Prod.fst ∧
          ∀ input ∈ dateInputs, input ∉ full.map Prod.fst := by
  have isRecord : misdated.IsRecord :=
    ⟨_, rfl⟩
  have fails :
      ((validator Registry.standard).run (.on ⟨2025, 6, 1⟩) misdated
          praiseContext).answersWith
          (fun outcome =>
            !outcome.hasPassed &&
              (outcome.errors.at? (.text datesField)).isSome &&
              (outcome.errors.at? (.text "instruments")).any
                (· == .text "Invalid option: 'i3'.")) =
        true := by
    decide +kernel
  obtain ⟨outcome, answered, shape⟩ := Journal.exists_of_answersWith fails
  rw [Bool.and_eq_true, Bool.and_eq_true] at shape
  obtain ⟨⟨failed, dated⟩, named⟩ := shape
  cases outcome with
  | passed values =>
      cases failed
  | failed payload =>
      obtain ⟨_, full, short, _, _, _, isPayload, abridges, excludes, _⟩ :=
        abridges_of_run isRecord answered
      obtain ⟨shown, isShown, isFirst⟩ := (Option.any_eq_true ..).mp named
      rw [Value.beq_text_iff.mp isFirst] at isShown
      have combined : datesField ∈ full.map Prod.fst := by
        have listed : (lookup datesField short).isSome = true := by
          change (payload.at? (.text datesField)).isSome = true at dated
          rw [isPayload, Payload.at?_toValue, Option.isSome_map] at dated
          exact dated
        obtain ⟨notice, found⟩ := Option.isSome_iff_exists.mp listed
        rw [← abridges.keys]
        exact mem_keys_of_lookup (.of_lawful datesField) found
      exact ⟨isRecord, payload, full, short, answered, isPayload, isShown,
        abridges, combined, excludes combined⟩

end Form.Feedback

end FormCheck
