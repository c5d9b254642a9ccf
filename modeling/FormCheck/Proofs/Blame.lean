import FormCheck.Proofs.Authorship
import FormCheck.Proofs.PayloadLookup

namespace FormCheck

/-!
# Which steps a payload blames

A step that passes alone records no message in the run of a whole plan either,
if no name of it is a name of another step: on what the other steps leave behind
it does the same, or it is cut short. Still the payload may name its field. A
report gathers messages by the beginnings of their keys, so it can find some
that another step recorded; the field is named for no other reason.
-/

namespace Step

/-- Steps are separate if no name of one is a name of the other. -/
def Separate
    (first second : Step) : Prop :=
  ∀ name ∈ first.names, name ∉ second.names

instance : Std.Symm Separate :=
  ⟨fun _ _ separate name isOther isName => separate name isName isOther⟩

/-- Separate steps have different fields. -/
theorem Separate.field_ne
    {first second : Step}
    (separate : Separate first second) :
    first.field ≠ second.field := by
  intro same
  apply separate first.field (List.mem_cons_self ..)
  rw [same]
  exact List.mem_cons_self ..

/--
The keys under which a report looks for messages of a step. With several inputs
these are all that start with the field. With one input they are the field and
what is derived from it, except for the inputs of the plan.
-/
def Gathers
    (plan : Plan)
    (step : Step)
    (characters : String) : Prop :=
  if step.isComposite = true then
    Report.startsWith characters step.field = true
  else
    characters = step.field ∨
      Report.startsWith characters (step.field ++ "_") = true ∧
        ∀ other ∈ plan, characters ∉ other.inputs

/-- Every step gathers the messages under its field. -/
theorem gathers_field
    (plan : Plan)
    (step : Step) :
    step.Gathers plan step.field := by
  unfold Gathers
  split
  · exact Report.startsWith_self _
  · exact .inl rfl

/-- A step with several inputs gathers what is under a key of its field. -/
theorem gathers_of_belongsTo
    {plan : Plan}
    {step : Step}
    (isComposite : step.isComposite = true)
    {characters : String}
    (belongs : (Value.text characters).BelongsTo step.field) :
    step.Gathers plan characters := by
  unfold Gathers
  rw [if_pos isComposite]
  rcases Value.belongsTo_text_iff.mp belongs with rfl | derived
  · exact Report.startsWith_self _
  · exact Report.startsWith_trans derived (Report.startsWith_append _ _)

/--
A fitting step that records no message alone records none on any result, unless
it has several inputs and there are errors under its field.
-/
theorem Fits.areQuiet_act
    {step : Step}
    (fits : step.Fits)
    {environment : Environment}
    {data : Value}
    (answered : (step.act environment data .empty).ended = .ok ())
    (quiet :
      Entry.AreQuiet (step.act environment data .empty).written)
    {found : Result}
    (clean : step.isComposite = true → found.CleanFor step.field) :
    Entry.AreQuiet (step.act environment data found).written := by
  have lacksNothing
      (input : String)
      (isInput : input ∈ step.inputs) :
      step.isLacking data input = false :=
    isLacking_eq_false
      (fun _ _ recorded => nomatch quiet _ recorded) isInput
  have passes
      (result : Result) :
      step.act environment data result =
        ⟨step.gateEntries data ++
            (step.call environment data result).written,
          (step.call environment data result).ended⟩ := by
    unfold act
    rw [if_neg (by simp [isHeldBack_eq_false lacksNothing result])]
  rw [passes] at answered quiet ⊢
  rw [Entry.areQuiet_append_iff] at quiet ⊢
  refine ⟨quiet.1, ?_⟩
  have calledAlone :
      step.call environment data .empty =
        ⟨(step.call environment data .empty).written, .ok ()⟩ := by
    rw [← answered]
  have freshClean :
      (Result.empty.extend (step.gateEntries data)).CleanFor
        step.field :=
    (Result.cleanFor_extend_iff quiet.1).mpr fun _ _ => rfl
  have nothingKnown :
      Result.ShowSame [] (Result.empty.extend (step.gateEntries data))
        (found.extend (step.gateEntries data)) :=
    List.forall_mem_nil _
  rcases (fits.repeats environment data).again freshClean nothingKnown
      calledAlone quiet.2 with same | ⟨unclean, cutShort⟩
  · unfold call at quiet ⊢
    rw [same]
    exact quiet.2
  · rw [Result.cleanFor_extend_iff quiet.1] at unclean
    have isSingle : step.inputs.length = 1 := by
      simpa [isComposite] using mt clean unclean
    exact (cutShort (fits.arity.symm.trans isSingle)).quiet

end Step

namespace Report

/-- A report names no field for which it gathers no message. -/
theorem lookup_field_eq_none
    {settings : Settings}
    {result : Result}
    {plan : Plan}
    {notices : Payload}
    {before after : List Step}
    {step : Step}
    (textual : result.HasTextKeys)
    (reported : standardErrors settings plan result = .ok notices)
    (split : plan = before ++ step :: after)
    (separate : plan.Pairwise Step.Separate)
    (ungathered :
      ∀ characters message,
        step.Gathers plan characters →
          Entry.error (.text characters) message ∉ result.entries) :
    lookup step.field notices = none := by
  obtain ⟨early, between, first, stepped, others⟩ :=
    standardErrors_split split reported
  rw [split, List.pairwise_append, List.pairwise_cons] at separate
  have noOwn : result.errorsAt step.key = [] := by
    refine List.eq_nil_iff_forall_not_mem.mpr fun message member => ?_
    exact ungathered _ message (step.gathers_field plan)
      (Result.mem_errorsAt_iff.mp member)
  have beforeStep : lookup step.field early = none := by
    rw [lookup_of_foldlM first fun other isBefore =>
      (separate.2.2 other isBefore step (List.mem_cons_self ..)).field_ne,
      if_neg fun both => both.2 noOwn]
    rfl
  have withInputs :
      lookup step.field (withInputErrors result early step) = none := by
    rw [lookup_withInputErrors, if_neg fun both => both.2 noOwn, beforeStep]
  have afterStep : lookup step.field between = none := by
    cases composite : step.isComposite with
    | true =>
        obtain ⟨delimiter, texts, _, areTexts, found⟩ :=
          lookup_standardStep_of_composite textual stepped composite
        rw [messagesUnder_eq_nil fun characters message starts =>
          ungathered characters message
            (by rwa [Step.Gathers, if_pos composite])] at areTexts
        cases List.map_eq_nil_iff.mp areTexts.symm
        exact found.trans withInputs
    | false =>
        have nothing :
            singleMessages (plan.flatMap Step.inputs) result early step =
              [] := by
          unfold singleMessages
          rw [withInputs, noOwn, messagesUnder_eq_nil]
          · simp [Notice.listed]
          · intro characters message passed
            apply ungathered
            rw [Step.Gathers, if_neg (by simp [composite])]
            simpa using Or.inr passed
        rw [lookup_standardStep_of_single textual stepped composite,
          if_pos nothing, withInputs]
  rw [lookup_of_foldlM others fun other isAfter =>
    (separate.2.1.1 other isAfter).field_ne.symm,
    if_neg fun both => both.2 noOwn, afterStep]

end Report

namespace Validator

variable
  {validator : Validator}
  {environment : Environment}
  {data context values : Value}
  {plan : Plan}
  {step : Step}

/-- In a run of one step that passes, the step records no message. -/
theorem areQuiet_of_passed
    (library : validator.registry = Registry.standard)
    (built :
      (validator.buildPlan environment data context).ended = .ok [step])
    (passed :
      (validator.run environment data context).ended =
        .ok (.passed values)) :
    (step.act environment data .empty).ended = .ok () ∧
      Entry.AreQuiet (step.act environment data .empty).written := by
  obtain ⟨ranPlan, mapping, ranBuilt, steps, done, concluded⟩ :=
    course_of_answers passed
  cases built.symm.trans ranBuilt
  obtain ⟨visit, others, split, rfl, none⟩ := List.map_eq_cons_iff.mp steps
  cases List.map_eq_nil_iff.mp none
  have visited : visit ∈ validator.course environment data context := by
    rw [split]
    exact List.mem_singleton_self _
  have splitAtHead :
      validator.course environment data context = [] ++ visit :: [] :=
    split
  have found : visit.found = .empty :=
    found_of_split splitAtHead
  have regular :=
    regular_course (gate_of_library library) mapping environment context
      visit visited
  rw [← found, ← regular.ended_eq, ← regular.entries_eq]
  refine ⟨done visit visited, fun entry recorded => ?_⟩
  have clean := (hasPassed_iff concluded).mp rfl
  unfold Result.hasErrors at clean
  rw [List.any_eq_false] at clean
  simpa using
    clean entry (List.mem_flatMap.mpr ⟨visit, visited, recorded⟩)

/--
A step that records no message alone records none in a run of separate steps,
unless it has several inputs and another step leaves a message under a key of
its field.
-/
theorem areQuiet_entries
    {visit : Visit}
    (visited : visit ∈ validator.course environment data context)
    (separate :
      ((validator.course environment data context).map
        Visit.step).Pairwise Step.Separate)
    (regular : visit.Regular environment data)
    (fits : visit.step.Fits)
    (answered :
      (visit.step.act environment data .empty).ended = .ok ())
    (quiet :
      Entry.AreQuiet (visit.step.act environment data .empty).written)
    (clean :
      visit.step.isComposite = true →
        ∀ other ∈ validator.course environment data context,
          other.step.field ≠ visit.step.field →
            ∀ characters message,
              (Value.text characters).BelongsTo visit.step.field →
                Entry.error (.text characters) message ∉
                  other.entries) :
    Entry.AreQuiet visit.entries := by
  obtain ⟨earlier, later, split⟩ := List.append_of_mem visited
  rw [regular.entries_eq]
  refine fits.areQuiet_act answered quiet fun isComposite key belongs => ?_
  obtain ⟨characters, rfl, _⟩ := id belongs
  rw [← Bool.not_eq_true, Result.hasErrorsAt_text_iff,
    found_of_split split]
  rintro ⟨message, recorded⟩
  obtain ⟨other, isEarlier, isEntry⟩ := List.mem_flatMap.mp recorded
  have visitedToo : other ∈ validator.course environment data context := by
    rw [split]
    exact List.mem_append_left _ isEarlier
  rw [split, List.map_append, List.map_cons, List.pairwise_append]
    at separate
  have apart :=
    separate.2.2 other.step (List.mem_map_of_mem isEarlier) visit.step
      (List.mem_cons_self ..)
  exact clean isComposite other visitedToo apart.field_ne characters message
    belongs isEntry

/-- Errors name no field for which the report gathers no message. -/
theorem at?_errors_eq_none
    {outcome : Outcome}
    (reporting : validator.style = Report.standard)
    (textual :
      (validator.reached environment data context).HasTextKeys)
    (concluded :
      (validator.conclude environment plan
          (validator.reached environment data context)).ended =
        .ok outcome)
    (separate : plan.Pairwise Step.Separate)
    (member : step ∈ plan)
    (ungathered :
      ∀ characters message,
        step.Gathers plan characters →
          Entry.error (.text characters) message ∉
            (validator.reached environment data context).entries) :
    outcome.errors.at? step.key = none := by
  cases failed : (validator.reached environment data context).hasErrors with
  | false =>
      obtain ⟨values, _, rfl⟩ :=
        (conclude_of_not_hasErrors failed).mp concluded
      rfl
  | true =>
      obtain ⟨payload, refused, _, rfl⟩ :=
        (conclude_of_hasErrors failed).mp concluded
      obtain ⟨notices, reported, rfl⟩ :=
        (failurePayload_eq_ok_iff reporting).mp refused
      obtain ⟨before, after, split⟩ := List.append_of_mem member
      have unnamed :=
        Report.lookup_field_eq_none textual reported split separate
          ungathered
      change Value.at? _ (.text step.field) = none
      split
      · refine (lookup_eq_none_iff (.text _)).mpr fun isKey => ?_
        simp only [Result.errorEntries, List.map_map] at isKey
        obtain ⟨message, recorded⟩ :=
          Result.exists_error_of_mem_errors isKey
        exact ungathered _ message (step.gathers_field plan) recorded
      · change notices.toValue.at? (.text step.field) = none
        rw [Payload.at?_toValue, unnamed]
        rfl

/-- The steps of a form with a fixed plan are what its raw steps stand for. -/
theorem map_normalizeStep_of_fixed
    {name : String}
    {registry : Registry}
    {items : List Value}
    (built :
      ((fixed name registry (.list items)).buildPlan environment data
          context).ended =
        .ok plan) :
    items.map (fun item =>
        (Plan.normalizeStep environment.settings registry item 0).ended) =
      plan.map .ok := by
  obtain ⟨raw, drafted, accepted, _⟩ := buildPlan_answers_iff.mp built
  cases drafted
  exact Plan.map_normalizeStep_of_normalize rfl accepted

/-- The raw step of a date with its three inputs. -/
def dateStep : Value :=
  .record
    [("field", .text "date"),
      ("fields", .list [.text "y", .text "m", .text "d"]),
      ("method", .text "validate_full_date")]

/-- A form of a date alone. -/
def dateAlone : Validator :=
  fixed "Form" Registry.standard (.list [dateStep])

/-- A form of a date and of a stamp whose name starts like the date's. -/
def dateAndStamp : Validator :=
  fixed "Form" Registry.standard <|
    .list
      [dateStep,
        .record
          [("field", .text "datestamp"),
            ("method", .text "validate_integer")]]

/-- A date that is valid and a stamp that is not. -/
def dateWithStamp : Value :=
  .record
    [("y", .text "2024"), ("m", .text "1"), ("d", .text "2"),
      ("datestamp", .text "x")]

/-- Neither step is one of the gate, and both get the inputs that they take. -/
theorem exists_plan_dateAndStamp :
    ∃ date stamp,
      (dateAndStamp.buildPlan (.on ⟨2024, 1, 1⟩) dateWithStamp
            .null).ended =
          .ok [date, stamp] ∧
        (∀ step ∈ [date, stamp], step.method ≠ Registry.requiredName) ∧
        (∀ step ∈ [date, stamp],
          step.inputs.length = step.capability.inputs) ∧
        date.names = ["date", "y", "m", "d"] ∧
        stamp.names = ["datestamp", "datestamp"] := by
  apply exists_two_steps
  decide +kernel

/-- Alone, the date is the step that it is in the whole form. -/
theorem buildPlan_dateAlone
    {date stamp : Step}
    (built :
      (dateAndStamp.buildPlan (.on ⟨2024, 1, 1⟩) dateWithStamp
          .null).ended =
        .ok [date, stamp]) :
    (dateAlone.buildPlan (.on ⟨2024, 1, 1⟩) dateWithStamp .null).ended =
      .ok [date] := by
  have isSingle :
      (dateAlone.buildPlan (.on ⟨2024, 1, 1⟩) dateWithStamp
          .null).answersWith
          (·.length == 1) =
        true := by
    decide +kernel
  obtain ⟨plan, builtAlone, length⟩ :=
    Journal.exists_of_answersWith isSingle
  obtain ⟨step, rfl⟩ := List.length_eq_one_iff.mp (beq_iff_eq.mp length)
  obtain ⟨same, _⟩ := List.cons.inj (map_normalizeStep_of_fixed built)
  obtain ⟨sameAlone, _⟩ :=
    List.cons.inj (map_normalizeStep_of_fixed builtAlone)
  cases same.symm.trans sameAlone
  exact builtAlone

/-- Alone, the date passes. -/
theorem exists_passed_dateAlone :
    ∃ values,
      (dateAlone.run (.on ⟨2024, 1, 1⟩) dateWithStamp .null).ended =
        .ok (.passed values) := by
  have passes :
      (dateAlone.run (.on ⟨2024, 1, 1⟩) dateWithStamp .null).answersWith
          Outcome.hasPassed =
        true := by
    decide +kernel
  obtain ⟨outcome, answered, passed⟩ := Journal.exists_of_answersWith passes
  cases outcome with
  | passed values =>
      exact ⟨values, answered⟩
  | failed errors =>
      cases passed

/-- With the stamp, the payload names the date. -/
theorem exists_errors_dateAndStamp :
    ∃ outcome,
      (dateAndStamp.run (.on ⟨2024, 1, 1⟩) dateWithStamp .null).ended =
          .ok outcome ∧
        (outcome.errors.at? (.text "date")).isSome = true := by
  have names :
      (dateAndStamp.run (.on ⟨2024, 1, 1⟩) dateWithStamp
          .null).answersWith
          (fun outcome => (outcome.errors.at? (.text "date")).isSome) =
        true := by
    decide +kernel
  exact Journal.exists_of_answersWith names

/--
A field can be named in the payload though its step passes alone: the message of
a step with a longer name is found for it.
-/
theorem not_forall_unnamed :
    ¬∀ (whole single : Validator) (environment : Environment)
        (data wholeContext singleContext values : Value) (plan : Plan)
        (step : Step) (outcome : Outcome),
      data.IsRecord →
        whole.registry = Registry.standard →
        single.registry = Registry.standard →
        whole.style = Report.standard →
        (whole.buildPlan environment data wholeContext).ended = .ok plan →
        (∀ step ∈ plan, step.method ≠ Registry.requiredName) →
        (∀ step ∈ plan, step.inputs.length = step.capability.inputs) →
        plan.Pairwise Step.Separate →
        (whole.run environment data wholeContext).ended = .ok outcome →
        step ∈ plan →
        (single.buildPlan environment data singleContext).ended =
          .ok [step] →
        (single.run environment data singleContext).ended =
          .ok (.passed values) →
        outcome.errors.at? step.key = none := by
  intro isUnnamed
  obtain ⟨date, stamp, built, ungated, arity, dateNames, stampNames⟩ :=
    exists_plan_dateAndStamp
  have builtAlone := buildPlan_dateAlone built
  obtain ⟨values, passed⟩ := exists_passed_dateAlone
  obtain ⟨outcome, answered, named⟩ := exists_errors_dateAndStamp
  have separate : [date, stamp].Pairwise Step.Separate := by
    simp [Step.Separate, dateNames, stampNames]
  have isUnnamedHere :=
    isUnnamed dateAndStamp dateAlone _ _ _ _ _ _ date _ ⟨_, rfl⟩ rfl rfl rfl
      built ungated arity separate answered (List.mem_cons_self ..) builtAlone
      passed
  unfold Step.key at isUnnamedHere
  rw [(List.cons.inj dateNames).1] at isUnnamedHere
  rw [isUnnamedHere] at named
  cases named

variable
  {whole single : Validator}
  {wholeContext singleContext : Value}
  {outcome : Outcome}

/--
Whom a payload blames. If no name of a step is a name of another step of the
plan, and if the step passes alone, then the payload of the whole run names its
field only for a message of another step, recorded under a key that the report
gathers for the field.
-/
theorem blame_of_passed
    (wholeLibrary : whole.registry = Registry.standard)
    (singleLibrary : single.registry = Registry.standard)
    (reporting : whole.style = Report.standard)
    (built :
      (whole.buildPlan environment data wholeContext).ended = .ok plan)
    (ungated : ∀ step ∈ plan, step.method ≠ Registry.requiredName)
    (arity :
      ∀ step ∈ plan, step.inputs.length = step.capability.inputs)
    (separate : plan.Pairwise Step.Separate)
    (answered :
      (whole.run environment data wholeContext).ended = .ok outcome)
    (member : step ∈ plan)
    (builtAlone :
      (single.buildPlan environment data singleContext).ended =
        .ok [step])
    (passed :
      (single.run environment data singleContext).ended =
        .ok (.passed values))
    (blamed : (outcome.errors.at? step.key).isSome = true) :
    ∃ visit ∈ whole.course environment data wholeContext,
      visit.step ∈ plan ∧
        visit.step.field ≠ step.field ∧
        ∃ characters message,
          Entry.error (.text characters) message ∈ visit.entries ∧
            step.Gathers plan characters := by
  obtain ⟨ranPlan, mapping, ranBuilt, steps, _, concluded⟩ :=
    course_of_answers answered
  cases built.symm.trans ranBuilt
  obtain ⟨endedAlone, quietAlone⟩ :=
    areQuiet_of_passed singleLibrary builtAlone passed
  by_contra unblamed
  have byOthers
      (visit : Visit)
      (visited : visit ∈ whole.course environment data wholeContext)
      (differs : visit.step.field ≠ step.field)
      (characters : String)
      (message : Value)
      (gathers : step.Gathers plan characters) :
      Entry.error (.text characters) message ∉ visit.entries :=
    fun recorded =>
      unblamed
        ⟨visit, visited, step_mem_of_mem_course built visited, differs,
          characters, message, recorded, gathers⟩
  have byItself
      (visit : Visit)
      (visited : visit ∈ whole.course environment data wholeContext)
      (isStep : visit.step = step) :
      Entry.AreQuiet visit.entries := by
    have regular :=
      regular_course (gate_of_library wholeLibrary) mapping environment
        wholeContext visit visited
    have fits :=
      fits_of_mem_course wholeLibrary built ungated arity visited
    rw [← steps] at separate
    subst isStep
    refine areQuiet_entries visited separate regular fits endedAlone
      quietAlone ?_
    intro isComposite other otherVisited differs characters message belongs
    exact byOthers other otherVisited differs characters message
      (Step.gathers_of_belongsTo isComposite belongs)
  have nothing : outcome.errors.at? step.key = none := by
    refine at?_errors_eq_none reporting
      (hasTextKeys_reached wholeLibrary built ungated arity) concluded
      separate member fun characters message gathers recorded => ?_
    obtain ⟨visit, visited, isEntry⟩ := List.mem_flatMap.mp recorded
    by_cases isStep : visit.step = step
    · cases byItself visit visited isStep _ isEntry
    · have apart :=
        separate.forall (step_mem_of_mem_course built visited) member
          isStep
      exact byOthers visit visited apart.field_ne characters message gathers
        isEntry
  rw [nothing] at blamed
  cases blamed

/-- The date is named for the message of the stamp. -/
theorem blame_of_passed_dateAndStamp :
    ∃ visit ∈
        dateAndStamp.course (.on ⟨2024, 1, 1⟩) dateWithStamp .null,
      visit.step.field ≠ "date" ∧
        ∃ characters message,
          Entry.error (.text characters) message ∈ visit.entries ∧
            Report.startsWith characters "date" = true := by
  obtain ⟨date, stamp, built, ungated, arity, dateNames, stampNames⟩ :=
    exists_plan_dateAndStamp
  have builtAlone := buildPlan_dateAlone built
  obtain ⟨values, passed⟩ := exists_passed_dateAlone
  obtain ⟨outcome, answered, named⟩ := exists_errors_dateAndStamp
  obtain ⟨isDate, inputs⟩ := List.cons.inj dateNames
  have separate : [date, stamp].Pairwise Step.Separate := by
    simp [Step.Separate, dateNames, stampNames]
  have isComposite : date.isComposite = true := by
    simp [Step.isComposite, inputs]
  have namedHere : (outcome.errors.at? date.key).isSome = true := by
    unfold Step.key
    rw [isDate]
    exact named
  obtain ⟨visit, visited, _, differs, characters, message, recorded,
      gathers⟩ :=
    blame_of_passed rfl rfl rfl built ungated arity separate answered
      (List.mem_cons_self ..) builtAlone passed namedHere
  unfold Step.Gathers at gathers
  rw [if_pos isComposite, isDate] at gathers
  rw [isDate] at differs
  exact ⟨visit, visited, differs, characters, message, recorded, gathers⟩

end Validator

end FormCheck
