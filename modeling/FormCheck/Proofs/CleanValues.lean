import FormCheck.Proofs.Report
import FormCheck.Proofs.Territory
import FormCheck.Proofs.Verdict

namespace FormCheck

/-!
# Where clean values come from

After a run that passes, the capability of every step has stored a value under
its field. The clean value of a field is the one stored by the last step of the
field, unless a later step leaves another one there: a step that has the field
among its inputs leaves the raw input, and a step that derives keys from its own
field leaves what it stores under such a key.
-/

namespace Step

/-- Of an input that is not lacking, a gate leaves what was submitted. -/
theorem getLast?_gateEntries
    {data : Value}
    {step : Step}
    (complete :
      ∀ input ∈ step.inputs, step.isLacking data input = false)
    (field : String) :
    ((step.gateEntries data).filterMap
        (Entry.valueAt? (.text field))).getLast? =
      if field ∈ step.inputs then some (data.submitted field) else none := by
  have collected
      (inputs : List String)
      (filled : ∀ input ∈ inputs, step.isLacking data input = false) :
      ((inputs.map (step.gateEntry data)).filterMap
          (Entry.valueAt? (.text field))).getLast? =
        if field ∈ inputs then some (data.submitted field) else none := by
    induction inputs with
    | nil =>
        rfl
    | cons input rest inductionHypothesis =>
        rw [List.forall_mem_cons] at filled
        have shown :
            (step.gateEntry data input).valueAt? (.text field) =
              if input = field then some (data.submitted field)
              else none := by
          by_cases same : input = field
          · subst same
            simp [gateEntry, filled.1, Entry.valueAt?]
          · have differs : (step.gateEntry data input).key ≠ .text field := by
              rw [key_gateEntry]
              intro equal
              cases equal
              exact same rfl
            rw [Entry.valueAt?_eq_none differs, if_neg same]
        rw [List.map_cons, List.filterMap_cons, shown]
        by_cases same : input = field
        · subst same
          simp only [↓reduceIte, List.getLast?_cons,
            inductionHypothesis filled.2]
          by_cases again : input ∈ rest <;>
            simp [again]
        · simp only [same, ↓reduceIte, inductionHypothesis filled.2,
            List.mem_cons, Ne.symm same, false_or]
  exact collected step.inputs complete

end Step

namespace Visit

/--
What a visit leaves under a field: what its capability stored there, or else the
raw input if the field is among the inputs.
-/
def left?
    (visit : Visit)
    (data : Value)
    (field : String) : Option Value :=
  (visit.stored? (.text field)).or
    (if field ∈ visit.step.inputs then some (data.submitted field)
      else none)

/-- What the last of some visits that leaves something under a field leaves. -/
def lastLeft?
    (data : Value)
    (field : String)
    (visits : List Visit) : Option Value :=
  (visits.filterMap (·.left? data field)).getLast?

/-- Whether a visit neither reads a field nor stores under keys of its own there. -/
def Ignores
    (visit : Visit)
    (field : String) : Prop :=
  field ∉ visit.step.inputs ∧
    ¬(Value.text field).BelongsTo visit.step.field

/--
A visit succeeds if its step fits the library and lacks none of its inputs, and
its capability ends without a fault.
-/
structure Succeeds
    (environment : Environment)
    (data : Value)
    (visit : Visit) : Prop where
  fits : visit.step.Fits
  regular : visit.Regular environment data
  complete :
    ∀ input ∈ visit.step.inputs, visit.step.isLacking data input = false
  ended : visit.history.ended = .ok ()

variable
  {environment : Environment}
  {data : Value}
  {visit : Visit}
  {visits : List Visit}
  {field : String}

namespace Succeeds

/-- In a visit that succeeds the capability is called, and ends. -/
theorem call_eq
    (succeeds : visit.Succeeds environment data) :
    visit.step.call environment data visit.found =
      ⟨visit.entriesOfCall, .ok ()⟩ := by
  have notHeld : visit.step.isHeldBack data visit.found = false :=
    Step.isHeldBack_eq_false succeeds.complete visit.found
  have entries := succeeds.regular.entriesOfCall_eq
  have ended := succeeds.regular.ended_eq
  unfold isHeldBack at entries
  unfold Step.act at ended
  rw [notHeld] at entries ended
  simp only [Bool.false_eq_true, ↓reduceIte] at entries ended
  rw [entries, ← succeeds.ended, ended]

/-- What a visit that succeeds records is what the gate and the call do. -/
theorem entries_eq
    (succeeds : visit.Succeeds environment data) :
    visit.entries = visit.step.gateEntries data ++ visit.entriesOfCall := by
  have notHeld : visit.step.isHeldBack data visit.found = false :=
    Step.isHeldBack_eq_false succeeds.complete visit.found
  rw [succeeds.regular.entries_eq]
  unfold Step.act
  rw [notHeld, succeeds.call_eq]
  rfl

/-- The last value that a visit records under a field is what it leaves there. -/
theorem getLast?_entries
    (succeeds : visit.Succeeds environment data)
    (field : String) :
    (visit.entries.filterMap
        (Entry.valueAt? (.text field))).getLast? =
      visit.left? data field := by
  rw [succeeds.entries_eq, List.filterMap_append, List.getLast?_append,
    Step.getLast?_gateEntries succeeds.complete]
  rfl

/-- A capability stores nothing under keys that do not belong to its field. -/
theorem stored?_eq_none
    (succeeds : visit.Succeeds environment data)
    (foreign : ¬(Value.text field).BelongsTo visit.step.field) :
    visit.stored? (.text field) = none := by
  have writes :=
    (succeeds.fits.orderly environment data).within.writes
      (visit.found.extend (visit.step.gateEntries data))
  have called := succeeds.call_eq
  unfold Step.call at called
  rw [called] at writes
  unfold stored?
  rw [List.getLast?_eq_none_iff, List.filterMap_eq_nil_iff]
  intro entry member
  refine Entry.valueAt?_eq_none fun same => foreign ?_
  rw [← same]
  exact (writes entry member).1

/-- Where a visit ignores a field, it leaves nothing there. -/
theorem left?_of_ignores
    (succeeds : visit.Succeeds environment data)
    (ignored : visit.Ignores field) :
    visit.left? data field = none := by
  unfold left?
  rw [succeeds.stored?_eq_none ignored.2, if_neg ignored.1]
  rfl

/-- Where a visit only reads a field, it leaves the raw input. -/
theorem left?_of_reads
    (succeeds : visit.Succeeds environment data)
    (isInput : field ∈ visit.step.inputs)
    (foreign : ¬(Value.text field).BelongsTo visit.step.field) :
    visit.left? data field = some (data.submitted field) := by
  unfold left?
  rw [succeeds.stored?_eq_none foreign, if_pos isInput]
  rfl

/--
A visit that leaves no message behind has its capability store a value under the
field.
-/
theorem exists_stored
    (succeeds : visit.Succeeds environment data)
    (clean : (visit.found.extend visit.entries).hasErrors = false) :
    ∃ stored, visit.stored? visit.step.key = some stored := by
  rcases (succeeds.fits.orderly environment data).concludes.leaves trivial
      succeeds.call_eq with
    open' | ⟨stored, member⟩ | ⟨key, belongs, failed⟩
  · cases open'
  · have shows :
        stored ∈
          visit.entriesOfCall.filterMap
            (Entry.valueAt? visit.step.key) :=
      List.mem_filterMap.mpr
        ⟨_, member, by simp [Step.key, Entry.valueAt?]⟩
    unfold stored?
    exact Option.isSome_iff_exists.mp
      (List.getLast?_isSome.mpr (List.ne_nil_of_mem shows))
  · obtain ⟨characters, rfl, _⟩ := belongs
    obtain ⟨message, present⟩ := Result.hasErrorsAt_text_iff.mp failed
    have failedToo :
        (visit.found.extend visit.entries).hasErrors = true := by
      refine Result.hasErrors_iff.mpr ⟨.text characters, message, ?_⟩
      rw [succeeds.entries_eq]
      simpa using present
    rw [clean] at failedToo
    cases failedToo

end Succeeds

/-- The last value that some visits record is the last one that one leaves. -/
theorem getLast?_flatMap_entries
    (succeed : ∀ visit ∈ visits, visit.Succeeds environment data)
    (field : String) :
    ((visits.flatMap Visit.entries).filterMap
        (Entry.valueAt? (.text field))).getLast? =
      lastLeft? data field visits := by
  unfold lastLeft?
  induction visits with
  | nil =>
      rfl
  | cons visit rest inductionHypothesis =>
      rw [List.forall_mem_cons] at succeed
      rw [List.flatMap_cons, List.filterMap_append, List.getLast?_append,
        inductionHypothesis succeed.2, succeed.1.getLast?_entries,
        List.filterMap_cons]
      cases visit.left? data field with
      | none =>
          simp
      | some left =>
          cases last :
              (rest.filterMap (·.left? data field)).getLast? with
          | none =>
              simp [List.getLast?_cons, last]
          | some final =>
              simp [List.getLast?_cons, last]

/-- Visits that ignore a field leave nothing there. -/
theorem lastLeft?_of_ignores
    (succeed : ∀ visit ∈ visits, visit.Succeeds environment data)
    (ignored : ∀ visit ∈ visits, visit.Ignores field) :
    lastLeft? data field visits = none := by
  have none :
      visits.filterMap (·.left? data field) = [] :=
    List.filterMap_eq_nil_iff.mpr fun visit member =>
      (succeed visit member).left?_of_ignores (ignored visit member)
  unfold lastLeft?
  rw [none]
  rfl

/-- Visits leave what one of them does if those behind it ignore the field. -/
theorem lastLeft?_of_ignores_behind
    {between after : List Visit}
    {left : Value}
    (leaves : visit.left? data field = some left)
    (succeed : ∀ other ∈ after, other.Succeeds environment data)
    (ignored : ∀ other ∈ after, other.Ignores field) :
    lastLeft? data field (between ++ visit :: after) = some left := by
  have noneAfter := lastLeft?_of_ignores succeed ignored
  unfold lastLeft? at noneAfter ⊢
  rw [List.getLast?_eq_none_iff] at noneAfter
  rw [List.filterMap_append, List.filterMap_cons, leaves, noneAfter,
    List.getLast?_append]
  rfl

end Visit

namespace Validator

/-- Two steps of which the second reads the field of the first one. -/
def readAgain : Validator :=
  fixed "Form" Registry.standard <|
    .list
      [.record
          [("field", .text "uid"), ("method", .text "validate_integer")],
        .record
          [("field", .text "copy"), ("fields", .list [.text "uid"]),
            ("method", .text "validate_integer")]]

/-- Data for these steps: a text that writes an integer. -/
def writtenInteger : Value :=
  .record [("uid", .text "5")]

/-- The two steps are no steps of the gate and get as many inputs as they take. -/
theorem exists_plan_readAgain :
    ∃ plan,
      (readAgain.buildPlan (.on ⟨2024, 1, 1⟩) writtenInteger .null).ended =
          .ok plan ∧
        (∀ step ∈ plan, step.method ≠ Registry.requiredName) ∧
        ∀ step ∈ plan, step.inputs.length = step.capability.inputs := by
  have planned :
      (readAgain.buildPlan (.on ⟨2024, 1, 1⟩) writtenInteger
          .null).answersWith
          (fun plan =>
            plan.all fun step =>
              step.method != Registry.requiredName &&
                step.inputs.length == step.capability.inputs) =
        true := by
    decide +kernel
  obtain ⟨plan, built, checked⟩ := Journal.exists_of_answersWith planned
  simp only [List.all_eq_true, Bool.and_eq_true, bne_iff_ne, ne_eq,
    beq_iff_eq] at checked
  exact ⟨plan, built, fun step member => (checked step member).1,
    fun step member => (checked step member).2⟩

/-- The two steps pass and give the first field the text that was submitted. -/
theorem exists_values_readAgain :
    ∃ values,
      (readAgain.run (.on ⟨2024, 1, 1⟩) writtenInteger .null).ended =
          .ok (.passed values) ∧
        values.at? (.text "uid") = some (.text "5") := by
  have passes :
      (readAgain.run (.on ⟨2024, 1, 1⟩) writtenInteger .null).answersWith
          (fun outcome =>
            outcome.hasPassed &&
              (outcome.values.at? (.text "uid")).any (· == .text "5")) =
        true := by
    decide +kernel
  obtain ⟨outcome, answered, left⟩ := Journal.exists_of_answersWith passes
  cases outcome with
  | failed errors =>
      cases left
  | passed values =>
      simp only [Outcome.hasPassed, Outcome.values, Bool.true_and,
        Option.any_eq_true] at left
      obtain ⟨value, held, same⟩ := left
      cases Value.beq_text_iff.mp same
      exact ⟨values, answered, held⟩

/-- The visits of the two steps, the first of which does not store that text. -/
theorem exists_course_readAgain :
    ∃ first second,
      readAgain.course (.on ⟨2024, 1, 1⟩) writtenInteger .null =
          [first, second] ∧
        first.step.field = "uid" ∧
        second.step.field = "copy" ∧
        second.step.inputs = ["uid"] ∧
        first.stored? (.text "uid") ≠ some (.text "5") := by
  have steps :
      (readAgain.course (.on ⟨2024, 1, 1⟩) writtenInteger .null).map
          (fun visit => (visit.step.field, visit.step.inputs)) =
        [("uid", ["uid"]), ("copy", ["uid"])] := by
    decide +kernel
  have stores :
      ((readAgain.course (.on ⟨2024, 1, 1⟩) writtenInteger .null).head?.all
          fun visit =>
            !(visit.stored? (.text "uid")).any (· == .text "5")) =
        true := by
    decide +kernel
  obtain ⟨first, others, course, isFirst, follow⟩ :=
    List.map_eq_cons_iff.mp steps
  obtain ⟨second, none, rfl, isSecond, ends⟩ :=
    List.map_eq_cons_iff.mp follow
  cases List.map_eq_nil_iff.mp ends
  simp only [Prod.mk.injEq] at isFirst isSecond
  refine ⟨first, second, course, isFirst.1, isSecond.1, isSecond.2, ?_⟩
  intro isRaw
  rw [course] at stores
  rw [List.head?_cons, Option.all_some, isRaw] at stores
  cases stores

/--
A clean value is not always the one that the capability of the last step of the
field stored: a later step with the field among its inputs puts the raw input in
its place.
-/
theorem not_forall_clean_value_stored :
    ¬∀ (validator : Validator) (environment : Environment)
        (data context values : Value) (plan : Plan)
        (earlier later : List Visit) (visit : Visit),
      validator.registry = Registry.standard →
        validator.style = Report.standard →
        (validator.buildPlan environment data context).ended = .ok plan →
        (∀ step ∈ plan, step.method ≠ Registry.requiredName) →
        (∀ step ∈ plan, step.inputs.length = step.capability.inputs) →
        (validator.run environment data context).ended =
          .ok (.passed values) →
        validator.course environment data context =
          earlier ++ visit :: later →
        (∀ other ∈ later, other.step.field ≠ visit.step.field) →
        values.at? visit.step.key = visit.stored? visit.step.key := by
  intro isStored
  obtain ⟨plan, built, ungated, arity⟩ := exists_plan_readAgain
  obtain ⟨values, answered, raw⟩ := exists_values_readAgain
  obtain ⟨first, second, course, isField, isOther, _, notRaw⟩ :=
    exists_course_readAgain
  have isLast :
      ∀ other ∈ [second], other.step.field ≠ first.step.field := by
    simp [isField, isOther]
  have same :=
    isStored readAgain _ _ _ values plan [] [second] first rfl rfl built
      ungated arity answered course isLast
  unfold Step.key at same
  rw [isField, raw] at same
  exact notRaw same.symm

variable
  {validator : Validator}
  {environment : Environment}
  {data context values : Value}
  {earlier later : List Visit}
  {visit : Visit}
  {plan : Plan}

/-- In a run that passes with the capabilities of the library, visits succeed. -/
theorem succeeds_of_passed
    (library : validator.registry = Registry.standard)
    (built :
      (validator.buildPlan environment data context).ended = .ok plan)
    (ungated : ∀ step ∈ plan, step.method ≠ Registry.requiredName)
    (arity :
      ∀ step ∈ plan, step.inputs.length = step.capability.inputs)
    (answered :
      (validator.run environment data context).ended =
        .ok (.passed values)) :
    ∀ visit ∈ validator.course environment data context,
      visit.Succeeds environment data := by
  have gate :
      validator.registry.find? Registry.requiredName =
        some .requiredField := by
    rw [library]
    rfl
  obtain ⟨ranPlan, mapping, ranBuilt, visited, ended, concluded⟩ :=
    course_of_answers answered
  cases built.symm.trans ranBuilt
  have passed :
      (validator.reached environment data context).hasErrors = false :=
    (hasPassed_iff concluded).mp rfl
  intro visit member
  have inPlan : visit.step ∈ plan := by
    rw [← visited]
    exact List.mem_map_of_mem member
  have found := find?_of_buildPlan built visit.step inPlan
  rw [library] at found
  exact {
    fits := ⟨found, ungated _ inPlan, arity _ inPlan⟩
    regular := regular_course gate mapping environment context visit member
    complete := (calls_of_not_hasErrors gate mapping passed visit member).1
    ended := ended visit member
  }

/--
What a run holds under a field in the end is the value that the capability of
one step of the field stored, or what the later visits left there last.
-/
theorem value_reached
    (succeed :
      ∀ other ∈ validator.course environment data context,
        other.Succeeds environment data)
    (passed :
      (validator.reached environment data context).hasErrors = false)
    (split :
      validator.course environment data context =
        earlier ++ visit :: later) :
    ∃ stored,
      visit.stored? visit.step.key = some stored ∧
        (visit.found.extend visit.entries).value? visit.step.key =
          some stored ∧
        (validator.reached environment data context).value
            visit.step.key =
          (Visit.lastLeft? data visit.step.field later).getD stored := by
  have sameReached := reached_of_split split
  rw [split, List.forall_mem_append, List.forall_mem_cons] at succeed
  obtain ⟨_, succeeds, laterSucceed⟩ := succeed
  have clean : (visit.found.extend visit.entries).hasErrors = false := by
    rw [sameReached] at passed
    exact Result.hasErrors_of_extend passed
  obtain ⟨stored, isStored⟩ := succeeds.exists_stored clean
  have valueHere :
      (visit.found.extend visit.entries).value? visit.step.key =
        some stored := by
    rw [Result.value?_extend]
    unfold Step.key at isStored ⊢
    rw [succeeds.getLast?_entries, Visit.left?, isStored]
    rfl
  refine ⟨stored, isStored, valueHere, ?_⟩
  unfold Result.value
  rw [sameReached, Result.value?_extend, valueHere]
  unfold Step.key
  rw [Visit.getLast?_flatMap_entries laterSucceed]
  cases Visit.lastLeft? data visit.step.field later <;>
    rfl

/-- The clean value of a field is what the run holds there in the end. -/
theorem at?_of_passed
    (reporting : validator.style = Report.standard)
    (passed :
      (validator.reached environment data context).hasErrors = false)
    (concluded :
      (validator.conclude environment plan
          (validator.reached environment data context)).ended =
        .ok (.passed values))
    {field : String}
    (isField : field ∈ plan.map Step.field) :
    values.at? (.text field) =
      some
        ((validator.reached environment data context).value
          (.text field)) := by
  obtain ⟨clean, listed, same⟩ :=
    (conclude_of_not_hasErrors passed).mp concluded
  cases same
  rw [reporting] at listed
  cases listed
  rw [Value.at?_record, Report.lookup_standardValues, if_pos isField]

/--
In a run that passes with the capabilities of the library, each of them has
stored a value under the field of its step. The clean value of the field is the
last one that a later visit leaves there, and that value only if there is none.
So it is the stored value if all later visits ignore the field, and the raw
input if the last one that does not ignore it reads it as an input.
-/
theorem clean_value_of_visit
    (library : validator.registry = Registry.standard)
    (reporting : validator.style = Report.standard)
    (built :
      (validator.buildPlan environment data context).ended = .ok plan)
    (ungated : ∀ step ∈ plan, step.method ≠ Registry.requiredName)
    (arity :
      ∀ step ∈ plan, step.inputs.length = step.capability.inputs)
    (answered :
      (validator.run environment data context).ended =
        .ok (.passed values))
    (split :
      validator.course environment data context =
        earlier ++ visit :: later) :
    plan = (earlier ++ visit :: later).map Visit.step ∧
      ∃ stored,
        visit.stored? visit.step.key = some stored ∧
          (visit.found.extend visit.entries).value? visit.step.key =
            some stored ∧
          values.at? visit.step.key =
            some
              ((Visit.lastLeft? data visit.step.field later).getD stored) ∧
          (values.at? visit.step.key = some stored ↔
            ∀ left,
              Visit.lastLeft? data visit.step.field later = some left →
                left = stored) ∧
          ((∀ other ∈ later, other.Ignores visit.step.field) →
            values.at? visit.step.key = some stored) ∧
          ∀ between reader after,
            later = between ++ reader :: after →
              visit.step.field ∈ reader.step.inputs →
              ¬visit.step.key.BelongsTo reader.step.field →
              (∀ other ∈ after, other.Ignores visit.step.field) →
              values.at? visit.step.key =
                some (data.submitted visit.step.field) := by
  have succeed :=
    succeeds_of_passed library built ungated arity answered
  obtain ⟨ranPlan, _, ranBuilt, visited, _, concluded⟩ :=
    course_of_answers answered
  cases built.symm.trans ranBuilt
  have passed :
      (validator.reached environment data context).hasErrors = false :=
    (hasPassed_iff concluded).mp rfl
  obtain ⟨stored, isStored, valueHere, valueReached⟩ :=
    value_reached succeed passed split
  rw [split] at visited succeed
  rw [List.forall_mem_append, List.forall_mem_cons] at succeed
  obtain ⟨_, _, laterSucceed⟩ := succeed
  have reported :
      values.at? visit.step.key =
        some
          ((Visit.lastLeft? data visit.step.field later).getD stored) := by
    have isField : visit.step.field ∈ plan.map Step.field := by
      rw [← visited]
      exact List.mem_map_of_mem
        (List.mem_map_of_mem List.mem_append_cons_self)
    rw [← valueReached]
    exact at?_of_passed reporting passed concluded isField
  refine ⟨visited.symm, stored, isStored, valueHere, reported, ?_, ?_, ?_⟩
  · rw [reported]
    cases Visit.lastLeft? data visit.step.field later <;>
      simp
  · intro ignored
    rw [reported, Visit.lastLeft?_of_ignores laterSucceed ignored]
    rfl
  · rintro between reader after rfl isInput foreign ignored
    rw [List.forall_mem_append, List.forall_mem_cons] at laterSucceed
    obtain ⟨_, reads, afterSucceed⟩ := laterSucceed
    rw [reported,
      Visit.lastLeft?_of_ignores_behind
        (reads.left?_of_reads isInput foreign) afterSucceed ignored]
    rfl

/-- The raw input that the second step reads is the clean value of the first. -/
theorem clean_value_of_readAgain :
    ∃ (values : Value) (visit reader : Visit),
      (readAgain.run (.on ⟨2024, 1, 1⟩) writtenInteger .null).ended =
          .ok (.passed values) ∧
        readAgain.course (.on ⟨2024, 1, 1⟩) writtenInteger .null =
          [visit, reader] ∧
        values.at? visit.step.key =
          some (writtenInteger.submitted visit.step.field) := by
  obtain ⟨plan, built, ungated, arity⟩ := exists_plan_readAgain
  obtain ⟨values, answered, _⟩ := exists_values_readAgain
  obtain ⟨visit, reader, course, isField, isOther, inputs, _⟩ :=
    exists_course_readAgain
  have split :
      readAgain.course (.on ⟨2024, 1, 1⟩) writtenInteger .null =
        [] ++ visit :: [reader] :=
    course
  have foreign : ¬visit.step.key.BelongsTo reader.step.field := by
    unfold Step.key
    rw [isField, isOther]
    rintro ⟨characters, same, rfl | derived⟩
    · exact absurd (Value.text.inj same) (by decide)
    · cases same
      revert derived
      decide
  obtain ⟨_, stored, _, _, _, _, _, ifRead⟩ :=
    clean_value_of_visit rfl rfl built ungated arity answered split
  refine ⟨values, visit, reader, answered, course, ?_⟩
  exact ifRead [] reader [] rfl (by simp [isField, inputs]) foreign
    (List.forall_mem_nil _)

end Validator

end FormCheck
