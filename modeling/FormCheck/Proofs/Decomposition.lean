import Mathlib.Data.List.Perm.Basic
import FormCheck.Proofs.Ending
import FormCheck.Proofs.Independence
import FormCheck.Proofs.Listing
import FormCheck.Proofs.Plan
import FormCheck.Proofs.Report

namespace FormCheck

/-!
# Plans of steps that are apart

A plan of steps that are apart does what its steps do alone. It answers if they
do, passes if all of them pass, and its values and its payload are the unions of
theirs. So the order of its steps does not matter.
-/

namespace Value

/-- A record is the union of some others if it holds just what one of them holds. -/
def IsUnionOf
    (whole : Value)
    (parts : List Value) : Prop :=
  whole.IsRecord ∧ (∀ part ∈ parts, part.IsRecord) ∧
    ∀ key held,
      whole.at? (.text key) = some held ↔
        ∃ part ∈ parts, part.at? (.text key) = some held

/-- The keys of a record are texts. -/
theorem isText_of_mem_record
    {entries : List (String × Value)}
    {key : Value}
    (member :
      key ∈
        (entries.map fun entry => (Value.text entry.1, entry.2)).map
          Prod.fst) :
    key.IsText := by
  rw [List.map_map] at member
  obtain ⟨entry, _, rfl⟩ := List.mem_map.mp member
  exact ⟨entry.1, rfl⟩

end Value

namespace Outcome

/--
An outcome joins some others if it passes when all of them do, with all their
values, and fails otherwise, with all messages of those that fail.
-/
structure Joins
    (whole : Outcome)
    (parts : List Outcome) : Prop where
  passes_iff :
    whole.hasPassed = true ↔ ∀ part ∈ parts, part.hasPassed = true
  values_union :
    whole.hasPassed = true →
      whole.values.IsUnionOf (parts.map Outcome.values)
  errors_union :
    whole.hasPassed = false →
      whole.errors.IsUnionOf
        ((parts.filter (!·.hasPassed)).map Outcome.errors)

/-- Outcomes agree if they hold the same values and the same messages. -/
def Agrees
    (first second : Outcome) : Prop :=
  first.hasPassed = second.hasPassed ∧
    ∀ key,
      first.values.at? (.text key) = second.values.at? (.text key) ∧
        first.errors.at? (.text key) = second.errors.at? (.text key)

/-- Outcomes that join the same others agree. -/
theorem Joins.agrees
    {whole other : Outcome}
    {parts otherParts : List Outcome}
    (joins : whole.Joins parts)
    (otherJoins : other.Joins otherParts)
    (same : ∀ part, part ∈ parts ↔ part ∈ otherParts) :
    whole.Agrees other := by
  have samePassed : whole.hasPassed = other.hasPassed := by
    rw [Bool.eq_iff_iff, joins.passes_iff, otherJoins.passes_iff]
    simp only [same]
  refine ⟨samePassed, fun key => ?_⟩
  cases passed : whole.hasPassed with
  | true =>
      have passedToo := samePassed.symm.trans passed
      constructor
      · refine Option.ext fun held => ?_
        rw [(joins.values_union passed).2.2,
          (otherJoins.values_union passedToo).2.2]
        simp only [List.mem_map, same]
      · cases whole with
        | failed errors =>
            cases passed
        | passed values =>
            cases other with
            | failed errors =>
                cases passedToo
            | passed values =>
                rfl
  | false =>
      have failedToo := samePassed.symm.trans passed
      constructor
      · cases whole with
        | passed values =>
            cases passed
        | failed errors =>
            cases other with
            | passed values =>
                cases failedToo
            | failed errors =>
                rfl
      · refine Option.ext fun held => ?_
        rw [(joins.errors_union passed).2.2,
          (otherJoins.errors_union failedToo).2.2]
        simp only [List.mem_map, List.mem_filter, same]

end Outcome

namespace Step

open Report (noticesOf standardStep)

/-- A step answers alone if it ends, can be written, and can report its messages. -/
structure AnswersAlone
    (environment : Environment)
    (data : Value)
    (step : Step) : Prop where
  fits : step.Fits
  ended : (step.act environment data .empty).ended = .ok ()
  writable : step.toValue.IsWritable
  reported :
    (step.own environment data).hasErrors = true →
      standardStep environment.settings step.inputs
          (step.own environment data) [] step =
        .ok
          (noticesOf environment.settings step (step.own environment data))

/-- How a step alone ends: with the value of its field, or with its notices. -/
def outcome
    (environment : Environment)
    (data : Value)
    (step : Step) : Outcome :=
  if (step.own environment data).hasErrors then
    .failed
      (noticesOf environment.settings step
        (step.own environment data)).toValue
  else
    .passed
      (.record
        [(step.field, (step.own environment data).value step.key)])

variable
  {environment : Environment}
  {data : Value}
  {step : Step}

/-- A step that leaves a message behind fails with its notices. -/
theorem outcome_of_hasErrors
    (failed : (step.own environment data).hasErrors = true) :
    step.outcome environment data =
      .failed
        (noticesOf environment.settings step
          (step.own environment data)).toValue := by
  unfold outcome
  rw [if_pos failed]

/-- A step that leaves no message behind passes with the value of its field. -/
theorem outcome_of_not_hasErrors
    (passed : (step.own environment data).hasErrors = false) :
    step.outcome environment data =
      .passed
        (.record
          [(step.field, (step.own environment data).value step.key)]) := by
  unfold outcome
  rw [passed]
  rfl

/-- A step alone passes exactly if it leaves no message behind. -/
theorem hasPassed_outcome_iff :
    (step.outcome environment data).hasPassed = true ↔
      (step.own environment data).hasErrors = false := by
  cases failed : (step.own environment data).hasErrors with
  | true =>
      simp [outcome_of_hasErrors failed, Outcome.hasPassed]
  | false =>
      simp [outcome_of_not_hasErrors failed, Outcome.hasPassed]

namespace AnswersAlone

/-- With or without messages, a step alone puts its notices. -/
theorem standardStep_eq
    (alone : step.AnswersAlone environment data)
    (delimiter : environment.settings.HasDelimiter) :
    standardStep environment.settings step.inputs
        (step.own environment data) [] step =
      .ok
        (noticesOf environment.settings step
          (step.own environment data)) := by
  cases failed : (step.own environment data).hasErrors with
  | true =>
      exact alone.reported failed
  | false =>
      unfold noticesOf
      rw [Report.standardStep_of_not_hasErrors delimiter failed]

/-- A step that fails alone has notices. -/
theorem noticesOf_ne_nil
    (alone : step.AnswersAlone environment data)
    (failed : (step.own environment data).hasErrors = true) :
    noticesOf environment.settings step (step.own environment data) ≠ [] :=
  Report.notices_ne_nil (alone.fits.hasTextKeys_own environment data)
    (fun _ _ => alone.fits.accounts_for_errors) failed
    (alone.reported failed)

/-- A step that passes alone has no notices. -/
theorem noticesOf_eq_nil
    (delimiter : environment.settings.HasDelimiter)
    (passed : (step.own environment data).hasErrors = false) :
    noticesOf environment.settings step (step.own environment data) =
      [] := by
  unfold noticesOf
  rw [Report.standardStep_of_not_hasErrors delimiter passed]

end AnswersAlone

end Step

/-- The notices that the steps of a plan have alone, put together. -/
def Plan.notices
    (environment : Environment)
    (data : Value)
    (plan : Plan) : Payload :=
  plan.flatMap fun step =>
    Report.noticesOf environment.settings step (step.own environment data)

namespace Validator

variable
  {name : String}
  {environment : Environment}
  {data context raw : Value}
  {plan : Plan}
  {step : Step}
  {outcome : Outcome}

/-- The original gate guards the capabilities of the library. -/
theorem gate_fixed
    (name : String)
    (raw : Value) :
    (fixed name Registry.standard raw).registry.find?
        Registry.requiredName =
      some .requiredField :=
  rfl

/-- Data with textual keys can be announced. -/
theorem announce_of_isRecord
    (validator : Validator)
    (isRecord : data.IsRecord) :
    (validator.announce data).ended = .ok () := by
  obtain ⟨entries, rfl⟩ := isRecord
  obtain ⟨listing, listed⟩ :=
    keyListing_of_isText fun key member =>
      Value.isText_of_mem_record member
  refine Journal.ended_bind_eq_ok_iff.mpr ⟨listing, ?_, rfl⟩
  exact listed

/-- A fixed plan is built if it is accepted and its steps can be written. -/
theorem buildPlan_fixed_iff
    {registry : Registry} :
    ((fixed name registry raw).buildPlan environment data context).ended =
        .ok plan ↔
      (Plan.normalize environment.settings registry raw).ended =
          .ok plan ∧
        ∀ step ∈ plan, step.toValue.IsWritable := by
  have described :
      (Plan.toValue plan).IsWritable ↔
        ∀ step ∈ plan, step.toValue.IsWritable := by
    unfold Plan.toValue
    rw [Value.isWritable_list_iff, List.forall_mem_map]
  rw [← described, buildPlan_answers_iff]
  constructor
  · rintro ⟨_, same, accepted, isWritten⟩
    cases same
    exact ⟨accepted, isWritten⟩
  · rintro ⟨accepted, isWritten⟩
    exact ⟨raw, rfl, accepted, isWritten⟩

/-- A payload that is not empty is reported as it is. -/
theorem failurePayload_of_ne_nil
    {result : Result}
    {notices : Payload}
    (reported :
      Report.standardErrors environment.settings plan result =
        .ok notices)
    (present : notices ≠ []) :
    (fixed name Registry.standard raw).failurePayload environment plan
        result =
      .ok notices.toValue := by
  rw [failurePayload_eq_ok_iff rfl]
  refine ⟨notices, reported, ?_⟩
  rw [if_neg (by simpa using present)]

/-- What is reported after a failure stems from a payload. -/
theorem exists_notices_of_failurePayload
    {result : Result}
    {payload : Value}
    (answered :
      (fixed name Registry.standard raw).failurePayload environment plan
          result =
        .ok payload) :
    ∃ notices,
      Report.standardErrors environment.settings plan result =
        .ok notices := by
  obtain ⟨notices, reported, _⟩ :=
    (failurePayload_eq_ok_iff rfl).mp answered
  exact ⟨notices, reported⟩

/-- A plan of one step stands for the step of its raw step. -/
theorem plan_eq_singleton
    {settings : Settings}
    {registry : Registry}
    {item : Value}
    (accepted :
      (Plan.normalizeStep settings registry item 0).ended = .ok step)
    (normalized :
      (Plan.normalize settings registry (.list [item])).ended =
        .ok plan) :
    plan = [step] := by
  have same := Plan.map_normalizeStep_of_normalize rfl normalized
  rw [List.map_singleton, accepted] at same
  cases plan with
  | nil =>
      cases same
  | cons first rest =>
      rw [List.map_cons, List.cons.injEq, List.nil_eq,
        List.map_eq_nil_iff] at same
      obtain ⟨sameStep, rfl⟩ := same
      cases sameStep
      rfl

/--
In a run of steps apart that end alone, all steps are done, and they leave
behind together what they leave behind alone.
-/
theorem reached_of_apart
    (mapping : data.IsMapping)
    (announced :
      ((fixed name Registry.standard raw).announce data).ended = .ok ())
    (built :
      ((fixed name Registry.standard raw).buildPlan environment data
          context).ended =
        .ok plan)
    (fits : ∀ step ∈ plan, step.Fits)
    (apart : plan.Pairwise Step.Apart)
    (ended :
      ∀ step ∈ plan, (step.act environment data .empty).ended = .ok ()) :
    ((fixed name Registry.standard raw).runSteps environment data plan 0
          .empty).ended =
        .ok () ∧
      (fixed name Registry.standard raw).reached environment data
          context =
        plan.own environment data := by
  obtain ⟨done, recorded⟩ :=
    runSteps_of_apart (gate_fixed name raw) mapping fits apart ended 0
      fun _ _ _ _ => ⟨rfl, rfl⟩
  refine ⟨done, ?_⟩
  unfold Validator.reached
  rw [course_of_buildPlan announced built, recorded]
  rfl

/-- A run of a single step that answers has its step end alone. -/
theorem ended_of_single
    (mapping : data.IsMapping)
    (done :
      ((fixed name Registry.standard raw).runSteps environment data [step]
          0 .empty).ended =
        .ok ()) :
    (step.act environment data .empty).ended = .ok () := by
  obtain ⟨⟨⟩, stepped, _⟩ := Journal.ended_bind_eq_ok_iff.mp done
  have regular :=
    regular_runStep (gate_fixed name raw) mapping environment step .empty 0
  rw [← stepped]
  exact regular.ended_eq.symm

/-- Where a payload is reported for a step alone, the step has these notices. -/
theorem noticesOf_of_reported
    {notices : Payload}
    (reported :
      Report.standardErrors environment.settings [step]
          (step.own environment data) =
        .ok notices) :
    Report.standardStep environment.settings step.inputs
          (step.own environment data) [] step =
        .ok notices ∧
      Report.noticesOf environment.settings step
          (step.own environment data) =
        notices := by
  rw [Report.standardErrors_singleton] at reported
  refine ⟨reported, ?_⟩
  unfold Report.noticesOf
  rw [reported]

/-- A run of a single step that answers is what the step does alone. -/
theorem outcome_of_single
    {item : Value}
    (fits : step.Fits)
    (accepted :
      (Plan.normalizeStep environment.settings Registry.standard item
          0).ended =
        .ok step)
    (answered :
      ((fixed name Registry.standard (.list [item])).run environment data
          context).ended =
        .ok outcome) :
    step.AnswersAlone environment data ∧
      outcome = step.outcome environment data := by
  obtain ⟨plan, announced, built, done, concluded⟩ :=
    run_answers_iff.mp answered
  have mapping := isMapping_of_announce announced
  obtain ⟨normalized, writable⟩ := buildPlan_fixed_iff.mp built
  obtain rfl := plan_eq_singleton accepted normalized
  have ended := ended_of_single mapping done
  have isWritable : step.toValue.IsWritable :=
    writable step (List.mem_singleton_self _)
  obtain ⟨_, reached⟩ :=
    reached_of_apart mapping announced built
      (List.forall_mem_singleton.mpr fits) (List.pairwise_singleton ..)
      (List.forall_mem_singleton.mpr ended)
  have reachedOwn :
      Plan.own environment data [step] = step.own environment data := by
    simp [Plan.own, Result.extend, Result.empty]
  rw [reached, reachedOwn] at concluded
  cases failed : (step.own environment data).hasErrors with
  | true =>
      obtain ⟨payload, answeredWith, _, rfl⟩ :=
        (conclude_of_hasErrors failed).mp concluded
      obtain ⟨notices, reported⟩ :=
        exists_notices_of_failurePayload answeredWith
      obtain ⟨standard, same⟩ := noticesOf_of_reported reported
      have alone : step.AnswersAlone environment data :=
        ⟨fits, ended, isWritable, fun _ => by rw [same, standard]⟩
      have present := alone.noticesOf_ne_nil failed
      rw [same] at present
      rw [failurePayload_of_ne_nil reported present] at answeredWith
      cases answeredWith
      refine ⟨alone, ?_⟩
      rw [Step.outcome_of_hasErrors failed, same]
  | false =>
      have alone : step.AnswersAlone environment data :=
        ⟨fits, ended, isWritable,
          fun failedToo => by rw [failed] at failedToo; cases failedToo⟩
      obtain ⟨values, listed, rfl⟩ :=
        (conclude_of_not_hasErrors failed).mp concluded
      cases listed
      refine ⟨alone, ?_⟩
      rw [Step.outcome_of_not_hasErrors failed]
      rfl

/-- The values of steps that pass are those that the steps have alone. -/
theorem isUnionOf_standardValues
    {reached : Result}
    (encloses :
      ∀ step ∈ plan,
        reached.Encloses (step.own environment data) step)
    (passed :
      ∀ step ∈ plan, (step.own environment data).hasErrors = false) :
    (Value.record (Report.standardValues plan reached)).IsUnionOf
      ((plan.map (Step.outcome environment data)).map
        Outcome.values) := by
  have valuesAlone
      (step : Step)
      (member : step ∈ plan) :
      (step.outcome environment data).values =
        .record [(step.field, reached.value step.key)] := by
    have sameValue :=
      (encloses step member).value?_eq (List.mem_cons_self ..)
    rw [Step.outcome_of_not_hasErrors (passed step member)]
    unfold Result.value Step.key
    rw [sameValue]
    rfl
  rw [List.map_map]
  refine ⟨⟨_, rfl⟩, ?_, ?_⟩
  · intro part isPart
    obtain ⟨step, member, rfl⟩ := List.mem_map.mp isPart
    exact ⟨_, valuesAlone step member⟩
  · intro key held
    rw [Value.at?_record, Report.lookup_standardValues]
    constructor
    · intro found
      split at found
      case isFalse =>
        cases found
      case isTrue isField =>
        obtain ⟨step, member, rfl⟩ := List.mem_map.mp isField
        refine ⟨_, List.mem_map_of_mem member, ?_⟩
        rw [Function.comp_apply, valuesAlone step member,
          Value.at?_record, ← found]
        simp [lookup, Step.key]
    · rintro ⟨part, isPart, found⟩
      obtain ⟨step, member, rfl⟩ := List.mem_map.mp isPart
      rw [Function.comp_apply, valuesAlone step member,
        Value.at?_record] at found
      simp only [lookup, beq_iff_eq] at found
      split at found
      case isFalse =>
        cases found
      case isTrue same =>
        subst same
        rw [if_pos (List.mem_map_of_mem member)]
        exact found

/-- The payloads of the steps that fail alone are those of their notices. -/
theorem mem_errors_outcomes_iff
    {part : Value} :
    part ∈
        ((plan.map (Step.outcome environment data)).filter
          (!·.hasPassed)).map Outcome.errors ↔
      ∃ step ∈ plan,
        (step.own environment data).hasErrors = true ∧
          part =
            (Report.noticesOf environment.settings step
              (step.own environment data)).toValue := by
  have failedIff
      (step : Step) :
      (step.outcome environment data).hasPassed = false ↔
        (step.own environment data).hasErrors = true := by
    rw [← Bool.not_eq_true, Step.hasPassed_outcome_iff, Bool.not_eq_false]
  have errorsAlone
      (step : Step)
      (failed : (step.own environment data).hasErrors = true) :
      (step.outcome environment data).errors =
        (Report.noticesOf environment.settings step
          (step.own environment data)).toValue := by
    rw [Step.outcome_of_hasErrors failed]
    rfl
  simp only [List.mem_map, List.mem_filter, Bool.not_eq_true']
  constructor
  · rintro ⟨_, ⟨⟨step, member, rfl⟩, failed⟩, rfl⟩
    have failedAlone := (failedIff step).mp failed
    exact ⟨step, member, failedAlone, errorsAlone step failedAlone⟩
  · rintro ⟨step, member, failed, rfl⟩
    exact ⟨_, ⟨⟨step, member, rfl⟩, (failedIff step).mpr failed⟩,
      errorsAlone step failed⟩

/-- The payload of steps apart is made of those that the steps have alone. -/
theorem isUnionOf_notices
    (delimiter : environment.settings.HasDelimiter)
    (apart : plan.Pairwise Step.Apart) :
    (plan.notices environment data).toValue.IsUnionOf
      (((plan.map (Step.outcome environment data)).filter
          (!·.hasPassed)).map
        Outcome.errors) := by
  refine ⟨⟨_, rfl⟩, ?_, ?_⟩
  · intro part isPart
    obtain ⟨step, _, _, rfl⟩ := mem_errors_outcomes_iff.mp isPart
    exact ⟨_, rfl⟩
  · intro key held
    have keysApart :
        plan.Pairwise fun first second =>
          ∀ name ∈
              (Report.noticesOf environment.settings first
                (first.own environment data)).map Prod.fst,
            name ∉
              (Report.noticesOf environment.settings second
                (second.own environment data)).map Prod.fst :=
      apart.imp fun pair name isName =>
        Report.not_mem_noticesOf pair.symm
          (Report.mem_names_of_noticesOf isName)
    unfold Plan.notices
    simp only [Payload.at?_toValue, Option.map_eq_some_iff,
      lookup_flatMap_iff keysApart, mem_errors_outcomes_iff]
    constructor
    · rintro ⟨notice, ⟨step, member, found⟩, rfl⟩
      cases failed : (step.own environment data).hasErrors with
      | true =>
          refine ⟨_, ⟨step, member, failed, rfl⟩, ?_⟩
          rw [Payload.at?_toValue, found]
          rfl
      | false =>
          rw [Step.AnswersAlone.noticesOf_eq_nil delimiter failed] at found
          cases found
    · rintro ⟨_, ⟨step, member, _, rfl⟩, found⟩
      rw [Payload.at?_toValue, Option.map_eq_some_iff] at found
      obtain ⟨notice, isNotice, rfl⟩ := found
      exact ⟨notice, ⟨step, member, isNotice⟩, rfl⟩

section Conclusions

variable
  (name raw)
  (delimiter : environment.settings.HasDelimiter)
  (apart : plan.Pairwise Step.Apart)
  (alone : ∀ step ∈ plan, step.AnswersAlone environment data)

include apart alone

/-- If all steps apart pass alone, they pass together, with all their values. -/
theorem conclude_of_passed
    (passed : (plan.own environment data).hasErrors = false) :
    ∃ outcome,
      ((fixed name Registry.standard raw).conclude environment plan
            (plan.own environment data)).ended =
          .ok outcome ∧
        outcome.Joins (plan.map (Step.outcome environment data)) := by
  have passedAlone :
      ∀ step ∈ plan, (step.own environment data).hasErrors = false := by
    have none := passed
    rw [Plan.hasErrors_own, List.any_eq_false] at none
    exact fun step member => Bool.eq_false_iff.mpr (none step member)
  have encloses :=
    Plan.encloses_own_of_apart
      (fun step member => (alone step member).fits) apart environment data
  refine ⟨_, (conclude_of_not_hasErrors passed).mpr ⟨_, rfl, rfl⟩, ?_⟩
  refine ⟨?_, fun _ => isUnionOf_standardValues encloses passedAlone,
    fun failed => nomatch failed⟩
  rw [List.forall_mem_map]
  exact iff_of_true rfl fun step member =>
    Step.hasPassed_outcome_iff.mpr (passedAlone step member)

include delimiter

/-- If a step fails alone, steps apart fail together, with all their notices. -/
theorem conclude_of_failed
    (failed : (plan.own environment data).hasErrors = true) :
    ∃ outcome,
      ((fixed name Registry.standard raw).conclude environment plan
            (plan.own environment data)).ended =
          .ok outcome ∧
        outcome.Joins (plan.map (Step.outcome environment data)) := by
  have someFailed := failed
  rw [Plan.hasErrors_own, List.any_eq_true] at someFailed
  obtain ⟨step, member, failedAlone⟩ := someFailed
  have fits :
      ∀ step ∈ plan, step.Fits :=
    fun step member => (alone step member).fits
  have reported :
      Report.standardErrors environment.settings plan
          (plan.own environment data) =
        .ok (plan.notices environment data) :=
    Report.standardErrors_of_apart
      (Plan.hasTextKeys_own fits environment data) apart
      (Plan.encloses_own_of_apart fits apart environment data)
      fun step member => (alone step member).standardStep_eq delimiter
  have present : plan.notices environment data ≠ [] := by
    intro none
    exact (alone step member).noticesOf_ne_nil failedAlone
      (List.flatMap_eq_nil_iff.mp none step member)
  have listed :
      ∃ listing,
        keyListing (plan.notices environment data).toValue =
          .ok listing :=
    keyListing_of_isText fun _ isKey => Value.isText_of_mem_record isKey
  refine ⟨_, (conclude_of_hasErrors failed).mpr
    ⟨_, failurePayload_of_ne_nil reported present, listed, rfl⟩, ?_⟩
  refine ⟨?_, fun passed => (nomatch passed),
    fun _ => isUnionOf_notices delimiter apart⟩
  rw [List.forall_mem_map]
  refine iff_of_false Bool.false_ne_true fun allPassed => ?_
  have passedAlone :=
    Step.hasPassed_outcome_iff.mp (allPassed step member)
  rw [failedAlone] at passedAlone
  cases passedAlone

end Conclusions

/-- A plan of steps apart that answer alone answers, and joins what they do. -/
theorem joins_of_apart
    (isRecord : data.IsRecord)
    (delimiter : environment.settings.HasDelimiter)
    (accepted :
      (Plan.normalize environment.settings Registry.standard raw).ended =
        .ok plan)
    (apart : plan.Pairwise Step.Apart)
    (alone : ∀ step ∈ plan, step.AnswersAlone environment data) :
    ∃ outcome,
      ((fixed name Registry.standard raw).run environment data
            context).ended =
          .ok outcome ∧
        outcome.Joins (plan.map (Step.outcome environment data)) := by
  have announced :=
    announce_of_isRecord (fixed name Registry.standard raw) isRecord
  have built :
      ((fixed name Registry.standard raw).buildPlan environment data
          context).ended =
        .ok plan :=
    buildPlan_fixed_iff.mpr
      ⟨accepted, fun step member => (alone step member).writable⟩
  obtain ⟨done, reached⟩ :=
    reached_of_apart isRecord.isMapping announced built
      (fun step member => (alone step member).fits) apart
      fun step member => (alone step member).ended
  have concludes :
      ∃ outcome,
        ((fixed name Registry.standard raw).conclude environment plan
              (plan.own environment data)).ended =
            .ok outcome ∧
          outcome.Joins (plan.map (Step.outcome environment data)) := by
    cases failed : (plan.own environment data).hasErrors with
    | false =>
        exact conclude_of_passed name raw apart alone failed
    | true =>
        exact conclude_of_failed name raw delimiter apart alone failed
  obtain ⟨outcome, concluded, joins⟩ := concludes
  rw [← reached] at concluded
  exact ⟨outcome,
    run_answers_iff.mpr ⟨plan, announced, built, done, concluded⟩, joins⟩

/-- The runs of single steps that answer are what the steps of a plan do alone. -/
theorem outcomes_of_singles
    {items : List Value}
    {parts : List Outcome}
    (steps :
      items.map (fun item =>
          (Plan.normalizeStep environment.settings Registry.standard item
            0).ended) =
        plan.map .ok)
    (fits : ∀ step ∈ plan, step.Fits)
    (answered :
      items.map (fun item =>
          ((fixed name Registry.standard (.list [item])).run environment
            data context).ended) =
        parts.map .ok) :
    (∀ step ∈ plan, step.AnswersAlone environment data) ∧
      parts = plan.map (Step.outcome environment data) := by
  induction items generalizing plan parts with
  | nil =>
      rw [List.map_nil, List.nil_eq, List.map_eq_nil_iff] at steps answered
      subst steps answered
      exact ⟨List.forall_mem_nil _, rfl⟩
  | cons item rest inductionHypothesis =>
      cases plan with
      | nil =>
          cases steps
      | cons step others =>
          cases parts with
          | nil =>
              cases answered
          | cons part otherParts =>
              rw [List.map_cons, List.map_cons, List.cons.injEq]
                at steps answered
              rw [List.forall_mem_cons] at fits
              obtain ⟨alone, rfl⟩ :=
                outcome_of_single fits.1 steps.1 answered.1
              obtain ⟨othersAlone, rfl⟩ :=
                inductionHypothesis steps.2 fits.2 answered.2
              exact ⟨List.forall_mem_cons.mpr ⟨alone, othersAlone⟩, rfl⟩

/--
A run over steps that are apart decomposes into the runs of the single steps. If
these answer, it answers; it passes if all of them pass; its values, or else its
messages, are the union of theirs. In any order of the steps it holds the same.
-/
theorem run_joins_single_runs
    {items : List Value}
    {parts : List Outcome}
    (isRecord : data.IsRecord)
    (delimiter : environment.settings.HasDelimiter)
    (listed : Plan.sequence? raw = some items)
    (accepted :
      (Plan.normalize environment.settings Registry.standard raw).ended =
        .ok plan)
    (ungated : ∀ step ∈ plan, step.method ≠ Registry.requiredName)
    (arity :
      ∀ step ∈ plan, step.inputs.length = step.capability.inputs)
    (apart : plan.Pairwise Step.Apart)
    (alone :
      items.map (fun item =>
          ((fixed name Registry.standard (.list [item])).run environment
            data context).ended) =
        parts.map .ok) :
    ∃ outcome,
      ((fixed name Registry.standard raw).run environment data
            context).ended =
          .ok outcome ∧
        outcome.Joins parts ∧
        ∀ (otherRaw : Value) (otherItems : List Value) (otherPlan : Plan),
          Plan.sequence? otherRaw = some otherItems →
            otherItems.Perm items →
            (Plan.normalize environment.settings Registry.standard
                  otherRaw).ended =
                .ok otherPlan →
            ∃ other,
              ((fixed name Registry.standard otherRaw).run environment
                    data context).ended =
                  .ok other ∧
                other.Agrees outcome := by
  have stepsOf
      {raw : Value}
      {items : List Value}
      {plan : Plan}
      (listed : Plan.sequence? raw = some items)
      (accepted :
        (Plan.normalize environment.settings Registry.standard
            raw).ended =
          .ok plan) :
      items.map (fun item =>
          (Plan.normalizeStep environment.settings Registry.standard item
            0).ended) =
        plan.map .ok := by
    obtain ⟨found, isSequence, each⟩ :=
      Plan.normalizeFrom_of_normalize accepted
    rw [listed] at isSequence
    cases isSequence
    exact Plan.map_normalizeStep each
  have steps := stepsOf listed accepted
  have fits :
      ∀ step ∈ plan, step.Fits :=
    fun step member =>
      ⟨Plan.find?_of_normalize accepted step member, ungated step member,
        arity step member⟩
  obtain ⟨answerAlone, rfl⟩ := outcomes_of_singles steps fits alone
  obtain ⟨outcome, answered, joins⟩ :=
    joins_of_apart isRecord delimiter accepted apart answerAlone
  refine ⟨outcome, answered, joins, ?_⟩
  intro otherRaw otherItems otherPlan otherListed reordered otherAccepted
  have samePlan : otherPlan.Perm plan := by
    have sameSteps := reordered.map fun item =>
      (Plan.normalizeStep environment.settings Registry.standard item
        0).ended
    rw [steps, stepsOf otherListed otherAccepted] at sameSteps
    exact (List.map_perm_map_iff fun _ _ => Except.ok.inj).mp sameSteps
  obtain ⟨other, otherAnswered, otherJoins⟩ :=
    joins_of_apart isRecord delimiter otherAccepted
      (apart.perm samePlan.symm fun pair => pair.symm)
      fun step member => answerAlone step (samePlan.mem_iff.mp member)
  refine ⟨other, otherAnswered, otherJoins.agrees joins fun part => ?_⟩
  exact (samePlan.map _).mem_iff

/-- A raw step that reads an integer into a field. -/
def integerStep
    (field : String) : Value :=
  .record
    [("field", .text field), ("method", .text "validate_integer")]

/-- Data for two such steps, of which only one has an integer. -/
def oneInteger : Value :=
  .record [("age", .text "5"), ("size", .text "x")]

/-- A step that passes and a step that fails are joined by a run over both. -/
theorem run_joins_single_runs_integers :
    ∃ first second outcome : Outcome,
      ((fixed "Form" Registry.standard (.list [integerStep "age"])).run
            (.on ⟨2024, 1, 1⟩) oneInteger .null).ended =
          .ok first ∧
        first.hasPassed = true ∧
        ((fixed "Form" Registry.standard (.list [integerStep "size"])).run
            (.on ⟨2024, 1, 1⟩) oneInteger .null).ended =
          .ok second ∧
        second.hasPassed = false ∧
        ((fixed "Form" Registry.standard
              (.list [integerStep "age", integerStep "size"])).run
            (.on ⟨2024, 1, 1⟩) oneInteger .null).ended =
          .ok outcome ∧
        outcome.Joins [first, second] := by
  have firstPasses :
      ((fixed "Form" Registry.standard (.list [integerStep "age"])).run
          (.on ⟨2024, 1, 1⟩) oneInteger .null).answersWith
          Outcome.hasPassed =
        true := by
    decide +kernel
  have secondFails :
      ((fixed "Form" Registry.standard (.list [integerStep "size"])).run
          (.on ⟨2024, 1, 1⟩) oneInteger .null).answersWith
          (!·.hasPassed) =
        true := by
    decide +kernel
  have planned :
      (Plan.normalize {} Registry.standard
          (.list [integerStep "age", integerStep "size"])).answersWith
          (fun plan =>
            (plan.all fun step =>
              step.method != Registry.requiredName &&
                step.inputs.length == step.capability.inputs) &&
              decide (plan.Pairwise Step.Apart)) =
        true := by
    decide +kernel
  obtain ⟨first, firstAnswered, passed⟩ :=
    Journal.exists_of_answersWith firstPasses
  obtain ⟨second, secondAnswered, failed⟩ :=
    Journal.exists_of_answersWith secondFails
  obtain ⟨plan, accepted, checked⟩ := Journal.exists_of_answersWith planned
  simp only [Bool.and_eq_true, List.all_eq_true, bne_iff_ne, ne_eq,
    beq_iff_eq, decide_eq_true_eq] at checked
  have isRecord : oneInteger.IsRecord := ⟨_, rfl⟩
  have alone :
      [integerStep "age", integerStep "size"].map (fun item =>
          ((fixed "Form" Registry.standard (.list [item])).run
            (.on ⟨2024, 1, 1⟩) oneInteger .null).ended) =
        [first, second].map .ok := by
    simp only [List.map_cons, List.map_nil, firstAnswered, secondAnswered]
  obtain ⟨outcome, answered, joins, _⟩ :=
    run_joins_single_runs isRecord ⟨_, rfl⟩ rfl accepted
      (fun step member => (checked.1 step member).1)
      (fun step member => (checked.1 step member).2) checked.2 alone
  exact ⟨first, second, outcome, firstAnswered, passed, secondAnswered,
    by simpa using failed, answered, joins⟩

end Validator

end FormCheck
