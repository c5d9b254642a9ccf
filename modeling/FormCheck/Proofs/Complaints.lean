import FormCheck.Proofs.Check.Decision.Number
import FormCheck.Proofs.Submission

namespace FormCheck

/-!
# One notice for one message

A step with one input that complains at most once puts no notice, or one under
its field with just that message, whichever key of the field the message was
recorded under. So the payload of steps that do so and are apart lists exactly
the fields of those that fail, each with one message.
-/

/-! ## What rulings complain about -/

namespace Verdict

/-- The texts of the messages of a verdict. -/
def texts : Verdict → List String
  | .accepted _ => []
  | .rejected message others => message :: others

/-- The messages of a verdict are their texts. -/
theorem messages_eq_map
    (verdict : Verdict) :
    verdict.messages = verdict.texts.map Value.text := by
  cases verdict <;> rfl

/-- A verdict has texts exactly if it rejects. -/
theorem texts_eq_nil_iff
    {verdict : Verdict} :
    verdict.texts = [] ↔ verdict.isRejected = false := by
  cases verdict <;> simp [texts, isRejected]

/-- What is not rejected is accepted. -/
theorem isRejected_eq_false_iff
    {verdict : Verdict} :
    verdict.isRejected = false ↔
      ∃ accepted, verdict = .accepted accepted := by
  cases verdict <;> simp [isRejected]

/-- A verdict is brief if it has one message at most. -/
def IsBrief
    (verdict : Verdict) : Prop :=
  verdict.texts.length ≤ 1

/-- A verdict under a condition is brief. -/
theorem isBrief_provided
    (condition : Prop)
    [Decidable condition]
    (value : Value)
    (message : String) :
    (provided condition value message).IsBrief := by
  unfold provided IsBrief
  split <;> simp [texts]

/-- The verdict on an integer is brief. -/
theorem isBrief_integerIn
    (value : Value)
    (lower upper : Option Int) :
    (integerIn value lower upper).IsBrief := by
  unfold integerIn
  split
  · exact Nat.le_refl 1
  · exact isBrief_provided ..

end Verdict

namespace Ruling

/-- What rulings complain about: their messages, each with its key. -/
def complaints
    (rulings : List Ruling) : List (String × String) :=
  rulings.flatMap fun ruling =>
    ruling.verdict.texts.map fun text => (ruling.key, text)

@[simp] theorem complaints_append
    (first second : List Ruling) :
    complaints (first ++ second) =
      complaints first ++ complaints second :=
  List.flatMap_append

/-- Rulings complain exactly if one of them fails. -/
theorem complaints_eq_nil_iff
    {rulings : List Ruling} :
    complaints rulings = [] ↔ someFails rulings = false := by
  unfold complaints someFails
  rw [List.flatMap_eq_nil_iff, List.any_eq_false]
  simp only [List.map_eq_nil_iff, Verdict.texts_eq_nil_iff,
    Bool.not_eq_true]

/-- The messages among the entries that spell a ruling are its complaints. -/
theorem IsSpelledBy.filter_isError
    {ruling : Ruling}
    {entries : List Entry}
    (spelled : ruling.IsSpelledBy entries) :
    entries.filter Entry.isError =
      ruling.verdict.texts.map fun text =>
        .error (.text ruling.key) (.text text) := by
  have shown
      (recorded : List Entry)
      (keys : ∀ entry ∈ recorded, entry.key = .text ruling.key) :
      recorded.filter Entry.isError =
        (recorded.filterMap
          (Entry.messageAt? (.text ruling.key))).map
          (.error (.text ruling.key)) := by
    induction recorded with
    | nil =>
        rfl
    | cons entry rest inductionHypothesis =>
        rw [List.forall_mem_cons] at keys
        have others := inductionHypothesis keys.2
        cases entry with
        | value key stored =>
            exact others
        | error key message =>
            obtain rfl : key = .text ruling.key := keys.1
            rw [List.filter_cons_of_pos rfl, List.filterMap_cons, others]
            simp [Entry.messageAt?]
  rw [shown entries spelled.keys, spelled.messages,
    Verdict.messages_eq_map, List.map_map]
  rfl

/-- The messages among the entries that spell rulings are their complaints. -/
theorem Spell.filter_isError
    {entries : List Entry}
    {rulings : List Ruling}
    (spell : Spell entries rulings) :
    entries.filter Entry.isError =
      (complaints rulings).map fun complaint =>
        .error (.text complaint.1) (.text complaint.2) := by
  induction spell with
  | nil =>
      rfl
  | cons spelled _ inductionHypothesis =>
      rw [List.filter_append, spelled.filter_isError, inductionHypothesis]
      simp [complaints, Function.comp_def]

/-- Rulings are brief on a field if they complain about it once at most. -/
structure AreBriefOn
    (field : String)
    (rulings : List Ruling) : Prop where
  once : (complaints rulings).length ≤ 1
  belongs :
    ∀ complaint ∈ complaints rulings,
      (Value.text complaint.1).BelongsTo field

namespace AreBriefOn

variable
  {field : String}
  {first second : List Ruling}

/-- A brief verdict on a key of a field is brief on the field. -/
theorem single
    {key : String}
    {verdict : Verdict}
    (brief : verdict.IsBrief)
    (belongs : (Value.text key).BelongsTo field) :
    AreBriefOn field [⟨key, verdict⟩] where
  once := by
    rw [complaints, List.flatMap_singleton, List.length_map]
    exact brief
  belongs := by
    rw [complaints, List.flatMap_singleton, List.forall_mem_map]
    exact fun _ _ => belongs

/-- Rulings that reject nothing are brief. -/
theorem of_passed
    (passed : someFails first = false) :
    AreBriefOn field first where
  once := by
    rw [complaints_eq_nil_iff.mpr passed]
    exact Nat.zero_le _
  belongs := by
    rw [complaints_eq_nil_iff.mpr passed]
    exact List.forall_mem_nil _

/-- Brief rulings stay brief behind rulings that reject nothing. -/
theorem append_of_passed
    (passed : someFails first = false)
    (brief : AreBriefOn field second) :
    AreBriefOn field (first ++ second) where
  once := by
    rw [complaints_append, complaints_eq_nil_iff.mpr passed]
    exact brief.once
  belongs := by
    rw [complaints_append, complaints_eq_nil_iff.mpr passed]
    exact brief.belongs

/-- Brief rulings do not complain, or they complain about one key of the field. -/
theorem complaints_cases
    (brief : AreBriefOn field first) :
    complaints first = [] ∨
      ∃ key message,
        complaints first = [(key, message)] ∧
          (Value.text key).BelongsTo field := by
  cases listed : complaints first with
  | nil =>
      exact .inl rfl
  | cons complaint others =>
      have few := brief.once
      rw [listed, List.length_cons] at few
      obtain rfl : others = [] :=
        List.length_eq_zero_iff.mp (by omega)
      refine .inr ⟨complaint.1, complaint.2, rfl, brief.belongs _ ?_⟩
      rw [listed]
      exact List.mem_singleton_self _

end AreBriefOn

end Ruling

/-! ## What a step puts for a complaint -/

namespace Result

/-- The messages by key are collected from the messages alone. -/
theorem errors_eq_foldl_filter
    (result : Result) :
    result.errors =
      (result.entries.filter Entry.isError).foldl collectError [] := by
  have ignoresValues :
      collectError = fun errors entry =>
        if entry.isError = true then collectError errors entry else errors := by
    funext errors entry
    cases entry <;> rfl
  unfold errors
  rw [List.foldl_filter, ← ignoresValues]

/-- The messages under a key are found among the messages alone. -/
theorem filterMap_messageAt?_eq
    (entries : List Entry)
    (wanted : Value) :
    entries.filterMap (Entry.messageAt? wanted) =
      (entries.filter Entry.isError).filterMap
        (Entry.messageAt? wanted) := by
  rw [List.filterMap_filter]
  refine List.filterMap_congr fun entry _ => ?_
  cases entry <;> rfl

/-- The only message of a result is found under its key alone. -/
theorem errorsAt_of_only
    {result : Result}
    {key message : String}
    (only :
      result.entries.filter Entry.isError =
        [.error (.text key) (.text message)])
    (wanted : String) :
    result.errorsAt (.text wanted) =
      if key = wanted then [.text message] else [] := by
  unfold errorsAt
  rw [filterMap_messageAt?_eq, only]
  by_cases same : key = wanted <;> simp [Entry.messageAt?, same]

end Result

namespace Report

/-- The only message of a result is found exactly if its key passes. -/
theorem messagesUnder_of_only
    {result : Result}
    {key message : String}
    (only :
      result.entries.filter Entry.isError =
        [.error (.text key) (.text message)])
    (test : String → Bool) :
    messagesUnder test result =
      if test key then [.text message] else [] := by
  have kept :
      (result.restrict (Value.passes test)).entries.filter
          Entry.isError =
        if test key then [.error (.text key) (.text message)] else [] := by
    unfold Result.restrict
    dsimp only
    rw [List.filter_comm, only]
    cases passed : test key <;> simp [Entry.key, Value.passes, passed]
  unfold messagesUnder
  rw [Result.errors_eq_foldl_filter, kept]
  cases test key <;> rfl

/-- Whether a key is derived from the field of a step and none of its inputs. -/
def isDerived
    (step : Step)
    (key : String) : Bool :=
  startsWith key (step.field ++ "_") && !step.inputs.contains key

/-- A step whose field is its only input lists all its messages there. -/
theorem standardStep_of_single
    {own : Result}
    {step : Step}
    (textual : own.HasTextKeys)
    (isSingle : step.inputs = [step.field])
    (settings : Settings) :
    standardStep settings step.inputs own [] step =
      .ok
        (match own.errorsAt step.key ++ messagesUnder (isDerived step) own with
        | [] => []
        | messages => [(step.field, .many messages)]) := by
  have notComposite : step.isComposite = false := by
    unfold Step.isComposite
    rw [isSingle]
    rfl
  have isInput : step.inputs.contains step.field = true := by
    rw [isSingle]
    simp
  have found :
      messagesWhere (fun key => .ok (isDerived step key)) own.errors =
        .ok (messagesUnder (isDerived step) own) :=
    messagesWhere_errors textual _
  have collected :
      withInputErrors own [] step =
        match own.errorsAt step.key with
        | [] => []
        | messages => [(step.field, .many messages)] := by
    rw [withInputErrors_eq_foldl, isSingle]
    rfl
  unfold isDerived at found
  unfold standardStep isDerived
  dsimp only
  rw [collected, notComposite, isInput, found]
  generalize messagesUnder _ own = derived
  cases own.errorsAt step.key with
  | nil =>
      cases derived <;> rfl
  | cons first others =>
      simp [lookup, put, bind, Except.bind, pure, Except.pure]

/-- A step with one complaint on its field has one notice there. -/
theorem standardStep_of_areBriefOn
    {environment : Environment}
    {data : Value}
    {step : Step}
    {rulings : List Ruling}
    (decides : step.Decides environment data rulings)
    (textual : (step.own environment data).HasTextKeys)
    (isSingle : step.inputs = [step.field])
    (brief : Ruling.AreBriefOn step.field rulings)
    (settings : Settings) :
    standardStep settings step.inputs (step.own environment data) [] step =
      .ok
        ((Ruling.complaints rulings).map fun complaint =>
          (step.field, .many [.text complaint.2])) := by
  have messages := decides.spells.filter_isError
  rw [standardStep_of_single textual isSingle]
  rcases brief.complaints_cases with none | ⟨key, message, one, belongs⟩
  · have passed :
        (step.own environment data).hasErrors = false := by
      rw [decides.hasErrors_own, ← Ruling.complaints_eq_nil_iff, none]
    rw [none, Result.errorsAt_of_not_hasErrors passed,
      messagesUnder_eq_nil]
    · rfl
    · intro characters message _ recorded
      have failed := Result.hasErrors_iff.mpr ⟨_, _, recorded⟩
      rw [passed] at failed
      cases failed
  · rw [one] at messages
    rw [one, Step.key, Result.errorsAt_of_only messages,
      messagesUnder_of_only messages]
    rcases Value.belongsTo_text_iff.mp belongs with rfl | derived
    · have notDerived : isDerived step step.field = false := by
        unfold isDerived
        rw [Report.not_startsWith_self]
        rfl
      simp [notDerived]
    · have isOther : key ≠ step.field := by
        rintro rfl
        rw [Report.not_startsWith_self] at derived
        cases derived
      have isDerivedKey : isDerived step key = true := by
        unfold isDerived
        rw [derived, isSingle]
        simpa using isOther
      simp [isOther, isDerivedKey]

end Report

/-! ## Steps that complain once -/

/-- A payload of single messages, each under its field. -/
def Payload.ofSingles
    (messages : List (String × String)) : Payload :=
  messages.map fun message => (message.1, .many [.text message.2])

/-- A condition that is asked of an input, and its clean value if that holds. -/
structure Judgement where
  condition : Prop
  value : Value

/--
A step judges once if its field is its only input, it complains about the field
once at most, and not at all exactly if the condition holds; then it accepts the
value.
-/
structure Step.JudgesOnce
    (environment : Environment)
    (data : Value)
    (step : Step)
    (judgement : Judgement) : Prop where
  isSingle : step.inputs = [step.field]
  decides :
    ∃ rulings,
      step.Decides environment data rulings ∧
        Ruling.AreBriefOn step.field rulings ∧
        (Ruling.someFails rulings = false ↔ judgement.condition) ∧
        (judgement.condition →
          Ruling.verdictAt? step.field rulings =
            some (.accepted judgement.value))

namespace Step.JudgesOnce

variable
  {environment : Environment}
  {data : Value}
  {step : Step}
  {judgement : Judgement}

/-- A step that judges once judges. -/
theorem judges
    (once : step.JudgesOnce environment data judgement) :
    step.Judges environment data judgement.condition := by
  obtain ⟨rulings, decides, _, favourable, _⟩ := once.decides
  exact ⟨rulings, decides, favourable⟩

/-- A step that judges once puts one message if its condition fails. -/
theorem standardStep_cases
    (once : step.JudgesOnce environment data judgement)
    (fits : step.Fits)
    (settings : Settings) :
    judgement.condition ∧
        Report.standardStep settings step.inputs
            (step.own environment data) [] step =
          .ok (Payload.ofSingles []) ∨
      ¬judgement.condition ∧
        ∃ message,
          Report.standardStep settings step.inputs
              (step.own environment data) [] step =
            .ok (Payload.ofSingles [(step.field, message)]) := by
  obtain ⟨rulings, decides, brief, favourable, _⟩ := once.decides
  have puts :=
    Report.standardStep_of_areBriefOn decides
      (fits.hasTextKeys_own environment data) once.isSingle brief settings
  rw [puts, ← favourable, ← Ruling.complaints_eq_nil_iff]
  rcases brief.complaints_cases with none | ⟨key, message, one, _⟩
  · left
    rw [none]
    exact ⟨rfl, rfl⟩
  · right
    rw [one]
    exact ⟨List.cons_ne_nil _ _, message, rfl⟩

end Step.JudgesOnce

namespace Plan

variable
  {environment : Environment}
  {data : Value}
  {plan : Plan}
  {judgements : List Judgement}

/-- A plan leaves no message behind exactly if every condition holds. -/
theorem hasErrors_own_iff_of_judgesOnce
    (once :
      List.Forall₂ (Step.JudgesOnce environment data) plan judgements) :
    (plan.own environment data).hasErrors = false ↔
      ∀ judgement ∈ judgements, judgement.condition := by
  have judges :
      List.Forall₂ (Step.Judges environment data) plan
        (judgements.map Judgement.condition) := by
    rw [List.forall₂_map_right_iff]
    exact once.imp fun _ _ judgesOnce => judgesOnce.judges
  rw [hasErrors_own_iff judges, List.forall_mem_map]

/--
Steps that judge once put one message for each of them whose condition fails, in
the order of the plan.
-/
theorem notices_of_judgesOnce
    (fits : ∀ step ∈ plan, step.Fits)
    (once :
      List.Forall₂ (Step.JudgesOnce environment data) plan judgements) :
    ∃ messages,
      plan.notices environment data = Payload.ofSingles messages ∧
        (messages.map Prod.fst).Sublist (plan.map Step.field) ∧
        ∀ field,
          field ∈ messages.map Prod.fst ↔
            ∃ judged ∈ plan.zip judgements,
              judged.1.field = field ∧ ¬judged.2.condition := by
  induction once with
  | nil =>
      exact ⟨[], rfl, .slnil, by simp⟩
  | @cons step judgement rest others once _ inductionHypothesis =>
      rw [List.forall_mem_cons] at fits
      obtain ⟨messages, listed, ordered, failing⟩ :=
        inductionHypothesis fits.2
      have split :
          Plan.notices environment data (step :: rest) =
            Report.noticesOf environment.settings step
                (step.own environment data) ++
              Payload.ofSingles messages := by
        rw [← listed]
        rfl
      unfold Report.noticesOf at split
      rcases once.standardStep_cases fits.1 environment.settings with
        ⟨holds, none⟩ | ⟨fails, message, one⟩
      · rw [none] at split
        refine ⟨messages, split, ordered.cons step.field, fun field => ?_⟩
        simp [failing, holds]
      · rw [one] at split
        refine ⟨(step.field, message) :: messages, split,
          ordered.cons_cons step.field, fun field => ?_⟩
        simp [failing, fails, eq_comm]

/-- What steps put that judge once and are apart is the standard payload. -/
theorem standardErrors_of_judgesOnce
    (fits : ∀ step ∈ plan, step.Fits)
    (apart : plan.Pairwise Step.Apart)
    (once :
      List.Forall₂ (Step.JudgesOnce environment data) plan judgements) :
    Report.standardErrors environment.settings plan
        (plan.own environment data) =
      .ok (plan.notices environment data) := by
  apply Report.standardErrors_of_apart
    (hasTextKeys_own fits environment data) apart
    (encloses_own_of_apart fits apart environment data)
  intro step member
  obtain ⟨judgement, judgesOnce⟩ :=
    exists_forall₂_iff.mp ⟨judgements, once⟩ step member
  unfold Report.noticesOf
  rcases judgesOnce.standardStep_cases (fits step member)
      environment.settings with
    ⟨_, none⟩ | ⟨_, message, one⟩
  · rw [none]
  · rw [one]

/-- Where every condition holds, the clean values are those of the judgements. -/
theorem standardValues_of_judgesOnce
    (fits : ∀ step ∈ plan, step.Fits)
    (apart : plan.Pairwise Step.Apart)
    (once :
      List.Forall₂ (Step.JudgesOnce environment data) plan judgements)
    (holds : ∀ judgement ∈ judgements, judgement.condition) :
    Report.standardValues plan (plan.own environment data) =
      List.zipWith (fun step judgement => (step.field, judgement.value))
        plan judgements := by
  have strangers : plan.Pairwise Step.Strangers :=
    apart.imp Step.Apart.strangers
  rw [Report.standardValues_eq_map (nodup_fields strangers)]
  -- The values of all steps are those of the whole plan, so the induction is on
  -- any steps of it.
  have accepted
      (steps : List Step)
      (judged : List Judgement)
      (areSteps : ∀ step ∈ steps, step ∈ plan)
      (judgeOnce :
        List.Forall₂ (Step.JudgesOnce environment data) steps judged)
      (hold : ∀ judgement ∈ judged, judgement.condition) :
      (steps.map fun step =>
          (step.field,
            (plan.own environment data).value step.key)) =
        List.zipWith (fun step judgement => (step.field, judgement.value))
          steps judged := by
    induction judgeOnce with
    | nil =>
        rfl
    | @cons step judgement rest others once _ inductionHypothesis =>
        rw [List.forall_mem_cons] at areSteps hold
        obtain ⟨rulings, decides, _, _, accepts⟩ := once.decides
        have stored :
            (plan.own environment data).value step.key =
              judgement.value :=
          value_own_of_decides fits strangers areSteps.1 decides
            (.inl (.self step.field)) (accepts hold.1)
        rw [List.map_cons, List.zipWith_cons_cons, stored,
          inductionHypothesis areSteps.2 hold.2]
  exact accepted plan judgements (fun _ member => member) once holds

end Plan

/-! ## Runs of steps that complain once -/

namespace Validator.Arranges

variable
  {validator : Validator}
  {environment : Environment}
  {data context : Value}
  {plan : Plan}
  {judgements : List Judgement}

section

variable
  (arranges : validator.Arranges environment data context plan)
  (reporting : validator.style = Report.standard)
  (writable : (Plan.toValue plan).IsWritable)
  (apart : plan.Pairwise Step.Apart)
  (once :
    List.Forall₂ (Step.JudgesOnce environment data) plan judgements)

include arranges writable once

/-- A run of steps that judge once answers as its conclusion does. -/
theorem run_ended_of_conclude
    {outcome : Outcome}
    (concluded :
      (validator.conclude environment plan
          (plan.own environment data)).ended =
        .ok outcome) :
    (validator.run environment data context).ended = .ok outcome := by
  refine arranges.run_answers_iff.mpr
    ⟨writable, fun step member => ?_, concluded⟩
  obtain ⟨judgement, judgesOnce⟩ :=
    exists_forall₂_iff.mp ⟨judgements, once⟩ step member
  obtain ⟨rulings, decides⟩ := judgesOnce.judges.exists_decides
  exact decides.ended

include reporting apart

/-- Where every condition holds, the run passes with the values accepted. -/
theorem run_passes_of_judgesOnce
    (holds : ∀ judgement ∈ judgements, judgement.condition) :
    (validator.run environment data context).ended =
      .ok
        (.passed
          (.record
            (List.zipWith
              (fun step judgement => (step.field, judgement.value))
              plan judgements))) := by
  have passed := (Plan.hasErrors_own_iff_of_judgesOnce once).mpr holds
  apply arranges.run_ended_of_conclude writable once
  rw [conclude_of_not_hasErrors passed, reporting,
    ← Plan.standardValues_of_judgesOnce arranges.fits apart once holds]
  exact ⟨_, rfl, rfl⟩

/-- Where a condition fails, the run fails with a message for each that does. -/
theorem run_fails_of_judgesOnce
    (fails : ¬∀ judgement ∈ judgements, judgement.condition) :
    ∃ messages,
      (validator.run environment data context).ended =
          .ok (.failed (Payload.ofSingles messages).toValue) ∧
        (messages.map Prod.fst).Sublist (plan.map Step.field) ∧
        ∀ field,
          field ∈ messages.map Prod.fst ↔
            ∃ judged ∈ plan.zip judgements,
              judged.1.field = field ∧ ¬judged.2.condition := by
  have failed : (plan.own environment data).hasErrors = true := by
    rw [← Bool.not_eq_false, Plan.hasErrors_own_iff_of_judgesOnce once]
    exact fails
  obtain ⟨messages, listed, ordered, failing⟩ :=
    Plan.notices_of_judgesOnce arranges.fits once
  have present : Payload.ofSingles messages ≠ [] := by
    intro none
    obtain rfl := List.map_eq_nil_iff.mp none
    apply fails
    intro judgement member
    have zipped : (plan.zip judgements).map Prod.snd = judgements :=
      List.map_snd_zip (Nat.le_of_eq once.length_eq.symm)
    rw [← zipped] at member
    obtain ⟨judged, isJudged, rfl⟩ := List.mem_map.mp member
    by_contra wrong
    exact List.not_mem_nil
      ((failing judged.1.field).mpr ⟨judged, isJudged, rfl, wrong⟩)
  have reported :=
    Plan.standardErrors_of_judgesOnce arranges.fits apart once
  rw [listed] at reported
  have chosen :
      validator.failurePayload environment plan
          (plan.own environment data) =
        .ok (Payload.ofSingles messages).toValue := by
    rw [failurePayload_eq_ok_iff reporting]
    refine ⟨_, reported, ?_⟩
    rw [if_neg (by simpa using present)]
  refine ⟨messages, ?_, ordered, failing⟩
  apply arranges.run_ended_of_conclude writable once
  rw [conclude_of_hasErrors failed]
  exact ⟨_, chosen,
    keyListing_of_isText fun _ isKey => Value.isText_of_mem_record isKey,
    rfl⟩

end

end Validator.Arranges

end FormCheck
