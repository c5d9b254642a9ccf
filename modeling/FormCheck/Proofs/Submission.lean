import FormCheck.Proofs.Check.Ruling
import FormCheck.Proofs.Decomposition
import FormCheck.Proofs.Reporting
import FormCheck.Proofs.Verdict

namespace FormCheck

/-!
# What steps decide on a submission

A step decides on its inputs by its gate and then, if none is lacking, by the
check of its capability. In a plan whose steps spare those behind them each step
decides as it would alone. So a run of such a plan passes exactly if no step
rejects anything. In a plan of strangers the clean value of a key is the one that
the step that owns it has accepted.
-/

namespace Step

variable
  {environment : Environment}
  {data : Value}
  {step : Step}

/-- What the gate of a step decides on an input. -/
def gateRuling
    (step : Step)
    (data : Value)
    (input : String) : Ruling where
  key := input
  verdict :=
    if step.isLacking data input then
      .rejected step.message []
    else
      .accepted (data.submitted input)

/-- What the gate of a step decides. -/
def gateRulings
    (step : Step)
    (data : Value) : List Ruling :=
  step.inputs.map (step.gateRuling data)

/-- What the gate records spells what it decides. -/
theorem spell_gateEntries
    (step : Step)
    (data : Value) :
    Ruling.Spell (step.gateEntries data) (step.gateRulings data) := by
  unfold gateEntries gateRulings
  induction step.inputs with
  | nil =>
      exact .nil
  | cons input rest inductionHypothesis =>
      rw [List.map_cons, List.map_cons, ← List.singleton_append]
      refine .cons ?_ inductionHypothesis
      unfold gateEntry gateRuling
      split
      · exact .error_entries input step.message []
      · exact .value_entry input _

/--
A step decides alone what some rulings say: it ends without a fault, and what it
records on the empty result spells the rulings.
-/
structure Decides
    (environment : Environment)
    (data : Value)
    (step : Step)
    (rulings : List Ruling) : Prop where
  ended : (step.act environment data .empty).ended = .ok ()
  spells :
    Ruling.Spell (step.own environment data).entries rulings

/-- A step that lacks an input decides nothing behind its gate. -/
theorem decides_of_isLacking
    {input : String}
    (member : input ∈ step.inputs)
    (lacking : step.isLacking data input = true)
    (environment : Environment) :
    step.Decides environment data (step.gateRulings data) := by
  have heldBack : step.isHeldBack data .empty = true :=
    List.any_eq_true.mpr ⟨input, member, by rw [lacking]; rfl⟩
  have acted :
      step.act environment data .empty =
        ⟨step.gateEntries data, .ok ()⟩ := by
    unfold act
    rw [if_pos heldBack]
  constructor
  · rw [acted]
  · unfold own
    rw [acted]
    exact spell_gateEntries step data

/-- What the gate records where nothing is lacking is no message. -/
theorem quiet_gateEntries
    (complete :
      ∀ input ∈ step.inputs, step.isLacking data input = false) :
    Entry.AreQuiet (step.gateEntries data) := by
  intro entry member
  obtain ⟨input, isInput, rfl⟩ := List.mem_map.mp member
  unfold gateEntry
  rw [complete input isInput]
  rfl

/-- Where nothing is lacking, the gate leaves a result fresh for the field. -/
theorem freshFor_gateEntries
    (complete :
      ∀ input ∈ step.inputs, step.isLacking data input = false)
    (underived :
      ∀ input ∈ step.inputs,
        Report.startsWith input (step.field ++ "_") = false) :
    (Result.empty.extend (step.gateEntries data)).FreshFor step.field where
  clean := by
    rw [Result.cleanFor_extend_iff (quiet_gateEntries complete)]
    exact (Result.FreshFor.empty step.field).clean
  blank := by
    intro characters derived
    have noValue :
        (step.gateEntries data).filterMap
            (Entry.valueAt? (.text characters)) =
          [] := by
      refine List.filterMap_eq_nil_iff.mpr fun entry member => ?_
      obtain ⟨input, isInput, isKey⟩ := exists_input_of_mem_gateEntries member
      apply Entry.valueAt?_eq_none
      rw [isKey]
      intro same
      rw [← Value.text.inj same, underived input isInput] at derived
      cases derived
    rw [Result.value?_extend, noValue]
    rfl

/-- A step that lacks no input decides what its capability does. -/
theorem decides_of_rules
    (complete :
      ∀ input ∈ step.inputs, step.isLacking data input = false)
    (underived :
      ∀ input ∈ step.inputs,
        Report.startsWith input (step.field ++ "_") = false)
    {later : List Ruling}
    (rules :
      Check.Rules step.field []
        (step.capability.call environment (step.callValues data)) ()
        later) :
    step.Decides environment data (step.gateRulings data ++ later) := by
  obtain ⟨written, called, spelled⟩ :=
    rules.spells (freshFor_gateEntries complete underived) .nil
  rw [Result.extend_nil] at called
  have acted :
      step.act environment data .empty =
        ⟨step.gateEntries data ++ written, .ok ()⟩ := by
    unfold act call
    rw [if_neg (by simp [isHeldBack_eq_false complete]), called]
  constructor
  · rw [acted]
  · unfold own
    rw [acted]
    exact (spell_gateEntries step data).append spelled

/-- What a step decides: its capability does only where no input is lacking. -/
def rulings
    (step : Step)
    (data : Value)
    (later : List Ruling) : List Ruling :=
  step.gateRulings data ++
    if step.inputs.any (step.isLacking data) then [] else later

/-- A gate rejects something exactly if an input is lacking. -/
theorem someFails_gateRulings
    (step : Step)
    (data : Value) :
    Ruling.someFails (step.gateRulings data) =
      step.inputs.any (step.isLacking data) := by
  unfold gateRulings Ruling.someFails
  rw [List.any_map]
  refine List.any_congr rfl fun input => ?_
  unfold gateRuling
  dsimp only [Function.comp]
  split <;> simp [Verdict.isRejected, *]

/-- A step rejects something if an input is lacking or its capability does. -/
theorem someFails_rulings
    (step : Step)
    (data : Value)
    (later : List Ruling) :
    Ruling.someFails (step.rulings data later) =
      (step.inputs.any (step.isLacking data) ||
        Ruling.someFails later) := by
  unfold rulings
  rw [Ruling.someFails_append, someFails_gateRulings]
  cases step.inputs.any (step.isLacking data) <;> rfl

/-- A step decides by its gate and, behind it, by what its capability decides. -/
theorem decides
    (underived :
      ∀ input ∈ step.inputs,
        Report.startsWith input (step.field ++ "_") = false)
    {later : List Ruling}
    (rules :
      (∀ input ∈ step.inputs, step.isLacking data input = false) →
        Check.Rules step.field []
          (step.capability.call environment (step.callValues data)) ()
          later) :
    step.Decides environment data (step.rulings data later) := by
  unfold rulings
  cases lacking : step.inputs.any (step.isLacking data) with
  | true =>
      obtain ⟨input, member, isLacking⟩ := List.any_eq_true.mp lacking
      rw [if_pos rfl, List.append_nil]
      exact decides_of_isLacking member isLacking environment
  | false =>
      have complete :
          ∀ input ∈ step.inputs, step.isLacking data input = false := by
        simpa using lacking
      exact decides_of_rules complete underived (rules complete)

/-- A step judges by a condition if it decides, and fails unless that holds. -/
def Judges
    (environment : Environment)
    (data : Value)
    (step : Step)
    (condition : Prop) : Prop :=
  ∃ rulings,
    step.Decides environment data rulings ∧
      (Ruling.someFails rulings = false ↔ condition)

/-- A step that judges decides. -/
theorem Judges.exists_decides
    {condition : Prop}
    (judges : step.Judges environment data condition) :
    ∃ rulings, step.Decides environment data rulings := by
  obtain ⟨rulings, decides, _⟩ := judges
  exact ⟨rulings, decides⟩

/-- A step judges by every condition that says the same. -/
theorem Judges.congr
    {condition other : Prop}
    (judges : step.Judges environment data condition)
    (same : condition ↔ other) :
    step.Judges environment data other := by
  obtain ⟨rulings, decides, favourable⟩ := judges
  exact ⟨rulings, decides, favourable.trans same⟩

/-- A step judges that its inputs are there and that its capability passes. -/
theorem judges
    (underived :
      ∀ input ∈ step.inputs,
        Report.startsWith input (step.field ++ "_") = false)
    {later : List Ruling}
    (rules :
      (∀ input ∈ step.inputs, step.isLacking data input = false) →
        Check.Rules step.field []
          (step.capability.call environment (step.callValues data)) ()
          later) :
    step.Judges environment data
      ((∀ input ∈ step.inputs, step.isLacking data input = false) ∧
        Ruling.someFails later = false) := by
  refine ⟨_, step.decides underived rules, ?_⟩
  rw [someFails_rulings, Bool.or_eq_false_iff]
  simp

/-- A step leaves a message behind alone exactly if one of its rulings fails. -/
theorem Decides.hasErrors_own
    {rulings : List Ruling}
    (decides : step.Decides environment data rulings) :
    (step.own environment data).hasErrors = Ruling.someFails rulings :=
  decides.spells.any_isError

/-- A step spares another if it decides about no key that the other owns. -/
theorem Decides.spares
    {rulings : List Ruling}
    (decides : step.Decides environment data rulings)
    {other : Step}
    (foreign : ∀ ruling ∈ rulings, ¬other.Owns (.text ruling.key)) :
    step.Spares environment data other := by
  intro entry member
  obtain ⟨ruling, isRuling, isKey⟩ := decides.spells.exists_of_mem member
  rw [isKey]
  exact foreign ruling isRuling

/-- A value that a step accepts last under a key is left behind there. -/
theorem Decides.value?_own
    {rulings : List Ruling}
    (decides : step.Decides environment data rulings)
    {key : String}
    {accepted : Value}
    (decided :
      Ruling.verdictAt? key rulings = some (.accepted accepted)) :
    (step.own environment data).value? (.text key) = some accepted :=
  decides.spells.value?_of_accepted .empty decided

end Step

namespace Plan

variable
  {environment : Environment}
  {data : Value}
  {plan : Plan}

/-- What strangers leave behind under a key is what its owner does alone. -/
theorem value?_own
    (fits : ∀ step ∈ plan, step.Fits)
    (strangers : plan.Pairwise Step.Strangers)
    {step : Step}
    (member : step ∈ plan)
    {key : String}
    (owned : step.Owns (.text key)) :
    (plan.own environment data).value? (.text key) =
      (step.own environment data).value? (.text key) := by
  -- Nobody before or behind the owner stores anything under the key.
  obtain ⟨before, after, rfl⟩ := List.append_of_mem member
  rw [List.pairwise_append, List.pairwise_cons] at strangers
  have silent
      (others : List Step)
      (othersFit : ∀ other ∈ others, other.Fits)
      (areStrangers : ∀ other ∈ others, step.Strangers other) :
      (others.flatMap fun other =>
          (other.own environment data).entries).filterMap
          (Entry.valueAt? (.text key)) =
        [] := by
    refine List.filterMap_eq_nil_iff.mpr fun entry isEntry => ?_
    obtain ⟨other, isOther, recorded⟩ := List.mem_flatMap.mp isEntry
    apply Entry.valueAt?_eq_none
    intro sameKey
    have ownedToo := (othersFit other isOther).owns_of_mem_act recorded
    rw [sameKey] at ownedToo
    exact (areStrangers other isOther).not_owns owned ownedToo
  have silentBefore :=
    silent before (fun other isOther => fits other (by simp [isOther]))
      fun other isOther =>
        Step.Strangers.symm
          (strangers.2.2 other isOther step (List.mem_cons_self ..))
  have silentAfter :=
    silent after (fun other isOther => fits other (by simp [isOther]))
      strangers.2.1.1
  unfold own Result.value?
  simp only [Result.empty, Result.entries_extend, List.nil_append,
    List.flatMap_append, List.flatMap_cons, List.filterMap_append,
    silentBefore, silentAfter, List.append_nil]

/-- Where a plan leaves no message behind, no ruling of a step fails. -/
theorem someFails_eq_false
    (passed : (plan.own environment data).hasErrors = false)
    {step : Step}
    (member : step ∈ plan)
    {rulings : List Ruling}
    (decides : step.Decides environment data rulings) :
    Ruling.someFails rulings = false := by
  rw [hasErrors_own, List.any_eq_false] at passed
  rw [← decides.hasErrors_own, ← Bool.not_eq_true]
  exact passed step member

/-- Steps that judge decide. -/
theorem decides_of_judges
    {conditions : List Prop}
    (judges :
      List.Forall₂ (Step.Judges environment data) plan conditions) :
    ∀ step ∈ plan, ∃ rulings, step.Decides environment data rulings := by
  intro step member
  obtain ⟨condition, judgesBy⟩ :=
    exists_forall₂_iff.mp ⟨conditions, judges⟩ step member
  exact judgesBy.exists_decides

/-- A plan leaves no message behind exactly if its steps judge favourably. -/
theorem hasErrors_own_iff
    {conditions : List Prop}
    (judges :
      List.Forall₂ (Step.Judges environment data) plan conditions) :
    (plan.own environment data).hasErrors = false ↔
      ∀ condition ∈ conditions, condition := by
  rw [hasErrors_own]
  induction judges with
  | nil =>
      simp
  | cons judges _ inductionHypothesis =>
      obtain ⟨rulings, decides, favourable⟩ := judges
      rw [List.any_cons, Bool.or_eq_false_iff, decides.hasErrors_own,
        favourable, inductionHypothesis, List.forall_mem_cons]

/-- A value that a step of the plan accepts under a key that it owns is left. -/
theorem value_own_of_decides
    (fits : ∀ step ∈ plan, step.Fits)
    (strangers : plan.Pairwise Step.Strangers)
    {step : Step}
    (member : step ∈ plan)
    {rulings : List Ruling}
    (decides : step.Decides environment data rulings)
    {key : String}
    (owned : step.Owns (.text key))
    {accepted : Value}
    (decided :
      Ruling.verdictAt? key rulings = some (.accepted accepted)) :
    (plan.own environment data).value (.text key) = accepted := by
  rw [Result.value, value?_own fits strangers member owned,
    decides.value?_own decided]
  rfl

/-- The fields of strangers differ. -/
theorem nodup_fields
    (strangers : plan.Pairwise Step.Strangers) :
    (plan.map Step.field).Nodup := by
  rw [List.Nodup, List.pairwise_map]
  refine strangers.imp fun foreign same => ?_
  have differs :=
    foreign _ (List.mem_cons_self ..) _ (List.mem_cons_self ..)
  rw [same] at differs
  exact differs.1 (.self _)

/-- What fitting steps leave behind has textual messages if each decides. -/
theorem hasTextMessages_own
    (decides :
      ∀ step ∈ plan, ∃ rulings, step.Decides environment data rulings) :
    (plan.own environment data).HasTextMessages := by
  intro key message recorded
  obtain ⟨step, member, isOwn⟩ := List.mem_flatMap.mp recorded
  obtain ⟨rulings, decided⟩ := decides step member
  exact decided.spells.isText_of_mem isOwn

end Plan

/-- The clean values of fields that differ are listed in the order of the plan. -/
theorem Report.standardValues_eq_map
    {plan : Plan}
    (distinct : (plan.map Step.field).Nodup)
    (result : Result) :
    standardValues plan result =
      plan.map fun step => (step.field, result.value step.key) := by
  -- The values collected so far are appended to as long as no field recurs.
  have collected
      (steps : Plan)
      (values : CleanValues)
      (areDistinct : (steps.map Step.field).Nodup)
      (areNew :
        ∀ step ∈ steps, step.field ∉ values.map Prod.fst) :
      steps.foldl
          (fun values step =>
            put step.field (result.value step.key) values)
          values =
        values ++
          steps.map fun step => (step.field, result.value step.key) := by
    induction steps generalizing values with
    | nil =>
        simp
    | cons step rest inductionHypothesis =>
        rw [List.forall_mem_cons] at areNew
        rw [List.map_cons, List.nodup_cons] at areDistinct
        have appended :
            put step.field (result.value step.key) values =
              values ++ [(step.field, result.value step.key)] := by
          have putLast :=
            put_append_of_not_mem (.of_lawful step.field) areNew.1
              (result.value step.key) []
          simpa [put] using putLast
        rw [List.foldl_cons, appended,
          inductionHypothesis _ areDistinct.2]
        · simp
        · intro other isRest isOld
          rw [List.map_append, List.mem_append] at isOld
          rcases isOld with old | new
          · exact areNew.2 other isRest old
          · rw [List.map_singleton, List.mem_singleton] at new
            have sameField : step.field = other.field := new.symm
            rw [sameField] at areDistinct
            exact areDistinct.1 (List.mem_map_of_mem isRest)
  exact collected plan [] distinct fun _ _ => List.not_mem_nil

namespace Validator

/--
A validator arranges a plan for a submission: the data is a mapping with textual
keys, and the steps of the plan that the raw plan stands for fit the library and
spare those behind them.
-/
structure Arranges
    (validator : Validator)
    (environment : Environment)
    (data context : Value)
    (plan : Plan) : Prop where
  gate :
    validator.registry.find? Registry.requiredName = some .requiredField
  isRecord : data.IsRecord
  stands :
    ∃ raw,
      (validator.rawPlan environment data
            (context.orElse (.dict []))).ended =
          .ok raw ∧
        (Plan.normalize environment.settings validator.registry
            raw).ended =
          .ok plan
  fits : ∀ step ∈ plan, step.Fits
  spares : plan.Pairwise (Step.Spares environment data)

namespace Arranges

variable
  {validator : Validator}
  {environment : Environment}
  {data context : Value}
  {plan : Plan}
  {outcome : Outcome}

/-- The plan is built exactly if it can be written. -/
theorem buildPlan_answers_iff
    (arranges : validator.Arranges environment data context plan)
    {built : Plan} :
    (validator.buildPlan environment data context).ended = .ok built ↔
      built = plan ∧ (Plan.toValue plan).IsWritable := by
  obtain ⟨raw, drafted, normal⟩ := arranges.stands
  rw [Validator.buildPlan_answers_iff]
  constructor
  · rintro ⟨_, draftedToo, normalToo, writable⟩
    cases Except.ok.inj (drafted.symm.trans draftedToo)
    cases Except.ok.inj (normal.symm.trans normalToo)
    exact ⟨rfl, writable⟩
  · rintro ⟨rfl, writable⟩
    exact ⟨raw, drafted, normal, writable⟩

/-- What a run of an arranged plan leaves behind is what its steps do alone. -/
theorem reached_eq
    (arranges : validator.Arranges environment data context plan)
    (built :
      (validator.buildPlan environment data context).ended = .ok plan)
    (answers :
      ∀ step ∈ plan, (step.act environment data .empty).ended = .ok ()) :
    validator.reached environment data context =
      plan.own environment data := by
  have announced := announce_of_isRecord validator arranges.isRecord
  unfold Validator.reached
  rw [course_of_buildPlan announced built,
    entries_visits_of_spares arranges.gate arranges.isRecord.isMapping
      arranges.fits arranges.spares answers 0 fun _ _ _ _ => ⟨rfl, rfl⟩]
  rfl

/--
A run of an arranged plan answers exactly if the plan can be written, each step
ends alone, and the conclusion of what the steps leave behind alone answers.
-/
theorem run_answers_iff
    (arranges : validator.Arranges environment data context plan) :
    (validator.run environment data context).ended = .ok outcome ↔
      (Plan.toValue plan).IsWritable ∧
        (∀ step ∈ plan,
            (step.act environment data .empty).ended = .ok ()) ∧
          (validator.conclude environment plan
              (plan.own environment data)).ended =
            .ok outcome := by
  have mapping := arranges.isRecord.isMapping
  have announced := announce_of_isRecord validator arranges.isRecord
  have done :
      (validator.runSteps environment data plan 0 .empty).ended =
          .ok () ↔
        ∀ step ∈ plan,
          (step.act environment data .empty).ended = .ok () :=
    runSteps_ended_iff arranges.gate mapping arranges.fits
      arranges.spares 0 fun _ _ _ _ => ⟨rfl, rfl⟩
  rw [Validator.run_answers_iff]
  constructor
  · rintro ⟨_, _, built, stepped, concluded⟩
    obtain ⟨rfl, writable⟩ := arranges.buildPlan_answers_iff.mp built
    have answers := done.mp stepped
    rw [arranges.reached_eq built answers] at concluded
    exact ⟨writable, answers, concluded⟩
  · rintro ⟨writable, answers, concluded⟩
    have built := arranges.buildPlan_answers_iff.mpr ⟨rfl, writable⟩
    rw [← arranges.reached_eq built answers] at concluded
    exact ⟨plan, announced, built, done.mpr answers, concluded⟩

/-- A run whose steps all decide answers if its style reports what they leave. -/
theorem run_answers
    (arranges : validator.Arranges environment data context plan)
    (writable : (Plan.toValue plan).IsWritable)
    (decides :
      ∀ step ∈ plan, ∃ rulings, step.Decides environment data rulings)
    (reports :
      ∃ notices,
        validator.style.errors environment.settings plan
            (plan.own environment data) =
          .ok notices)
    (shows :
      (plan.own environment data).hasErrors = false →
        ∃ clean,
          validator.style.values plan (plan.own environment data) =
            .ok clean) :
    ∃ outcome,
      (validator.run environment data context).ended = .ok outcome := by
  have keys := Plan.hasTextKeys_own arranges.fits environment data
  obtain ⟨outcome, concluded⟩ := conclude_answers keys reports shows
  refine ⟨outcome, arranges.run_answers_iff.mpr
    ⟨writable, fun step member => ?_, concluded⟩⟩
  obtain ⟨rulings, decided⟩ := decides step member
  exact decided.ended

/-- A run whose steps all decide answers if it reports in the standard way. -/
theorem run_answers_of_standard
    (arranges : validator.Arranges environment data context plan)
    (reporting : validator.style = Report.standard)
    (delimiter : environment.settings.HasDelimiter)
    (writable : (Plan.toValue plan).IsWritable)
    (decides :
      ∀ step ∈ plan, ∃ rulings, step.Decides environment data rulings) :
    ∃ outcome,
      (validator.run environment data context).ended = .ok outcome := by
  refine arranges.run_answers writable decides ?_ ?_
  · rw [reporting]
    exact Report.standardErrors_answers
      (Plan.hasTextKeys_own arranges.fits environment data)
      (.inr ⟨Plan.hasTextMessages_own decides, delimiter⟩)
  · rw [reporting]
    exact fun _ => ⟨_, rfl⟩

/-- A run that passes leaves no message, and its style shows the clean values. -/
theorem of_passed
    (arranges : validator.Arranges environment data context plan)
    {values : Value}
    (passed :
      (validator.run environment data context).ended =
        .ok (.passed values)) :
    (plan.own environment data).hasErrors = false ∧
      ∃ clean,
        validator.style.values plan (plan.own environment data) =
            .ok clean ∧
          values = .record clean := by
  obtain ⟨_, _, concluded⟩ := arranges.run_answers_iff.mp passed
  have flawless := (hasPassed_iff concluded).mp rfl
  obtain ⟨clean, shown, same⟩ :=
    (conclude_of_not_hasErrors flawless).mp concluded
  cases same
  exact ⟨flawless, clean, shown, rfl⟩

end Arranges

end Validator

end FormCheck
