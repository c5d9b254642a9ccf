import FormCheck.Proofs.Calendar
import FormCheck.Proofs.Check.Demand
import FormCheck.Proofs.Complaints
import FormCheck.Proofs.Form.Input
import FormCheck.Proofs.Submission

namespace FormCheck

/-!
# Steps of forms

Most steps of forms have their field as the only input, and require it. Two
dates have six inputs. What such a step judges by is told here from the verdict
of its capability. Years lie between bounds that sound settings give. Only an
option that is an integer with too many digits can make a step of a form fault, and
an integer that does not fit into the memory.
-/

/-- Integers of at most twelve digits can be written. -/
theorem Value.isWritable_int_of_lt
    {number : Int}
    (small : number.natAbs < 1000000000000) :
    (int number).IsWritable :=
  isWritable_int_iff.mpr (Number.isWritable_of_lt small)

namespace Form

/-- A required step whose only input is its field. -/
def requiredField
    (message field method : String)
    (capability : Capability)
    (arguments : List Value) : Step where
  field := field
  inputs := [field]
  method := method
  capability := capability
  arguments := arguments
  isRequired := true
  message := message

/-- A required step fits the library if its method does. -/
theorem fits_requiredField
    {method : String}
    {capability : Capability}
    (found : Registry.standard.find? method = some capability)
    (isOther : method ≠ Registry.requiredName)
    (isSingle : capability.inputs = 1)
    (message field : String)
    (arguments : List Value) :
    (requiredField message field method capability arguments).Fits where
  found := found
  isOther := isOther
  arity := isSingle.symm

/-- A required step judges that its input is there and that its check passes. -/
theorem requiredField_judges
    {environment : Environment}
    {data : Value}
    {field : String}
    {capability : Capability}
    {arguments : List Value}
    {later : List Ruling}
    (rules :
      Check.Rules field []
        (capability.call environment
          (data.submitted field :: .text field :: arguments))
        () later)
    (message method : String) :
    (requiredField message field method capability arguments).Judges
      environment data
      ((data.submitted field).isEmpty = false ∧
        Ruling.someFails later = false) := by
  let step := requiredField message field method capability arguments
  have judges :=
    step.judges
      (List.forall_mem_singleton.mpr (Report.not_startsWith_self field))
      fun _ => rules
  exact judges.congr (and_congr_left' List.forall_mem_singleton)

/--
A required step judges once if its check complains once at most, and accepts the
value where the condition holds, for which the input has to be there.
-/
theorem requiredField_judgesOnce
    {environment : Environment}
    {data : Value}
    {field : String}
    {capability : Capability}
    {arguments : List Value}
    {later : List Ruling}
    {judgement : Judgement}
    (rules :
      Check.Rules field []
        (capability.call environment
          (data.submitted field :: .text field :: arguments))
        () later)
    (brief : Ruling.AreBriefOn field later)
    (favourable :
      Ruling.someFails later = false ↔ judgement.condition)
    (present :
      judgement.condition → (data.submitted field).isEmpty = false)
    (accepts :
      judgement.condition →
        Ruling.verdictAt? field later =
          some (.accepted judgement.value))
    (message method : String) :
    (requiredField message field method capability
        arguments).JudgesOnce environment data judgement where
  isSingle := rfl
  decides := by
    let step := requiredField message field method capability arguments
    have lacks :
        step.inputs.any (step.isLacking data) =
          (data.submitted field).isEmpty := by
      simp [step, requiredField, Step.isLacking]
    have gate := step.someFails_gateRulings data
    rw [lacks] at gate
    refine ⟨_,
      step.decides
        (List.forall_mem_singleton.mpr (Report.not_startsWith_self field))
        fun _ => rules, ?_, ?_, fun holds => ?_⟩
    · unfold Step.rulings
      rw [lacks]
      cases isEmpty : (data.submitted field).isEmpty with
      | true =>
          rw [if_pos rfl, List.append_nil]
          apply Ruling.AreBriefOn.single _ (.self field)
          unfold Verdict.IsBrief
          split <;> simp [Verdict.texts]
      | false =>
          rw [isEmpty] at gate
          exact .append_of_passed gate brief
    · rw [Step.someFails_rulings, lacks, Bool.or_eq_false_iff, favourable]
      exact and_iff_right_of_imp present
    · unfold Step.rulings
      rw [lacks, present holds, Ruling.verdictAt?_append]
      change (Ruling.verdictAt? field later).or _ = _
      rw [accepts holds]
      rfl

/-! ## What is read -/

/--
Inputs can be read together if each of them fits into the memory once all of them are
filled in. Before that a step does not read them.
-/
def CanRead
    (memory : Memory)
    (data : Value)
    (inputs : List String) : Prop :=
  (∀ input ∈ inputs, (data.submitted input).isEmpty = false) →
    ∀ input ∈ inputs, (data.submitted input).FitsInto memory

/-- One input can be read exactly if it fits. -/
theorem canRead_singleton_iff
    {memory : Memory}
    {data : Value}
    {input : String} :
    CanRead memory data [input] ↔
      (data.submitted input).FitsInto memory := by
  unfold CanRead
  simp only [List.forall_mem_singleton]
  constructor
  · intro canRead
    cases filled : (data.submitted input).isEmpty with
    | true =>
        exact Value.fitsInto_of_eq_none (Value.toInt?_of_isEmpty filled)
    | false =>
        exact canRead filled
  · exact fun fits _ => fits

/-- What a check demands holds if its step lacks nothing and ends without a fault. -/
theorem holds_of_ended
    {condition : Prop}
    {environment : Environment}
    {data : Value}
    {step : Step}
    (demands :
      Check.Demands condition
        (step.capability.call environment (step.callValues data)))
    (ended : (step.act environment data .empty).ended = .ok ())
    (complete :
      ∀ input ∈ step.inputs, step.isLacking data input = false) :
    condition := by
  unfold Step.act at ended
  rw [if_neg (Bool.eq_false_iff.mp (Step.isHeldBack_eq_false complete _))]
    at ended
  exact demands.holds _ () ended

/-- What a check demands holds if its required step ends and its input is there. -/
theorem requiredField_holds_of_ended
    {condition : Prop}
    {environment : Environment}
    {data : Value}
    {field : String}
    {capability : Capability}
    {arguments : List Value}
    (demands :
      Check.Demands condition
        (capability.call environment
          (data.submitted field :: .text field :: arguments)))
    {message method : String}
    (ended :
      ((requiredField message field method capability arguments).act
          environment data .empty).ended =
        .ok ())
    (present : (data.submitted field).isEmpty = false) :
    condition := by
  let step := requiredField message field method capability arguments
  have demandsThere :
      Check.Demands condition
        (step.capability.call environment (step.callValues data)) :=
    demands
  exact holds_of_ended demandsThere ended
    (List.forall_mem_singleton.mpr present)

/-- The input of a required step fits if the step ends without a fault. -/
theorem requiredField_fitsInto
    {environment : Environment}
    {data : Value}
    {field : String}
    {capability : Capability}
    {arguments : List Value}
    (demands :
      Check.Demands ((data.submitted field).FitsInto environment.memory)
        (capability.call environment
          (data.submitted field :: .text field :: arguments)))
    {message method : String}
    (ended :
      ((requiredField message field method capability arguments).act
          environment data .empty).ended =
        .ok ()) :
    (data.submitted field).FitsInto environment.memory :=
  fun integer isInteger =>
    requiredField_holds_of_ended demands ended
      (Value.isEmpty_eq_false_of_toInt? isInteger) integer isInteger

/-! ## Optional steps -/

/-- A step like a required one whose input may be left out. -/
def optionalField
    (message field method : String)
    (capability : Capability)
    (arguments : List Value) : Step :=
  { requiredField message field method capability arguments with
    isRequired := false }

/-- An optional step fits the library if its method does. -/
theorem fits_optionalField
    {method : String}
    {capability : Capability}
    (found : Registry.standard.find? method = some capability)
    (isOther : method ≠ Registry.requiredName)
    (isSingle : capability.inputs = 1)
    (message field : String)
    (arguments : List Value) :
    (optionalField message field method capability arguments).Fits where
  found := found
  isOther := isOther
  arity := isSingle.symm

/-- An optional step judges that its check passes. -/
theorem optionalField_judges
    {environment : Environment}
    {data : Value}
    {field : String}
    {capability : Capability}
    {arguments : List Value}
    {later : List Ruling}
    (rules :
      Check.Rules field []
        (capability.call environment
          (data.submitted field :: .text field :: arguments))
        () later)
    (message method : String) :
    (optionalField message field method capability arguments).Judges
      environment data (Ruling.someFails later = false) := by
  let step := optionalField message field method capability arguments
  have judges :=
    step.judges
      (List.forall_mem_singleton.mpr (Report.not_startsWith_self field))
      fun _ => rules
  exact judges.congr (and_iff_right fun _ _ => rfl)

end Form

/-! ## Selections -/

namespace Form

/-- An input selects options if it is filled in and each of them is a key. -/
def Selects
    (data : Value)
    (field : String)
    (options : List (String × Value)) : Prop :=
  (data.submitted field).isEmpty = false ∧
    ∀ option ∈ Check.selectedOptions (data.submitted field),
      ∃ key ∈ options.map Prod.fst, option = .text key

/-- A required selection is judged by whether its options are keys. -/
theorem selectionField_judges
    {data : Value}
    {field : String}
    (isInput : (data.submitted field).IsInput)
    (options : List (String × Value))
    (environment : Environment)
    (message : String) :
    (requiredField message field "validate_selection" .selection
        [.record options]).Judges
      environment data (Selects data field options) := by
  obtain ⟨selected, areSelected, rules⟩ :=
    isInput.rules_selection (Check.allowedOptions_record options)
      environment field
  refine (requiredField_judges rules message _).congr (and_congr_right' ?_)
  rw [areSelected, List.forall_mem_map]
  simp only [Value.text.injEq, exists_eq_right', Ruling.someFails_cons,
    Ruling.someFails_nil, Bool.or_false]
  constructor
  · intro passed
    cases verdict :
        Verdict.selection (options.map Prod.fst) selected with
    | accepted stored =>
        exact (Verdict.selection_eq_accepted_iff.mp verdict).1
    | rejected text others =>
        rw [verdict] at passed
        cases passed
  · intro allowed
    rw [Verdict.selection_eq_accepted_iff.mpr ⟨allowed, rfl⟩]
    rfl

end Form

/-! ## Integer options -/

/-- An integer that is no option can only be refused if it can be written. -/
def Value.IsRefusable
    (value : Value)
    (allowed : List Int) : Prop :=
  ∀ number, value.toInt? = some number →
    allowed.contains number = true ∨ Number.isWritable number = true

/-- What can be refused fits, where the integers that are offered are small. -/
theorem Value.IsRefusable.fitsInto
    {value : Value}
    {allowed : List Int}
    (refusable : value.IsRefusable allowed)
    (areSmall : ∀ number ∈ allowed, number.natAbs < 1000000000000)
    (memory : Memory) :
    value.FitsInto memory := by
  intro number isInteger
  refine natAbs_lt_of_isWritable ?_
  rcases refusable number isInteger with isAllowed | writable
  · exact Number.isWritable_of_lt
      (areSmall number (List.contains_iff_mem.mp isAllowed))
  · exact writable

/-- The check for an option demands that it can be refused. -/
theorem Check.Demands.refusable
    (environment : Environment)
    (submitted key : Value)
    (allowed : List Int) :
    Demands (submitted.IsRefusable allowed)
      (Check.integerOption environment submitted key allowed) where
  holds result _ answered := by
    have fits : submitted.FitsInto environment.memory :=
      (Demands.integerOption key allowed).holds _ _ answered
    unfold Value.IsRefusable
    by_contra unrefusable
    push Not at unrefusable
    obtain ⟨number, isInteger, excluded, unwritable⟩ := unrefusable
    rw [Check.integerOption_of_unwritable fits isInteger
      (by simpa using excluded) (by simpa using unwritable)] at answered
    cases answered

/--
A capability offers integer options if it calls the check for them, and they are
small.
-/
structure Capability.Offers
    (capability : Capability)
    (arguments : List Value)
    (allowed : List Int) : Prop where
  calls :
    ∀ (environment : Environment) (value field : Value),
      capability.call environment (value :: field :: arguments) =
        Check.integerOption environment value field allowed
  areSmall : ∀ number ∈ allowed, number.natAbs < 1000000000000

/-- A switch offers two options. -/
theorem Capability.offers_binaryOption :
    binaryOption.Offers [] [0, 1] where
  calls _ _ _ := rfl
  areSmall := by decide

/-- The options that a rating offers, zero only if that is asked for. -/
def ratingScale
    (allowsNone : Bool) : List Int :=
  if allowsNone then [0, 1, 2, 3, 4, 5] else [1, 2, 3, 4, 5]

/-- A rating offers the numbers on its scale. -/
theorem Capability.offers_rating
    (allowsNone : Bool) :
    rating.Offers [.bool allowsNone] (ratingScale allowsNone) where
  calls _ _ _ := rfl
  areSmall := by
    cases allowsNone <;> decide

namespace Form

section Options

variable
  {environment : Environment}
  {data : Value}
  {field : String}
  {capability : Capability}
  {arguments : List Value}
  {allowed : List Int}

/-- A required option is judged by whether it is an integer that is offered. -/
theorem requiredOption_judges
    (offers : capability.Offers arguments allowed)
    (refusable : (data.submitted field).IsRefusable allowed)
    (message method : String) :
    (requiredField message field method capability arguments).Judges
      environment data
      (∃ number ∈ allowed,
        (data.submitted field).toInt? = some number) := by
  have rules :
      Check.Rules field []
        (capability.call environment
          (data.submitted field :: .text field :: arguments))
        ()
        [⟨field, .integerOption (data.submitted field) allowed⟩] := by
    rw [offers.calls]
    exact Check.Rules.integerOption
      (refusable.fitsInto offers.areSmall environment.memory) refusable
  refine (requiredField_judges rules message method).congr ?_
  simp only [Ruling.someFails_cons, Ruling.someFails_nil, Bool.or_false]
  unfold Verdict.integerOption
  cases isInteger : (data.submitted field).toInt? with
  | none =>
      simp [Verdict.isRejected]
  | some number =>
      simp [Value.isEmpty_eq_false_of_toInt? isInteger]

/-- If a required option ends its step without a fault, it can be refused. -/
theorem requiredOption_isRefusable
    (offers : capability.Offers arguments allowed)
    {message method : String}
    (ended :
      ((requiredField message field method capability arguments).act
          environment data .empty).ended =
        .ok ()) :
    (data.submitted field).IsRefusable allowed := by
  intro number isInteger
  have demands :
      Check.Demands ((data.submitted field).IsRefusable allowed)
        (capability.call environment
          (data.submitted field :: .text field :: arguments)) := by
    rw [offers.calls]
    exact .refusable ..
  exact requiredField_holds_of_ended demands ended
    (Value.isEmpty_eq_false_of_toInt? isInteger) number isInteger

end Options

end Form

/-! ## Two dates -/

/--
An environment is sound if its message for required inputs and its delimiter are
texts, and its years are integers that are short enough for the calendar.
-/
structure Environment.IsSound
    (environment : Environment)
    (minimal future : Int) : Prop where
  requiredMessage :
    ∃ message, environment.settings.requiredMessage = .text message
  delimiter : environment.settings.HasDelimiter
  minimalYear : environment.settings.minimalYear = .int minimal
  futureYears : environment.settings.futureYears = .int future
  actual : environment.today.isActual = true
  minimalWritable : Number.isWritable minimal = true
  latestWritable :
    Number.isWritable (environment.today.year + future) = true
  bounded : environment.today.year + future < Check.yearOverflow

/-- The settings are sound by default. -/
theorem Environment.isSound_default
    {today : Date}
    {memory : Memory}
    (actual : today.isActual = true) :
    (⟨{}, today, memory⟩ : Environment).IsSound 2000 5 where
  requiredMessage := ⟨_, rfl⟩
  delimiter := ⟨_, rfl⟩
  minimalYear := rfl
  futureYears := rfl
  actual := actual
  minimalWritable := Number.isWritable_of_lt (by decide)
  latestWritable := by
    have years := (Date.isActual_iff.mp actual).1
    unfold Calendar.lastYear at years
    exact Number.isWritable_of_lt (by dsimp only; omega)
  bounded := by
    have years := (Date.isActual_iff.mp actual).1
    unfold Calendar.lastYear at years
    unfold Check.yearOverflow
    dsimp only
    omega

/-- A sound environment gives the bounds of years. -/
theorem Environment.IsSound.hasYears
    {environment : Environment}
    {minimal future : Int}
    (sound : environment.IsSound minimal future) :
    environment.HasYears .null .null (max Check.earliestYear minimal)
      (environment.today.year + future) where
  lowest := ⟨minimal, sound.minimalYear, rfl⟩
  highest := .inr ⟨rfl, lastYear_eq sound.futureYears⟩
  earliestWritable := by
    rcases max_choice Check.earliestYear minimal with isEarliest | isMinimal
    · rw [isEarliest]
      exact Number.isWritable_of_lt (by decide)
    · rw [isMinimal]
      exact sound.minimalWritable
  latestWritable := sound.latestWritable

/-- A sound environment gives the bounds of the years of programs. -/
theorem Environment.IsSound.hasProgramYears
    {environment : Environment}
    {minimal future : Int}
    (sound : environment.IsSound minimal future)
    {lower upper : Value}
    (lowest :
      lower.orDefault environment.settings.minimalYear = .int minimal)
    (highest :
      upper.orDefault (.int environment.nextYear) =
        .int environment.nextYear) :
    environment.HasYears lower
      (upper.orDefault (.int environment.nextYear))
      (max Check.earliestYear minimal) environment.nextYear where
  lowest := ⟨minimal, lowest, rfl⟩
  highest := .inl highest
  earliestWritable := sound.hasYears.earliestWritable
  latestWritable := by
    have years := (Date.isActual_iff.mp sound.actual).1
    unfold Calendar.lastYear at years
    unfold Environment.nextYear
    exact Number.isWritable_of_lt (by omega)

namespace Form

/-- The inputs of the first of two dates. -/
def startInputs
    (data : Value) : DateInputs where
  year := data.submitted "startyear"
  month := data.submitted "startmonth"
  day := data.submitted "startday"

/-- The inputs of the last of two dates. -/
def endInputs
    (data : Value) : DateInputs where
  year := data.submitted "endyear"
  month := data.submitted "endmonth"
  day := data.submitted "endday"

/--
The inputs of some data denote two dates that exist, in years within bounds, of
which the last does not come before the first.
-/
structure DenoteRange
    (data : Value)
    (earliest latest : Int)
    (first last : Date) : Prop where
  start : (startInputs data).Denote first
  finish : (endInputs data).Denote last
  firstActual : first.isActual = true
  lastActual : last.isActual = true
  firstYear : earliest ≤ first.year ∧ first.year ≤ latest
  lastYear : earliest ≤ last.year ∧ last.year ≤ latest
  inOrder : last.before first = false

/-- The step of two dates, with its key in the plan of a form. -/
def dateRangeField : Step where
  field := "dates"
  inputs :=
    ["startyear", "startmonth", "startday", "endyear", "endmonth", "endday"]
  method := "validate_date_range"
  capability := .dateRange
  arguments := []
  isRequired := true
  message := "These fields are required"

/-- The step of two dates fits the library. -/
theorem fits_dateRangeField :
    dateRangeField.Fits where
  found := rfl
  isOther := by decide
  arity := rfl

/-- The inputs of two dates fit exactly if the components of each date do. -/
theorem fitInto_iff
    {memory : Memory}
    {data : Value} :
    (∀ input ∈ dateRangeField.inputs,
        (data.submitted input).FitsInto memory) ↔
      (startInputs data).FitInto memory ∧
        (endInputs data).FitInto memory := by
  simp only [dateRangeField, List.forall_mem_cons]
  constructor
  · rintro ⟨startYear, startMonth, startDay, endYear, endMonth, endDay, _⟩
    exact ⟨⟨startYear, startMonth, startDay⟩, endYear, endMonth, endDay⟩
  · rintro ⟨⟨startYear, startMonth, startDay⟩, endYear, endMonth, endDay⟩
    exact ⟨startYear, startMonth, startDay, endYear, endMonth, endDay,
      List.forall_mem_nil _⟩

/-- The inputs of two dates can be read if their step ends without a fault. -/
theorem canRead_dateRangeField
    {environment : Environment}
    {data : Value}
    (ended : (dateRangeField.act environment data .empty).ended = .ok ()) :
    CanRead environment.memory data dateRangeField.inputs := by
  have demands :
      Check.Demands _
        (dateRangeField.capability.call environment
          (dateRangeField.callValues data)) :=
    Check.Demands.dateRange (startInputs data) (endInputs data) _
  intro filled
  exact fitInto_iff.mpr (holds_of_ended demands ended filled)

/-- Inputs that denote two dates are filled in. -/
theorem DenoteRange.complete
    {data : Value}
    {earliest latest : Int}
    {first last : Date}
    (range : DenoteRange data earliest latest first last) :
    ∀ input ∈ dateRangeField.inputs,
      dateRangeField.isLacking data input = false := by
  have filled
      {input : String}
      {number : Int}
      (isInteger : (data.submitted input).toInt? = some number) :
      dateRangeField.isLacking data input = false :=
    Value.isEmpty_eq_false_of_toInt? isInteger
  simp only [dateRangeField, List.forall_mem_cons]
  exact ⟨filled range.start.year, filled range.start.month,
    filled range.start.day, filled range.finish.year,
    filled range.finish.month, filled range.finish.day,
    List.forall_mem_nil _⟩

/-- Two dates are judged by whether their inputs denote them. -/
theorem dateRangeField_judges
    {environment : Environment}
    {minimal future : Int}
    (sound : environment.IsSound minimal future)
    {data : Value}
    (canRead : CanRead environment.memory data dateRangeField.inputs) :
    dateRangeField.Judges environment data
      (∃ first last,
        DenoteRange data (max Check.earliestYear minimal)
          (environment.today.year + future) first last) := by
  have underived :
      ∀ input ∈ dateRangeField.inputs,
        Report.startsWith input (dateRangeField.field ++ "_") = false := by
    decide
  have years := sound.hasYears
  have rules
      (filled :
        ∀ input ∈ dateRangeField.inputs,
          dateRangeField.isLacking data input = false) :
      Check.Rules "dates" []
        (dateRangeField.capability.call environment
          (dateRangeField.callValues data))
        ()
        (Ruling.dateRange "dates" (max Check.earliestYear minimal)
          (environment.today.year + future) (startInputs data)
          (endInputs data)) := by
    obtain ⟨startFit, endFit⟩ := fitInto_iff.mp (canRead filled)
    have startBearable := startFit.areBearable years sound.bounded
    have endBearable := endFit.areBearable years sound.bounded
    have ruled :
        Check.Rules "dates" []
          (Check.dateRange environment (startInputs data).year
            (startInputs data).month (startInputs data).day
            (endInputs data).year (endInputs data).month
            (endInputs data).day (.text "dates"))
          () _ :=
      .dateRange years.toBoundsYears startBearable endBearable
    exact ruled
  refine (dateRangeField.judges underived rules).congr ?_
  rw [Ruling.someFails_dateRange_eq_false_iff]
  simp only [DateInputs.date?_eq_some_iff]
  constructor
  · rintro ⟨_, first, last, ⟨start, firstActual, firstYear⟩,
      ⟨finish, lastActual, lastYear⟩, ordered⟩
    exact ⟨first, last, start, finish, firstActual, lastActual, firstYear,
      lastYear, (Date.timestamp_le_iff firstActual lastActual).mp ordered⟩
  · rintro ⟨first, last, range⟩
    exact ⟨range.complete, first, last,
      ⟨range.start, range.firstActual, range.firstYear⟩,
      ⟨range.finish, range.lastActual, range.lastYear⟩,
      (Date.timestamp_le_iff range.firstActual range.lastActual).mpr
        range.inOrder⟩

end Form

end FormCheck
