import FormCheck.Proofs.Check.Scope

namespace FormCheck.Check

/-!
# Every check is confined to its key

The checks are followed through in the order in which they are built from each
other: numbers, components of dates, texts, semesters, selections and dates. A
check that calls another one under the key of a part is confined to its own key,
since the keys of the part stem from it.
-/

namespace Confined

variable {owner : Value}

/-- A message that ends in a constant text is not empty. -/
theorem reject_ending
    (message : String)
    {ending : String}
    (proper : ending ≠ "") :
    Confined owner (Check.reject owner (message ++ ending)) := by
  apply reject (.self owner)
  intro isEmpty
  rw [String.append_eq_empty_iff] at isEmpty
  exact proper isEmpty.2

/-! ## Numbers -/

theorem integer
    (environment : Environment)
    (value : Value) :
    Confined owner (Check.integer environment value owner) := by
  unfold Check.integer
  refine bind (lift _) fun read => ?_
  split
  · exact setValue (.self owner) _
  · exact reject (.self owner) (by decide)

theorem float
    (value : Value) :
    Confined owner (Check.float value owner) := by
  unfold Check.float
  split
  · exact setValue (.self owner) _
  · exact reject (.self owner) (by decide)

theorem rejectBetween
    (lower upper : Value) :
    Confined owner (Check.rejectBetween owner lower upper) := by
  unfold Check.rejectBetween
  refine bind (lift _) fun lowerText => ?_
  refine bind (lift _) fun upperText => ?_
  exact reject_ending _ (by decide)

theorem withinBounds
    (number lower upper : Value) :
    Confined owner
      (Check.withinBounds number owner lower upper) := by
  unfold Check.withinBounds
  split
  · exact pure true
  · refine bind (lift _) fun exceeds => ite ?_ (pure true)
    refine bind (lift _) fun upperText => ?_
    exact bind (reject_ending _ (by decide)) fun _ => pure false
  · refine bind (lift _) fun precedes => ite ?_ (pure true)
    refine bind (lift _) fun lowerText => ?_
    exact bind (reject_ending _ (by decide)) fun _ => pure false
  · refine bind (lift _) fun precedes => ite ?_ ?_
    · exact bind (rejectBetween _ _) fun _ => pure false
    · refine bind (lift _) fun exceeds => ite ?_ (pure true)
      exact bind (rejectBetween _ _) fun _ => pure false

theorem integerRange
    (environment : Environment)
    (value lower upper : Value) :
    Confined owner
      (Check.integerRange environment value owner lower upper) := by
  unfold Check.integerRange
  refine bind (integer environment value) fun _ => ?_
  refine bind (hasErrors (.self owner)) fun failed => ite (pure ()) ?_
  refine bind (Confined.value (.self owner)) fun number => ?_
  refine bind (withinBounds number lower upper) fun inside => ?_
  exact ite (setValue (.self owner) number) (pure ())

theorem floatRange
    (value lower upper : Value) :
    Confined owner
      (Check.floatRange value owner lower upper) := by
  unfold Check.floatRange
  refine bind (float value) fun _ => ?_
  refine bind (hasErrors (.self owner)) fun failed => ite (pure ()) ?_
  refine bind (Confined.value (.self owner)) fun number => ?_
  exact bind (withinBounds number lower upper) fun _ => pure ()

theorem rejectWith
    {message : Value}
    {fallback : Check Unit}
    (fallbackConfined : Confined owner fallback) :
    Confined owner
      (Check.rejectWith message owner fallback) := by
  unfold Check.rejectWith
  split
  · exact addError (.self owner) (by assumption)
  · exact fallbackConfined

theorem numberInRange
    (environment : Environment)
    (value lower upper message : Value) :
    Confined owner
      (Check.numberInRange environment value owner lower upper message) := by
  unfold Check.numberInRange
  have failure
      (lower upper : Value) :
      Confined owner
        (Check.rejectWith message owner do
          let lowerText ← lower.shown
          let upperText ← upper.shown
          Check.reject owner
            ("Invalid number: Must be between " ++ lowerText ++ " and " ++
              upperText ++ ".")) := by
    apply rejectWith
    refine bind (lift _) fun lowerText => ?_
    refine bind (lift _) fun upperText => ?_
    exact reject_ending _ (by decide)
  refine bind (lift _) fun read => ?_
  split
  · exact failure _ _
  · refine bind (lift _) fun precedes => ite (failure _ _) ?_
    refine bind (lift _) fun exceeds => ite (failure _ _) ?_
    exact setValue (.self owner) _

theorem clampedRange
    (environment : Environment)
    (value lower upper : Value)
    (least greatest : Int) :
    Confined owner
      (Check.clampedRange environment value owner lower upper least
        greatest) := by
  unfold Check.clampedRange
  refine bind (lift _) fun lower => ?_
  refine bind (lift _) fun upper => ?_
  exact integerRange environment value lower upper

/-! ## Components of dates -/

theorem year
    (environment : Environment)
    (value lower upper : Value) :
    Confined owner
      (Check.year environment value owner lower upper) := by
  unfold Check.year
  have continued
      (upper : Value) :
      Confined owner (do
        let least ← (Value.int earliestYear).greaterOf
          (lower.orDefault environment.settings.minimalYear)
        Check.integerRange environment value owner least upper) :=
    bind (lift _) fun least => integerRange environment value least upper
  dsimp only
  split
  · exact bind (lift _) continued
  · exact bind (pure _) continued

/-! ## Texts -/

theorem textLength
    (value limit : Value) :
    Confined owner (Check.textLength value owner limit) := by
  unfold Check.textLength
  refine bind (lift _) fun text => ?_
  refine bind (lift _) fun exceeds => ite ?_ ?_
  · refine bind (lift _) fun limitText => ?_
    exact reject_ending _ (by decide)
  · exact setValue (.self owner) _

theorem emailFormat
    (value : Value) :
    Confined owner (Check.emailFormat value owner) := by
  unfold Check.emailFormat
  refine bind (lift _) fun text => ite ?_ ?_
  · exact setValue (.self owner) _
  · exact reject (.self owner) (by decide)

theorem textAmong
    (value allowed : Value) :
    Confined owner (Check.textAmong value owner allowed) := by
  unfold Check.textAmong
  refine bind (lift _) fun text => ?_
  refine bind (lift _) fun members => ite ?_ ?_
  · exact setValue (.self owner) _
  · exact reject (.self owner) (by decide)

theorem alphanumeric
    (value : Value) :
    Confined owner (Check.alphanumeric value owner) := by
  unfold Check.alphanumeric
  refine bind (lift _) fun text => ite ?_ ?_
  · exact setValue (.self owner) _
  · exact reject (.self owner) (by decide)

theorem name
    (value limit : Value) :
    Confined owner (Check.name value owner limit) := by
  unfold Check.name
  exact bind (lift _) fun text => textLength _ limit

theorem userName
    (value limit : Value) :
    Confined owner (Check.userName value owner limit) := by
  unfold Check.userName
  refine bind (textLength value limit) fun _ => ?_
  refine bind (hasErrors (.self owner)) fun failed => ?_
  exact ite (pure ()) (alphanumeric value)

theorem shell
    (value allowed : Value) :
    Confined owner (Check.shell value owner allowed) :=
  textAmong value _

theorem email
    (value limit isAlphanumeric : Value) :
    Confined owner
      (Check.email value owner limit isAlphanumeric) := by
  unfold Check.email
  refine bind (emailFormat value) fun _ => ?_
  have continued
      (proceed : Bool) :
      Confined owner (do
        if proceed && isAlphanumeric.isTruthy then
          Check.alphanumeric (← Check.value owner)
            owner) := by
    refine ite ?_ (pure ())
    exact bind (Confined.value (.self owner)) fun text => alphanumeric text
  refine bind (hasErrors (.self owner)) fun failed => ite (pure ()) ?_
  dsimp only
  split
  · exact bind (pure true) continued
  · refine bind (Confined.value (.self owner)) fun text => ?_
    refine bind (textLength text _) fun _ => ?_
    refine bind (hasErrors (.self owner)) fun failed => ?_
    exact bind (pure _) continued

theorem sessionCode
    (value codes : Value) :
    Confined owner (Check.sessionCode value owner codes) := by
  unfold Check.sessionCode
  refine bind (lift _) fun text => ?_
  refine bind (lift _) fun isKnown => ite ?_ (ite ?_ ?_)
  · exact setValue (.self owner) _
  · exact reject (.self owner) (by decide)
  · exact alphanumeric _

/-! ## Semesters -/

theorem semesterTag
    (value : Value) :
    Confined owner (Check.semesterTag value owner) := by
  unfold Check.semesterTag
  refine bind (textLength value _) fun _ => ?_
  refine bind (hasErrors (.self owner)) fun failed => ite (pure ()) ?_
  exact bind (lift _) fun text => textAmong _ _

theorem yearAndTag
    (environment : Environment)
    (digits : List Char)
    (tag : Char)
    (lower upper : Value) :
    Confined owner
      (Check.yearAndTag environment digits tag owner lower
        upper) := by
  unfold Check.yearAndTag
  refine bind_partKey fun yearKey isYear => ?_
  refine bind (of_part isYear (year ..)) fun _ => ?_
  refine bind (hasErrors (stemsFrom_part isYear)) fun failed => ?_
  refine ite (pure false) (bind_partKey fun tagKey isTag => ?_)
  refine bind (of_part isTag (semesterTag _)) fun _ => ?_
  exact bind (hasErrors (stemsFrom_part isTag)) fun failed => pure _

theorem semester
    (environment : Environment)
    (value lower upper : Value) :
    Confined owner
      (Check.semester environment value owner lower upper) := by
  unfold Check.semester
  refine bind (lift _) fun text => ?_
  dsimp only
  split
  · refine bind (yearAndTag ..) fun valid => ite ?_ (pure ())
    exact setValue (.self owner) _
  · exact reject (.self owner) (by decide)

theorem programNumber
    (environment : Environment)
    (value lower upper : Value) :
    Confined owner
      (Check.programNumber environment value owner lower
        upper) := by
  unfold Check.programNumber
  refine bind (lift _) fun text => ?_
  dsimp only
  split
  · refine ite ?_ (reject (.self owner) (by decide))
    refine bind (yearAndTag ..) fun valid => ite ?_ (pure ())
    refine bind_partKey fun numberKey isNumber => ?_
    refine bind (of_part isNumber (clampedRange ..)) fun _ => ?_
    refine bind (hasErrors (stemsFrom_part isNumber)) fun failed => ?_
    refine ite (pure ()) ?_
    exact setValue (.self owner) _
  · exact reject (.self owner) (by decide)

/-! ## Selections -/

theorem sortOut
    (allowed : List String)
    (options : List Value) :
    Confined owner (Check.sortOut owner allowed options) := by
  induction options with
  | nil =>
      exact pure _
  | cons option rest inductionHypothesis =>
      unfold Check.sortOut
      refine bind (lift _) fun text => ite ?_ ?_
      · exact bind inductionHypothesis fun sorted => pure _
      · refine bind (reject_ending _ (by decide)) fun _ => ?_
        exact bind inductionHypothesis fun sorted => pure _

theorem selection
    (value allowed byKey : Value) :
    Confined owner
      (Check.selection value owner allowed byKey) := by
  unfold Check.selection
  refine bind (lift _) fun allowed => ?_
  refine bind (sortOut allowed _) fun sorted => ?_
  exact ite (setValue (.self owner) _) (pure ())

theorem integerOption
    (environment : Environment)
    (value : Value)
    (allowed : List Int) :
    Confined owner
      (Check.integerOption environment value owner allowed) := by
  unfold Check.integerOption
  refine bind (lift _) fun read => ?_
  split
  · exact reject (.self owner) (by decide)
  · apply ite (setValue (.self owner) _)
    exact bind (lift _) fun number => reject_ending _ (by decide)

/-! ## Dates -/

theorem storeMoment
    (moment : Moment)
    (components : Value) :
    Confined owner
      (Check.storeMoment owner moment components) := by
  unfold Check.storeMoment
  refine bind (setValue (.self owner) _) fun _ => ?_
  refine bind_partKey fun timestampKey isTimestamp => ?_
  refine bind (setValue (stemsFrom_part isTimestamp) _) fun _ => ?_
  refine bind_partKey fun componentsKey isComponents => ?_
  exact setValue (stemsFrom_part isComponents) _

theorem anyPartFailed
    (parts : List String) :
    Confined owner (Check.anyPartFailed owner parts) := by
  induction parts with
  | nil =>
      exact pure false
  | cons part rest inductionHypothesis =>
      unfold Check.anyPartFailed
      refine bind_partKey fun ownPart isPart => ?_
      refine bind (hasErrors (stemsFrom_part isPart)) fun failed => ?_
      exact ite (pure true) inductionHypothesis

theorem partInteger
    (part : String) :
    Confined owner (Check.partInteger owner part) := by
  unfold Check.partInteger
  refine bind_partKey fun ownPart isPart => ?_
  refine bind (Confined.value (stemsFrom_part isPart)) fun stored => ?_
  split
  · exact pure _
  · exact stop _

theorem composeMoment
    (year month day : Int)
    (momentOf : Date → Moment)
    (components : List (String × Int)) :
    Confined owner
      (Check.composeMoment owner year month day momentOf
        components) := by
  unfold Check.composeMoment
  dsimp only
  refine ite (bind (stop _) fun _ => ?_) ?_
  all_goals
    split
    · exact storeMoment _ _
    · refine bind (lift _) fun yearText => ?_
      refine bind (lift _) fun monthText => ?_
      refine bind (lift _) fun dayText => ?_
      exact reject_ending _ (by decide)

theorem dateComponents
    (environment : Environment)
    (yearValue monthValue dayValue : Value) :
    Confined owner
      (Check.dateComponents environment yearValue monthValue dayValue
        owner) := by
  unfold Check.dateComponents
  refine bind_partKey fun yearKey isYear => ?_
  refine bind (of_part isYear (year ..)) fun _ => ?_
  refine bind_partKey fun monthKey isMonth => ?_
  refine bind (of_part isMonth (clampedRange ..)) fun _ => ?_
  refine bind_partKey fun dayKey isDay => ?_
  exact of_part isDay (clampedRange ..)

theorem fullDate
    (environment : Environment)
    (yearValue monthValue dayValue : Value) :
    Confined owner
      (Check.fullDate environment yearValue monthValue dayValue
        owner) := by
  unfold Check.fullDate
  refine bind (dateComponents ..) fun _ => ?_
  refine bind (anyPartFailed _) fun failed => ite (pure ()) ?_
  refine bind (partInteger _) fun year => ?_
  refine bind (partInteger _) fun month => ?_
  refine bind (partInteger _) fun day => ?_
  exact composeMoment ..

theorem fullDateTime
    (environment : Environment)
    (yearValue monthValue dayValue hourValue minuteValue secondValue :
      Value) :
    Confined owner
      (Check.fullDateTime environment yearValue monthValue dayValue
        hourValue minuteValue secondValue owner) := by
  unfold Check.fullDateTime
  refine bind (dateComponents ..) fun _ => ?_
  refine bind_partKey fun hourKey isHour => ?_
  refine bind (of_part isHour (clampedRange ..)) fun _ => ?_
  refine bind_partKey fun minuteKey isMinute => ?_
  refine bind (of_part isMinute (clampedRange ..)) fun _ => ?_
  refine bind_partKey fun secondKey isSecond => ?_
  refine bind (of_part isSecond (clampedRange ..)) fun _ => ?_
  refine bind (anyPartFailed _) fun failed => ite (pure ()) ?_
  refine bind (partInteger _) fun year => ?_
  refine bind (partInteger _) fun month => ?_
  refine bind (partInteger _) fun day => ?_
  refine bind (partInteger _) fun hour => ?_
  refine bind (partInteger _) fun minute => ?_
  refine bind (partInteger _) fun second => ?_
  exact composeMoment ..

theorem haveValues
    {first second : Value}
    (firstStems : first.StemsFrom owner)
    (secondStems : second.StemsFrom owner) :
    Confined owner (Check.haveValues first second) := by
  unfold Check.haveValues
  refine bind (hasValue firstStems) fun present => ?_
  exact ite (hasValue secondStems) (pure false)

theorem dateRange
    (environment : Environment)
    (startYear startMonth startDay endYear endMonth endDay : Value) :
    Confined owner
      (Check.dateRange environment startYear startMonth startDay endYear
        endMonth endDay owner) := by
  unfold Check.dateRange
  refine bind_partKey fun startKey isStart => ?_
  refine bind (of_part isStart (fullDate ..)) fun _ => ?_
  refine bind_partKey fun endKey isEnd => ?_
  refine bind (of_part isEnd (fullDate ..)) fun _ => ?_
  refine bind_partKey fun startTimestamp isStartTimestamp => ?_
  refine bind_partKey fun endTimestamp isEndTimestamp => ?_
  have startStems :=
    stemsFrom_of_part isStart (stemsFrom_part isStartTimestamp)
  have endStems :=
    stemsFrom_of_part isEnd (stemsFrom_part isEndTimestamp)
  refine bind (haveValues startStems endStems) fun present => ?_
  refine ite ?_ (pure ())
  refine bind (Confined.value startStems) fun start => ?_
  refine bind (Confined.value endStems) fun finish => ?_
  refine bind (lift _) fun reversed => ite ?_ ?_
  · exact reject (.self owner) (by decide)
  · exact setValue (.self owner) _

theorem dateInSemester
    (environment : Environment)
    (yearValue monthValue dayValue semesterValue : Value) :
    Confined owner
      (Check.dateInSemester environment yearValue monthValue dayValue
        semesterValue owner) := by
  unfold Check.dateInSemester
  refine bind_partKey fun dateKey isDate => ?_
  refine bind (of_part isDate (fullDate ..)) fun _ => ?_
  refine bind_partKey fun semesterKey isSemester => ?_
  refine bind (of_part isSemester (semester ..)) fun _ => ?_
  refine bind_partKey fun componentsKey isComponents => ?_
  have componentsStem :=
    stemsFrom_of_part isDate (stemsFrom_part isComponents)
  have semesterStems := stemsFrom_part isSemester
  refine bind (haveValues componentsStem semesterStems) fun present => ?_
  refine ite ?_ (pure ())
  refine bind (Confined.value componentsStem) fun components => ?_
  refine bind (Confined.value semesterStems) fun expected => ?_
  refine bind (lift _) fun year => ?_
  refine bind (lift _) fun month => ?_
  refine bind (lift _) fun day => ?_
  refine bind (lift _) fun found => ite ?_ ?_
  · refine bind (Confined.value (stemsFrom_part isDate)) fun date => ?_
    exact setValue (.self owner) date
  · refine bind (lift _) fun expectedText => ?_
    exact reject_ending _ (by decide)

end Confined

end FormCheck.Check
