import FormCheck.Proofs.Check.Settlement

namespace FormCheck.Check

/-!
# Every check settles its field

The checks are followed through once more, with the rules for settling a field.
Where a check of several parts ends early, the part that made it do so has left
an error: a bound that is exceeded, a component that failed, an option that is
not allowed. Dates also store their timestamp and their components, which is
what ranges and semesters ask for.
-/

namespace Concludes

variable {field : String}

/-! ## Single steps -/

theorem setValue
    (value : Value) :
    Concludes field (.text field) (Check.setValue (.text field) value) :=
  Settles.setValue value

theorem reject
    {target : Value}
    (message : String) :
    Concludes field target (Check.reject (.text field) message) :=
  Settles.reject (.self field)

theorem stop
    {target : Value}
    (fault : Fault) :
    Concludes field target (Check.stop fault : Check answer) :=
  Settles.stop fault

/-! ## Numbers -/

theorem integer
    (environment : Environment)
    (value : Value) :
    Concludes field (.text field)
      (Check.integer environment value (.text field)) := by
  unfold Check.integer
  refine last fun read => ?_
  split
  · exact setValue _
  · exact reject _

theorem float
    (value : Value) :
    Concludes field (.text field)
      (Check.float value (.text field)) := by
  unfold Check.float
  split
  · exact setValue _
  · exact reject _

theorem integerRange
    (environment : Environment)
    (value lower upper : Value) :
    Concludes field (.text field)
      (Check.integerRange environment value (.text field) lower upper) := by
  unfold Check.integerRange
  exact first (integer environment value)

theorem floatRange
    (value lower upper : Value) :
    Concludes field (.text field)
      (Check.floatRange value (.text field) lower upper) := by
  unfold Check.floatRange
  exact first (float value)

theorem rejectWith
    {target message : Value}
    {fallback : Check Unit}
    (fallbackConcludes : Concludes field target fallback) :
    Concludes field target
      (Check.rejectWith message (.text field) fallback) := by
  unfold Check.rejectWith
  exact ite (Settles.addError (.self field)) fallbackConcludes

theorem numberInRange
    (environment : Environment)
    (value lower upper message : Value) :
    Concludes field (.text field)
      (Check.numberInRange environment value (.text field) lower upper
        message) := by
  unfold Check.numberInRange
  have failure
      (lower upper : Value) :
      Concludes field (.text field)
        (Check.rejectWith message (.text field) do
          let lowerText ← lower.shown
          let upperText ← upper.shown
          Check.reject (.text field)
            ("Invalid number: Must be between " ++ lowerText ++ " and " ++
              upperText ++ ".")) :=
    rejectWith (last fun _ => last fun _ => reject _)
  refine last fun read => ?_
  split
  · exact failure _ _
  · refine last fun precedes => ite (failure _ _) ?_
    refine last fun exceeds => ite (failure _ _) ?_
    exact setValue _

theorem clampedRange
    (environment : Environment)
    (value lower upper : Value)
    (least greatest : Int) :
    Concludes field (.text field)
      (Check.clampedRange environment value (.text field) lower upper least
        greatest) := by
  unfold Check.clampedRange
  refine last fun lower => last fun upper => ?_
  exact integerRange environment value lower upper

/-! ## Components of dates -/

theorem year
    (environment : Environment)
    (value lower upper : Value) :
    Concludes field (.text field)
      (Check.year environment value (.text field) lower upper) := by
  unfold Check.year
  dsimp only
  split
  · refine last fun upper => last fun least => ?_
    exact integerRange environment value least upper
  · refine last fun upper => last fun least => ?_
    exact integerRange environment value least upper

/-! ## Texts -/

theorem textLength
    (value limit : Value) :
    Concludes field (.text field)
      (Check.textLength value (.text field) limit) := by
  unfold Check.textLength
  refine last fun text => last fun exceeds => ite ?_ (setValue _)
  exact last fun limitText => reject _

theorem emailFormat
    (value : Value) :
    Concludes field (.text field)
      (Check.emailFormat value (.text field)) := by
  unfold Check.emailFormat
  exact last fun text => ite (setValue _) (reject _)

theorem textAmong
    (value allowed : Value) :
    Concludes field (.text field)
      (Check.textAmong value (.text field) allowed) := by
  unfold Check.textAmong
  exact last fun text => last fun members => ite (setValue _) (reject _)

theorem alphanumeric
    (value : Value) :
    Concludes field (.text field)
      (Check.alphanumeric value (.text field)) := by
  unfold Check.alphanumeric
  exact last fun text => ite (setValue _) (reject _)

theorem name
    (value limit : Value) :
    Concludes field (.text field)
      (Check.name value (.text field) limit) := by
  unfold Check.name
  exact last fun text => textLength _ limit

theorem userName
    (value limit : Value) :
    Concludes field (.text field)
      (Check.userName value (.text field) limit) := by
  unfold Check.userName
  exact first (textLength value limit)

theorem shell
    (value allowed : Value) :
    Concludes field (.text field)
      (Check.shell value (.text field) allowed) :=
  textAmong value _

theorem email
    (value limit isAlphanumeric : Value) :
    Concludes field (.text field)
      (Check.email value (.text field) limit isAlphanumeric) := by
  unfold Check.email
  exact first (emailFormat value)

theorem sessionCode
    (value codes : Value) :
    Concludes field (.text field)
      (Check.sessionCode value (.text field) codes) := by
  unfold Check.sessionCode
  refine last fun text => last fun isKnown => ite (setValue _) ?_
  exact ite (reject _) (alphanumeric _)

/-! ## Semesters -/

theorem semesterTag
    (value : Value) :
    Concludes field (.text field)
      (Check.semesterTag value (.text field)) := by
  unfold Check.semesterTag
  exact first (textLength value _)

/-- A year or a tag that is not valid has left an error. -/
theorem yearAndTag
    {target : Value}
    (environment : Environment)
    (digits : List Char)
    (tag : Char)
    (lower upper : Value) :
    Settles field target (fun _ => True)
      (Check.yearAndTag environment digits tag (.text field) lower upper)
      fun valid _ => valid = true := by
  unfold Check.yearAndTag
  refine Settles.bind_partKey (Settles.bind (Settles.any _) fun _ => ?_)
  refine Settles.bind (Settles.hasErrors (.part ..)) fun failed => ?_
  refine Settles.ite (fun isTrue => ?_) fun _ => ?_
  · refine Settles.vacuous _ fun result isFalse => ?_
    rw [isTrue] at isFalse
    cases isFalse
  · refine Settles.bind_partKey (Settles.bind (Settles.any _) fun _ => ?_)
    refine Settles.bind (Settles.hasErrors (.part ..)) fun failed => ?_
    refine Settles.pure _ fun result isFalse => ?_
    rw [isFalse]
    rfl

theorem semester
    (environment : Environment)
    (value lower upper : Value) :
    Concludes field (.text field)
      (Check.semester environment value (.text field) lower upper) := by
  unfold Check.semester
  refine last fun text => ?_
  dsimp only
  split
  · exact when (yearAndTag ..) (setValue _)
  · exact reject _

theorem programNumber
    (environment : Environment)
    (value lower upper : Value) :
    Concludes field (.text field)
      (Check.programNumber environment value (.text field) lower
        upper) := by
  unfold Check.programNumber
  refine last fun text => ?_
  dsimp only
  split
  · refine ite (when (yearAndTag ..) ?_) (reject _)
    refine Settles.bind_partKey (last fun _ => ?_)
    exact unless_hasErrors (.part ..) (setValue _)
  · exact reject _

/-! ## Selections -/

/-- An option that is not allowed has left an error. -/
theorem sortOut
    {target : Value}
    (allowed : List String)
    (options : List Value) :
    Settles field target (fun _ => True)
      (Check.sortOut (.text field) allowed options)
      fun sorted _ => sorted.2 = true := by
  induction options with
  | nil =>
      exact Settles.pure _ fun _ _ => rfl
  | cons option rest inductionHypothesis =>
      unfold Check.sortOut
      refine Settles.bind (Settles.any _) fun text => ?_
      refine Settles.ite (fun _ => ?_) fun _ => ?_
      · refine Settles.bind inductionHypothesis fun sorted => ?_
        exact Settles.pure _ fun _ flawless => flawless
      · exact (first (reject _)).anywhere

theorem selection
    (value allowed byKey : Value) :
    Concludes field (.text field)
      (Check.selection value (.text field) allowed byKey) := by
  unfold Check.selection
  refine last fun allowed => ?_
  refine Settles.bind (sortOut allowed _) fun sorted => ?_
  refine Settles.ite (fun _ => (setValue _).anywhere) fun flawed => ?_
  exact Settles.vacuous _ fun result flawless => flawed flawless

theorem integerOption
    (environment : Environment)
    (value : Value)
    (allowed : List Int) :
    Concludes field (.text field)
      (Check.integerOption environment value (.text field) allowed) := by
  unfold Check.integerOption
  refine last fun read => ?_
  split
  · exact reject _
  · exact ite (setValue _) (last fun number => reject _)

/-! ## Dates -/

/-- What is stored of a date: the date itself, its timestamp and its components. -/
def dateKeys
    (field : String) : List String :=
  [field, field ++ "_" ++ "timestamp", field ++ "_" ++ "components"]

theorem storeMoment
    {target : String}
    (isStored : target ∈ dateKeys field)
    (moment : Moment)
    (components : Value) :
    Concludes field (.text target)
      (Check.storeMoment (.text field) moment components) := by
  unfold Check.storeMoment
  simp only [dateKeys, List.mem_cons, List.not_mem_nil, or_false]
    at isStored
  rcases isStored with rfl | rfl | rfl
  · exact first (Settles.setValue _)
  · refine last fun _ => ?_
    exact Settles.bind_partKey (first (Settles.setValue _))
  · refine last fun _ => Settles.bind_partKey (last fun _ => ?_)
    exact Settles.bind_partKey (Settles.setValue _)

theorem composeMoment
    {target : String}
    (isStored : target ∈ dateKeys field)
    (year month day : Int)
    (momentOf : Date → Moment)
    (components : List (String × Int)) :
    Concludes field (.text target)
      (Check.composeMoment (.text field) year month day momentOf
        components) := by
  unfold Check.composeMoment
  dsimp only
  apply ite (first (stop _))
  split
  · exact storeMoment isStored _ _
  · exact last fun _ => last fun _ => last fun _ => reject _

/-- The components of a date are stored, each under the key of its part. -/
theorem dateComponents
    (environment : Environment)
    (yearValue monthValue dayValue : Value) :
    ∀ target ∈
        [field ++ "_" ++ "year", field ++ "_" ++ "month",
          field ++ "_" ++ "day"],
      Concludes field (.text target)
        (Check.dateComponents environment yearValue monthValue dayValue
          (.text field)) := by
  unfold Check.dateComponents
  simp only [List.forall_mem_cons]
  refine ⟨?_, ?_, ?_, List.forall_mem_nil _⟩
  · exact Settles.bind_partKey (first (of_part (year ..)))
  · refine Settles.bind_partKey (last fun _ => ?_)
    exact Settles.bind_partKey (first (of_part (clampedRange ..)))
  · refine Settles.bind_partKey (last fun _ => ?_)
    refine Settles.bind_partKey (last fun _ => ?_)
    exact Settles.bind_partKey (of_part (clampedRange ..))

/-- Where a component failed, it has left an error. -/
theorem anyPartFailed
    {target : Value}
    (parts : List String) :
    Settles field target (fun _ => True)
      (Check.anyPartFailed (.text field) parts)
      fun failed _ => failed = false := by
  induction parts with
  | nil =>
      exact Settles.pure false fun _ _ => rfl
  | cons part rest inductionHypothesis =>
      unfold Check.anyPartFailed
      apply Settles.bind_partKey
      refine Settles.bind (Settles.hasErrors (.part ..)) fun failed => ?_
      refine Settles.ite (fun isTrue => ?_) fun _ => ?_
      · refine Settles.vacuous _ fun result isFalse => ?_
        rw [isTrue] at isFalse
        cases isFalse
      · exact Settles.weaken inductionHypothesis (fun _ _ => trivial)
          fun _ _ => id

/-- A check that settles a field may be left out where a component failed. -/
theorem unless_anyPartFailed
    {target : Value}
    {parts : List String}
    {check : Check Unit}
    (concludes : Concludes field target check) :
    Concludes field target
      (Check.anyPartFailed (.text field) parts >>= fun failed =>
        if failed = true then pure () else check) := by
  refine Settles.bind (anyPartFailed parts) fun failed => ?_
  refine Settles.ite (fun isTrue => ?_) fun _ => concludes.anywhere
  refine Settles.vacuous _ fun result isFalse => ?_
  rw [isTrue] at isFalse
  cases isFalse

theorem fullDate
    {target : String}
    (isStored : target ∈ dateKeys field)
    (environment : Environment)
    (yearValue monthValue dayValue : Value) :
    Concludes field (.text target)
      (Check.fullDate environment yearValue monthValue dayValue
        (.text field)) := by
  unfold Check.fullDate
  refine last fun _ => unless_anyPartFailed ?_
  refine last fun year => last fun month => last fun day => ?_
  exact composeMoment isStored ..

theorem fullDateTime
    (environment : Environment)
    (yearValue monthValue dayValue hourValue minuteValue secondValue :
      Value) :
    Concludes field (.text field)
      (Check.fullDateTime environment yearValue monthValue dayValue
        hourValue minuteValue secondValue (.text field)) := by
  unfold Check.fullDateTime
  refine last fun _ => Settles.bind_partKey (last fun _ => ?_)
  refine Settles.bind_partKey (last fun _ => ?_)
  refine Settles.bind_partKey (last fun _ => unless_anyPartFailed ?_)
  refine last fun year => last fun month => last fun day => ?_
  refine last fun hour => last fun minute => last fun second => ?_
  exact composeMoment (List.mem_cons_self ..) ..

/-- Where values under both keys are known, they are found. -/
theorem haveValues
    {target : Value}
    (first second : String) :
    Settles field target
      (fun result =>
        result.hasValue (.text first) = true ∧
          result.hasValue (.text second) = true)
      (Check.haveValues (.text first) (.text second))
      fun present _ => present = true := by
  unfold Check.haveValues
  refine Settles.bind (Settles.hasValue first) fun firstPresent => ?_
  refine Settles.ite (fun _ => ?_) fun absent => ?_
  · refine Settles.weaken (Settles.hasValue second) (fun _ => id) ?_
    rintro present result ⟨⟨⟨_, held⟩, _⟩, rfl⟩
    exact held
  · apply Settles.vacuous
    rintro result ⟨⟨held, _⟩, rfl⟩
    exact absent held

/-- A date whose check left no error has its timestamp or its components. -/
theorem fullDate_part
    {target : Value}
    {before : Result → Prop}
    (part inner : String)
    (isStored : inner ∈ dateKeys (field ++ "_" ++ part))
    (environment : Environment)
    (yearValue monthValue dayValue : Value) :
    Settles field target before
      (Check.fullDate environment yearValue monthValue dayValue
        (.text (field ++ "_" ++ part)))
      fun _ result => result.hasValue (.text inner) = true :=
  Settles.of_part (fullDate isStored environment yearValue monthValue dayValue)

theorem dateRange
    (environment : Environment)
    (startYear startMonth startDay endYear endMonth endDay : Value) :
    Concludes field (.text field)
      (Check.dateRange environment startYear startMonth startDay endYear
        endMonth endDay (.text field)) := by
  unfold Check.dateRange
  apply Settles.bind_partKey
  refine Settles.bind
    (fullDate_part "start" (field ++ "_" ++ "start" ++ "_" ++ "timestamp")
      (by simp [dateKeys]) _ _ _ _) fun _ => ?_
  apply Settles.bind_partKey
  refine Settles.bind
    (Settles.keeping (fun result entries present =>
        Result.hasValue_extend present entries)
      (fullDate_part "end" (field ++ "_" ++ "end" ++ "_" ++ "timestamp")
        (by simp [dateKeys]) _ _ _ _)) fun _ => ?_
  refine Settles.bind_partKey (Settles.bind_partKey ?_)
  refine Settles.bind (haveValues _ _) fun present => ?_
  refine Settles.ite (fun _ => ?_) fun absent =>
    Settles.vacuous _ fun result present => absent present
  refine Concludes.anywhere (last fun start => last fun finish => ?_)
  exact last fun reversed => ite (reject _) (setValue _)

theorem dateInSemester
    (environment : Environment)
    (yearValue monthValue dayValue semesterValue : Value) :
    Concludes field (.text field)
      (Check.dateInSemester environment yearValue monthValue dayValue
        semesterValue (.text field)) := by
  unfold Check.dateInSemester
  apply Settles.bind_partKey
  refine Settles.bind
    (fullDate_part "date" (field ++ "_" ++ "date" ++ "_" ++ "components")
      (by simp [dateKeys]) _ _ _ _) fun _ => ?_
  apply Settles.bind_partKey
  refine Settles.bind
    (Settles.keeping (fun result entries present =>
        Result.hasValue_extend present entries)
      (Settles.of_part (semester _ _ _ _))) fun _ => ?_
  apply Settles.bind_partKey
  refine Settles.bind (haveValues _ _) fun present => ?_
  refine Settles.ite (fun _ => ?_) fun absent =>
    Settles.vacuous _ fun result present => absent present
  refine Concludes.anywhere (last fun components => last fun expected => ?_)
  refine last fun year => last fun month => last fun day => ?_
  refine last fun found => ite ?_ (last fun expectedText => reject _)
  exact last fun date => setValue _

end Concludes

end FormCheck.Check
