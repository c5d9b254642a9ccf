import FormCheck.Proofs.Check.Conclusion
import FormCheck.Proofs.Check.Staleness

namespace FormCheck.Check

/-!
# Every check repeats its success

Most checks do not look at the result at all. Those that do ask for the errors
under a key right behind a check of this key, and for values that were stored
just before, since the check of the key has left a value or an error there.
-/

/-! ## Blind checks -/

namespace Blind

theorem integer
    (environment : Environment)
    (value key : Value) :
    Blind (Check.integer environment value key) := by
  unfold Check.integer
  refine bind (lift _) fun read => ?_
  split
  · exact setValue _ _
  · exact reject _ _

theorem float
    (value key : Value) :
    Blind (Check.float value key) := by
  unfold Check.float
  split
  · exact setValue _ _
  · exact reject _ _

theorem rejectBetween
    (key lower upper : Value) :
    Blind (Check.rejectBetween key lower upper) := by
  unfold Check.rejectBetween
  exact bind (lift _) fun lowerText => bind (lift _) fun upperText =>
    reject _ _

theorem withinBounds
    (number key lower upper : Value) :
    Blind (Check.withinBounds number key lower upper) := by
  unfold Check.withinBounds
  split
  · exact pure true
  · refine bind (lift _) fun exceeds => ite ?_ (pure true)
    refine bind (lift _) fun upperText => ?_
    exact bind (reject _ _) fun _ => pure false
  · refine bind (lift _) fun precedes => ite ?_ (pure true)
    refine bind (lift _) fun lowerText => ?_
    exact bind (reject _ _) fun _ => pure false
  · refine bind (lift _) fun precedes => ite ?_ ?_
    · exact bind (rejectBetween _ _ _) fun _ => pure false
    · refine bind (lift _) fun exceeds => ite ?_ (pure true)
      exact bind (rejectBetween _ _ _) fun _ => pure false

theorem rejectWith
    {message key : Value}
    {fallback : Check Unit}
    (fallbackBlind : Blind fallback) :
    Blind (Check.rejectWith message key fallback) := by
  unfold Check.rejectWith
  exact ite (addError _ _) fallbackBlind

theorem numberInRange
    (environment : Environment)
    (value key lower upper message : Value) :
    Blind (Check.numberInRange environment value key lower upper message) := by
  unfold Check.numberInRange
  have failure
      (lower upper : Value) :
      Blind
        (Check.rejectWith message key do
          let lowerText ← lower.shown
          let upperText ← upper.shown
          Check.reject key
            ("Invalid number: Must be between " ++ lowerText ++ " and " ++
              upperText ++ ".")) :=
    rejectWith (bind (lift _) fun _ => bind (lift _) fun _ => reject _ _)
  refine bind (lift _) fun read => ?_
  split
  · exact failure _ _
  · refine bind (lift _) fun precedes => ite (failure _ _) ?_
    refine bind (lift _) fun exceeds => ite (failure _ _) ?_
    exact setValue _ _

theorem textLength
    (value key limit : Value) :
    Blind (Check.textLength value key limit) := by
  unfold Check.textLength
  refine bind (lift _) fun text => ?_
  refine bind (lift _) fun exceeds => ite ?_ (setValue _ _)
  exact bind (lift _) fun limitText => reject _ _

theorem emailFormat
    (value key : Value) :
    Blind (Check.emailFormat value key) := by
  unfold Check.emailFormat
  exact bind (lift _) fun text => ite (setValue _ _) (reject _ _)

theorem textAmong
    (value key allowed : Value) :
    Blind (Check.textAmong value key allowed) := by
  unfold Check.textAmong
  refine bind (lift _) fun text => bind (lift _) fun members => ?_
  exact ite (setValue _ _) (reject _ _)

theorem alphanumeric
    (value key : Value) :
    Blind (Check.alphanumeric value key) := by
  unfold Check.alphanumeric
  exact bind (lift _) fun text => ite (setValue _ _) (reject _ _)

theorem name
    (value key limit : Value) :
    Blind (Check.name value key limit) := by
  unfold Check.name
  exact bind (lift _) fun text => textLength _ _ _

theorem shell
    (value key allowed : Value) :
    Blind (Check.shell value key allowed) :=
  textAmong value key _

theorem sessionCode
    (value key codes : Value) :
    Blind (Check.sessionCode value key codes) := by
  unfold Check.sessionCode
  refine bind (lift _) fun text => bind (lift _) fun isKnown => ?_
  exact ite (setValue _ _) (ite (reject _ _) (alphanumeric _ _))

theorem sortOut
    (key : Value)
    (allowed : List String)
    (options : List Value) :
    Blind (Check.sortOut key allowed options) := by
  induction options with
  | nil =>
      exact pure _
  | cons option rest inductionHypothesis =>
      unfold Check.sortOut
      refine bind (lift _) fun text => ite ?_ ?_
      · exact bind inductionHypothesis fun sorted => pure _
      · refine bind (reject _ _) fun _ => ?_
        exact bind inductionHypothesis fun sorted => pure _

theorem selection
    (value key allowed byKey : Value) :
    Blind (Check.selection value key allowed byKey) := by
  unfold Check.selection
  refine bind (lift _) fun allowed => ?_
  refine bind (sortOut _ _ _) fun sorted => ?_
  exact ite (setValue _ _) (pure ())

theorem integerOption
    (environment : Environment)
    (value key : Value)
    (allowed : List Int) :
    Blind (Check.integerOption environment value key allowed) := by
  unfold Check.integerOption
  refine bind (lift _) fun read => ?_
  split
  · exact reject _ _
  · exact ite (setValue _ _) (bind (lift _) fun number => reject _ _)

theorem storeMoment
    (key : Value)
    (moment : Moment)
    (components : Value) :
    Blind (Check.storeMoment key moment components) := by
  unfold Check.storeMoment
  refine bind (setValue _ _) fun _ => bind (lift _) fun timestampKey => ?_
  refine bind (setValue _ _) fun _ => bind (lift _) fun componentsKey => ?_
  exact setValue _ _

theorem composeMoment
    (key : Value)
    (year month day : Int)
    (momentOf : Date → Moment)
    (components : List (String × Int)) :
    Blind
      (Check.composeMoment key year month day momentOf components) := by
  unfold Check.composeMoment
  dsimp only
  refine ite (bind (stop _) fun _ => ?_) ?_
  all_goals
    split
    · exact storeMoment _ _ _
    · refine bind (lift _) fun yearText => ?_
      refine bind (lift _) fun monthText => ?_
      exact bind (lift _) fun dayText => reject _ _

end Blind

namespace Repeats

variable
  {field : String}
  {mild : Prop}
  {known : List String}

/-! ## Checks of one key -/

theorem integerRange
    (environment : Environment)
    (value lower upper : Value) :
    Repeats field mild known
      (Check.integerRange environment value (.text field) lower upper)
      fun _ result => result.hasErrorsAt (.text field) = true := by
  unfold Check.integerRange
  refine bind_uncut (of_blind (.integer _ _ _)) [field]
    (List.forall_mem_singleton.mpr (.integer _ _)) fun _ => ?_
  refine unless_hasErrors (.self field) (fun _ => id) ?_
  refine bind_uncut (Repeats.value (List.mem_cons_self ..)) []
    (List.forall_mem_nil _) fun number => ?_
  refine bind_blind (.withinBounds _ _ _ _) fun inside => ?_
  exact of_blind (.ite (.setValue _ _) (.pure ()))

theorem floatRange
    (value lower upper : Value) :
    Repeats field mild known
      (Check.floatRange value (.text field) lower upper)
      fun _ result => result.hasErrorsAt (.text field) = true := by
  unfold Check.floatRange
  refine bind_uncut (of_blind (.float _ _)) [field]
    (List.forall_mem_singleton.mpr (.float _)) fun _ => ?_
  refine unless_hasErrors (.self field) (fun _ => id) ?_
  refine bind_uncut (Repeats.value (List.mem_cons_self ..)) []
    (List.forall_mem_nil _) fun number => ?_
  exact bind_blind (.withinBounds _ _ _ _) fun inside => of_blind (.pure ())

theorem clampedRange
    (environment : Environment)
    (value lower upper : Value)
    (least greatest : Int) :
    Repeats field mild known
      (Check.clampedRange environment value (.text field) lower upper least
        greatest)
      fun _ result => result.hasErrorsAt (.text field) = true := by
  unfold Check.clampedRange
  exact bind_blind (.lift _) fun lower => bind_blind (.lift _) fun upper =>
    integerRange environment value lower upper

theorem year
    (environment : Environment)
    (value lower upper : Value) :
    Repeats field mild known
      (Check.year environment value (.text field) lower upper)
      fun _ result => result.hasErrorsAt (.text field) = true := by
  unfold Check.year
  have continued
      (upper : Value) :
      Repeats field mild known (do
        let least ← (Value.int earliestYear).greaterOf
          (lower.orDefault environment.settings.minimalYear)
        Check.integerRange environment value (.text field) least upper)
        fun _ result => result.hasErrorsAt (.text field) = true :=
    bind_blind (.lift _) fun least =>
      integerRange environment value least upper
  dsimp only
  split
  · exact bind_blind (.lift _) continued
  · exact bind_blind (.pure _) continued

theorem userName
    (value limit : Value) :
    Repeats field mild known
      (Check.userName value (.text field) limit)
      fun _ result => result.hasErrorsAt (.text field) = true := by
  unfold Check.userName
  refine bind_blind (.textLength _ _ _) fun _ => ?_
  exact unless_hasErrors (.self field) (fun _ => id)
    (of_blind (.alphanumeric _ _))

theorem email
    (value limit isAlphanumeric : Value) :
    Repeats field mild known
      (Check.email value (.text field) limit isAlphanumeric)
      fun _ result => result.hasErrorsAt (.text field) = true := by
  unfold Check.email
  refine bind_uncut (of_blind (.emailFormat _ _)) [field]
    (List.forall_mem_singleton.mpr (.emailFormat _)) fun _ => ?_
  refine unless_hasErrors (.self field) (fun _ => id) ?_
  have isKnown : field ∈ [field] ++ known := List.mem_cons_self ..
  have continued
      (proceed : Bool) :
      Repeats field mild ([field] ++ known) (do
        if proceed && isAlphanumeric.isTruthy then
          Check.alphanumeric (← Check.value (.text field)) (.text field))
        fun _ result => result.hasErrorsAt (.text field) = true := by
    refine ite ?_ (of_blind (.pure ()))
    exact bind_uncut (Repeats.value isKnown) [] (List.forall_mem_nil _)
      fun text => of_blind (.alphanumeric _ _)
  dsimp only
  split
  · exact bind_blind (.pure true) continued
  · refine bind_uncut (Repeats.value isKnown) [] (List.forall_mem_nil _)
      fun text => bind_blind (.textLength _ _ _) fun _ => ?_
    refine bind (hasErrors (.self field)) [] (List.forall_mem_nil _) ?_
      fun failed => bind_blind (.pure _) continued
    intro _ failed
    have decided :
        Subdued
          (fun result =>
            failed = true ∧ result.hasErrorsAt (.text field) = true)
          (Pure.pure !failed : Check Bool)
          fun proceed result =>
            proceed = false ∧ result.hasErrorsAt (.text field) = true :=
      .pure _ fun _ held => ⟨by rw [held.1]; rfl, held.2⟩
    refine decided.bind fun proceed => ?_
    cases proceed with
    | true =>
        exact .vacuous _ fun _ held => nomatch held.1
    | false =>
        exact Subdued.pure () fun _ held => held.2

/-! ## Semesters -/

theorem semesterTag
    (value : Value) :
    Repeats field mild known
      (Check.semesterTag value (.text field))
      fun _ result => result.hasErrorsAt (.text field) = true := by
  unfold Check.semesterTag
  refine bind_blind (.textLength _ _ _) fun _ => ?_
  refine unless_hasErrors (.self field) (fun _ => id) ?_
  exact bind_blind (.lift _) fun text => of_blind (.textAmong _ _ _)

theorem yearAndTag
    (environment : Environment)
    (digits : List Char)
    (tag : Char)
    (lower upper : Value) :
    Repeats field mild known
      (Check.yearAndTag environment digits tag (.text field) lower upper)
      fun valid _ => valid = false := by
  unfold Check.yearAndTag
  have negates
      (key : String)
      (failed : Bool) :
      Subdued
        (fun result =>
          failed = true ∧ result.hasErrorsAt (.text key) = true)
        (Pure.pure !failed : Check Bool) fun valid _ => valid = false :=
    .pure _ fun _ held => by rw [held.1]; rfl
  apply bind_partKey
  refine bind (of_part (year ..)) [] (List.forall_mem_nil _)
    (fun _ _ => .unless_hasErrors (fun _ _ => rfl) _) fun _ => ?_
  refine unless_hasErrors (.part ..) (fun _ _ => rfl) (bind_partKey ?_)
  refine bind (of_part (semesterTag _)) [] (List.forall_mem_nil _)
    (fun _ _ => (Subdued.hasErrors _).bind fun failed => negates _ failed)
    fun _ => ?_
  exact bind (hasErrors (.part ..)) [] (List.forall_mem_nil _)
    (fun _ failed => negates _ failed) fun failed => of_blind (.pure _)

/-- A check that is left out where a test failed is subdued there. -/
theorem subdued_when
    (valid : Bool)
    (check : Check Unit) :
    Subdued (fun _ => valid = false)
      (if valid = true then check else Pure.pure ()) fun _ _ => True := by
  cases valid with
  | true =>
      exact .vacuous _ fun _ held => nomatch held
  | false =>
      exact .pure () fun _ _ => trivial

theorem semester
    (environment : Environment)
    (value lower upper : Value) :
    Repeats field mild known
      (Check.semester environment value (.text field) lower upper)
      fun _ _ => True := by
  unfold Check.semester
  refine bind_blind (.lift _) fun text => ?_
  dsimp only
  split
  · refine bind (yearAndTag ..) [] (List.forall_mem_nil _)
      (fun _ valid => subdued_when valid _) fun valid => ?_
    exact of_blind (.ite (.setValue _ _) (.pure ()))
  · exact of_blind (.reject _ _)

theorem programNumber
    (environment : Environment)
    (value lower upper : Value) :
    Repeats field mild known
      (Check.programNumber environment value (.text field) lower upper)
      fun _ _ => True := by
  unfold Check.programNumber
  refine bind_blind (.lift _) fun text => ?_
  dsimp only
  split
  · refine ite ?_ (of_blind (.reject _ _))
    refine bind (yearAndTag ..) [] (List.forall_mem_nil _)
      (fun _ valid => subdued_when valid _) fun valid => ?_
    refine ite (bind_partKey ?_) (of_blind (.pure ()))
    refine bind (of_part (clampedRange ..)) [] (List.forall_mem_nil _)
      (fun _ _ => .unless_hasErrors (fun _ _ => trivial) _) fun _ => ?_
    exact unless_hasErrors (.part ..) (fun _ _ => trivial)
      (of_blind (.setValue _ _))
  · exact of_blind (.reject _ _)

/-! ## Dates -/

theorem anyPartFailed
    (firm : ¬mild)
    (parts : List String) :
    Repeats field mild known (Check.anyPartFailed (.text field) parts)
      fun _ _ => True := by
  induction parts with
  | nil =>
      exact of_blind (.pure false)
  | cons part rest inductionHypothesis =>
      unfold Check.anyPartFailed
      apply bind_partKey
      refine bind_firm firm (hasErrors (.part ..)) []
        (List.forall_mem_nil _) fun failed => ?_
      exact ite (of_blind (.pure true)) inductionHypothesis

theorem partInteger
    {part : String}
    (isKnown : field ++ "_" ++ part ∈ known)
    {left : Int → Result → Prop} :
    Repeats field mild known (Check.partInteger (.text field) part)
      left := by
  unfold Check.partInteger
  apply bind_partKey
  refine bind_uncut (Repeats.value isKnown) [] (List.forall_mem_nil _)
    fun stored => of_blind ?_
  split
  · exact .pure _
  · exact .stop _

theorem dateComponents
    (firm : ¬mild)
    (environment : Environment)
    (yearValue monthValue dayValue : Value) :
    Repeats field mild known
      (Check.dateComponents environment yearValue monthValue dayValue
        (.text field))
      fun _ _ => True := by
  unfold Check.dateComponents
  refine bind_partKey (bind_firm firm (of_part (year ..)) []
    (List.forall_mem_nil _) fun _ => ?_)
  refine bind_partKey (bind_firm firm (of_part (clampedRange ..)) []
    (List.forall_mem_nil _) fun _ => ?_)
  exact bind_partKey (of_part (clampedRange ..)).forget

theorem fullDate
    (firm : ¬mild)
    (environment : Environment)
    (yearValue monthValue dayValue : Value) :
    Repeats field mild known
      (Check.fullDate environment yearValue monthValue dayValue
        (.text field))
      fun _ _ => True := by
  unfold Check.fullDate
  refine bind_firm firm (dateComponents firm ..) _
    (Concludes.dateComponents environment yearValue monthValue dayValue)
    fun _ => ?_
  refine bind_firm firm (anyPartFailed firm _) [] (List.forall_mem_nil _)
    fun failed => ite (of_blind (.pure ())) ?_
  refine bind_uncut (partInteger (by simp)) [] (List.forall_mem_nil _)
    fun year => ?_
  refine bind_uncut (partInteger (by simp)) [] (List.forall_mem_nil _)
    fun month => ?_
  refine bind_uncut (partInteger (by simp)) [] (List.forall_mem_nil _)
    fun day => ?_
  exact of_blind (.composeMoment ..)

theorem fullDateTime
    (firm : ¬mild)
    (environment : Environment)
    (yearValue monthValue dayValue hourValue minuteValue secondValue :
      Value) :
    Repeats field mild known
      (Check.fullDateTime environment yearValue monthValue dayValue
        hourValue minuteValue secondValue (.text field))
      fun _ _ => True := by
  unfold Check.fullDateTime
  refine bind_firm firm (dateComponents firm ..) _
    (Concludes.dateComponents environment yearValue monthValue dayValue)
    fun _ => ?_
  refine bind_partKey (bind_firm firm (of_part (clampedRange ..))
    [field ++ "_" ++ "hour"]
    (List.forall_mem_singleton.mpr (.of_part (.clampedRange ..)))
    fun _ => ?_)
  refine bind_partKey (bind_firm firm (of_part (clampedRange ..))
    [field ++ "_" ++ "minute"]
    (List.forall_mem_singleton.mpr (.of_part (.clampedRange ..)))
    fun _ => ?_)
  refine bind_partKey (bind_firm firm (of_part (clampedRange ..))
    [field ++ "_" ++ "second"]
    (List.forall_mem_singleton.mpr (.of_part (.clampedRange ..)))
    fun _ => ?_)
  refine bind_firm firm (anyPartFailed firm _) [] (List.forall_mem_nil _)
    fun failed => ite (of_blind (.pure ())) ?_
  refine bind_uncut (partInteger (by simp)) [] (List.forall_mem_nil _)
    fun year => ?_
  refine bind_uncut (partInteger (by simp)) [] (List.forall_mem_nil _)
    fun month => ?_
  refine bind_uncut (partInteger (by simp)) [] (List.forall_mem_nil _)
    fun day => ?_
  refine bind_uncut (partInteger (by simp)) [] (List.forall_mem_nil _)
    fun hour => ?_
  refine bind_uncut (partInteger (by simp)) [] (List.forall_mem_nil _)
    fun minute => ?_
  refine bind_uncut (partInteger (by simp)) [] (List.forall_mem_nil _)
    fun second => ?_
  exact of_blind (.composeMoment ..)

theorem haveValues
    {first second : String}
    (firstKnown : first ∈ known)
    (secondKnown : second ∈ known)
    {left : Bool → Result → Prop} :
    Repeats field mild known
      (Check.haveValues (.text first) (.text second)) left := by
  unfold Check.haveValues
  refine bind_uncut (hasValue firstKnown) [] (List.forall_mem_nil _)
    fun present => ?_
  exact ite (hasValue secondKnown) (of_blind (.pure false))

theorem dateRange
    (firm : ¬mild)
    (environment : Environment)
    (startYear startMonth startDay endYear endMonth endDay : Value) :
    Repeats field mild known
      (Check.dateRange environment startYear startMonth startDay endYear
        endMonth endDay (.text field))
      fun _ _ => True := by
  unfold Check.dateRange
  refine bind_partKey (bind_firm firm (of_part (fullDate firm ..))
    [field ++ "_" ++ "start" ++ "_" ++ "timestamp"]
    (List.forall_mem_singleton.mpr
      (.of_part (.fullDate (by simp [Concludes.dateKeys]) ..)))
    fun _ => ?_)
  refine bind_partKey (bind_firm firm (of_part (fullDate firm ..))
    [field ++ "_" ++ "end" ++ "_" ++ "timestamp"]
    (List.forall_mem_singleton.mpr
      (.of_part (.fullDate (by simp [Concludes.dateKeys]) ..)))
    fun _ => ?_)
  refine bind_partKey (bind_partKey ?_)
  refine bind_uncut (haveValues (by simp) (by simp)) []
    (List.forall_mem_nil _) fun present => ite ?_ (of_blind (.pure ()))
  refine bind_uncut (Repeats.value (by simp)) [] (List.forall_mem_nil _)
    fun start => ?_
  refine bind_uncut (Repeats.value (by simp)) [] (List.forall_mem_nil _)
    fun finish => ?_
  exact bind_blind (.lift _) fun reversed =>
    of_blind (.ite (.reject _ _) (.setValue _ _))

theorem dateInSemester
    (firm : ¬mild)
    (environment : Environment)
    (yearValue monthValue dayValue semesterValue : Value) :
    Repeats field mild known
      (Check.dateInSemester environment yearValue monthValue dayValue
        semesterValue (.text field))
      fun _ _ => True := by
  unfold Check.dateInSemester
  refine bind_partKey (bind_firm firm (of_part (fullDate firm ..))
    [field ++ "_" ++ "date", field ++ "_" ++ "date" ++ "_" ++ "components"]
    ?_ fun _ => ?_)
  · simp only [List.forall_mem_cons]
    exact ⟨.of_part (.fullDate (by simp [Concludes.dateKeys]) ..),
      .of_part (.fullDate (by simp [Concludes.dateKeys]) ..),
      List.forall_mem_nil _⟩
  refine bind_partKey (bind_firm firm (of_part (semester ..))
    [field ++ "_" ++ "semester"]
    (List.forall_mem_singleton.mpr (.of_part (.semester ..)))
    fun _ => ?_)
  apply bind_partKey
  refine bind_uncut (haveValues (by simp) (by simp)) []
    (List.forall_mem_nil _) fun present => ite ?_ (of_blind (.pure ()))
  refine bind_uncut (Repeats.value (by simp)) [] (List.forall_mem_nil _)
    fun components => ?_
  refine bind_uncut (Repeats.value (by simp)) [] (List.forall_mem_nil _)
    fun expected => ?_
  refine bind_blind (.lift _) fun year => bind_blind (.lift _) fun month => ?_
  refine bind_blind (.lift _) fun day => bind_blind (.lift _) fun found => ?_
  refine ite ?_ (bind_blind (.lift _) fun expectedText =>
    of_blind (.reject _ _))
  exact bind_uncut (Repeats.value (by simp)) [] (List.forall_mem_nil _)
    fun date => of_blind (.setValue _ _)

end Repeats

end FormCheck.Check
