import FormCheck.Capability
import FormCheck.Proofs.Journal

namespace FormCheck

/-!
# What checks write

What a check may write is told by which entries are allowed. Nearly all that the
checks of the library write is of two sorts, values and messages that are texts,
and each check writes them under the keys that it names. So a check writes what
is allowed if these two sorts are allowed under its keys: for most checks that is
the key of the field alone, for checks of several parts it is any key. A message
of the caller's, which one check takes as an argument, has to be allowed by
itself.
-/

/-- Under a key all values are allowed, and all messages that are texts. -/
structure Entry.Admits
    (allowed : Entry → Prop)
    (key : Value) : Prop where
  value (stored : Value) : allowed (.value key stored)
  error (message : String) : allowed (.error key (.text message))

/-- A check writes what is allowed, and nothing else. -/
structure Check.Writes
    (allowed : Entry → Prop)
    (check : Check answer) : Prop where
  isAllowed : ∀ result, ∀ entry ∈ (check result).written, allowed entry

namespace Check.Writes

variable
  {allowed : Entry → Prop}
  {key : Value}

/-! ## Parts of checks -/

/-- Giving an answer writes nothing. -/
theorem pure
    (value : answer) :
    Writes allowed (Pure.pure value : Check answer) where
  isAllowed _ _ member := nomatch member

/-- Stopping writes nothing. -/
theorem stop
    (fault : Fault) :
    Writes allowed (Check.stop fault : Check answer) where
  isAllowed _ _ member := nomatch member

/-- A computation without a result writes nothing. -/
theorem lift
    (computation : Except Fault answer) :
    Writes allowed (liftM computation : Check answer) where
  isAllowed _ _ member := nomatch member

/-- Asking about a key writes nothing. -/
theorem look
    (key : Value)
    (view : Result → answer) :
    Writes allowed (Check.look key view) where
  isAllowed := by
    intro result entry member
    unfold Check.look at member
    split at member <;> cases member

/-- A check in two parts writes what both of its parts do. -/
theorem bind
    {leading : Check middle}
    {continuation : middle → Check answer}
    (leadingWrites : Writes allowed leading)
    (continuationWrites : ∀ value, Writes allowed (continuation value)) :
    Writes allowed (leading >>= continuation) where
  isAllowed := by
    intro result entry member
    change
      entry ∈
        (leading result >>= fun value =>
          continuation value
            (result.extend (leading result).written)).written at member
    rw [Journal.written_bind, List.mem_append] at member
    rcases member with early | late
    · exact leadingWrites.isAllowed result entry early
    · cases ended : (leading result).ended with
      | error fault =>
          simp [ended] at late
      | ok value =>
          simp only [ended] at late
          exact (continuationWrites value).isAllowed _ entry late

/-- A choice writes what both of its sides do. -/
theorem ite
    {condition : Prop}
    [Decidable condition]
    {positive negative : Check answer}
    (positiveWrites : Writes allowed positive)
    (negativeWrites : Writes allowed negative) :
    Writes allowed (if condition then positive else negative) := by
  split
  · exact positiveWrites
  · exact negativeWrites

/-- Recording writes the entry at most. -/
theorem record
    {entry : Entry}
    (entryAllowed : allowed entry) :
    Writes allowed (Check.record entry) where
  isAllowed := by
    intro result written member
    unfold Check.record at member
    split at member
    · cases List.mem_singleton.mp member
      exact entryAllowed
    · cases member

section Key

variable (admits : Entry.Admits allowed key)

include admits

theorem setValue
    (value : Value) :
    Writes allowed (Check.setValue key value) :=
  record (admits.value value)

theorem reject
    (message : String) :
    Writes allowed (Check.reject key message) :=
  record (admits.error message)

/-! ## Numbers -/

theorem integer
    (environment : Environment)
    (value : Value) :
    Writes allowed (Check.integer environment value key) := by
  unfold Check.integer
  refine bind (lift _) fun read => ?_
  split
  · exact setValue admits _
  · exact reject admits _

theorem float
    (value : Value) :
    Writes allowed (Check.float value key) := by
  unfold Check.float
  split
  · exact setValue admits _
  · exact reject admits _

theorem rejectBetween
    (lower upper : Value) :
    Writes allowed (Check.rejectBetween key lower upper) := by
  unfold Check.rejectBetween
  refine bind (lift _) fun lowerText => ?_
  refine bind (lift _) fun upperText => ?_
  exact reject admits _

theorem withinBounds
    (number lower upper : Value) :
    Writes allowed (Check.withinBounds number key lower upper) := by
  unfold Check.withinBounds
  split
  · exact pure true
  · refine bind (lift _) fun exceeds => ite ?_ (pure true)
    refine bind (lift _) fun upperText => ?_
    exact bind (reject admits _) fun _ => pure false
  · refine bind (lift _) fun precedes => ite ?_ (pure true)
    refine bind (lift _) fun lowerText => ?_
    exact bind (reject admits _) fun _ => pure false
  · refine bind (lift _) fun precedes => ite ?_ ?_
    · exact bind (rejectBetween admits _ _) fun _ => pure false
    · refine bind (lift _) fun exceeds => ite ?_ (pure true)
      exact bind (rejectBetween admits _ _) fun _ => pure false

theorem integerRange
    (environment : Environment)
    (value lower upper : Value) :
    Writes allowed (Check.integerRange environment value key lower upper) := by
  unfold Check.integerRange
  refine bind (integer admits environment value) fun _ => ?_
  refine bind (look key _) fun failed => ite (pure ()) ?_
  refine bind (look key _) fun number => ?_
  refine bind (withinBounds admits number lower upper) fun inside => ?_
  exact ite (setValue admits number) (pure ())

theorem floatRange
    (value lower upper : Value) :
    Writes allowed (Check.floatRange value key lower upper) := by
  unfold Check.floatRange
  refine bind (float admits value) fun _ => ?_
  refine bind (look key _) fun failed => ite (pure ()) ?_
  refine bind (look key _) fun number => ?_
  exact bind (withinBounds admits number lower upper) fun _ => pure ()

theorem numberInRange
    (environment : Environment)
    {message : Value}
    (messageAllowed :
      message.isTruthy = true → allowed (.error key message))
    (value lower upper : Value) :
    Writes allowed
      (Check.numberInRange environment value key lower upper message) := by
  unfold Check.numberInRange
  have failure
      (lower upper : Value) :
      Writes allowed
        (Check.rejectWith message key do
          let lowerText ← lower.shown
          let upperText ← upper.shown
          Check.reject key
            ("Invalid number: Must be between " ++ lowerText ++ " and " ++
              upperText ++ ".")) := by
    unfold Check.rejectWith
    split
    case isTrue truthy =>
      exact record (messageAllowed truthy)
    case isFalse =>
      refine bind (lift _) fun lowerText => ?_
      refine bind (lift _) fun upperText => ?_
      exact reject admits _
  refine bind (lift _) fun read => ?_
  split
  · exact failure _ _
  · refine bind (lift _) fun precedes => ite (failure _ _) ?_
    refine bind (lift _) fun exceeds => ite (failure _ _) ?_
    exact setValue admits _

theorem clampedRange
    (environment : Environment)
    (value lower upper : Value)
    (least greatest : Int) :
    Writes allowed
      (Check.clampedRange environment value key lower upper least greatest) := by
  unfold Check.clampedRange
  refine bind (lift _) fun lower => ?_
  refine bind (lift _) fun upper => ?_
  exact integerRange admits environment value lower upper

/-! ## Components of dates -/

theorem year
    (environment : Environment)
    (value lower upper : Value) :
    Writes allowed (Check.year environment value key lower upper) := by
  unfold Check.year
  have continued
      (upper : Value) :
      Writes allowed (do
        let least ← (Value.int earliestYear).greaterOf
          (lower.orDefault environment.settings.minimalYear)
        Check.integerRange environment value key least upper) :=
    bind (lift _) fun least =>
      integerRange admits environment value least upper
  dsimp only
  split
  · exact bind (lift _) continued
  · exact bind (pure _) continued

/-! ## Texts -/

theorem textLength
    (value limit : Value) :
    Writes allowed (Check.textLength value key limit) := by
  unfold Check.textLength
  refine bind (lift _) fun text => ?_
  refine bind (lift _) fun exceeds => ite ?_ (setValue admits _)
  exact bind (lift _) fun limitText => reject admits _

theorem emailFormat
    (value : Value) :
    Writes allowed (Check.emailFormat value key) := by
  unfold Check.emailFormat
  exact bind (lift _) fun text =>
    ite (setValue admits _) (reject admits _)

theorem textAmong
    (value options : Value) :
    Writes allowed (Check.textAmong value key options) := by
  unfold Check.textAmong
  refine bind (lift _) fun text => ?_
  exact bind (lift _) fun members =>
    ite (setValue admits _) (reject admits _)

theorem alphanumeric
    (value : Value) :
    Writes allowed (Check.alphanumeric value key) := by
  unfold Check.alphanumeric
  exact bind (lift _) fun text =>
    ite (setValue admits _) (reject admits _)

theorem name
    (value limit : Value) :
    Writes allowed (Check.name value key limit) := by
  unfold Check.name
  exact bind (lift _) fun text => textLength admits _ limit

theorem userName
    (value limit : Value) :
    Writes allowed (Check.userName value key limit) := by
  unfold Check.userName
  refine bind (textLength admits value limit) fun _ => ?_
  refine bind (look key _) fun failed => ?_
  exact ite (pure ()) (alphanumeric admits value)

theorem email
    (value limit isAlphanumeric : Value) :
    Writes allowed (Check.email value key limit isAlphanumeric) := by
  unfold Check.email
  refine bind (emailFormat admits value) fun _ => ?_
  have continued
      (proceed : Bool) :
      Writes allowed (do
        if proceed && isAlphanumeric.isTruthy then
          Check.alphanumeric (← Check.value key) key) := by
    refine ite ?_ (pure ())
    exact bind (look key _) fun text => alphanumeric admits text
  refine bind (look key _) fun failed => ite (pure ()) ?_
  dsimp only
  split
  · exact bind (pure true) continued
  · refine bind (look key _) fun text => ?_
    refine bind (textLength admits text _) fun _ => ?_
    refine bind (look key _) fun failed => ?_
    exact bind (pure _) continued

theorem sessionCode
    (value codes : Value) :
    Writes allowed (Check.sessionCode value key codes) := by
  unfold Check.sessionCode
  refine bind (lift _) fun text => ?_
  refine bind (lift _) fun isKnown => ite (setValue admits _) ?_
  exact ite (reject admits _) (alphanumeric admits _)

theorem semesterTag
    (value : Value) :
    Writes allowed (Check.semesterTag value key) := by
  unfold Check.semesterTag
  refine bind (textLength admits value _) fun _ => ?_
  refine bind (look key _) fun failed => ite (pure ()) ?_
  exact bind (lift _) fun text => textAmong admits _ _

/-! ## Selections -/

theorem sortOut
    (options : List String)
    (selected : List Value) :
    Writes allowed (Check.sortOut key options selected) := by
  induction selected with
  | nil =>
      exact pure _
  | cons option rest inductionHypothesis =>
      unfold Check.sortOut
      refine bind (lift _) fun text => ite ?_ ?_
      · exact bind inductionHypothesis fun sorted => pure _
      · refine bind (reject admits _) fun _ => ?_
        exact bind inductionHypothesis fun sorted => pure _

theorem selection
    (value options byKey : Value) :
    Writes allowed (Check.selection value key options byKey) := by
  unfold Check.selection
  refine bind (lift _) fun options => ?_
  refine bind (sortOut admits options _) fun sorted => ?_
  exact ite (setValue admits _) (pure ())

theorem integerOption
    (environment : Environment)
    (value : Value)
    (options : List Int) :
    Writes allowed (Check.integerOption environment value key options) := by
  unfold Check.integerOption
  refine bind (lift _) fun read => ?_
  split
  · exact reject admits _
  · apply ite (setValue admits _)
    exact bind (lift _) fun number => reject admits _

end Key

/-! ## Checks of several parts -/

section Parts

variable (admits : ∀ key, Entry.Admits allowed key)

include admits

theorem yearAndTag
    (environment : Environment)
    (digits : List Char)
    (tag : Char)
    (lower upper : Value) :
    Writes allowed
      (Check.yearAndTag environment digits tag key lower upper) := by
  unfold Check.yearAndTag
  refine bind (lift _) fun yearKey => ?_
  refine bind (year (admits yearKey) ..) fun _ => ?_
  refine bind (look yearKey _) fun failed => ite (pure false) ?_
  refine bind (lift _) fun tagKey => ?_
  refine bind (semesterTag (admits tagKey) _) fun _ => ?_
  exact bind (look tagKey _) fun failed => pure _

theorem semester
    (environment : Environment)
    (value lower upper : Value) :
    Writes allowed
      (Check.semester environment value key lower upper) := by
  unfold Check.semester
  refine bind (lift _) fun text => ?_
  dsimp only
  split
  · refine bind (yearAndTag admits ..) fun valid => ite ?_ (pure ())
    exact setValue (admits key) _
  · exact reject (admits key) _

theorem programNumber
    (environment : Environment)
    (value lower upper : Value) :
    Writes allowed
      (Check.programNumber environment value key lower upper) := by
  unfold Check.programNumber
  refine bind (lift _) fun text => ?_
  dsimp only
  split
  · refine ite ?_ (reject (admits key) _)
    refine bind (yearAndTag admits ..) fun valid => ite ?_ (pure ())
    refine bind (lift _) fun numberKey => ?_
    refine bind (clampedRange (admits numberKey) ..) fun _ => ?_
    refine bind (look numberKey _) fun failed => ite (pure ()) ?_
    exact setValue (admits key) _
  · exact reject (admits key) _

theorem storeMoment
    (moment : Moment)
    (components : Value) :
    Writes allowed (Check.storeMoment key moment components) := by
  unfold Check.storeMoment
  refine bind (setValue (admits key) _) fun _ => ?_
  refine bind (lift _) fun timestampKey => ?_
  refine bind (setValue (admits timestampKey) _) fun _ => ?_
  exact bind (lift _) fun componentsKey =>
    setValue (admits componentsKey) _

omit admits in
theorem anyPartFailed
    (key : Value)
    (parts : List String) :
    Writes allowed (Check.anyPartFailed key parts) := by
  induction parts with
  | nil =>
      exact pure false
  | cons part rest inductionHypothesis =>
      unfold Check.anyPartFailed
      refine bind (lift _) fun ownPart => ?_
      exact bind (look ownPart _) fun failed =>
        ite (pure true) inductionHypothesis

omit admits in
theorem partInteger
    (key : Value)
    (part : String) :
    Writes allowed (Check.partInteger key part) := by
  unfold Check.partInteger
  refine bind (lift _) fun ownPart => ?_
  refine bind (look ownPart _) fun stored => ?_
  split
  · exact pure _
  · exact stop _

theorem composeMoment
    (year month day : Int)
    (momentOf : Date → Moment)
    (components : List (String × Int)) :
    Writes allowed
      (Check.composeMoment key year month day momentOf components) := by
  unfold Check.composeMoment
  dsimp only
  refine ite (bind (stop _) fun _ => ?_) ?_
  all_goals
    split
    · exact storeMoment admits _ _
    · refine bind (lift _) fun yearText => ?_
      refine bind (lift _) fun monthText => ?_
      exact bind (lift _) fun dayText => reject (admits key) _

theorem dateComponents
    (environment : Environment)
    (yearValue monthValue dayValue : Value) :
    Writes allowed
      (Check.dateComponents environment yearValue monthValue dayValue
        key) := by
  unfold Check.dateComponents
  refine bind (lift _) fun yearKey => ?_
  refine bind (year (admits yearKey) ..) fun _ => ?_
  refine bind (lift _) fun monthKey => ?_
  refine bind (clampedRange (admits monthKey) ..) fun _ => ?_
  exact bind (lift _) fun dayKey => clampedRange (admits dayKey) ..

theorem fullDate
    (environment : Environment)
    (yearValue monthValue dayValue key : Value) :
    Writes allowed
      (Check.fullDate environment yearValue monthValue dayValue key) := by
  unfold Check.fullDate
  refine bind (dateComponents admits ..) fun _ => ?_
  refine bind (anyPartFailed ..) fun failed => ite (pure ()) ?_
  refine bind (partInteger ..) fun year => ?_
  refine bind (partInteger ..) fun month => ?_
  refine bind (partInteger ..) fun day => ?_
  exact composeMoment admits ..

theorem fullDateTime
    (environment : Environment)
    (yearValue monthValue dayValue hourValue minuteValue secondValue :
      Value) :
    Writes allowed
      (Check.fullDateTime environment yearValue monthValue dayValue
        hourValue minuteValue secondValue key) := by
  unfold Check.fullDateTime
  refine bind (dateComponents admits ..) fun _ => ?_
  refine bind (lift _) fun hourKey => ?_
  refine bind (clampedRange (admits hourKey) ..) fun _ => ?_
  refine bind (lift _) fun minuteKey => ?_
  refine bind (clampedRange (admits minuteKey) ..) fun _ => ?_
  refine bind (lift _) fun secondKey => ?_
  refine bind (clampedRange (admits secondKey) ..) fun _ => ?_
  refine bind (anyPartFailed ..) fun failed => ite (pure ()) ?_
  refine bind (partInteger ..) fun year => ?_
  refine bind (partInteger ..) fun month => ?_
  refine bind (partInteger ..) fun day => ?_
  refine bind (partInteger ..) fun hour => ?_
  refine bind (partInteger ..) fun minute => ?_
  refine bind (partInteger ..) fun second => ?_
  exact composeMoment admits ..

omit admits in
theorem haveValues
    (first second : Value) :
    Writes allowed (Check.haveValues first second) := by
  unfold Check.haveValues
  exact bind (look first _) fun present =>
    ite (look second _) (pure false)

theorem dateRange
    (environment : Environment)
    (startYear startMonth startDay endYear endMonth endDay : Value) :
    Writes allowed
      (Check.dateRange environment startYear startMonth startDay endYear
        endMonth endDay key) := by
  unfold Check.dateRange
  refine bind (lift _) fun startKey => ?_
  refine bind (fullDate admits ..) fun _ => ?_
  refine bind (lift _) fun endKey => ?_
  refine bind (fullDate admits ..) fun _ => ?_
  refine bind (lift _) fun startTimestamp => ?_
  refine bind (lift _) fun endTimestamp => ?_
  refine bind (haveValues ..) fun present => ite ?_ (pure ())
  refine bind (look startTimestamp _) fun start => ?_
  refine bind (look endTimestamp _) fun finish => ?_
  exact bind (lift _) fun reversed =>
    ite (reject (admits key) _) (setValue (admits key) _)

theorem dateInSemester
    (environment : Environment)
    (yearValue monthValue dayValue semesterValue : Value) :
    Writes allowed
      (Check.dateInSemester environment yearValue monthValue dayValue
        semesterValue key) := by
  unfold Check.dateInSemester
  refine bind (lift _) fun dateKey => ?_
  refine bind (fullDate admits ..) fun _ => ?_
  refine bind (lift _) fun semesterKey => ?_
  refine bind (semester admits ..) fun _ => ?_
  refine bind (lift _) fun componentsKey => ?_
  refine bind (haveValues ..) fun present => ite ?_ (pure ())
  refine bind (look componentsKey _) fun components => ?_
  refine bind (look semesterKey _) fun expected => ?_
  refine bind (lift _) fun year => ?_
  refine bind (lift _) fun month => ?_
  refine bind (lift _) fun day => ?_
  refine bind (lift _) fun found => ite ?_ ?_
  · exact bind (look dateKey _) fun date => setValue (admits key) date
  · exact bind (lift _) fun expectedText => reject (admits key) _

end Parts

end Check.Writes

end FormCheck
