import FormCheck.Proofs.Check.Decision.Date

namespace FormCheck

/-!
# Decisions on dates with a time of day

The components of a time are decided on like those of a date, each under its
key. The moment is decided on if no component of either is rejected.
-/

/-- The components of a time of day as they are submitted. -/
structure TimeInputs where
  hour : Value
  minute : Value
  second : Value

namespace TimeInputs

/-- The components that a time has, if they lie within their bounds. -/
def components?
    (inputs : TimeInputs) : Option (Int × Int × Int) :=
  match inputs.hour.integerWithin? 0 23, inputs.minute.integerWithin? 0 59,
      inputs.second.integerWithin? 0 59 with
  | some hour, some minute, some second => some (hour, minute, second)
  | _, _, _ => none

/-- Components lie within their bounds if each of them does. -/
theorem components?_eq_some_iff
    {inputs : TimeInputs}
    {hour minute second : Int} :
    inputs.components? = some (hour, minute, second) ↔
      inputs.hour.integerWithin? 0 23 = some hour ∧
        inputs.minute.integerWithin? 0 59 = some minute ∧
        inputs.second.integerWithin? 0 59 = some second := by
  unfold components?
  constructor
  · intro found
    split at found
    case h_1 isHour isMinute isSecond =>
      cases found
      exact ⟨isHour, isMinute, isSecond⟩
    case h_2 =>
      cases found
  · rintro ⟨isHour, isMinute, isSecond⟩
    rw [isHour, isMinute, isSecond]

/-- The components of a time fit into a memory if each of them does. -/
structure FitInto
    (inputs : TimeInputs)
    (memory : Memory) : Prop where
  hour : inputs.hour.FitsInto memory
  minute : inputs.minute.FitsInto memory
  second : inputs.second.FitsInto memory

end TimeInputs

namespace Ruling

/-- The rulings on the components of a time, each under its key. -/
def timeComponents
    (field : String)
    (inputs : TimeInputs) : List Ruling :=
  [⟨field ++ "_" ++ "hour", .integerIn inputs.hour (some 0) (some 23)⟩,
    ⟨field ++ "_" ++ "minute", .integerIn inputs.minute (some 0) (some 59)⟩,
    ⟨field ++ "_" ++ "second", .integerIn inputs.second (some 0) (some 59)⟩]

/-- The rulings on a date with a time of day. -/
def fullDateTime
    (field : String)
    (earliest latest : Int)
    (inputs : DateInputs)
    (time : TimeInputs) : List Ruling :=
  dateComponents field earliest latest inputs ++
    (timeComponents field time ++
      match inputs.components? earliest latest, time.components? with
      | some (year, month, day), some (hour, minute, second) =>
          composed field year month day
            (fun date =>
              ⟨date, hour.toNat, minute.toNat, second.toNat⟩)
            [("year", year), ("month", month), ("day", day), ("hour", hour),
              ("minute", minute), ("second", second)]
      | _, _ => [])

/-- A component is rejected exactly if the components are not all there. -/
theorem someFails_timeComponents
    (field : String)
    (inputs : TimeInputs) :
    someFails (timeComponents field inputs) =
      inputs.components?.isNone := by
  simp only [timeComponents, someFails_cons, someFails_nil,
    Verdict.isRejected_integerIn]
  unfold TimeInputs.components?
  cases inputs.hour.integerWithin? 0 23 <;>
    cases inputs.minute.integerWithin? 0 59 <;>
    cases inputs.second.integerWithin? 0 59 <;>
    rfl

/-- Components of a time that are all there are accepted. -/
theorem timeComponents_of_some
    {field : String}
    {hour minute second : Int}
    {inputs : TimeInputs}
    (found : inputs.components? = some (hour, minute, second)) :
    timeComponents field inputs =
      accepting field
        [("hour", hour), ("minute", minute), ("second", second)] := by
  obtain ⟨isHour, isMinute, isSecond⟩ :=
    TimeInputs.components?_eq_some_iff.mp found
  unfold timeComponents
  rw [Verdict.integerIn_of_some isHour, Verdict.integerIn_of_some isMinute,
    Verdict.integerIn_of_some isSecond]
  rfl

/-- Some part fails exactly if some ruling on the components is a rejection. -/
theorem any_failsAt_components
    (field : String)
    (earliest latest : Int)
    (inputs : DateInputs)
    (time : TimeInputs) :
    ["year", "month", "day", "hour", "minute", "second"].any (fun part =>
        failsAt (field ++ "_" ++ part)
          (dateComponents field earliest latest inputs ++
            timeComponents field time)) =
      ((inputs.components? earliest latest).isNone ||
        time.components?.isNone) := by
  rw [← someFails_dateComponents field, ← someFails_timeComponents field]
  simp [dateComponents, timeComponents, Bool.or_assoc]

/-- A ruling on a moment has messages exactly if a date or a time is missing. -/
theorem someFails_fullDateTime
    (field : String)
    (earliest latest : Int)
    (inputs : DateInputs)
    (time : TimeInputs) :
    someFails (fullDateTime field earliest latest inputs time) =
      ((inputs.date? earliest latest).isNone ||
        time.components?.isNone) := by
  unfold fullDateTime DateInputs.date?
  rw [someFails_append, someFails_append, someFails_dateComponents,
    someFails_timeComponents]
  cases inputs.components? earliest latest with
  | none =>
      rfl
  | some dateParts =>
      obtain ⟨year, month, day⟩ := dateParts
      cases time.components? with
      | none =>
          simp
      | some timeParts =>
          simp only [Option.bind_some, composed, Option.isNone_some,
            Bool.false_or, Bool.or_false]
          cases Date.ofComponents? year month day <;> rfl

end Ruling

namespace Check.Rules

variable
  {field : String}
  {earlier : List Ruling}

/-- Rulings about parts with other names are foreign to a part. -/
theorem foreign_of_names
    {part : String}
    (names : List String)
    (keys :
      earlier.map Ruling.key = names.map fun name => field ++ "_" ++ name)
    (apart :
      ∀ name ∈ names,
        Report.startsWith name part = false ∧
          Report.startsWith part name = false) :
    ∀ ruling ∈ earlier,
      ¬(Value.text ruling.key).BelongsTo (field ++ "_" ++ part) := by
  intro ruling member
  have isKey : ruling.key ∈ earlier.map Ruling.key :=
    List.mem_map_of_mem member
  rw [keys] at isKey
  obtain ⟨name, isName, same⟩ := List.mem_map.mp isKey
  obtain ⟨apartFrom, apartTo⟩ := apart name isName
  rw [← same]
  exact (Value.BelongsTo.self _).not_of_apart apartFrom apartTo

/-- A component of a time is decided on behind rulings about other parts. -/
theorem timeComponent
    {part : String}
    {greatest : Nat}
    (small : greatest < 1000000000000)
    {environment : Environment}
    {submitted : Value}
    (fits : submitted.FitsInto environment.memory)
    (foreign :
      ∀ ruling ∈ earlier,
        ¬(Value.text ruling.key).BelongsTo (field ++ "_" ++ part)) :
    Rules field earlier
      (Check.clampedRange environment submitted
        (.text (field ++ "_" ++ part)) (.int 0) (.int greatest) 0 greatest)
      ()
      [⟨field ++ "_" ++ part,
        .integerIn submitted (some 0) (some greatest)⟩] := by
  refine of_part ?_ foreign
  have rules :
      Rules (field ++ "_" ++ part) []
        (Check.clampedRange environment submitted
          (.text (field ++ "_" ++ part)) (.int 0) (.int greatest) 0 greatest)
        ()
        [⟨field ++ "_" ++ part,
          .integerIn submitted (some (max 0 0))
            (some (min (greatest : Int) greatest))⟩] :=
    clampedRange fits (Number.isWritable_of_lt (by decide))
      (Number.isWritable_of_lt (by omega))
  rwa [max_self, min_self] at rules

/-- The components of a time are checked, each under its key. -/
theorem bind_timeComponents
    {continuation : Check answer}
    {value : answer}
    {later : List Ruling}
    (keys :
      earlier.map Ruling.key =
        ["year", "month", "day"].map fun name => field ++ "_" ++ name)
    {environment : Environment}
    {time : TimeInputs}
    (fit : time.FitInto environment.memory)
    (rules :
      Rules field (earlier ++ Ruling.timeComponents field time)
        continuation value later) :
    Rules field earlier
      (do
        Check.hour environment time.hour (← partKey (.text field) "hour")
          (.int 0) (.int 23)
        Check.minute environment time.minute
          (← partKey (.text field) "minute") (.int 0) (.int 59)
        Check.second environment time.second
          (← partKey (.text field) "second") (.int 0) (.int 59)
        continuation)
      value (Ruling.timeComponents field time ++ later) := by
  refine bind_partKey (bind_ruling (timeComponent (by decide) fit.hour
    (foreign_of_names ["year", "month", "day"] keys (by decide))) ?_)
  refine bind_partKey (bind_ruling (timeComponent (by decide) fit.minute
    (foreign_of_names ["year", "month", "day", "hour"] (by simp [keys])
      (by decide))) ?_)
  refine bind_partKey (bind_ruling (timeComponent (by decide) fit.second
    (foreign_of_names ["year", "month", "day", "hour", "minute"]
      (by simp [keys]) (by decide))) ?_)
  rw [List.append_assoc, List.append_assoc]
  exact rules

/-- A date with a time of day is stored if its components make one. -/
theorem fullDateTime
    {environment : Environment}
    {earliest latest : Int}
    (years : environment.BoundsYears .null .null earliest latest)
    {inputs : DateInputs}
    (bearable : inputs.AreBearable environment.memory earliest latest)
    {time : TimeInputs}
    (timeFit : time.FitInto environment.memory) :
    Rules field []
      (Check.fullDateTime environment inputs.year inputs.month inputs.day
        time.hour time.minute time.second (.text field))
      () (Ruling.fullDateTime field earliest latest inputs time) := by
  unfold Check.fullDateTime Ruling.fullDateTime
  refine (dateComponents years bearable.fit bearable.answerable).bind
    (bind_timeComponents rfl timeFit (bind_silent (anyPartFailed _) ?_))
  rw [List.nil_append, Ruling.any_failsAt_components]
  cases foundDate : inputs.components? earliest latest with
  | none =>
      exact pure ()
  | some dateParts =>
      cases foundTime : time.components? with
      | none =>
          exact pure ()
      | some timeParts =>
          obtain ⟨year, month, day⟩ := dateParts
          obtain ⟨hour, minute, second⟩ := timeParts
          have isDate := DateInputs.components?_eq_some_iff.mp foundDate
          simp only [Value.integerWithin?_eq_some_iff] at isDate
          obtain ⟨⟨_, inYears⟩, ⟨_, inMonths⟩, _, inDays⟩ := isDate
          have early := years.earliest_le
          have accepted :
              Ruling.dateComponents field earliest latest inputs ++
                  Ruling.timeComponents field time =
                Ruling.accepting field
                  [("year", year), ("month", month), ("day", day),
                    ("hour", hour), ("minute", minute),
                    ("second", second)] := by
            rw [Ruling.dateComponents_of_some foundDate,
              Ruling.timeComponents_of_some foundTime]
            rfl
          have distinct :
              ["year", "month", "day", "hour", "minute", "second"].Nodup := by
            decide
          rw [accepted]
          refine bind_silent (acceptedPart distinct (.head _)) ?_
          refine bind_silent (acceptedPart distinct (.tail _ (.head _))) ?_
          refine bind_silent
            (acceptedPart distinct (.tail _ (.tail _ (.head _)))) ?_
          refine bind_silent
            (acceptedPart distinct (.tail _ (.tail _ (.tail _ (.head _)))))
            ?_
          refine bind_silent
            (acceptedPart distinct
              (.tail _ (.tail _ (.tail _ (.tail _ (.head _)))))) ?_
          refine bind_silent
            (acceptedPart distinct
              (.tail _ (.tail _ (.tail _ (.tail _ (.tail _ (.head _)))))))
            ?_
          have isSmall : year < Check.yearOverflow :=
            Int.not_le.mp fun isLarge =>
              bearable.calm ⟨_, _, _, foundDate, isLarge⟩
          unfold Check.earliestYear at early
          refine composeMoment ⟨?_, isSmall⟩ inMonths inDays _ _
          unfold Check.yearOverflow
          omega

end Check.Rules

end FormCheck
