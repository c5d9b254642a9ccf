import FormCheck.Check.Date
import FormCheck.Proofs.Check.Decision.Semester

namespace FormCheck

/-!
# Decisions on dates

The components of a date are all decided on, each under its key. The date itself
is decided on if none of them is rejected, and a range if both dates exist.
-/

/-- The integer that a value is or writes, if it lies within bounds. -/
def Value.integerWithin?
    (value : Value)
    (least greatest : Int) : Option Int :=
  value.toInt?.filter fun number =>
    decide (least ≤ number ∧ number ≤ greatest)

/-- A value is an integer within bounds. -/
theorem Value.integerWithin?_eq_some_iff
    {value : Value}
    {least greatest number : Int} :
    value.integerWithin? least greatest = some number ↔
      value.toInt? = some number ∧ least ≤ number ∧ number ≤ greatest := by
  simp [integerWithin?, Option.filter_eq_some_iff]

/-- An integer within bounds is accepted as it is. -/
theorem Verdict.integerIn_of_some
    {value : Value}
    {least greatest number : Int}
    (found : value.integerWithin? least greatest = some number) :
    integerIn value (some least) (some greatest) =
      .accepted (.int number) := by
  obtain ⟨isInteger, inside⟩ := Value.integerWithin?_eq_some_iff.mp found
  have within : IsWithin (some least) (some greatest) number := by
    simpa [IsWithin] using inside
  simp [integerIn, isInteger, provided, within]

/-- A value that is no integer within bounds is rejected. -/
theorem Verdict.isRejected_integerIn
    (value : Value)
    (least greatest : Int) :
    (integerIn value (some least) (some greatest)).isRejected =
      (value.integerWithin? least greatest).isNone := by
  unfold integerIn Value.integerWithin?
  cases value.toInt? with
  | none =>
      rfl
  | some number =>
      have same :
          IsWithin (some least) (some greatest) number ↔
            least ≤ number ∧ number ≤ greatest := by
        simp [IsWithin]
      by_cases inside : least ≤ number ∧ number ≤ greatest
      · simp [same.mpr inside, inside]
      · rw [Option.filter_some, if_neg (by simpa using inside)]
        simp [same, inside]

/-- The components of a date as they are submitted. -/
structure DateInputs where
  year : Value
  month : Value
  day : Value

namespace DateInputs

/-- The components that a date has, if they lie within their bounds. -/
def components?
    (inputs : DateInputs)
    (earliest latest : Int) : Option (Int × Int × Int) :=
  match inputs.year.integerWithin? earliest latest,
      inputs.month.integerWithin? 1 12, inputs.day.integerWithin? 1 31 with
  | some year, some month, some day => some (year, month, day)
  | _, _, _ => none

/-- Components lie within their bounds if each of them does. -/
theorem components?_eq_some_iff
    {inputs : DateInputs}
    {earliest latest year month day : Int} :
    inputs.components? earliest latest = some (year, month, day) ↔
      inputs.year.integerWithin? earliest latest = some year ∧
        inputs.month.integerWithin? 1 12 = some month ∧
        inputs.day.integerWithin? 1 31 = some day := by
  unfold components?
  constructor
  · intro found
    split at found
    case h_1 isYear isMonth isDay =>
      cases found
      exact ⟨isYear, isMonth, isDay⟩
    case h_2 =>
      cases found
  · rintro ⟨isYear, isMonth, isDay⟩
    rw [isYear, isMonth, isDay]

/-- The date that some components make, if there is one. -/
def date?
    (inputs : DateInputs)
    (earliest latest : Int) : Option Date :=
  (inputs.components? earliest latest).bind fun (year, month, day) =>
    Date.ofComponents? year month day

/-- The components of a date fit into a memory if each of them does. -/
structure FitInto
    (inputs : DateInputs)
    (memory : Memory) : Prop where
  year : inputs.year.FitsInto memory
  month : inputs.month.FitsInto memory
  day : inputs.day.FitsInto memory

/--
The components of a date overflow if they lie within their bounds and the year is
too large for the calendar to look at.
-/
def Overflow
    (inputs : DateInputs)
    (earliest latest : Int) : Prop :=
  ∃ year month day,
    inputs.components? earliest latest = some (year, month, day) ∧
      Check.yearOverflow ≤ year

/--
The components of a date can be borne if they fit into the memory, any message about
the year can be written, and the calendar can look at the year.
-/
structure AreBearable
    (inputs : DateInputs)
    (memory : Memory)
    (earliest latest : Int) : Prop where
  fit : inputs.FitInto memory
  answerable : inputs.year.IsAnswerable (some earliest) (some latest)
  calm : ¬inputs.Overflow earliest latest

/-- No components overflow where the last year is not too large. -/
theorem not_overflow_of_lt
    {earliest latest : Int}
    (bounded : latest < Check.yearOverflow)
    (inputs : DateInputs) :
    ¬inputs.Overflow earliest latest := by
  rintro ⟨year, month, day, found, isLarge⟩
  obtain ⟨isYear, _⟩ := components?_eq_some_iff.mp found
  obtain ⟨_, _, isInYears⟩ := Value.integerWithin?_eq_some_iff.mp isYear
  omega

/-- Components that fit can be borne where the bounds for years are moderate. -/
theorem FitInto.areBearable
    {environment : Environment}
    {earliest latest : Int}
    {inputs : DateInputs}
    (fit : inputs.FitInto environment.memory)
    (years : environment.HasYears .null .null earliest latest)
    (bounded : latest < Check.yearOverflow) :
    inputs.AreBearable environment.memory earliest latest where
  fit := fit
  answerable := years.isAnswerable inputs.year
  calm := inputs.not_overflow_of_lt bounded

end DateInputs

/-- The timestamp of the beginning of a date. -/
def Date.timestamp
    (date : Date) : Int :=
  (⟨date, 0, 0, 0⟩ : Moment).timestamp

namespace Ruling

/-- The rulings on the components of a date, each under its key. -/
def dateComponents
    (field : String)
    (earliest latest : Int)
    (inputs : DateInputs) : List Ruling :=
  [⟨field ++ "_" ++ "year",
      .integerIn inputs.year (some earliest) (some latest)⟩,
    ⟨field ++ "_" ++ "month", .integerIn inputs.month (some 1) (some 12)⟩,
    ⟨field ++ "_" ++ "day", .integerIn inputs.day (some 1) (some 31)⟩]

/-- The rulings on a moment that exists. -/
def moment
    (field : String)
    (moment : Moment)
    (components : Value) : List Ruling :=
  [⟨field,
      .accepted
        (.record
          [("timestamp", .int moment.timestamp),
            ("components", components)])⟩,
    ⟨field ++ "_" ++ "timestamp", .accepted (.int moment.timestamp)⟩,
    ⟨field ++ "_" ++ "components", .accepted components⟩]

/-- The rulings on a date whose components lie within their bounds. -/
def composed
    (field : String)
    (year month day : Int)
    (momentOf : Date → Moment)
    (components : List (String × Int)) : List Ruling :=
  match Date.ofComponents? year month day with
  | some date =>
      moment field (momentOf date) (Check.componentsValue components)
  | none =>
      [⟨field,
        .rejected
          ("Invalid date: " ++ Number.decimalText year ++ "-" ++
            Number.decimalText month ++ "-" ++ Number.decimalText day ++ ".")
          []⟩]

/-- The rulings on a date. -/
def fullDate
    (field : String)
    (earliest latest : Int)
    (inputs : DateInputs) : List Ruling :=
  dateComponents field earliest latest inputs ++
    match inputs.components? earliest latest with
    | some (year, month, day) =>
        composed field year month day (fun date => ⟨date, 0, 0, 0⟩)
          [("year", year), ("month", month), ("day", day)]
    | none => []

/-- A ruling on a date is about a key of its field. -/
theorem belongsTo_of_mem_fullDate
    {field : String}
    {earliest latest : Int}
    {inputs : DateInputs}
    {ruling : Ruling}
    (member : ruling ∈ fullDate field earliest latest inputs) :
    (Value.text ruling.key).BelongsTo field := by
  unfold fullDate at member
  rcases List.mem_append.mp member with isComponent | isComposed
  · simp only [dateComponents, List.mem_cons, List.not_mem_nil, or_false]
      at isComponent
    rcases isComponent with rfl | rfl | rfl <;> exact .part ..
  · split at isComposed
    case h_1 =>
      unfold composed at isComposed
      split at isComposed
      · simp only [moment, List.mem_cons, List.not_mem_nil, or_false]
          at isComposed
        rcases isComposed with rfl | rfl | rfl
        · exact .self field
        · exact .part ..
        · exact .part ..
      · rw [List.mem_singleton] at isComposed
        subst isComposed
        exact .self field
    case h_2 =>
      cases isComposed

/-- The rulings that accept some components, each under its key. -/
def accepting
    (field : String)
    (components : List (String × Int)) : List Ruling :=
  components.map fun component =>
    ⟨field ++ "_" ++ component.1, .accepted (.int component.2)⟩

/-- Of components with distinct names, each is found to be accepted. -/
theorem verdictAt?_accepting
    {field part : String}
    {number : Int}
    {components : List (String × Int)}
    (distinct : (components.map Prod.fst).Nodup)
    (member : (part, number) ∈ components) :
    verdictAt? (field ++ "_" ++ part) (accepting field components) =
      some (.accepted (.int number)) := by
  induction components with
  | nil =>
      cases member
  | cons component rest inductionHypothesis =>
      obtain ⟨isNew, distinct⟩ := List.nodup_cons.mp distinct
      rw [accepting, List.map_cons, ← List.singleton_append,
        verdictAt?_append]
      rcases List.mem_cons.mp member with rfl | later
      · have none :
            verdictAt? (field ++ "_" ++ part) (accepting field rest) =
              none := by
          refine verdictAt?_eq_none fun ruling isRuling same => ?_
          obtain ⟨other, isOther, rfl⟩ := List.mem_map.mp isRuling
          have isName : other.1 ∈ rest.map Prod.fst :=
            List.mem_map_of_mem isOther
          rw [String.append_right_inj] at same
          exact isNew (same ▸ isName)
        unfold accepting at none
        rw [none, Option.none_or]
        simp [verdictAt?]
      · have found := inductionHypothesis distinct later
        unfold accepting at found
        rw [found, Option.some_or]

/-- Components of a date that are all there are accepted. -/
theorem dateComponents_of_some
    {field : String}
    {earliest latest year month day : Int}
    {inputs : DateInputs}
    (found :
      inputs.components? earliest latest = some (year, month, day)) :
    dateComponents field earliest latest inputs =
      accepting field [("year", year), ("month", month), ("day", day)] := by
  obtain ⟨isYear, isMonth, isDay⟩ :=
    DateInputs.components?_eq_some_iff.mp found
  unfold dateComponents
  rw [Verdict.integerIn_of_some isYear, Verdict.integerIn_of_some isMonth,
    Verdict.integerIn_of_some isDay]
  rfl

/-- The timestamp of a date is decided if the date exists. -/
theorem timestampAt_fullDate
    (field : String)
    (earliest latest : Int)
    (inputs : DateInputs) :
    verdictAt? (field ++ "_" ++ "timestamp")
        (fullDate field earliest latest inputs) =
      (inputs.date? earliest latest).map fun date =>
        .accepted (.int date.timestamp) := by
  have undecided :
      verdictAt? (field ++ "_" ++ "timestamp")
          (dateComponents field earliest latest inputs) =
        none := by
    simp [dateComponents, verdictAt?]
  unfold fullDate DateInputs.date?
  rw [verdictAt?_append, undecided, Option.or_none]
  cases inputs.components? earliest latest with
  | none =>
      rfl
  | some components =>
      obtain ⟨year, month, day⟩ := components
      simp only [Option.bind_some, composed]
      cases Date.ofComponents? year month day with
      | none =>
          simp [verdictAt?, Ne.symm (part_ne field _)]
      | some date =>
          simp [moment, verdictAt?, Ne.symm (part_ne field _),
            Date.timestamp]

/-- The rulings on a date of one part decide nothing about another part. -/
theorem timestampAt_fullDate_of_part
    {part other : String}
    (apart : Report.startsWith part other = false)
    (apartToo : Report.startsWith other part = false)
    (field : String)
    (earliest latest : Int)
    (inputs : DateInputs) :
    verdictAt? (field ++ "_" ++ part ++ "_" ++ "timestamp")
        (fullDate (field ++ "_" ++ other) earliest latest inputs) =
      none := by
  refine verdictAt?_eq_none fun ruling member same => ?_
  have belongs := belongsTo_of_mem_fullDate member
  rw [same] at belongs
  exact (Value.BelongsTo.part (field ++ "_" ++ part)
    "timestamp").not_of_apart apart apartToo belongs

/-- A component is rejected exactly if the components are not all there. -/
theorem someFails_dateComponents
    (field : String)
    (earliest latest : Int)
    (inputs : DateInputs) :
    someFails (dateComponents field earliest latest inputs) =
      (inputs.components? earliest latest).isNone := by
  simp only [dateComponents, someFails_cons, someFails_nil,
    Verdict.isRejected_integerIn]
  unfold DateInputs.components?
  cases inputs.year.integerWithin? earliest latest <;>
    cases inputs.month.integerWithin? 1 12 <;>
    cases inputs.day.integerWithin? 1 31 <;>
    rfl

/-- Some part fails exactly if some ruling on the components is a rejection. -/
theorem any_failsAt_dateComponents
    (field : String)
    (earliest latest : Int)
    (inputs : DateInputs) :
    ["year", "month", "day"].any (fun part =>
        failsAt (field ++ "_" ++ part)
          (dateComponents field earliest latest inputs)) =
      (inputs.components? earliest latest).isNone := by
  rw [← someFails_dateComponents field]
  simp [dateComponents]

/-- A ruling on a date has messages exactly if there is no date. -/
theorem someFails_fullDate
    (field : String)
    (earliest latest : Int)
    (inputs : DateInputs) :
    someFails (fullDate field earliest latest inputs) =
      (inputs.date? earliest latest).isNone := by
  unfold fullDate DateInputs.date?
  rw [someFails_append, someFails_dateComponents]
  cases inputs.components? earliest latest with
  | none =>
      rfl
  | some components =>
      obtain ⟨year, month, day⟩ := components
      simp only [Option.bind_some, composed, Option.isNone_some,
        Bool.false_or]
      cases Date.ofComponents? year month day <;> rfl

/-- The rulings on two dates that are to make a range. -/
def dateRange
    (field : String)
    (earliest latest : Int)
    (start finish : DateInputs) : List Ruling :=
  fullDate (field ++ "_" ++ "start") earliest latest start ++
    (fullDate (field ++ "_" ++ "end") earliest latest finish ++
      match start.date? earliest latest, finish.date? earliest latest with
      | some first, some last =>
          [⟨field,
            .provided (first.timestamp ≤ last.timestamp)
              (.tuple [.int first.timestamp, .int last.timestamp])
              "End date cannot be before start date."⟩]
      | _, _ => [])

/-- Two dates make a range if both exist and are in order. -/
theorem someFails_dateRange_eq_false_iff
    {field : String}
    {earliest latest : Int}
    {start finish : DateInputs} :
    someFails (dateRange field earliest latest start finish) = false ↔
      ∃ first last,
        start.date? earliest latest = some first ∧
          finish.date? earliest latest = some last ∧
          first.timestamp ≤ last.timestamp := by
  unfold dateRange
  rw [someFails_append, someFails_append, someFails_fullDate,
    someFails_fullDate]
  cases start.date? earliest latest with
  | none =>
      simp
  | some first =>
      cases finish.date? earliest latest with
      | none =>
          simp
      | some last =>
          simp

end Ruling

namespace Check.Rules

variable
  {field : String}
  {earlier : List Ruling}

/-- Whether one of the parts of a field was rejected. -/
theorem anyPartFailed
    (parts : List String) :
    Rules field earlier (Check.anyPartFailed (.text field) parts)
      (parts.any fun part =>
        Ruling.failsAt (field ++ "_" ++ part) earlier)
      [] := by
  induction parts with
  | nil =>
      exact pure false
  | cons part rest inductionHypothesis =>
      unfold Check.anyPartFailed
      apply bind_partKey
      refine bind_silent (hasErrors (.part ..)) ?_
      rw [List.any_cons]
      cases Ruling.failsAt (field ++ "_" ++ part) earlier with
      | true =>
          exact pure true
      | false =>
          exact inductionHypothesis

/-- The integer under a part of a field is the one that was accepted. -/
theorem partInteger
    {part : String}
    {number : Int}
    (decided :
      Ruling.verdictAt? (field ++ "_" ++ part) earlier =
        some (.accepted (.int number))) :
    Rules field earlier (Check.partInteger (.text field) part) number
      [] := by
  unfold Check.partInteger
  apply bind_partKey
  exact bind_silent (value decided) (pure number)

/-- The integer under a part of a field is that of the accepted component. -/
theorem acceptedPart
    {part : String}
    {number : Int}
    {components : List (String × Int)}
    (distinct : (components.map Prod.fst).Nodup)
    (member : (part, number) ∈ components) :
    Rules field (Ruling.accepting field components)
      (Check.partInteger (.text field) part) number [] :=
  partInteger (Ruling.verdictAt?_accepting distinct member)

/-- A date that exists is stored, another one is rejected. -/
theorem composeMoment
    {year month day : Int}
    (yearInside : -Check.yearOverflow < year ∧ year < Check.yearOverflow)
    (monthInside : 1 ≤ month ∧ month ≤ 12)
    (dayInside : 1 ≤ day ∧ day ≤ 31)
    (momentOf : Date → Moment)
    (components : List (String × Int)) :
    Rules field earlier
      (Check.composeMoment (.text field) year month day momentOf components)
      () (Ruling.composed field year month day momentOf components) := by
  unfold Check.yearOverflow at yearInside
  unfold Check.composeMoment Ruling.composed Check.yearOverflow
  dsimp only
  rw [if_neg (by omega)]
  cases Date.ofComponents? year month day with
  | some date =>
      refine (setValue field _).bind_ruling (bind_partKey ?_)
      refine bind_ruling (setValue _ _) (bind_partKey ?_)
      exact setValue _ _
  | none =>
      refine bind_lift
        (Number.integerText_of_isWritable
          (Number.isWritable_of_lt (by omega))) ?_
      refine bind_lift
        (Number.integerText_of_isWritable
          (Number.isWritable_of_lt (by omega))) ?_
      refine bind_lift
        (Number.integerText_of_isWritable
          (Number.isWritable_of_lt (by omega))) ?_
      exact reject field _

/-- The components of a date are checked, each under its key. -/
theorem dateComponents
    {environment : Environment}
    {earliest latest : Int}
    (years : environment.BoundsYears .null .null earliest latest)
    {inputs : DateInputs}
    (fit : inputs.FitInto environment.memory)
    (answerable :
      inputs.year.IsAnswerable (some earliest) (some latest)) :
    Rules field []
      (Check.dateComponents environment inputs.year inputs.month inputs.day
        (.text field))
      () (Ruling.dateComponents field earliest latest inputs) := by
  have small : Number.isWritable 1 = true :=
    Number.isWritable_of_lt (by decide)
  unfold Check.dateComponents Ruling.dateComponents
  refine bind_partKey (bind_ruling
    (of_part (year years fit.year answerable) ?_) ?_)
  · exact List.forall_mem_nil _
  refine bind_partKey (bind_ruling (of_part (clampedRange fit.month small
    (Number.isWritable_of_lt (by decide))) ?_) ?_)
  · refine List.forall_mem_singleton.mpr ?_
    exact (Value.BelongsTo.self _).not_of_apart (by decide) (by decide)
  refine bind_partKey (of_part (clampedRange fit.day small
    (Number.isWritable_of_lt (by decide))) ?_)
  refine List.forall_mem_cons.mpr ⟨?_, List.forall_mem_singleton.mpr ?_⟩
  · exact (Value.BelongsTo.self _).not_of_apart (by decide) (by decide)
  · exact (Value.BelongsTo.self _).not_of_apart (by decide) (by decide)

/-- A date is stored if its components make one. -/
theorem fullDate
    {environment : Environment}
    {earliest latest : Int}
    (years : environment.BoundsYears .null .null earliest latest)
    {inputs : DateInputs}
    (bearable : inputs.AreBearable environment.memory earliest latest) :
    Rules field []
      (Check.fullDate environment inputs.year inputs.month inputs.day
        (.text field))
      () (Ruling.fullDate field earliest latest inputs) := by
  unfold Check.fullDate Ruling.fullDate
  refine (dateComponents years bearable.fit bearable.answerable).bind ?_
  refine bind_silent (anyPartFailed _) ?_
  rw [List.nil_append, Ruling.any_failsAt_dateComponents]
  cases found : inputs.components? earliest latest with
  | none =>
      exact pure ()
  | some components =>
      obtain ⟨year, month, day⟩ := components
      have inside := DateInputs.components?_eq_some_iff.mp found
      simp only [Value.integerWithin?_eq_some_iff] at inside
      obtain ⟨⟨_, inYears⟩, ⟨_, inMonths⟩, _, inDays⟩ := inside
      have early := years.earliest_le
      have distinct : ["year", "month", "day"].Nodup := by
        decide
      rw [Ruling.dateComponents_of_some found]
      refine bind_silent (acceptedPart distinct (.head _)) ?_
      refine bind_silent (acceptedPart distinct (.tail _ (.head _))) ?_
      refine bind_silent
        (acceptedPart distinct (.tail _ (.tail _ (.head _)))) ?_
      have isSmall : year < Check.yearOverflow :=
        Int.not_le.mp fun isLarge =>
          bearable.calm ⟨_, _, _, found, isLarge⟩
      unfold Check.earliestYear at early
      refine composeMoment ⟨?_, isSmall⟩ inMonths inDays _ _
      unfold Check.yearOverflow
      omega

/-- Whether there are values under two keys that were both accepted. -/
theorem haveValues
    {first second : String}
    {firstVerdict secondVerdict : Option Value}
    (derived : Report.startsWith first (field ++ "_") = true)
    (derivedToo : Report.startsWith second (field ++ "_") = true)
    (decided :
      Ruling.verdictAt? first earlier = firstVerdict.map .accepted)
    (decidedToo :
      Ruling.verdictAt? second earlier = secondVerdict.map .accepted) :
    Rules field earlier
      (Check.haveValues (.text first) (.text second))
      (firstVerdict.isSome && secondVerdict.isSome) [] := by
  unfold Check.haveValues
  cases firstVerdict with
  | none =>
      exact bind_silent (hasValue_of_undecided derived decided) (pure false)
  | some value =>
      refine bind_silent (hasValue_of_accepted decided) ?_
      cases secondVerdict with
      | none =>
          exact hasValue_of_undecided derivedToo decidedToo
      | some value =>
          exact hasValue_of_accepted decidedToo

/-- Two dates are stored as a range if the second is not before the first. -/
theorem dateRange
    {environment : Environment}
    {earliest latest : Int}
    (years : environment.BoundsYears .null .null earliest latest)
    {start finish : DateInputs}
    (startBearable : start.AreBearable environment.memory earliest latest)
    (finishBearable : finish.AreBearable environment.memory earliest latest) :
    Rules field []
      (Check.dateRange environment start.year start.month start.day
        finish.year finish.month finish.day (.text field))
      () (Ruling.dateRange field earliest latest start finish) := by
  let startRulings :=
    Ruling.fullDate (field ++ "_" ++ "start") earliest latest start
  let finishRulings :=
    Ruling.fullDate (field ++ "_" ++ "end") earliest latest finish
  have startRules :
      Rules field []
        (Check.fullDate environment start.year start.month start.day
          (.text (field ++ "_" ++ "start")))
        () startRulings :=
    of_part (fullDate years startBearable) (List.forall_mem_nil _)
  have finishRules :
      Rules field ([] ++ startRulings)
        (Check.fullDate environment finish.year finish.month finish.day
          (.text (field ++ "_" ++ "end")))
        () finishRulings := by
    refine of_part (fullDate years finishBearable) fun ruling member => ?_
    exact (Ruling.belongsTo_of_mem_fullDate member).not_of_apart
      (by decide) (by decide)
  have startDecided :
      Ruling.verdictAt? (field ++ "_" ++ "start" ++ "_" ++ "timestamp")
          ([] ++ startRulings ++ finishRulings) =
        ((start.date? earliest latest).map fun date =>
          Value.int date.timestamp).map .accepted := by
    rw [List.nil_append, Ruling.verdictAt?_append,
      Ruling.timestampAt_fullDate_of_part (by decide) (by decide),
      Option.none_or, Ruling.timestampAt_fullDate, Option.map_map]
    rfl
  have finishDecided :
      Ruling.verdictAt? (field ++ "_" ++ "end" ++ "_" ++ "timestamp")
          ([] ++ startRulings ++ finishRulings) =
        ((finish.date? earliest latest).map fun date =>
          Value.int date.timestamp).map .accepted := by
    rw [List.nil_append, Ruling.verdictAt?_append,
      Ruling.timestampAt_fullDate,
      Ruling.timestampAt_fullDate_of_part (by decide) (by decide),
      Option.or_none, Option.map_map]
    rfl
  have derived
      (part : String) :
      Report.startsWith (field ++ "_" ++ part ++ "_" ++ "timestamp")
          (field ++ "_") =
        true := by
    obtain ⟨_, same, starts⟩ :=
      (Value.BelongsTo.part (field ++ "_" ++ part)
        "timestamp").derived_of_part
    cases same
    exact starts
  unfold Check.dateRange Ruling.dateRange
  refine bind_partKey (startRules.bind ?_)
  refine bind_partKey (finishRules.bind ?_)
  refine bind_partKey (bind_partKey ?_)
  refine bind_silent
    (haveValues (derived _) (derived _) startDecided finishDecided) ?_
  cases foundStart : start.date? earliest latest with
  | none =>
      exact pure ()
  | some first =>
      cases foundFinish : finish.date? earliest latest with
      | none =>
          exact pure ()
      | some last =>
          rw [foundStart] at startDecided
          rw [foundFinish] at finishDecided
          refine bind_silent (value startDecided) ?_
          refine bind_silent (value finishDecided) ?_
          refine bind_lift (Value.less_int ..) ?_
          unfold Verdict.provided
          by_cases reversed : last.timestamp < first.timestamp
          · simp only [reversed, decide_true, ↓reduceIte,
              Int.not_le.mpr reversed]
            exact reject field _
          · simp only [reversed, decide_false, Bool.false_eq_true,
              ↓reduceIte, Int.not_lt.mp reversed]
            exact setValue field _

end Check.Rules

end FormCheck
