import FormCheck.Proofs.Check.Demand
import FormCheck.Proofs.Check.Failing
import FormCheck.Proofs.Check.Reading
import FormCheck.Proofs.DayCount

namespace FormCheck

/-!
# Timestamps of submitted moments

A moment is submitted as a date, or as a date and a time of day. The call that
checks it succeeds exactly if the components denote a moment that exists in a
year within bounds. Then it stores the timestamp that the calendar gives, so the
timestamps of two calls are ordered as their components.
-/

/-- What is submitted for a moment: a date, or a date and a time of day. -/
inductive MomentInputs where
  | date (inputs : DateInputs)
  | dateTime (inputs : DateInputs) (time : TimeInputs)

namespace MomentInputs

/-- The names of the components that are submitted. -/
def names : MomentInputs → List String
  | .date _ => ["year", "month", "day"]
  | .dateTime _ _ => ["year", "month", "day", "hour", "minute", "second"]

/-- The check of what is submitted, under the key of a field. -/
def check
    (environment : Environment)
    (field : String) : MomentInputs → Check Unit
  | .date inputs =>
      Check.fullDate environment inputs.year inputs.month inputs.day
        (.text field)
  | .dateTime inputs time =>
      Check.fullDateTime environment inputs.year inputs.month inputs.day
        time.hour time.minute time.second (.text field)

/-- The components of a moment that are submitted for it, each with its name. -/
def components
    (moment : Moment) : MomentInputs → List (String × Int)
  | .date _ =>
      [("year", moment.date.year), ("month", moment.date.month),
        ("day", moment.date.day)]
  | .dateTime _ _ =>
      [("year", moment.date.year), ("month", moment.date.month),
        ("day", moment.date.day), ("hour", moment.hour),
        ("minute", moment.minute), ("second", moment.second)]

/-- The components of a moment that are submitted for it, in order. -/
def integers
    (inputs : MomentInputs)
    (moment : Moment) : List Int :=
  (inputs.components moment).map Prod.snd

/--
Inputs denote a moment if they write its components. A date denotes the moment
that it begins.
-/
inductive Denote : MomentInputs → Moment → Prop where
  | date
      {inputs : DateInputs}
      {date : Date}
      (isDate : inputs.Denote date) :
      Denote (.date inputs) ⟨date, 0, 0, 0⟩
  | dateTime
      {inputs : DateInputs}
      {time : TimeInputs}
      {moment : Moment}
      (isDate : inputs.Denote moment.date)
      (hour : time.hour.toInt? = some (moment.hour : Int))
      (minute : time.minute.toInt? = some (moment.minute : Int))
      (second : time.second.toInt? = some (moment.second : Int)) :
      Denote (.dateTime inputs time) moment

/-- Inputs make a moment if they denote one that exists, in a year within bounds. -/
structure Make
    (inputs : MomentInputs)
    (earliest latest : Int)
    (moment : Moment) : Prop where
  denotes : inputs.Denote moment
  actual : moment.IsActual
  years : earliest ≤ moment.date.year ∧ moment.date.year ≤ latest

/-- What is submitted fits into a memory if each component does. -/
def FitInto
    (memory : Memory) : MomentInputs → Prop
  | .date inputs => inputs.FitInto memory
  | .dateTime inputs time => inputs.FitInto memory ∧ time.FitInto memory

/-- The rulings on a submitted moment. -/
def rulings
    (field : String)
    (earliest latest : Int) : MomentInputs → List Ruling
  | .date inputs => Ruling.fullDate field earliest latest inputs
  | .dateTime inputs time =>
      Ruling.fullDateTime field earliest latest inputs time

section Rulings

variable
  {field : String}
  {earliest latest : Int}
  {inputs : MomentInputs}
  {moment : Moment}

/-- The check of a moment makes the rulings on it. -/
theorem rules
    {environment : Environment}
    (years : environment.HasYears .null .null earliest latest)
    (bounded : latest < Check.yearOverflow)
    (fit : inputs.FitInto environment.memory) :
    Check.Rules field [] (inputs.check environment field) ()
      (inputs.rulings field earliest latest) := by
  cases inputs with
  | date inputs =>
      exact .fullDate years.toBoundsYears (fit.areBearable years bounded)
  | dateTime inputs time =>
      exact .fullDateTime years.toBoundsYears
        (fit.1.areBearable years bounded) fit.2

/-- The check of a moment demands that what is submitted fits. -/
theorem demands
    (environment : Environment)
    (field : String)
    (inputs : MomentInputs) :
    Check.Demands (inputs.FitInto environment.memory)
      (inputs.check environment field) := by
  cases inputs with
  | date inputs =>
      exact .fullDate inputs _
  | dateTime inputs time =>
      exact .fullDateTime inputs time _

/-- The components of a moment that exists fit into any memory. -/
theorem Denote.fitInto
    (denotes : inputs.Denote moment)
    (actual : moment.IsActual)
    (memory : Memory) :
    inputs.FitInto memory := by
  have inHour := actual.hour
  have inMinute := actual.minute
  have inSecond := actual.second
  cases denotes with
  | date isDate =>
      exact isDate.fitInto actual.date memory
  | dateTime isDate hour minute second =>
      exact ⟨isDate.fitInto actual.date memory,
        { hour := Value.fitsInto_of_lt hour (by omega)
          minute := Value.fitsInto_of_lt minute (by omega)
          second := Value.fitsInto_of_lt second (by omega) }⟩

/-- A time that exists lies within the bounds of its components. -/
theorem components?_of_denote
    {time : TimeInputs}
    (actual : moment.IsActual)
    (hour : time.hour.toInt? = some (moment.hour : Int))
    (minute : time.minute.toInt? = some (moment.minute : Int))
    (second : time.second.toInt? = some (moment.second : Int)) :
    time.components? =
      some ((moment.hour : Int), (moment.minute : Int),
        (moment.second : Int)) := by
  have inHour := actual.hour
  have inMinute := actual.minute
  have inSecond := actual.second
  rw [TimeInputs.components?_eq_some_iff]
  simp only [Value.integerWithin?_eq_some_iff]
  exact ⟨⟨hour, by omega⟩, ⟨minute, by omega⟩, second, by omega⟩

/-- Inputs that make a moment have their components and the moment accepted. -/
theorem rulings_of_make
    (makes : inputs.Make earliest latest moment) :
    inputs.rulings field earliest latest =
      Ruling.accepting field (inputs.components moment) ++
        Ruling.moment field moment
          (Check.componentsValue (inputs.components moment)) := by
  have actual := makes.actual.date
  have isDate :
      Date.ofComponents? moment.date.year moment.date.month
          moment.date.day =
        some moment.date :=
    Date.ofComponents?_eq_some_iff.mpr ⟨actual, rfl, rfl, rfl⟩
  cases makes.denotes with
  | @date inputs date denotes =>
      have found := denotes.components? actual makes.years
      change Ruling.fullDate field earliest latest inputs = _
      unfold Ruling.fullDate
      rw [Ruling.dateComponents_of_some found]
      simp only [found, Ruling.composed, isDate]
      rfl
  | @dateTime inputs time _ denotes hour minute second =>
      have found := denotes.components? actual makes.years
      have foundTime :=
        components?_of_denote makes.actual hour minute second
      change Ruling.fullDateTime field earliest latest inputs time = _
      unfold Ruling.fullDateTime
      rw [Ruling.dateComponents_of_some found,
        Ruling.timeComponents_of_some foundTime]
      simp only [found, foundTime, Ruling.composed, isDate, Int.toNat_natCast]
      rfl

/-- Inputs whose rulings reject nothing make a moment. -/
theorem exists_make_of_passed
    (passed :
      Ruling.someFails (inputs.rulings field earliest latest) = false) :
    ∃ moment, inputs.Make earliest latest moment := by
  cases inputs with
  | date inputs =>
      unfold rulings at passed
      rw [Ruling.someFails_fullDate, Option.isNone_eq_false_iff,
        Option.isSome_iff_exists] at passed
      obtain ⟨date, isDate⟩ := passed
      obtain ⟨denotes, actual, years⟩ :=
        DateInputs.date?_eq_some_iff.mp isDate
      exact ⟨⟨date, 0, 0, 0⟩,
        { denotes := .date denotes
          actual :=
            { date := actual
              hour := Nat.zero_le _
              minute := Nat.zero_le _
              second := Nat.zero_le _ }
          years := years }⟩
  | dateTime inputs time =>
      unfold rulings at passed
      rw [Ruling.someFails_fullDateTime, Bool.or_eq_false_iff,
        Option.isNone_eq_false_iff, Option.isNone_eq_false_iff,
        Option.isSome_iff_exists, Option.isSome_iff_exists] at passed
      obtain ⟨⟨date, isDate⟩, ⟨hour, minute, second⟩, isTime⟩ := passed
      obtain ⟨denotes, actual, years⟩ :=
        DateInputs.date?_eq_some_iff.mp isDate
      rw [TimeInputs.components?_eq_some_iff] at isTime
      simp only [Value.integerWithin?_eq_some_iff] at isTime
      obtain ⟨⟨isHour, inHour⟩, ⟨isMinute, inMinute⟩, isSecond, inSecond⟩ :=
        isTime
      lift hour to Nat using inHour.1
      lift minute to Nat using inMinute.1
      lift second to Nat using inSecond.1
      exact ⟨⟨date, hour, minute, second⟩,
        { denotes := .dateTime denotes isHour isMinute isSecond
          actual :=
            { date := actual
              hour := by dsimp only; omega
              minute := by dsimp only; omega
              second := by dsimp only; omega }
          years := years }⟩

end Rulings

/-- Where no year is accepted, the check of a moment fails. -/
theorem failsOn_of_crossed
    {environment : Environment}
    {minimal least greatest : Int}
    (crossed : greatest < least)
    (isMinimal : environment.settings.minimalYear = .int minimal)
    (isLeast : least = max Check.earliestYear minimal)
    (isGreatest : environment.lastYear = .ok (.int greatest))
    (inputs : MomentInputs)
    (field : String) :
    (inputs.check environment field).FailsOn .empty := by
  have fails (submitted : DateInputs) :=
    Check.FailsOn.dateComponents crossed isMinimal isLeast isGreatest
      submitted field
  cases inputs with
  | date submitted =>
      exact (fails submitted).bind _
  | dateTime submitted time =>
      exact (fails submitted).bind _

/-- The check of a moment reads the keys of its components. -/
theorem reads
    {owned : Value → Prop}
    {field : String}
    {inputs : MomentInputs}
    (partsOwned :
      ∀ name ∈ inputs.names, owned (.text (field ++ "_" ++ name)))
    (environment : Environment) :
    (inputs.check environment field).Reads owned := by
  cases inputs with
  | date submitted =>
      exact .fullDate partsOwned ..
  | dateTime submitted time =>
      exact .fullDateTime partsOwned ..

/-- The components of moments that are submitted alike are ordered as all are. -/
theorem integers_lt_iff
    {first last : MomentInputs}
    {moment other : Moment}
    (alike : first.names = last.names)
    (denotes : first.Denote moment)
    (otherDenotes : last.Denote other) :
    first.integers moment < last.integers other ↔
      moment.components < other.components := by
  cases denotes with
  | date =>
      cases otherDenotes with
      | date =>
          simp [integers, components, Moment.components,
            List.cons_lt_cons_iff]
      | dateTime =>
          cases alike
  | dateTime =>
      cases otherDenotes with
      | date =>
          cases alike
      | dateTime =>
          rfl

/-- What is submitted alike has the same components of a moment. -/
theorem integers_of_alike
    {first last : MomentInputs}
    (alike : first.names = last.names)
    (moment : Moment) :
    first.integers moment = last.integers moment := by
  cases first with
  | date =>
      cases last with
      | date =>
          rfl
      | dateTime =>
          cases alike
  | dateTime =>
      cases last with
      | date =>
          cases alike
      | dateTime =>
          rfl

end MomentInputs

/-- A call of the check of a moment, on some result. -/
structure MomentCall where
  environment : Environment
  field : String
  inputs : MomentInputs
  result : Result

namespace MomentCall

/-- What the call records, and how it ends. -/
def journal
    (call : MomentCall) : Journal Entry Unit :=
  call.inputs.check call.environment call.field call.result

/-- The result that the call leaves. -/
def after
    (call : MomentCall) : Result :=
  call.result.extend call.journal.written

/--
A call is proper if the settings for years are integers that do not lead too far
into the future, and its result shows nothing under the keys of the components.
-/
structure IsProper
    (call : MomentCall)
    (minimal future : Int) : Prop where
  minimalYear : call.environment.settings.minimalYear = .int minimal
  futureYears : call.environment.settings.futureYears = .int future
  bounded : call.environment.today.year + future < Check.yearOverflow
  blank :
    ∀ name ∈ call.inputs.names,
      call.result.value? (.text (call.field ++ "_" ++ name)) = none ∧
        call.result.errorsAt (.text (call.field ++ "_" ++ name)) = []

/-- A call succeeds if it stores something under its field and records no message. -/
structure Succeeds
    (call : MomentCall) : Prop where
  answers : call.journal.ended = .ok ()
  stores : call.after.hasValue (.text call.field) = true
  flawless : ∀ entry ∈ call.journal.written, entry.isError = false

/-- What is submitted makes a moment, by the settings for years. -/
def Makes
    (call : MomentCall)
    (minimal future : Int)
    (moment : Moment) : Prop :=
  call.inputs.Make (max Check.earliestYear minimal)
    (call.environment.today.year + future) moment

/-- A call stores a moment: its timestamp, its components, and both together. -/
structure Stores
    (call : MomentCall)
    (moment : Moment)
    (timestamp : Int) : Prop where
  whole :
    call.after.value? (.text call.field) =
      some
        (.record
          [("timestamp", .int timestamp),
            ("components",
              Check.componentsValue (call.inputs.components moment))])
  timestamp :
    call.after.value? (.text (call.field ++ "_" ++ "timestamp")) =
      some (.int timestamp)
  components :
    call.after.value? (.text (call.field ++ "_" ++ "components")) =
      some (Check.componentsValue (call.inputs.components moment))
  parts :
    ∀ name number,
      (name, number) ∈ call.inputs.components moment →
        call.after.value? (.text (call.field ++ "_" ++ name)) =
          some (.int number)

section Calls

variable
  {call : MomentCall}
  {minimal future : Int}
  {moment : Moment}

/-- A proper call records what it would on the empty result. -/
theorem IsProper.journal_eq
    (proper : call.IsProper minimal future) :
    call.journal =
      call.inputs.check call.environment call.field .empty := by
  let owned (key : Value) : Prop :=
    ∃ name ∈ call.inputs.names, key = .text (call.field ++ "_" ++ name)
  have reads : (call.inputs.check call.environment call.field).Reads owned :=
    MomentInputs.reads (fun name member => ⟨name, member, rfl⟩) _
  apply reads.depends
  rintro _ ⟨name, member, rfl⟩
  exact proper.blank name member

/-- The last year of a proper call. -/
theorem IsProper.lastYear
    (proper : call.IsProper minimal future) :
    call.environment.lastYear =
      .ok (.int (call.environment.today.year + future)) :=
  Environment.lastYear_eq proper.futureYears

/-- A proper call has bounds for years that can be written, or accepts no year. -/
theorem IsProper.hasYears
    (proper : call.IsProper minimal future)
    (possible :
      max Check.earliestYear minimal ≤
        call.environment.today.year + future) :
    call.environment.HasYears .null .null
      (max Check.earliestYear minimal)
      (call.environment.today.year + future) := by
  have bounded := proper.bounded
  have early : Check.earliestYear ≤ max Check.earliestYear minimal :=
    Int.le_max_left ..
  unfold Check.yearOverflow at bounded
  unfold Check.earliestYear at early possible ⊢
  exact
    { lowest := ⟨minimal, proper.minimalYear, rfl⟩
      highest := .inr ⟨rfl, proper.lastYear⟩
      earliestWritable := Number.isWritable_of_lt (by omega)
      latestWritable := Number.isWritable_of_lt (by omega) }

/--
Where some year is accepted and everything fits, a proper call answers and spells its
rulings.
-/
theorem IsProper.exists_spell
    (proper : call.IsProper minimal future)
    (fit : call.inputs.FitInto call.environment.memory)
    (possible :
      max Check.earliestYear minimal ≤
        call.environment.today.year + future) :
    call.journal.ended = .ok () ∧
      Ruling.Spell call.journal.written
        (call.inputs.rulings call.field (max Check.earliestYear minimal)
          (call.environment.today.year + future)) := by
  have rules :
      Check.Rules call.field [] _ () _ :=
    MomentInputs.rules (proper.hasYears possible) proper.bounded fit
  obtain ⟨written, ruled, spell⟩ := rules.spells (.empty call.field) .nil
  rw [Result.extend_nil, ← proper.journal_eq] at ruled
  rw [ruled]
  exact ⟨rfl, spell⟩

/-- What makes a moment fits. -/
theorem Makes.fitInto
    (makes : call.Makes minimal future moment) :
    call.inputs.FitInto call.environment.memory :=
  makes.denotes.fitInto makes.actual call.environment.memory

/-- What makes a moment shows that some year is accepted. -/
theorem Makes.possible
    (makes : call.Makes minimal future moment) :
    max Check.earliestYear minimal ≤
      call.environment.today.year + future :=
  makes.years.1.trans makes.years.2

/-- A call that makes a moment stores it. -/
theorem IsProper.stores
    (proper : call.IsProper minimal future)
    (makes : call.Makes minimal future moment) :
    call.Stores moment moment.timestamp := by
  obtain ⟨_, spell⟩ := proper.exists_spell makes.fitInto makes.possible
  rw [MomentInputs.rulings_of_make makes] at spell
  have named :
      ∀ name ∈ call.inputs.names, name ≠ "timestamp" ∧ name ≠ "components" := by
    cases call.inputs <;> simp [MomentInputs.names]
  have isNamed :
      (call.inputs.components moment).map Prod.fst = call.inputs.names := by
    cases call.inputs <;> rfl
  have distinct : call.inputs.names.Nodup := by
    cases call.inputs <;> simp [MomentInputs.names]
  have partOf (part : String) : call.field ≠ call.field ++ "_" ++ part :=
    Ne.symm (Ruling.part_ne _ _)
  refine
    { whole := spell.value?_of_accepted _ ?_
      timestamp := spell.value?_of_accepted _ ?_
      components := spell.value?_of_accepted _ ?_
      parts := fun name number member => spell.value?_of_accepted _ ?_ }
  · rw [Ruling.verdictAt?_append]
    simp [Ruling.moment, Ruling.verdictAt?]
  · rw [Ruling.verdictAt?_append]
    simp [Ruling.moment, Ruling.verdictAt?, partOf]
  · rw [Ruling.verdictAt?_append]
    simp [Ruling.moment, Ruling.verdictAt?, partOf]
  · have isName : name ∈ call.inputs.names := by
      rw [← isNamed]
      exact List.mem_map_of_mem member
    have none :
        Ruling.verdictAt? (call.field ++ "_" ++ name)
            (Ruling.moment call.field moment
              (Check.componentsValue (call.inputs.components moment))) =
          none := by
      obtain ⟨notTimestamp, notComponents⟩ := named name isName
      simp [Ruling.moment, Ruling.verdictAt?, partOf, notTimestamp.symm,
        notComponents.symm]
    rw [Ruling.verdictAt?_append, none, Option.none_or]
    exact Ruling.verdictAt?_accepting (isNamed ▸ distinct) member

/-- A proper call succeeds exactly if what is submitted makes a moment. -/
theorem IsProper.succeeds_iff
    (proper : call.IsProper minimal future) :
    call.Succeeds ↔ ∃ moment, call.Makes minimal future moment := by
  constructor
  · intro succeeds
    have possible :
        max Check.earliestYear minimal ≤
          call.environment.today.year + future := by
      by_contra crossed
      have fails :=
        call.inputs.failsOn_of_crossed (Int.not_le.mp crossed)
          proper.minimalYear rfl proper.lastYear call.field
      unfold Check.FailsOn at fails
      rw [← proper.journal_eq] at fails
      rcases fails with ⟨fault, stopped⟩ | ⟨entry, member, isError⟩
      · rw [succeeds.answers] at stopped
        cases stopped
      · rw [succeeds.flawless entry member] at isError
        cases isError
    have fit : call.inputs.FitInto call.environment.memory :=
      (call.inputs.demands ..).holds _ () succeeds.answers
    obtain ⟨_, spell⟩ := proper.exists_spell fit possible
    apply MomentInputs.exists_make_of_passed
    exact spell.flawless_iff.mp succeeds.flawless
  · rintro ⟨moment, makes⟩
    obtain ⟨answers, spell⟩ :=
      proper.exists_spell makes.fitInto makes.possible
    have stored := (proper.stores makes).whole
    have passed :
        Ruling.someFails
            (call.inputs.rulings call.field
              (max Check.earliestYear minimal)
              (call.environment.today.year + future)) =
          false := by
      rw [MomentInputs.rulings_of_make makes]
      simp [Ruling.accepting, Ruling.moment, Ruling.someFails,
        Verdict.isRejected]
    exact
      { answers := answers
        stores := by
          rw [Result.hasValue, stored]
          rfl
        flawless := spell.flawless_iff.mpr passed }

/--
A proper call succeeds exactly if the components denote a moment that exists in a
year within bounds. Then it stores the timestamp that counts the days from 1970
to the date and the seconds of its day, beside the components. And of two calls
that are submitted alike the one with the earlier components has the smaller
timestamp, so that only the same components have the same timestamp.
-/
theorem timestamp_of_call
    (proper : call.IsProper minimal future) :
    (call.Succeeds ↔ ∃ moment, call.Makes minimal future moment) ∧
      (∀ moment,
        call.Makes minimal future moment →
          ∃ days,
            moment.date.LiesAfter Date.epoch days ∧
              call.Stores moment
                (86400 * days +
                  (3600 * moment.hour + 60 * moment.minute +
                    moment.second))) ∧
        ∀ (other : MomentCall) (otherMinimal otherFuture : Int)
          (first last : Moment),
          other.IsProper otherMinimal otherFuture →
            call.inputs.names = other.inputs.names →
              call.Makes minimal future first →
                other.Makes otherMinimal otherFuture last →
                  ∃ earlier later,
                    call.Stores first earlier ∧
                      other.Stores last later ∧
                        (earlier < later ↔
                          call.inputs.integers first <
                            other.inputs.integers last) ∧
                          (earlier = later →
                            call.inputs.integers first =
                              other.inputs.integers last) := by
  refine ⟨proper.succeeds_iff, fun moment makes => ?_, ?_⟩
  · have actual := makes.actual.date
    have after := (Date.liesAfter_epoch_iff actual).mpr rfl
    refine ⟨moment.date.dayNumber, after, ?_⟩
    rw [← Moment.timestamp_eq_of_liesAfter actual after]
    exact proper.stores makes
  · intro other otherMinimal otherFuture first last otherProper alike makes
      otherMakes
    refine ⟨first.timestamp, last.timestamp, proper.stores makes,
      otherProper.stores otherMakes, ?_, fun same => ?_⟩
    · rw [Moment.timestamp_lt_iff makes.actual otherMakes.actual,
        MomentInputs.integers_lt_iff alike makes.denotes otherMakes.denotes]
    · obtain rfl :=
        Moment.eq_of_timestamp_eq makes.actual otherMakes.actual same
      exact MomentInputs.integers_of_alike alike first

end Calls

/-- A call for the last second of 1969, on a result with entries elsewhere. -/
def eveCall : MomentCall where
  environment := ⟨{ minimalYear := .int 1900 }, ⟨2024, 5, 1⟩, .ample⟩
  field := "when"
  inputs :=
    .dateTime ⟨.text "1969", .text "12", .int 31⟩
      ⟨.text " 23 ", .text "59", .text "5.9e1"⟩
  result :=
    ⟨[.error (.text "when_zone") (.text "Unknown zone."),
      .value (.text "name") .null]⟩

/-- The last second of 1969. -/
def eve : Moment :=
  ⟨⟨1969, 12, 31⟩, 23, 59, 59⟩

/-- What is submitted makes the last second of 1969. -/
theorem makes_eve :
    eveCall.Makes 1900 5 eve where
  denotes :=
    .dateTime
      { year := by decide +kernel
        month := by decide +kernel
        day := by decide +kernel }
      (by decide +kernel) (by decide +kernel) (by decide +kernel)
  actual :=
    { date := by decide
      hour := by decide
      minute := by decide
      second := by decide }
  years := by decide

/-- The call succeeds, with the timestamp before that of 1970. -/
theorem timestamp_of_call_eve :
    eveCall.IsProper 1900 5 ∧ eveCall.Succeeds ∧
      eveCall.Stores eve (-1) := by
  have proper : eveCall.IsProper 1900 5 :=
    { minimalYear := rfl
      futureYears := rfl
      bounded := by decide
      blank := by
        simp [eveCall, MomentInputs.names, Result.value?, Result.errorsAt,
          Entry.valueAt?, Entry.messageAt?] }
  obtain ⟨succeeds, stores, _⟩ := timestamp_of_call proper
  obtain ⟨days, after, stored⟩ := stores eve makes_eve
  obtain rfl : days = -1 :=
    (Date.liesAfter_epoch_iff makes_eve.actual.date).mp after
  exact ⟨proper, succeeds.mpr ⟨eve, makes_eve⟩, stored⟩

end MomentCall

end FormCheck
