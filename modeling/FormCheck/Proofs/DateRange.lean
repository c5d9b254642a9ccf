import FormCheck.Proofs.Check.LastEntry
import FormCheck.Proofs.Check.Need
import FormCheck.Proofs.DateFaults
import FormCheck.Proofs.DayCount

namespace FormCheck

/-!
# What the check of a date range reports

Two dates are checked under keys of their own, whatever is wrong with either, and
only two dates that exist are compared. So the check complains exactly about what
is wrong: a component outside its bounds, components of no existing date, or an
end before the start. It does so once under each key, and stores a range only
if nothing is wrong. It stops on the way if what is submitted cannot be borne, as an
integer that does not fit into the memory.
-/

/-- A call of the check of a date range, on some result. -/
structure RangeCall where
  environment : Environment
  field : String
  start : DateInputs
  finish : DateInputs
  result : Result

namespace RangeCall

/-- What the call records, and how it ends. -/
def journal
    (call : RangeCall) : Journal Entry Unit :=
  Check.dateRange call.environment call.start.year call.start.month
    call.start.day call.finish.year call.finish.month call.finish.day
    (.text call.field) call.result

/-- The result that the call leaves. -/
def after
    (call : RangeCall) : Result :=
  call.result.extend call.journal.written

/-- The rulings on the two dates of the call. -/
def rulings
    (call : RangeCall)
    (earliest latest : Int) : List Ruling :=
  Ruling.dateRange call.field earliest latest call.start call.finish

/--
A call is proper if the bounds for years are integers and its result shows nothing
under the keys of its field.
-/
structure IsProper
    (call : RangeCall)
    (earliest latest : Int) : Prop where
  years : call.environment.BoundsYears .null .null earliest latest
  blank :
    ∀ key : Value,
      key.BelongsTo call.field →
        call.result.value? key = none ∧ call.result.errorsAt key = []

/-- What is submitted can be borne if both dates can. -/
structure IsBearable
    (call : RangeCall)
    (earliest latest : Int) : Prop where
  start : call.start.AreBearable call.environment.memory earliest latest
  finish : call.finish.AreBearable call.environment.memory earliest latest

/-- Both dates exist, and the end is not before the start. -/
structure Makes
    (call : RangeCall)
    (earliest latest : Int)
    (first last : Date) : Prop where
  start : call.start.Make earliest latest first
  finish : call.finish.Make earliest latest last
  ordered : last.before first = false

/-- What is wrong with the dates of a call, each by the key that it concerns. -/
inductive IsWrong
    (call : RangeCall)
    (earliest latest : Int) : String → Prop where
  | startPart
      {part : String}
      (wrong : call.start.HasWrong earliest latest part) :
      IsWrong call earliest latest (call.field ++ "_" ++ "start" ++ "_" ++ part)
  | endPart
      {part : String}
      (wrong : call.finish.HasWrong earliest latest part) :
      IsWrong call earliest latest (call.field ++ "_" ++ "end" ++ "_" ++ part)
  | start
      (noDate : call.start.IsNoDate earliest latest) :
      IsWrong call earliest latest (call.field ++ "_" ++ "start")
  | finish
      (noDate : call.finish.IsNoDate earliest latest) :
      IsWrong call earliest latest (call.field ++ "_" ++ "end")
  | reversed
      {first last : Date}
      (start : call.start.Make earliest latest first)
      (finish : call.finish.Make earliest latest last)
      (isBefore : last.before first = true) :
      IsWrong call earliest latest call.field

/-- A call stores a range: a pair in order, with no message beside it. -/
structure Stores
    (call : RangeCall)
    (earlier later : Int) : Prop where
  pair :
    call.after.value? (.text call.field) =
      some (.tuple [.int earlier, .int later])
  ordered : earlier ≤ later
  flawless : ∀ entry ∈ call.journal.written, entry.isError = false

section Calls

variable
  {call : RangeCall}
  {earliest latest : Int}

/-- The result of a proper call is fresh for its field. -/
theorem IsProper.fresh
    (proper : call.IsProper earliest latest) :
    call.result.FreshFor call.field where
  clean := by
    intro key belongs
    rw [Result.hasErrorsAt, (proper.blank key belongs).2]
    rfl
  blank := fun characters derived =>
    (proper.blank _ ⟨characters, rfl, .inr derived⟩).1

/-- A proper call answers and spells its rulings if it can bear what is submitted. -/
theorem IsProper.exists_spell
    (proper : call.IsProper earliest latest)
    (bearable : call.IsBearable earliest latest) :
    call.journal.ended = .ok () ∧
      Ruling.Spell call.journal.written (call.rulings earliest latest) := by
  have rules :
      Check.Rules call.field [] _ () _ :=
    .dateRange proper.years bearable.start bearable.finish
  obtain ⟨written, ruled, spell⟩ := rules.spells proper.fresh .nil
  rw [Result.extend_nil] at ruled
  unfold journal
  rw [ruled]
  exact ⟨rfl, spell⟩

/-- A proper call answers exactly if it can bear what is submitted. -/
theorem IsProper.answers_iff_isBearable
    (proper : call.IsProper earliest latest) :
    call.journal.ended = .ok () ↔ call.IsBearable earliest latest := by
  constructor
  · intro answered
    have needs :
        Check.Needs call.field [] _ _ :=
      .dateRange proper.years call.start call.finish
    unfold journal at answered
    rw [← Result.extend_nil call.result] at answered
    obtain ⟨start, finish⟩ := needs.holds proper.fresh .nil answered
    exact ⟨start, finish⟩
  · exact fun bearable => (proper.exists_spell bearable).1

/-- A call can bear two dates that exist. -/
theorem Makes.isBearable
    {first last : Date}
    (makes : call.Makes earliest latest first last) :
    call.IsBearable earliest latest where
  start := makes.start.areBearable call.environment.memory
  finish := makes.finish.areBearable call.environment.memory

/-- The rulings on two dates fail under what is wrong with them. -/
theorem failsAt_iff
    {key : String} :
    Ruling.failsAt key (call.rulings earliest latest) = true ↔
      call.IsWrong earliest latest key := by
  unfold rulings Ruling.dateRange
  rw [Ruling.failsAt_append, Ruling.failsAt_append, Bool.or_eq_true,
    Bool.or_eq_true, DateInputs.failsAt_fullDate_iff,
    DateInputs.failsAt_fullDate_iff]
  constructor
  · rintro ((⟨part, wrong, rfl⟩ | ⟨noDate, rfl⟩) |
      (⟨part, wrong, rfl⟩ | ⟨noDate, rfl⟩) | reversed)
    · exact .startPart wrong
    · exact .start noDate
    · exact .endPart wrong
    · exact .finish noDate
    · split at reversed
      case h_1 first last isFirst isLast =>
        rw [DateInputs.date?_eq_some_iff_make] at isFirst isLast
        simp only [Ruling.failsAt_cons, Ruling.failsAt_nil,
          Verdict.isRejected_provided,
          Date.timestamp_le_iff isFirst.actual isLast.actual] at reversed
        obtain ⟨rfl, isBefore⟩ : call.field = key ∧ last.before first = true := by
          simpa using reversed
        exact .reversed isFirst isLast isBefore
      case h_2 =>
        cases reversed
  · intro wrong
    cases wrong with
    | startPart wrong =>
        exact .inl (.inl ⟨_, wrong, rfl⟩)
    | endPart wrong =>
        exact .inr (.inl (.inl ⟨_, wrong, rfl⟩))
    | start noDate =>
        exact .inl (.inr ⟨noDate, rfl⟩)
    | finish noDate =>
        exact .inr (.inl (.inr ⟨noDate, rfl⟩))
    | reversed start finish isBefore =>
        refine .inr (.inr ?_)
        rw [DateInputs.date?_eq_some_iff_make.mpr start,
          DateInputs.date?_eq_some_iff_make.mpr finish]
        simp [Date.timestamp_le_iff start.actual finish.actual, isBefore]

/-- What is wrong with the dates of a call concerns keys of its field. -/
theorem IsWrong.belongsTo
    {key : String}
    (wrong : call.IsWrong earliest latest key) :
    (Value.text key).BelongsTo call.field := by
  cases wrong with
  | startPart =>
      exact .of_part (.part ..)
  | endPart =>
      exact .of_part (.part ..)
  | start =>
      exact .part ..
  | finish =>
      exact .part ..
  | reversed =>
      exact .self _

/-- A proper call with two dates in order stores their timestamps. -/
theorem IsProper.stores
    {first last : Date}
    (proper : call.IsProper earliest latest)
    (makes : call.Makes earliest latest first last) :
    call.Stores first.timestamp last.timestamp := by
  obtain ⟨_, spell⟩ := proper.exists_spell makes.isBearable
  have isFirst := DateInputs.date?_eq_some_iff_make.mpr makes.start
  have isLast := DateInputs.date?_eq_some_iff_make.mpr makes.finish
  have ordered :=
    (Date.timestamp_le_iff makes.start.actual makes.finish.actual).mpr
      makes.ordered
  have decided :
      Ruling.verdictAt? call.field (call.rulings earliest latest) =
        some
          (.accepted (.tuple [.int first.timestamp, .int last.timestamp])) := by
    unfold rulings Ruling.dateRange
    rw [isFirst, isLast, ← List.append_assoc, Ruling.verdictAt?_concat,
      Option.some_inj]
    exact Verdict.provided_eq_accepted_iff.mpr ⟨ordered, rfl⟩
  have passed : Ruling.someFails (call.rulings earliest latest) = false :=
    Ruling.someFails_dateRange_eq_false_iff.mpr
      ⟨first, last, isFirst, isLast, ordered⟩
  exact
    { pair := spell.value?_of_accepted _ decided
      ordered := ordered
      flawless := spell.flawless_iff.mpr passed }

/-- A proper call has one message under each key that something is wrong with. -/
theorem IsProper.exists_message
    (proper : call.IsProper earliest latest)
    (bearable : call.IsBearable earliest latest)
    {key : String}
    (wrong : call.IsWrong earliest latest key) :
    ∃ message,
      call.journal.written.filterMap (Entry.messageAt? (.text key)) =
        [.text message] :=
  (proper.exists_spell bearable).2.exists_message Ruling.nodup_keys_dateRange
    (fun _ member => Ruling.isBrief_of_mem_dateRange member)
    (failsAt_iff.mpr wrong)

/-- A proper call has no message under keys that nothing is wrong with. -/
theorem IsProper.messages_eq_nil
    (proper : call.IsProper earliest latest)
    (bearable : call.IsBearable earliest latest)
    {key : Value}
    (right :
      ∀ characters,
        key = .text characters → ¬call.IsWrong earliest latest characters) :
    call.journal.written.filterMap (Entry.messageAt? key) = [] := by
  refine List.filterMap_eq_nil_iff.mpr fun entry member => ?_
  cases isError : entry.isError with
  | false =>
      cases entry with
      | value =>
          rfl
      | error =>
          cases isError
  | true =>
      obtain ⟨characters, isText, fails⟩ :=
        (proper.exists_spell bearable).2.failsAt_of_isError member isError
      refine Entry.messageAt?_eq_none_of_text isText fun same => ?_
      exact right characters same (failsAt_iff.mp fails)

/-- A proper call without two dates in order stores nothing under its field. -/
theorem IsProper.value?_eq_none
    (proper : call.IsProper earliest latest)
    (unmade : ¬∃ first last, call.Makes earliest latest first last) :
    call.after.value? (.text call.field) = none := by
  have blank := (proper.blank _ (.self call.field)).1
  have touches := Check.TouchesLast.dateRange call.environment
    call.start.year call.start.month call.start.day call.finish.year
    call.finish.month call.finish.day call.field
  by_cases bearable : call.IsBearable earliest latest
  case neg =>
    obtain ⟨fault, stopped⟩ : ∃ fault, call.journal.ended = .error fault := by
      cases ended : call.journal.ended with
      | error fault =>
          exact ⟨fault, rfl⟩
      | ok =>
          exact absurd (proper.answers_iff_isBearable.mp ended) bearable
    have none :
        call.journal.written.filterMap
            (Entry.valueAt? (.text call.field)) =
          [] :=
      List.filterMap_eq_nil_iff.mpr fun entry member =>
        Entry.valueAt?_eq_none (touches.ne_of_stopped stopped entry member)
    unfold after
    rw [Result.value?_extend, none, blank]
    rfl
  -- The rulings do not say what else stands under a key that is rejected, so
  -- the message of a reversed range needs an argument of its own.
  by_cases wrong : call.IsWrong earliest latest call.field
  · obtain ⟨message, complains⟩ := proper.exists_message bearable wrong
    have none :
        call.journal.written.filterMap
            (Entry.valueAt? (.text call.field)) =
          [] :=
      touches.values_eq_nil complains
    unfold after
    rw [Result.value?_extend, none, blank]
    rfl
  · have undecided :
        Ruling.verdictAt? call.field (call.rulings earliest latest) =
          none := by
      refine Ruling.verdictAt?_eq_none fun ruling member => ?_
      unfold rulings Ruling.dateRange at member
      rcases List.mem_append.mp member with isStart | isLater
      · exact Ruling.ne_of_mem_fullDate isStart
      rcases List.mem_append.mp isLater with isFinish | isRange
      · exact Ruling.ne_of_mem_fullDate isFinish
      split at isRange
      case h_1 first last isFirst isLast =>
        rw [DateInputs.date?_eq_some_iff_make] at isFirst isLast
        cases order : last.before first with
        | false =>
            exact absurd ⟨first, last, isFirst, isLast, order⟩ unmade
        | true =>
            exact absurd (.reversed isFirst isLast order) wrong
      case h_2 =>
        cases isRange
    unfold after
    rw [(proper.exists_spell bearable).2.value?_of_none _ undecided, blank]

/--
A proper call answers exactly if it can bear what is submitted: the components fit
into the memory, any message about a year can be written, and the year of no complete
date is too large for the calendar. In any case it stores a pair in order without a
message exactly if both dates exist and the end is not before the start, and then the
pair of their timestamps. Otherwise it stores nothing under its field. If it answers,
it records one message under every key that something is wrong with, whatever else is
wrong, and none under any other key.
-/
theorem reports_of_call
    (proper : call.IsProper earliest latest) :
    (call.journal.ended = .ok () ↔ call.IsBearable earliest latest) ∧
      ((∃ earlier later, call.Stores earlier later) ↔
        ∃ first last, call.Makes earliest latest first last) ∧
      (∀ first last,
        call.Makes earliest latest first last →
          ∃ firstDays lastDays,
            first.LiesAfter Date.epoch firstDays ∧
              last.LiesAfter Date.epoch lastDays ∧
                call.Stores (86400 * firstDays) (86400 * lastDays)) ∧
      ((¬∃ first last, call.Makes earliest latest first last) →
        call.after.value? (.text call.field) = none) ∧
      (call.IsBearable earliest latest →
        (∀ characters,
          call.IsWrong earliest latest characters →
            ∃ message,
              call.after.errorsAt (.text characters) = [.text message]) ∧
        ∀ key,
          (∀ characters,
            key = .text characters →
              ¬call.IsWrong earliest latest characters) →
            call.after.errorsAt key = call.result.errorsAt key) := by
  refine ⟨proper.answers_iff_isBearable, ⟨?_, ?_⟩, fun first last makes => ?_,
    proper.value?_eq_none, fun bearable =>
      ⟨fun characters wrong => ?_, fun key right => ?_⟩⟩
  · rintro ⟨earlier, later, stores⟩
    by_contra unmade
    have found := stores.pair
    rw [proper.value?_eq_none unmade] at found
    cases found
  · rintro ⟨first, last, makes⟩
    exact ⟨_, _, proper.stores makes⟩
  · have firstAfter :=
      (Date.liesAfter_epoch_iff makes.start.actual).mpr rfl
    have lastAfter :=
      (Date.liesAfter_epoch_iff makes.finish.actual).mpr rfl
    refine ⟨first.dayNumber, last.dayNumber, firstAfter, lastAfter, ?_⟩
    rw [← Date.timestamp_eq_of_liesAfter makes.start.actual firstAfter,
      ← Date.timestamp_eq_of_liesAfter makes.finish.actual lastAfter]
    exact proper.stores makes
  · obtain ⟨message, complains⟩ := proper.exists_message bearable wrong
    refine ⟨message, ?_⟩
    unfold after
    rw [Result.errorsAt_extend, complains,
      (proper.blank _ wrong.belongsTo).2]
    rfl
  · unfold after
    rw [Result.errorsAt_extend, proper.messages_eq_nil bearable right,
      List.append_nil]

end Calls

/-- A call with a wrong month and a day that does not exist. -/
def misspelledCall : RangeCall where
  environment := ⟨{ minimalYear := .int 1900 }, ⟨2024, 5, 1⟩, .ample⟩
  field := "trip"
  start := ⟨.text "2023", .text "13", .int 1⟩
  finish := ⟨.text "2023", .text " 2 ", .text "29"⟩
  result :=
    ⟨[.error (.text "triple") (.text "Unknown."),
      .value (.text "trips") (.int 2)]⟩

/-- The call records both mistakes, and stores no range. -/
theorem reports_of_call_misspelled :
    misspelledCall.IsProper 1900 2029 ∧
      (∃ message,
        misspelledCall.after.errorsAt (.text "trip_start_month") =
          [.text message]) ∧
      (∃ message,
        misspelledCall.after.errorsAt (.text "trip_end") =
          [.text message]) ∧
      misspelledCall.after.value? (.text "trip") = none := by
  have proper : misspelledCall.IsProper 1900 2029 :=
    { years :=
        { lowest := ⟨1900, rfl, rfl⟩
          highest := .inr ⟨rfl, rfl⟩ }
      blank := by
        rintro _ ⟨characters, rfl, belongs⟩
        have notTriple : "triple" ≠ characters := by
          rintro rfl
          revert belongs
          decide
        have notTrips : "trips" ≠ characters := by
          rintro rfl
          revert belongs
          decide
        simp [misspelledCall, Result.value?, Result.errorsAt,
          Entry.valueAt?, Entry.messageAt?, notTriple, notTrips] }
  have noStart : misspelledCall.start.date? 1900 2029 = none := by
    decide +kernel
  have noFinish : misspelledCall.finish.date? 1900 2029 = none := by
    decide +kernel
  have wrongMonth : misspelledCall.start.HasWrong 1900 2029 "month" :=
    .month (Value.integerWithin?_eq_none_iff.mp (by decide +kernel))
  have components :
      misspelledCall.finish.components? 1900 2029 = some (2023, 2, 29) := by
    decide +kernel
  have unmade :
      ¬∃ first last, misspelledCall.Makes 1900 2029 first last := by
    rintro ⟨first, last, makes⟩
    have isFirst := DateInputs.date?_eq_some_iff_make.mpr makes.start
    rw [noStart] at isFirst
    cases isFirst
  have years : misspelledCall.environment.HasYears .null .null 1900 2029 :=
    { proper.years with
      earliestWritable := by decide +kernel
      latestWritable := by decide +kernel }
  have startFit : misspelledCall.start.FitInto .ample :=
    { year := by decide +kernel
      month := by decide +kernel
      day := by decide +kernel }
  have finishFit : misspelledCall.finish.FitInto .ample :=
    { year := by decide +kernel
      month := by decide +kernel
      day := by decide +kernel }
  have bearable : misspelledCall.IsBearable 1900 2029 :=
    { start := startFit.areBearable years (by decide)
      finish := finishFit.areBearable years (by decide) }
  obtain ⟨_, _, _, nothing, reports⟩ := reports_of_call proper
  obtain ⟨reports, _⟩ := reports bearable
  exact ⟨proper, reports _ (.startPart wrongMonth),
    reports _ (.finish (.of_components components noFinish)), nothing unmade⟩

/-- A call with a day that no memory has room for, and nothing else wrong. -/
def boundlessCall : RangeCall where
  environment := .on ⟨2025, 6, 15⟩
  field := "trip"
  start := ⟨.text "2024", .text "1", Value.longLiteral⟩
  finish := ⟨.text "2024", .text "1", .text "2"⟩
  result := .empty

/-- Not each component that is wrong has a message. -/
theorem not_forall_reports :
    ¬∀ (call : RangeCall) (earliest latest : Int),
        call.IsProper earliest latest →
          ∀ characters,
            call.IsWrong earliest latest characters →
              ∃ message,
                call.after.errorsAt (.text characters) = [.text message] := by
  intro all
  have proper : boundlessCall.IsProper 2000 2030 :=
    { years :=
        { lowest := ⟨2000, rfl, rfl⟩
          highest := .inr ⟨rfl, rfl⟩ }
      blank := fun _ _ => ⟨rfl, rfl⟩ }
  have outside : ¬Value.longLiteral.IsIntegerIn 1 31 := by
    rintro ⟨number, isInteger, inside⟩
    have fits : Value.longLiteral.FitsInto .ample :=
      Value.fitsInto_of_lt isInteger (by omega)
    exact Value.not_fitsInto_longLiteral fits
  have reports :
      ∃ message,
        boundlessCall.after.errorsAt (.text "trip_start_day") =
          [.text message] :=
    all boundlessCall 2000 2030 proper _ (.startPart (.day outside))
  obtain ⟨message, reports⟩ := reports
  have nothing :
      boundlessCall.after.errorsAt (.text "trip_start_day") = [] := by
    decide +kernel
  rw [nothing] at reports
  cases reports

end RangeCall

end FormCheck
