import FormCheck.Proofs.Calendar
import FormCheck.Proofs.Check.Demand

namespace FormCheck

/-!
# Checks that pass

A check passes on a result if it answers and records no message. A check in two
parts passes exactly if both parts do, so that what makes a check pass, and what
it stores then, is found part by part. This needs no bound for years that can be
written: a check whose message cannot be written does not pass either.
-/

namespace Result

/-- A result is blank for a field if it has nothing under the keys of the field. -/
def IsBlankFor
    (result : Result)
    (field : String) : Prop :=
  ∀ key : Value,
    key.BelongsTo field → result.value? key = none ∧ result.errorsAt key = []

variable
  {result : Result}
  {field : String}

/-- A result that is blank for a field is clean for it. -/
theorem IsBlankFor.cleanFor
    (blank : result.IsBlankFor field) :
    result.CleanFor field := by
  intro key belongs
  rw [hasErrorsAt, (blank key belongs).2]
  rfl

/-- The empty result is blank for each field. -/
theorem isBlankFor_empty
    (field : String) :
    empty.IsBlankFor field :=
  fun _ _ => ⟨rfl, rfl⟩

end Result

/-- The components of a date, under their names. -/
def Date.componentsValue
    (date : Date) : Value :=
  Check.componentsValue
    [("year", date.year), ("month", date.month), ("day", date.day)]

namespace Check

/-- A check passes on a result if it answers and records no message. -/
structure Passes
    (check : Check answer)
    (result : Result)
    (value : answer)
    (entries : List Entry) : Prop where
  answers : check result = ⟨entries, .ok value⟩
  quiet : Entry.AreQuiet entries

/-- A check accepts a value if it passes and the value is what it stores then. -/
structure Accepts
    (check : Check Unit)
    (result : Result)
    (field : String)
    (value : Value) : Prop where
  answers : (check result).ended = .ok ()
  quiet : Entry.AreQuiet (check result).written
  stores : (check.after result).value? (.text field) = some value

/-- A check accepts what it stores for what it finds. -/
theorem accepts_iff
    {found : Type}
    {check : Check Unit}
    {result : Result}
    {isFound : found → Prop}
    {stored : found → List Entry}
    {storedValue : found → Value}
    {field : String}
    {value : Value}
    (passes :
      ∀ entries,
        check.Passes result () entries ↔
          ∃ item, isFound item ∧ entries = stored item)
    (stores :
      ∀ item,
        (result.extend (stored item)).value? (.text field) =
          some (storedValue item)) :
    check.Accepts result field value ↔
      ∃ item, isFound item ∧ value = storedValue item := by
  constructor
  · rintro ⟨answers, quiet, isStored⟩
    have ended : check result = ⟨(check result).written, .ok ()⟩ := by
      rw [← answers]
    obtain ⟨item, finds, isWritten⟩ := (passes _).mp ⟨ended, quiet⟩
    rw [after, isWritten, stores] at isStored
    exact ⟨item, finds, (Option.some.inj isStored).symm⟩
  · rintro ⟨item, finds, rfl⟩
    obtain ⟨answers, quiet⟩ := (passes _).mpr ⟨item, finds, rfl⟩
    exact
      { answers := by rw [answers]
        quiet := by rwa [answers]
        stores := by rw [after, answers, stores] }

variable
  {result : Result}
  {entries : List Entry}

/-! ## The parts of a check -/

section Parts

variable
  {answer middle : Type}
  {value : answer}
  {continuation : middle → Check answer}

/-- A check in two parts passes exactly if both parts do. -/
theorem passes_bind_iff
    {leading : Check middle} :
    (leading >>= continuation).Passes result value entries ↔
      ∃ reached first second,
        leading.Passes result reached first ∧
          (continuation reached).Passes (result.extend first) value second ∧
          entries = first ++ second := by
  constructor
  · rintro ⟨answers, quiet⟩
    cases ended : leading result with
    | mk first how =>
        cases how with
        | error fault =>
            rw [bind_of_error ended] at answers
            cases answers
        | ok reached =>
            rw [bind_of_ok ended] at answers
            cases later : continuation reached (result.extend first) with
            | mk second outcome =>
                rw [later] at answers
                cases answers
                rw [Entry.areQuiet_append_iff] at quiet
                exact ⟨reached, first, second, ⟨ended, quiet.1⟩,
                  ⟨later, quiet.2⟩, rfl⟩
  · rintro ⟨reached, first, second, passes, passesThen, rfl⟩
    refine ⟨?_, Entry.areQuiet_append_iff.mpr
      ⟨passes.quiet, passesThen.quiet⟩⟩
    rw [bind_of_ok passes.answers, passesThen.answers]

/-- An answer passes and stores nothing. -/
theorem passes_pure_iff
    {answered : answer} :
    (pure answered : Check answer).Passes result value entries ↔
      answered = value ∧ entries = [] := by
  constructor
  · rintro ⟨answers, _⟩
    cases answers
    exact ⟨rfl, rfl⟩
  · rintro ⟨rfl, rfl⟩
    exact ⟨rfl, List.forall_mem_nil _⟩

/-- A check passes behind what is computed first if that is no fault. -/
theorem passes_lift_bind_iff
    {computation : Except Fault middle} :
    ((liftM computation : Check middle) >>= continuation).Passes result value
        entries ↔
      ∃ reached,
        computation = .ok reached ∧
          (continuation reached).Passes result value entries := by
  cases computation with
  | ok reached =>
      rw [lift_ok_bind]
      simp
  | error fault =>
      constructor
      · rintro ⟨answers, _⟩
        cases answers
      · rintro ⟨_, answers, _⟩
        cases answers

/-- A check passes behind the key of a part if it does with that key. -/
theorem passes_partKey_bind_iff
    {owner part : String}
    {continuation : Value → Check answer} :
    ((liftM (partKey (.text owner) part) : Check Value) >>=
          continuation).Passes result value entries ↔
      (continuation (.text (owner ++ "_" ++ part))).Passes result value
        entries := by
  rw [partKey_text, lift_ok_bind]

/-- Storing a value passes. -/
theorem passes_setValue_iff
    {key : String}
    {stored : Value} :
    (setValue (.text key) stored).Passes result () entries ↔
      entries = [.value (.text key) stored] := by
  constructor
  · rintro ⟨answers, _⟩
    cases answers
    rfl
  · rintro rfl
    exact ⟨rfl, List.forall_mem_singleton.mpr rfl⟩

/-- A message does not pass. -/
theorem not_passes_reject
    {key message : String} :
    ¬(reject (.text key) message).Passes result () entries := by
  rintro ⟨answers, quiet⟩
  cases answers
  cases quiet _ (List.mem_singleton_self _)

/-- A check whose first part does not pass does not pass. -/
theorem not_passes_bind
    {leading : Check middle}
    (fails :
      ∀ reached first, ¬leading.Passes result reached first) :
    ¬(leading >>= continuation).Passes result value entries := by
  rw [passes_bind_iff]
  rintro ⟨reached, first, _, passes, _⟩
  exact fails reached first passes

/-- A check passes behind one that does the same whenever it passes. -/
theorem passes_known_bind_iff
    {leading : Check middle}
    {condition : Prop}
    {reached : middle}
    {stored : List Entry}
    (known :
      ∀ other first,
        leading.Passes result other first ↔
          condition ∧ other = reached ∧ first = stored) :
    (leading >>= continuation).Passes result value entries ↔
      condition ∧
        ∃ later,
          (continuation reached).Passes (result.extend stored) value later ∧
            entries = stored ++ later := by
  simp only [passes_bind_iff, known]
  constructor
  · rintro ⟨_, _, later, ⟨holds, rfl, rfl⟩, passes, rfl⟩
    exact ⟨holds, later, passes, rfl⟩
  · rintro ⟨holds, later, passes, rfl⟩
    exact ⟨reached, stored, later, ⟨holds, rfl, rfl⟩, passes, rfl⟩

/-- A check passes behind one that stores nothing if that one passes. -/
theorem passes_silent_bind_iff
    {leading : Check middle}
    {condition : Prop}
    {reached : middle}
    (silent :
      ∀ other first,
        leading.Passes result other first ↔
          condition ∧ other = reached ∧ first = []) :
    (leading >>= continuation).Passes result value entries ↔
      condition ∧ (continuation reached).Passes result value entries := by
  rw [passes_known_bind_iff silent]
  simp only [Result.extend_nil, List.nil_append, exists_eq_right']

/-- A check passes behind one that stores the same whenever it passes. -/
theorem passes_once_bind_iff
    {leading : Check Unit}
    {condition : Prop}
    {stored : List Entry}
    {continuation : Unit → Check answer}
    (once :
      ∀ first,
        leading.Passes result () first ↔ condition ∧ first = stored) :
    (leading >>= continuation).Passes result value entries ↔
      condition ∧
        ∃ later,
          (continuation ()).Passes (result.extend stored) value later ∧
            entries = stored ++ later :=
  passes_known_bind_iff fun _ first =>
    (once first).trans (and_congr_right fun _ => (and_iff_right rfl).symm)

/-- A check passes behind one that stores something for what it finds. -/
theorem passes_storing_bind_iff
    {found : Type}
    {leading : Check Unit}
    {isFound : found → Prop}
    {stored : found → List Entry}
    {continuation : Unit → Check answer}
    (stores :
      ∀ first,
        leading.Passes result () first ↔
          ∃ item, isFound item ∧ first = stored item) :
    (leading >>= continuation).Passes result value entries ↔
      ∃ item,
        isFound item ∧
          ∃ later,
            (continuation ()).Passes (result.extend (stored item)) value
                later ∧
              entries = stored item ++ later := by
  simp only [passes_bind_iff]
  constructor
  · rintro ⟨_, first, later, passes, passesThen, rfl⟩
    obtain ⟨item, finds, rfl⟩ := (stores first).mp passes
    exact ⟨item, finds, later, passesThen, rfl⟩
  · rintro ⟨item, finds, later, passesThen, rfl⟩
    exact ⟨(), stored item, later, (stores _).mpr ⟨item, finds, rfl⟩,
      passesThen, rfl⟩

/-- A check that first stores a value passes if the rest does. -/
theorem passes_setValue_bind_iff
    {key : String}
    {stored : Value}
    {continuation : Unit → Check answer} :
    (setValue (.text key) stored >>= continuation).Passes result value
        entries ↔
      ∃ later,
        (continuation ()).Passes (result.setValue (.text key) stored) value
            later ∧
          entries = .value (.text key) stored :: later := by
  rw [passes_once_bind_iff fun _ =>
    passes_setValue_iff.trans (and_iff_right trivial).symm, true_and]
  rfl

/-- A check passes behind a question to the result if it does with its answer. -/
theorem passes_look_bind_iff
    {key : String}
    {view : Result → middle} :
    (look (.text key) view >>= continuation).Passes result value entries ↔
      (continuation (view result)).Passes result value entries := by
  rw [passes_bind_iff]
  constructor
  · rintro ⟨_, _, later, ⟨answers, _⟩, passes, rfl⟩
    cases answers
    rwa [Result.extend_nil] at passes
  · intro passes
    refine ⟨_, [], entries, ⟨rfl, List.forall_mem_nil _⟩, ?_, rfl⟩
    rwa [Result.extend_nil]

/-- On a result that is clean there, a check goes on behind a look for errors. -/
theorem passes_hasErrors_bind_iff
    {key : String}
    {continuation : Bool → Check answer}
    (clean : result.hasErrorsAt (.text key) = false) :
    (hasErrors (.text key) >>= continuation).Passes result value entries ↔
      (continuation false).Passes result value entries := by
  rw [← clean]
  exact passes_look_bind_iff

/-- A check goes on with the value that it reads. -/
theorem passes_value_bind_iff
    {key : String}
    {continuation : Value → Check answer} :
    (Check.value (.text key) >>= continuation).Passes result value
        entries ↔
      (continuation (result.value (.text key))).Passes result value
        entries :=
  passes_look_bind_iff

end Parts

/-! ## Numbers -/

section Numbers

variable
  {key : String}
  {least greatest : Int}

/-- The entries that store an integer: as it is read, and once it is compared. -/
def integerEntries
    (key : String)
    (number : Int) : List Entry :=
  [.value (.text key) (.int number), .value (.text key) (.int number)]

/-- An integer is stored without a message. -/
theorem areQuiet_integerEntries
    (key : String)
    (number : Int) :
    Entry.AreQuiet (integerEntries key number) := by
  simp [integerEntries, Entry.AreQuiet, Entry.isError]

/-- Naming two bounds in a message does not pass. -/
theorem not_passes_rejectBetween
    {lower upper : Value} :
    ¬(rejectBetween (.text key) lower upper).Passes result () entries := by
  unfold rejectBetween
  rw [passes_lift_bind_iff]
  rintro ⟨_, _, passes⟩
  rw [passes_lift_bind_iff] at passes
  obtain ⟨_, _, rejects⟩ := passes
  exact not_passes_reject rejects

/-- A comparison with bounds passes exactly if the number lies within them. -/
theorem passes_withinBounds_iff
    {number : Int}
    {inside : Bool} :
    (withinBounds (.int number) (.text key) (.int least)
        (.int greatest)).Passes result inside entries ↔
      (least ≤ number ∧ number ≤ greatest) ∧ inside = true ∧
        entries = [] := by
  have refuses :
      ¬(do
          rejectBetween (.text key) (.int least) (.int greatest)
          return false : Check Bool).Passes result inside entries :=
    not_passes_bind fun _ _ => not_passes_rejectBetween
  unfold withinBounds
  dsimp only
  rw [passes_lift_bind_iff]
  simp only [Value.less_int, Except.ok.injEq, exists_eq_left']
  by_cases precedes : number < least
  · rw [if_pos (decide_eq_true precedes)]
    exact iff_of_false refuses (by omega)
  · rw [if_neg (by simpa using precedes), passes_lift_bind_iff]
    simp only [Except.ok.injEq, exists_eq_left']
    by_cases exceeds : greatest < number
    · rw [if_pos (decide_eq_true exceeds)]
      exact iff_of_false refuses (by omega)
    · rw [if_neg (by simpa using exceeds), passes_pure_iff]
      have within : least ≤ number ∧ number ≤ greatest := by
        omega
      simp [within, eq_comm]

/-- A check that passes finds what it demands. -/
theorem Demands.of_passes
    {demanded : Prop}
    {check : Check answer}
    {value : answer}
    (demands : Demands demanded check)
    (passes : check.Passes result value entries) :
    demanded :=
  demands.holds result value (by rw [passes.answers])

/--
An integer passes exactly if it fits and lies within its bounds. It is stored twice.
-/
theorem passes_integerRange_iff
    {environment : Environment}
    {submitted : Value}
    (clean : result.hasErrorsAt (.text key) = false) :
    (integerRange environment submitted (.text key) (.int least)
        (.int greatest)).Passes result () entries ↔
      ∃ number,
        (submitted.FitsInto environment.memory ∧
            submitted.integerWithin? least greatest = some number) ∧
          entries = integerEntries key number := by
  by_cases fits : submitted.FitsInto environment.memory
  case neg =>
    refine iff_of_false (fun passes => fits ?_) fun ⟨_, ⟨fit, _⟩, _⟩ => fits fit
    exact (Demands.integerRange ..).of_passes passes
  simp only [fits, true_and]
  unfold integerRange
  rw [integer_eq fits]
  simp only [Value.integerWithin?_eq_some_iff]
  cases submitted.toInt? with
  | none =>
      simp only [reduceCtorEq, false_and, exists_false, iff_false]
      exact not_passes_bind fun _ _ => not_passes_reject
  | some number =>
      have storedClean :
          (result.setValue (.text key) (.int number)).hasErrorsAt
              (.text key) =
            false := by
        rwa [Result.setValue, Result.hasErrorsAt_extend_of_quiet
          (List.forall_mem_singleton.mpr rfl)]
      have holds :
          (result.setValue (.text key) (.int number)).value (.text key) =
            .int number := by
        simp [Result.setValue, Result.value, Result.value?_extend,
          Entry.valueAt?]
      simp only [passes_setValue_bind_iff,
        passes_hasErrors_bind_iff storedClean, Bool.false_eq_true,
        ↓reduceIte, passes_value_bind_iff, holds,
        passes_silent_bind_iff fun _ _ => passes_withinBounds_iff,
        passes_setValue_iff, Option.some.injEq]
      constructor
      · rintro ⟨_, ⟨inside, rfl⟩, rfl⟩
        exact ⟨number, ⟨rfl, inside⟩, rfl⟩
      · rintro ⟨_, ⟨rfl, inside⟩, rfl⟩
        exact ⟨_, ⟨inside, rfl⟩, rfl⟩

/-- An integer within bounds that need no clamping. -/
theorem passes_clampedRange_iff
    {environment : Environment}
    {submitted : Value}
    (clean : result.hasErrorsAt (.text key) = false) :
    (clampedRange environment submitted (.text key) (.int least)
        (.int greatest) least greatest).Passes result () entries ↔
      ∃ number,
        (submitted.FitsInto environment.memory ∧
            submitted.integerWithin? least greatest = some number) ∧
          entries = integerEntries key number := by
  unfold clampedRange
  rw [Value.greaterOf_int, lift_ok_bind, Value.lesserOf_int, lift_ok_bind,
    Int.max_self, Int.min_self, passes_integerRange_iff clean]

/-- A year passes exactly if it fits and lies within the bounds of the settings. -/
theorem passes_year_iff
    {environment : Environment}
    {submitted lower : Value}
    {minimal latest : Int}
    (isLower :
      lower.orDefault environment.settings.minimalYear = .int minimal)
    (isLatest : environment.lastYear = .ok (.int latest))
    (clean : result.hasErrorsAt (.text key) = false) :
    (year environment submitted (.text key) lower .null).Passes result ()
        entries ↔
      ∃ number,
        (submitted.FitsInto environment.memory ∧
            submitted.integerWithin? (max earliestYear minimal) latest =
              some number) ∧
          entries = integerEntries key number := by
  unfold year
  dsimp only
  rw [isLatest, lift_ok_bind, isLower, Value.greaterOf_int, lift_ok_bind,
    passes_integerRange_iff clean]

end Numbers

/-! ## Texts -/

section Texts

variable
  {key text : String}

/-- A text passes exactly if it is no longer than allowed. -/
theorem passes_textLength_iff
    {limit : Int} :
    (textLength (.text text) (.text key) (.int limit)).Passes result ()
        entries ↔
      (text.length : Int) ≤ limit ∧
        entries = [.value (.text key) (.text text)] := by
  have isText : (Value.text text).asText = .ok text := rfl
  unfold textLength
  rw [isText, lift_ok_bind, Value.less_int, lift_ok_bind]
  by_cases exceeds : limit < text.length
  · rw [if_pos (decide_eq_true exceeds), passes_lift_bind_iff]
    refine iff_of_false ?_ (by omega)
    rintro ⟨_, _, rejects⟩
    exact not_passes_reject rejects
  · rw [if_neg (by simpa using exceeds), passes_setValue_iff]
    exact (and_iff_right (by omega)).symm

/-- A text passes exactly if it is among the allowed values. -/
theorem passes_textAmong_iff
    {allowed : Value}
    {members : List Value}
    (areMembers : allowed.members = .ok members) :
    (textAmong (.text text) (.text key) allowed).Passes result () entries ↔
      members.contains (.text text) = true ∧
        entries = [.value (.text key) (.text text)] := by
  have isText : (Value.text text).asText = .ok text := rfl
  unfold textAmong
  rw [isText, lift_ok_bind, areMembers, lift_ok_bind]
  cases members.contains (.text text) with
  | true =>
      rw [if_pos rfl, passes_setValue_iff, eq_self, true_and]
  | false =>
      rw [if_neg Bool.false_ne_true]
      exact iff_of_false not_passes_reject (fun allowed => nomatch allowed.1)

end Texts

/-! ## Dates -/

section Dates

variable
  {field : String}

/-- The entries that store the components of a date. -/
def componentEntries
    (field : String) : Int × Int × Int → List Entry
  | (year, month, day) =>
      integerEntries (field ++ "_" ++ "year") year ++
        (integerEntries (field ++ "_" ++ "month") month ++
          integerEntries (field ++ "_" ++ "day") day)

/-- The components of a date are stored without a message. -/
theorem areQuiet_componentEntries
    (field : String)
    (components : Int × Int × Int) :
    Entry.AreQuiet (componentEntries field components) :=
  Entry.areQuiet_append_iff.mpr
    ⟨areQuiet_integerEntries _ _, Entry.areQuiet_append_iff.mpr
      ⟨areQuiet_integerEntries _ _, areQuiet_integerEntries _ _⟩⟩

/-- No part of a field failed on a result that is clean for it. -/
theorem passes_anyPartFailed_iff
    (clean : result.CleanFor field)
    (parts : List String)
    {failed : Bool} :
    (anyPartFailed (.text field) parts).Passes result failed entries ↔
      True ∧ failed = false ∧ entries = [] := by
  induction parts with
  | nil =>
      unfold anyPartFailed
      rw [passes_pure_iff, eq_comm, true_and]
  | cons part rest inductionHypothesis =>
      unfold anyPartFailed
      rw [passes_partKey_bind_iff,
        passes_hasErrors_bind_iff (clean _ (.part ..)),
        if_neg Bool.false_ne_true, inductionHypothesis]

/-- The integer under the key of a part is read if there is one. -/
theorem passes_partInteger_iff
    {part : String}
    {number read : Int}
    (holds :
      result.value (.text (field ++ "_" ++ part)) = .int number) :
    (partInteger (.text field) part).Passes result read entries ↔
      True ∧ read = number ∧ entries = [] := by
  unfold partInteger
  rw [passes_partKey_bind_iff, passes_value_bind_iff, holds]
  dsimp only
  rw [passes_pure_iff, eq_comm, true_and]

/-- The components of a date pass exactly if they fit and lie within their bounds. -/
theorem passes_dateComponents_iff
    {environment : Environment}
    {minimal latest : Int}
    (isMinimal : environment.settings.minimalYear = .int minimal)
    (isLatest : environment.lastYear = .ok (.int latest))
    (clean : result.CleanFor field)
    (inputs : DateInputs) :
    (dateComponents environment inputs.year inputs.month inputs.day
        (.text field)).Passes result () entries ↔
      ∃ components,
        (inputs.FitInto environment.memory ∧
            inputs.components? (max earliestYear minimal) latest =
              some components) ∧
          entries = componentEntries field components := by
  have monthClean (year : Int) :=
    (Result.cleanFor_extend_iff
      (areQuiet_integerEntries (field ++ "_" ++ "year") year)).mpr clean
  have dayClean (year month : Int) :=
    (Result.cleanFor_extend_iff
      (areQuiet_integerEntries (field ++ "_" ++ "month") month)).mpr
        (monthClean year)
  unfold dateComponents month day
  simp only [Prod.exists, DateInputs.components?_eq_some_iff, partKey_text,
    lift_ok_bind]
  rw [passes_storing_bind_iff fun _ =>
    passes_year_iff (by rw [isMinimal]; rfl) isLatest
      (clean _ (.part ..))]
  constructor
  · rintro ⟨year, ⟨yearFits, isYear⟩, later, passes, rfl⟩
    rw [passes_storing_bind_iff fun _ =>
      passes_clampedRange_iff (monthClean year _ (.part ..))] at passes
    obtain ⟨month, ⟨monthFits, isMonth⟩, later, inDay, rfl⟩ := passes
    rw [passes_clampedRange_iff (dayClean year month _ (.part ..))] at inDay
    obtain ⟨day, ⟨dayFits, isDay⟩, rfl⟩ := inDay
    exact ⟨year, month, day,
      ⟨⟨yearFits, monthFits, dayFits⟩, isYear, isMonth, isDay⟩, rfl⟩
  · rintro ⟨year, month, day, ⟨fit, isYear, isMonth, isDay⟩, rfl⟩
    refine ⟨year, ⟨fit.year, isYear⟩, _, ?_, rfl⟩
    rw [passes_storing_bind_iff fun _ =>
      passes_clampedRange_iff (monthClean year _ (.part ..))]
    refine ⟨month, ⟨fit.month, isMonth⟩, _, ?_, rfl⟩
    rw [passes_clampedRange_iff (dayClean year month _ (.part ..))]
    exact ⟨day, ⟨fit.day, isDay⟩, rfl⟩

/-- The mapping of a moment: its timestamp and its components. -/
def momentValue
    (moment : Moment)
    (components : Value) : Value :=
  .record
    [("timestamp", .int moment.timestamp), ("components", components)]

/-- The entries that store a moment: whole, its timestamp and its components. -/
def momentEntries
    (field : String)
    (moment : Moment)
    (components : Value) : List Entry :=
  [.value (.text field) (momentValue moment components),
    .value (.text (field ++ "_" ++ "timestamp")) (.int moment.timestamp),
    .value (.text (field ++ "_" ++ "components")) components]

/-- A date is composed exactly if it exists. -/
theorem passes_composeMoment_iff
    {year month day : Int}
    {momentOf : Date → Moment}
    {components : List (String × Int)} :
    (composeMoment (.text field) year month day momentOf components).Passes
        result () entries ↔
      ∃ date,
        Date.ofComponents? year month day = some date ∧
          entries =
            momentEntries field (momentOf date)
              (componentsValue components) := by
  unfold composeMoment
  dsimp only
  by_cases overflows : yearOverflow ≤ year
  · rw [if_pos overflows]
    refine iff_of_false (not_passes_bind ?_) ?_
    · rintro _ _ ⟨stops, _⟩
      cases stops
    · rintro ⟨date, isDate, _⟩
      obtain ⟨actual, rfl, _⟩ := Date.ofComponents?_eq_some_iff.mp isDate
      have inCalendar := (Date.isActual_iff.mp actual).1.2
      unfold yearOverflow at overflows
      unfold Calendar.lastYear at inCalendar
      omega
  · rw [if_neg overflows]
    cases Date.ofComponents? year month day with
    | some date =>
        simp only [storeMoment, partKey_text, lift_ok_bind,
          passes_setValue_bind_iff, passes_setValue_iff, Option.some.injEq,
          exists_eq_left', exists_eq_left, momentEntries, momentValue]
    | none =>
        simp only [passes_lift_bind_iff, not_passes_reject, and_false,
          exists_false, reduceCtorEq, false_and]

/-- The components that were stored are read again. -/
theorem value_componentEntries
    (result : Result)
    (field : String)
    (year month day : Int) :
    let stored := result.extend (componentEntries field (year, month, day))
    stored.value (.text (field ++ "_" ++ "year")) = .int year ∧
      stored.value (.text (field ++ "_" ++ "month")) = .int month ∧
      stored.value (.text (field ++ "_" ++ "day")) = .int day := by
  simp [componentEntries, integerEntries, Result.value,
    Result.value?_extend, Entry.valueAt?]

/-- The entries that store a date: its components, and the moment it begins. -/
def dateEntries
    (field : String)
    (date : Date) : List Entry :=
  componentEntries field (date.year, date.month, date.day) ++
    momentEntries field ⟨date, 0, 0, 0⟩ date.componentsValue

/-- A date is stored without a message. -/
theorem areQuiet_dateEntries
    (field : String)
    (date : Date) :
    Entry.AreQuiet (dateEntries field date) := by
  refine Entry.areQuiet_append_iff.mpr ⟨areQuiet_componentEntries _ _, ?_⟩
  simp [momentEntries, Entry.AreQuiet, Entry.isError]

/-- A date is stored exactly if its components make one. -/
theorem passes_fullDate_iff
    {environment : Environment}
    {minimal latest : Int}
    (isMinimal : environment.settings.minimalYear = .int minimal)
    (isLatest : environment.lastYear = .ok (.int latest))
    (clean : result.CleanFor field)
    (inputs : DateInputs) :
    (fullDate environment inputs.year inputs.month inputs.day
        (.text field)).Passes result () entries ↔
      ∃ date,
        inputs.date? (max earliestYear minimal) latest = some date ∧
          entries = dateEntries field date := by
  have composed :
      (∃ date,
          inputs.date? (max earliestYear minimal) latest = some date ∧
            entries = dateEntries field date) ↔
        ∃ components,
          (inputs.FitInto environment.memory ∧
              inputs.components? (max earliestYear minimal) latest =
                some components) ∧
            ∃ date,
              Date.ofComponents? components.1 components.2.1
                    components.2.2 =
                  some date ∧
                entries = dateEntries field date := by
    constructor
    · rintro ⟨date, isDate, written⟩
      obtain ⟨denotes, actual, _⟩ := DateInputs.date?_eq_some_iff.mp isDate
      obtain ⟨components, found, made⟩ := Option.bind_eq_some_iff.mp isDate
      exact ⟨components, ⟨denotes.fitInto actual _, found⟩, date, made, written⟩
    · rintro ⟨components, ⟨_, found⟩, date, made, written⟩
      exact ⟨date, Option.bind_eq_some_iff.mpr ⟨components, found, made⟩, written⟩
  rw [composed]
  unfold fullDate
  rw [passes_storing_bind_iff fun _ =>
    passes_dateComponents_iff isMinimal isLatest clean inputs]
  refine exists_congr fun ⟨year, month, day⟩ => and_congr_right fun _ => ?_
  have storedClean :=
    (Result.cleanFor_extend_iff
      (areQuiet_componentEntries field (year, month, day))).mpr clean
  obtain ⟨isYear, isMonth, isDay⟩ :=
    value_componentEntries result field year month day
  simp only [
    passes_silent_bind_iff fun _ _ =>
      passes_anyPartFailed_iff storedClean ["year", "month", "day"],
    passes_silent_bind_iff fun _ _ => passes_partInteger_iff isYear,
    passes_silent_bind_iff fun _ _ => passes_partInteger_iff isMonth,
    passes_silent_bind_iff fun _ _ => passes_partInteger_iff isDay,
    Bool.false_eq_true, ↓reduceIte, true_and, passes_composeMoment_iff]
  constructor
  · rintro ⟨_, ⟨date, isDate, rfl⟩, rfl⟩
    obtain ⟨_, rfl, rfl, rfl⟩ := Date.ofComponents?_eq_some_iff.mp isDate
    exact ⟨date, isDate, rfl⟩
  · rintro ⟨date, isDate, rfl⟩
    obtain ⟨_, rfl, rfl, rfl⟩ := Date.ofComponents?_eq_some_iff.mp isDate
    exact ⟨_, ⟨date, isDate, rfl⟩, rfl⟩

end Dates

end Check

end FormCheck
