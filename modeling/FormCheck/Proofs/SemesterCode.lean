import FormCheck.Proofs.Check.YearAndTag

namespace FormCheck

/-!
# What is accepted as a semester or as a program number

A semester is a year and a tag, and a program number has three digits behind them.
The parts are looked at one after the other, in upper case. A code is accepted if
each of them is, and what is not accepted is refused with one message, about the
first part that is wrong or about the whole if there are no such parts.
-/

/-- The kinds of codes that begin with a year and a tag. -/
inductive CodeKind where
  | semester
  | programNumber

namespace CodeKind

/-- The check of codes of a kind. -/
def check : CodeKind → Environment → Value → Value → Value → Value → Check Unit
  | .semester => Check.semester
  | .programNumber => Check.programNumber

/-- How many digits are behind the tag. -/
def numberSize : CodeKind → Nat
  | .semester => 0
  | .programNumber => 3

/-- What is said about a text that has not the parts of a code. -/
def shapeMessage : CodeKind → String
  | .semester => "Invalid semester. Must look like 2025A."
  | .programNumber => "Invalid program number. Must look like 2025B001."

/-- Which digits may be behind the tag: none, or those of a number from 1 to 999. -/
def AdmitsNumber : CodeKind → List Char → Prop
  | .semester, number => number = []
  | .programNumber, number =>
      1 ≤ Text.numberOfAscii number ∧ Text.numberOfAscii number ≤ 999

instance
    (kind : CodeKind)
    (number : List Char) :
    Decidable (kind.AdmitsNumber number) :=
  match kind with
  | .semester => inferInstanceAs (Decidable (number = []))
  | .programNumber => inferInstanceAs (Decidable (_ ∧ _))

/-- Characters have the parts of a code with so many digits behind the tag. -/
structure HasParts
    (kind : CodeKind)
    (characters year : List Char)
    (tag : Char)
    (number : List Char) : Prop where
  parts : Check.HasParts characters year tag number
  size : number.length = kind.numberSize

/--
A code is a year within bounds, a tag in upper or in lower case and the digits of
its kind, all of them ASCII characters.
-/
inductive Admits
    (kind : CodeKind)
    (earliest latest : Int) : List Char → Prop where
  | code
      {year number : List Char}
      {tag : Char}
      (yearSize : year.length = 4)
      (yearDigits : ∀ digit ∈ year, Text.isAsciiDigit digit = true)
      (inYears :
        earliest ≤ Text.numberOfAscii year ∧
          Text.numberOfAscii year ≤ latest)
      (isTag : tag ∈ ['A', 'B', 'a', 'b'])
      (numberSize : number.length = kind.numberSize)
      (numberDigits : ∀ digit ∈ number, Text.isAsciiDigit digit = true)
      (admitted : kind.AdmitsNumber number) :
      Admits kind earliest latest (year ++ tag :: number)

/-- The key and the message for the first part of a code that is wrong. -/
inductive Blames
    (kind : CodeKind)
    (field : String)
    (characters : List Char)
    (earliest latest : Int) : String → String → Prop where
  | shape
      (shapeless :
        ∀ year tag number, ¬kind.HasParts characters year tag number) :
      Blames kind field characters earliest latest field kind.shapeMessage
  | year
      {year number : List Char}
      {tag : Char}
      (parts : kind.HasParts characters year tag number)
      (outside :
        ¬(earliest ≤ Text.numberOfAscii year ∧
          Text.numberOfAscii year ≤ latest)) :
      Blames kind field characters earliest latest
        (field ++ "_" ++ "year")
        (boundsMessage (some earliest) (some latest))
  | tag
      {year number : List Char}
      {tag : Char}
      (parts : kind.HasParts characters year tag number)
      (inYears :
        earliest ≤ Text.numberOfAscii year ∧
          Text.numberOfAscii year ≤ latest)
      (noTag : tag ∉ ['A', 'B']) :
      Blames kind field characters earliest latest
        (field ++ "_" ++ "tag") "Invalid value."
  | number
      {year number : List Char}
      {tag : Char}
      (parts : kind.HasParts characters year tag number)
      (inYears :
        earliest ≤ Text.numberOfAscii year ∧
          Text.numberOfAscii year ≤ latest)
      (isTag : tag ∈ ['A', 'B'])
      (notAdmitted : ¬kind.AdmitsNumber number) :
      Blames kind field characters earliest latest
        (field ++ "_" ++ "number") (boundsMessage (some 1) (some 999))

variable
  {kind : CodeKind}
  {text : String}
  {characters : List Char}
  {earliest latest : Int}

/-- A text is a code between blanks exactly if its parts in upper case are. -/
theorem admits_strip_iff :
    kind.Admits earliest latest (Text.strip text).toList ↔
      ∃ year tag number,
        kind.HasParts (Check.upperText text) year tag number ∧
          (earliest ≤ Text.numberOfAscii year ∧
            Text.numberOfAscii year ≤ latest) ∧
          tag ∈ ['A', 'B'] ∧ kind.AdmitsNumber number := by
  constructor
  · intro admits
    generalize isTyped : (Text.strip text).toList = typed at admits
    cases admits with
    | @code year number tag yearSize yearDigits inYears isTag numberSize
        numberDigits admitted =>
        rw [← Text.toUpper_mem_tags_iff] at isTag
        have split :=
          (Check.upperText_eq_iff yearDigits numberDigits isTag).mpr
            ⟨tag, rfl, isTyped⟩
        exact ⟨year, tag.toUpper, number,
          ⟨⟨split, yearSize, yearDigits,
            Check.isCapital_of_mem_tags isTag, numberDigits⟩, numberSize⟩,
          inYears, isTag, admitted⟩
  · rintro ⟨year, tag, number,
      ⟨⟨split, yearSize, yearDigits, _, numberDigits⟩, numberSize⟩, inYears,
      isTag, admitted⟩
    obtain ⟨typed, rfl, isTyped⟩ :=
      (Check.upperText_eq_iff yearDigits numberDigits isTag).mp split
    rw [isTyped]
    exact .code yearSize yearDigits inYears
      (Text.toUpper_mem_tags_iff.mp isTag) numberSize numberDigits admitted

/-- What is no code between blanks has a first part that is wrong. -/
theorem exists_blames
    (field : String)
    (refused : ¬kind.Admits earliest latest (Text.strip text).toList) :
    ∃ key message,
      kind.Blames field (Check.upperText text) earliest latest key
        message := by
  rw [admits_strip_iff] at refused
  by_cases shaped :
    ∃ year tag number,
      kind.HasParts (Check.upperText text) year tag number
  · obtain ⟨year, tag, number, parts⟩ := shaped
    by_cases inYears :
      earliest ≤ Text.numberOfAscii year ∧ Text.numberOfAscii year ≤ latest
    · by_cases isTag : tag ∈ ['A', 'B']
      · exact ⟨_, _, .number parts inYears isTag fun admitted =>
          refused ⟨year, tag, number, parts, inYears, isTag, admitted⟩⟩
      · exact ⟨_, _, .tag parts inYears isTag⟩
    · exact ⟨_, _, .year parts inYears⟩
  · exact ⟨_, _, .shape fun year tag number parts =>
      shaped ⟨year, tag, number, parts⟩⟩

variable
  {environment : Environment}
  {submitted : Value}
  {field : String}
  {result : Result}
  {least greatest : Int}
  {year number : List Char}
  {tag : Char}

/-! ## Codes -/

/-- The last part of a check: the digits behind the tag, and the code itself. -/
def finish
    (environment : Environment)
    (field : String)
    (number : List Char)
    (code : Value) : CodeKind → Check Unit
  | .semester => Check.setValue (.text field) code
  | .programNumber => do
      Check.integerRange environment (.text (String.ofList number))
        (.text (field ++ "_" ++ "number")) (.int 1) (.int 999)
      unless ← Check.hasErrors (.text (field ++ "_" ++ "number")) do
        Check.setValue (.text field) code

/-- A text with the parts of a code is checked part by part. -/
theorem check_of_hasParts
    (shows : submitted.asText = .ok text)
    (parts : kind.HasParts (Check.upperText text) year tag number) :
    kind.check environment submitted (.text field) (.int least)
        (.int greatest) =
      (do
        if ← Check.yearAndTag environment year tag (.text field) (.int least)
            (.int greatest) then
          kind.finish environment field number
            (.text (String.ofList (Check.upperText text)))) := by
  obtain ⟨found, numberDigits⟩ := Check.hasParts_iff.mp parts.parts
  cases kind with
  | semester =>
      obtain rfl : number = [] := List.length_eq_zero_iff.mp parts.size
      change Check.semester environment submitted _ _ _ = _
      unfold Check.semester
      rw [shows, Check.lift_ok_bind]
      dsimp only
      rw [found]
      rfl
  | programNumber =>
      match number, parts.size with
      | [hundreds, tens, units], _ =>
          change Check.programNumber environment submitted _ _ _ = _
          unfold Check.programNumber
          rw [shows, Check.lift_ok_bind]
          dsimp only
          rw [found]
          dsimp only
          rw [if_pos numberDigits]
          simp only [Check.partKey_text, Check.lift_ok_bind,
            Check.shortProgramNumber_of_defaults]
          rfl

/-- A text that has not the parts of a code is refused as a whole. -/
theorem check_of_shapeless
    (shows : submitted.asText = .ok text)
    (shapeless :
      ∀ year tag number,
        ¬kind.HasParts (Check.upperText text) year tag number) :
    kind.check environment submitted (.text field) (.int least)
        (.int greatest) =
      Check.reject (.text field) kind.shapeMessage := by
  cases kind with
  | semester =>
      change Check.semester environment submitted _ _ _ = _
      unfold Check.semester
      rw [shows, Check.lift_ok_bind]
      dsimp only
      split
      case h_1 year tag found =>
        exact absurd ⟨Check.hasParts_iff.mpr ⟨found, rfl⟩, rfl⟩
          (shapeless year tag [])
      case h_2 =>
        rfl
  | programNumber =>
      change Check.programNumber environment submitted _ _ _ = _
      unfold Check.programNumber
      rw [shows, Check.lift_ok_bind]
      dsimp only
      split
      case h_1 year tag hundreds tens units found =>
        split
        case isTrue numberDigits =>
          exact absurd
            ⟨Check.hasParts_iff.mpr ⟨found, numberDigits⟩, rfl⟩
            (shapeless year tag [hundreds, tens, units])
        case isFalse =>
          rfl
      case h_2 =>
        rfl

/-- The number behind a tag and the code pass if the digits are admitted. -/
theorem exists_passes_finish
    (parts : kind.HasParts (Check.upperText text) year tag number)
    (admitted : kind.AdmitsNumber number)
    (clean : result.CleanFor field)
    (code : Value) :
    ∃ stored,
      (kind.finish environment field number code).Passes result ()
        (stored ++ [.value (.text field) code]) := by
  cases kind with
  | semester =>
      exact ⟨[], Check.passes_setValue_iff.mpr rfl⟩
  | programNumber =>
      have few : number.length ≤ 4 := by
        rw [parts.size]
        decide
      have inside :
          (1 : Int) ≤ Text.numberOfAscii number ∧
            (Text.numberOfAscii number : Int) ≤ 999 := by
        unfold AdmitsNumber at admitted
        omega
      have storedClean :=
        (Result.cleanFor_extend_iff
          (Check.areQuiet_integerEntries (field ++ "_" ++ "number")
            (Text.numberOfAscii number))).mpr clean
      refine ⟨Check.integerEntries (field ++ "_" ++ "number")
        (Text.numberOfAscii number), ?_⟩
      unfold finish
      dsimp only
      rw [Check.passes_once_bind_iff fun _ =>
        Check.passes_integerRange_of_digits_iff
          (List.ne_nil_of_length_eq_add_one parts.size)
          parts.parts.numberDigits few (clean _ (.part ..))]
      refine ⟨inside, _, ?_, rfl⟩
      rw [Check.passes_hasErrors_bind_iff (storedClean _ (.part ..)),
        if_neg Bool.false_ne_true]
      exact Check.passes_setValue_iff.mpr rfl

/-- Digits behind a tag that are not admitted are refused. -/
theorem finish_refuses
    (parts : kind.HasParts (Check.upperText text) year tag number)
    (notAdmitted : ¬kind.AdmitsNumber number)
    (clean : result.CleanFor field)
    (code : Value) :
    (kind.finish environment field number code).Refuses field result ()
      (field ++ "_" ++ "number") (boundsMessage (some 1) (some 999))
      none := by
  cases kind with
  | semester =>
      exact absurd (List.length_eq_zero_iff.mp parts.size) notAdmitted
  | programNumber =>
      have present : number ≠ [] :=
        List.ne_nil_of_length_eq_add_one parts.size
      have few : number.length ≤ 4 := by
        rw [parts.size]
        decide
      have isRead :=
        Value.toInt?_of_fewDigits present parts.parts.numberDigits few
      have outside :
          ¬((1 : Int) ≤ Text.numberOfAscii number ∧
            (Text.numberOfAscii number : Int) ≤ 999) := by
        unfold AdmitsNumber at notAdmitted
        omega
      have writable : Check.Refuses.boundsFault 1 999 = none :=
        Check.Refuses.boundsFault_of_writable
          ⟨Number.isWritable_of_lt (by decide),
            Number.isWritable_of_lt (by decide)⟩
      apply Check.Refuses.unless_hasErrors
      rw [← writable]
      exact .integerRange
        (Value.fitsInto_fewDigits present parts.parts.numberDigits few) isRead
        outside (clean _ (.part ..)) (Ruling.part_ne field _)

/-- What is wrong is refused under its key; only a year may end in a fault. -/
theorem check_refuses
    {key message : String}
    (shows : submitted.asText = .ok text)
    (clean : result.CleanFor field)
    (blames :
      kind.Blames field (Check.upperText text)
        (max Check.earliestYear least) greatest key message) :
    (kind.check environment submitted (.text field) (.int least)
        (.int greatest)).Refuses
      field result () key message
      (if key = field ++ "_" ++ "year" then
        Check.Refuses.boundsFault (max Check.earliestYear least) greatest
      else
        none) := by
  cases blames with
  | shape shapeless =>
      rw [check_of_shapeless shows shapeless,
        if_neg (Ruling.part_ne field _).symm]
      exact .reject
  | year parts outside =>
      rw [check_of_hasParts shows parts, if_pos rfl]
      exact
        (Check.yearAndTag_refuses_year parts.parts clean
          outside).bind_of_leavesOut fun _ _ => rfl
  | tag parts inYears noTag =>
      rw [check_of_hasParts shows parts, if_neg (by simp)]
      exact
        (Check.yearAndTag_refuses_tag parts.parts clean inYears
          noTag).bind_of_leavesOut fun _ _ => rfl
  | number parts inYears isTag notAdmitted =>
      rw [check_of_hasParts shows parts, if_neg (by simp)]
      refine Check.Refuses.bind_of_passes
        (Check.passes_yearAndTag_of_integers parts.parts clean inYears isTag)
        (Check.areAside_yearAndTagEntries field _ _) ?_
      rw [if_pos rfl]
      exact finish_refuses parts notAdmitted
        (Check.cleanFor_extend_yearAndTagEntries clean _ _) _

/-- A code is accepted in upper case. -/
theorem check_accepts
    (shows : submitted.asText = .ok text)
    (clean : result.CleanFor field)
    (admits :
      kind.Admits (max Check.earliestYear least) greatest
        (Text.strip text).toList) :
    (kind.check environment submitted (.text field) (.int least)
        (.int greatest)).Accepts
      result field (.text (String.ofList (Check.upperText text))) := by
  obtain ⟨year, tag, number, parts, inYears, isTag, admitted⟩ :=
    admits_strip_iff.mp admits
  obtain ⟨late, finishes⟩ :=
    exists_passes_finish parts admitted
      (Check.cleanFor_extend_yearAndTagEntries clean year tag)
      (.text (String.ofList (Check.upperText text)))
  rw [check_of_hasParts shows parts]
  refine Check.Passes.accepts (Check.passes_bind_iff.mpr
    ⟨true, _, _,
      Check.passes_yearAndTag_of_integers parts.parts clean inYears isTag,
      finishes, List.append_assoc ..⟩)

/--
A text is accepted as a semester or as a program number exactly if it is a code
between blanks, and then its upper case is stored. Otherwise some part of it is to
blame, and whatever is to blame, nothing is stored under the field and there is one
message, about that part. Only about a year outside of bounds that cannot both be
written there is none, and the check stops with a fault.
-/
theorem check_accepts_or_blames
    (shows : submitted.asText = .ok text)
    (blank : result.IsBlankFor field)
    (kind : CodeKind)
    (environment : Environment)
    (least greatest : Int) :
    ((kind.check environment submitted (.text field) (.int least)
            (.int greatest)).Accepts
          result field (.text (String.ofList (Check.upperText text))) ↔
        kind.Admits (max 1900 least) greatest (Text.strip text).toList) ∧
      (¬kind.Admits (max 1900 least) greatest (Text.strip text).toList →
        ∃ key message,
          kind.Blames field (Check.upperText text) (max 1900 least) greatest
            key message) ∧
      ∀ key message,
        kind.Blames field (Check.upperText text) (max 1900 least) greatest
            key message →
          ((key = field ++ "_" ++ "year" →
              Number.isWritable (max 1900 least) = true ∧
                Number.isWritable greatest = true) →
            (kind.check environment submitted (.text field) (.int least)
                (.int greatest)).LeavesMessage field result key message) ∧
          (key = field ++ "_" ++ "year" →
            ¬(Number.isWritable (max 1900 least) = true ∧
              Number.isWritable greatest = true) →
            (kind.check environment submitted (.text field) (.int least)
                (.int greatest)).LeavesFault field result
              .tooManyDigits) := by
  have isBlank : result.value? (.text field) = none :=
    (blank _ (.self field)).1
  have refuses
      {key message : String}
      (blames :
        kind.Blames field (Check.upperText text) (max 1900 least) greatest
          key message) :
      (kind.check environment submitted (.text field) (.int least)
          (.int greatest)).Refuses field result () key message
        (if key = field ++ "_" ++ "year" then
          Check.Refuses.boundsFault (max 1900 least) greatest
        else
          none) :=
    check_refuses shows blank.cleanFor blames
  refine ⟨⟨fun accepted => ?_, check_accepts shows blank.cleanFor⟩,
    exists_blames field, fun key message blames => ⟨?_, ?_⟩⟩
  · by_contra notAdmitted
    obtain ⟨key, message, blames⟩ := exists_blames field notAdmitted
    have stored := (refuses blames).value?_after.trans isBlank
    rw [accepted.stores] at stored
    cases stored
  · intro writable
    have refusesHere := refuses blames
    by_cases isYear : key = field ++ "_" ++ "year"
    · rw [if_pos isYear,
        Check.Refuses.boundsFault_of_writable (writable isYear)]
        at refusesHere
      exact refusesHere.leavesMessage isBlank
    · rw [if_neg isYear] at refusesHere
      exact refusesHere.leavesMessage isBlank
  · intro isYear unwritable
    have refusesHere := refuses blames
    rw [if_pos isYear,
      Check.Refuses.boundsFault_of_unwritable unwritable] at refusesHere
    exact refusesHere.leavesFault isBlank

/-- A day on which codes are checked. -/
def checkingDay : Environment :=
  .on ⟨2025, 6, 1⟩

/-- A program number in lower case is accepted; with the number zero it is not. -/
theorem check_accepts_or_blames_programNumber :
    (Value.text " 2024b007\n").asText = .ok " 2024b007\n" ∧
      (CodeKind.programNumber.check checkingDay (.text " 2024b007\n")
          (.text "program") (.int 2000) (.int 2030)).Accepts
        .empty "program" (.text "2024B007") ∧
      (CodeKind.programNumber.check checkingDay (.text "2024b000")
          (.text "program") (.int 2000) (.int 2030)).LeavesMessage
        "program" .empty "program_number"
        "Invalid value: Must be between 1 and 999." := by
  have shows :
      (Value.text " 2024b007\n").asText = .ok " 2024b007\n" :=
    rfl
  have showsZero : (Value.text "2024b000").asText = .ok "2024b000" :=
    rfl
  have blank := Result.isBlankFor_empty "program"
  have isTyped :
      (Text.strip " 2024b007\n").toList =
        ['2', '0', '2', '4'] ++ 'b' :: ['0', '0', '7'] := by
    decide +kernel
  have isStored :
      String.ofList (Check.upperText " 2024b007\n") = "2024B007" := by
    decide +kernel
  have parts :
      CodeKind.programNumber.HasParts (Check.upperText "2024b000")
        ['2', '0', '2', '4'] 'B' ['0', '0', '0'] :=
    ⟨Check.hasParts_iff.mpr (by decide +kernel), rfl⟩
  have isBetween :
      boundsMessage (some 1) (some 999) =
        "Invalid value: Must be between 1 and 999." := by
    decide +kernel
  obtain ⟨accepts, -⟩ :=
    check_accepts_or_blames shows blank .programNumber checkingDay 2000 2030
  obtain ⟨-, -, refuses⟩ :=
    check_accepts_or_blames showsZero blank .programNumber checkingDay 2000
      2030
  rw [isTyped, isStored] at accepts
  refine ⟨shows, accepts.mpr ?_, ?_⟩
  · exact .code rfl (List.all_eq_true.mp rfl) (by decide) (by decide) rfl
      (List.all_eq_true.mp rfl) (by decide)
  · rw [← isBetween]
    refine (refuses _ _ (.number parts (by decide) (by decide) ?_)).1 ?_
    · decide
    · intro isYear
      simp at isYear

/-- The first year that cannot be written. -/
def unwritableYear : Int :=
  (10 ^ Number.digitLimit : Nat)

/-- The first year that cannot be written has more than four digits. -/
theorem unwritableYear_spec :
    Number.isWritable unwritableYear = false ∧ 9999 < unwritableYear := by
  constructor
  · unfold Number.isWritable unwritableYear
    rw [Int.natAbs_natCast]
    exact decide_eq_false (Nat.lt_irrefl _)
  · have long : 10 ^ 4 ≤ 10 ^ Number.digitLimit :=
      Nat.pow_le_pow_right (by decide) (by decide)
    unfold unwritableYear
    omega

/-- Not each semester that is not accepted leaves a message. -/
theorem not_forall_check_leavesMessage :
    ¬∀ (kind : CodeKind) (environment : Environment) (submitted : Value)
        (text field : String) (result : Result) (least greatest : Int),
        submitted.asText = .ok text →
        result.IsBlankFor field →
        ¬kind.Admits (max 1900 least) greatest (Text.strip text).toList →
          ∃ key message,
            (kind.check environment submitted (.text field) (.int least)
                (.int greatest)).LeavesMessage field result key message := by
  intro all
  obtain ⟨unwritable, isLate⟩ := unwritableYear_spec
  have isBound : max Check.earliestYear unwritableYear = unwritableYear :=
    Int.max_eq_right (by
      unfold Check.earliestYear
      omega)
  have shows : (Value.text "2025A").asText = .ok "2025A" :=
    rfl
  have blank := Result.isBlankFor_empty "s"
  have parts :
      CodeKind.semester.HasParts (Check.upperText "2025A")
        ['2', '0', '2', '5'] 'A' [] :=
    ⟨Check.hasParts_iff.mpr (by decide +kernel), rfl⟩
  have isEarly : (Text.numberOfAscii ['2', '0', '2', '5'] : Int) = 2025 :=
    rfl
  have outside :
      ¬(max Check.earliestYear unwritableYear ≤
            Text.numberOfAscii ['2', '0', '2', '5'] ∧
          (Text.numberOfAscii ['2', '0', '2', '5'] : Int) ≤ 9999) := by
    omega
  have refuses :
      (CodeKind.semester.check checkingDay (.text "2025A") (.text "s")
          (.int unwritableYear) (.int 9999)).Refuses "s" .empty () _ _ _ :=
    check_refuses shows blank.cleanFor (.year parts outside)
  rw [if_pos rfl, isBound, Check.Refuses.boundsFault_of_unwritable
    fun writable => Bool.false_ne_true (unwritable.symm.trans writable.1)]
    at refuses
  have stops := (refuses.leavesFault rfl).stops
  have notAdmitted :
      ¬CodeKind.semester.Admits (max 1900 unwritableYear) 9999
        (Text.strip "2025A").toList := by
    intro admits
    have answers : (CodeKind.semester.check checkingDay _ _ _ _ _).ended = _ :=
      (check_accepts shows blank.cleanFor admits).answers
    rw [stops] at answers
    cases answers
  obtain ⟨_, _, leaves⟩ :=
    all .semester checkingDay (.text "2025A") "2025A" "s" .empty
      unwritableYear 9999 shows blank notAdmitted
  have answers := leaves.answers
  rw [stops] at answers
  cases answers

end CodeKind

end FormCheck
