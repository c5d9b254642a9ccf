import FormCheck.Check.Semester
import FormCheck.Proofs.Check.Decision.Text

namespace FormCheck

/-!
# Decisions on years, semesters and program numbers

The parts of a semester are decided on one after the other, each under a key of
its own, and no part behind one that is rejected. The years that are accepted
lie between bounds that an environment gives, or the caller.
-/

/-- The last year is that of the present date and some more. -/
theorem Environment.lastYear_eq
    {environment : Environment}
    {future : Int}
    (isFuture : environment.settings.futureYears = .int future) :
    environment.lastYear = .ok (.int (environment.today.year + future)) := by
  rw [lastYear, isFuture]
  rfl

namespace Environment

/-- Given bounds for a year, or the default ones, are integers. -/
structure BoundsYears
    (environment : Environment)
    (lower upper : Value)
    (earliest latest : Int) : Prop where
  lowest :
    ∃ least,
      lower.orDefault environment.settings.minimalYear = .int least ∧
        earliest = max Check.earliestYear least
  highest :
    upper = .int latest ∨
      upper = .null ∧ environment.lastYear = .ok (.int latest)

/-- The bounds for a year are integers that can be written. -/
structure HasYears
    (environment : Environment)
    (lower upper : Value)
    (earliest latest : Int) : Prop
    extends environment.BoundsYears lower upper earliest latest where
  earliestWritable : Number.isWritable earliest = true
  latestWritable : Number.isWritable latest = true

variable
  {environment : Environment}
  {lower upper : Value}
  {earliest latest : Int}

/-- No year is accepted that is earlier than any may be. -/
theorem BoundsYears.earliest_le
    (years : environment.BoundsYears lower upper earliest latest) :
    Check.earliestYear ≤ earliest := by
  obtain ⟨least, _, rfl⟩ := years.lowest
  exact Int.le_max_left ..

/-- Whatever is submitted for a year can be answered. -/
theorem HasYears.isAnswerable
    (years : environment.HasYears lower upper earliest latest)
    (submitted : Value) :
    submitted.IsAnswerable (some earliest) (some latest) :=
  submitted.isAnswerable_of_writable (.some years.earliestWritable)
    (.some years.latestWritable)

/-- A lower bound may be replaced by its default beforehand. -/
theorem HasYears.resolved
    (years : environment.HasYears lower upper earliest latest) :
    environment.HasYears
      (lower.orDefault environment.settings.minimalYear) upper earliest
      latest := by
  obtain ⟨least, isLeast, isEarliest⟩ := years.lowest
  exact { years with lowest := ⟨least, by rw [isLeast]; rfl, isEarliest⟩ }

end Environment

namespace Check.Rules

variable
  {field : String}
  {earlier : List Ruling}

/-- A year lies between its bounds, and is no earlier than any may be. -/
theorem year
    {environment : Environment}
    {lower upper : Value}
    {earliest latest : Int}
    (years : environment.BoundsYears lower upper earliest latest)
    {submitted : Value}
    (fits : submitted.FitsInto environment.memory)
    (answerable : submitted.IsAnswerable (some earliest) (some latest)) :
    Rules field []
      (Check.year environment submitted (.text field) lower upper) ()
      [⟨field, .integerIn submitted (some earliest) (some latest)⟩] := by
  obtain ⟨least, isLeast, rfl⟩ := years.lowest
  have compared :
      Rules field []
        (do
          let least ← (Value.int Check.earliestYear).greaterOf
            (lower.orDefault environment.settings.minimalYear)
          Check.integerRange environment submitted (.text field) least
            (.int latest))
        ()
        [⟨field,
          .integerIn submitted (some (max Check.earliestYear least))
            (some latest)⟩] := by
    rw [isLeast]
    refine bind_lift (Value.greaterOf_int ..) ?_
    exact integerRange fits (some _) (some _) answerable
  unfold Check.year
  rcases years.highest with rfl | ⟨rfl, isLatest⟩
  · exact bind_silent (pure _) compared
  · exact bind_lift isLatest compared

end Check.Rules

/-- The verdict on the tag of a semester. -/
def Verdict.semesterTag
    (text : String) : Verdict :=
  if (textWithin text 1).isRejected then
    textWithin text 1
  else
    textAmong (String.ofList (Text.upperCase text.toList))
      [.text "A", .text "B"]

namespace Ruling

/-- The rulings on the year and the tag of a field; no tag of a wrong year. -/
def yearAndTag
    (field : String)
    (digits : List Char)
    (tag : Char)
    (earliest latest : Int) : List Ruling :=
  let year :=
    Verdict.integerIn (.text (String.ofList digits)) (some earliest)
      (some latest)
  if year.isRejected then
    [⟨field ++ "_" ++ "year", year⟩]
  else
    [⟨field ++ "_" ++ "year", year⟩,
      ⟨field ++ "_" ++ "tag", .semesterTag (String.ofList [tag])⟩]

/-- A ruling on the year and the tag of a field is about one of the two. -/
theorem key_of_mem_yearAndTag
    {field : String}
    {digits : List Char}
    {tag : Char}
    {earliest latest : Int}
    {ruling : Ruling}
    (member : ruling ∈ yearAndTag field digits tag earliest latest) :
    ruling.key = field ++ "_" ++ "year" ∨
      ruling.key = field ++ "_" ++ "tag" := by
  unfold yearAndTag at member
  dsimp only at member
  split at member
  · rw [List.mem_singleton] at member
    exact .inl (congrArg key member)
  · simp only [List.mem_cons, List.not_mem_nil, or_false] at member
    exact member.imp (congrArg key) (congrArg key)

/-- The rulings on a semester. -/
def semester
    (field text : String)
    (earliest latest : Int) : List Ruling :=
  match Check.yearAndTag? (Check.upperText text) with
  | some (digits, tag, []) =>
      let parts := yearAndTag field digits tag earliest latest
      if someFails parts then
        parts
      else
        parts ++
          [⟨field,
            .accepted (.text (String.ofList (Check.upperText text)))⟩]
  | _ => [⟨field, .rejected "Invalid semester. Must look like 2025A." []⟩]

/-- The rulings on a program number. -/
def programNumber
    (field text : String)
    (earliest latest : Int) : List Ruling :=
  match Check.yearAndTag? (Check.upperText text) with
  | some (digits, tag, [hundreds, tens, units]) =>
      if [hundreds, tens, units].all Text.isAsciiDigit then
        let parts := yearAndTag field digits tag earliest latest
        let number :=
          Verdict.integerIn (.text (String.ofList [hundreds, tens, units]))
            (some 1) (some 999)
        if someFails parts then
          parts
        else if number.isRejected then
          parts ++ [⟨field ++ "_" ++ "number", number⟩]
        else
          parts ++
            [⟨field ++ "_" ++ "number", number⟩,
              ⟨field,
                .accepted (.text (String.ofList (Check.upperText text)))⟩]
      else
        [⟨field,
          .rejected "Invalid program number. Must look like 2025B001." []⟩]
  | _ =>
      [⟨field,
        .rejected "Invalid program number. Must look like 2025B001." []⟩]

end Ruling

/-- A year and a tag that are found are four digits and a capital letter. -/
theorem Check.split_of_yearAndTag?
    {text digits rest : List Char}
    {tag : Char}
    (found : yearAndTag? text = some (digits, tag, rest)) :
    text = digits ++ tag :: rest ∧
      digits.length = 4 ∧
      (∀ digit ∈ digits, Text.isAsciiDigit digit = true) ∧
      'A' ≤ tag ∧ tag ≤ 'Z' := by
  unfold yearAndTag? at found
  split at found
  case h_1 first second third fourth letter others =>
    dsimp only at found
    split at found
    case isTrue proper =>
      cases found
      simp only [Bool.and_eq_true, decide_eq_true_eq] at proper
      exact ⟨rfl, rfl, List.all_eq_true.mp proper.1.1, proper.1.2, proper.2⟩
    case isFalse =>
      cases found
  case h_2 =>
    cases found

/-- The four digits of a year write an integer that fits. -/
theorem Check.fitsInto_yearDigits
    {memory : Memory}
    {text digits rest : List Char}
    {tag : Char}
    (found : yearAndTag? text = some (digits, tag, rest)) :
    (Value.text (String.ofList digits)).FitsInto memory := by
  obtain ⟨_, size, areDigits, _⟩ := split_of_yearAndTag? found
  have present : digits ≠ [] :=
    List.ne_nil_of_length_pos (by omega)
  exact Value.fitsInto_fewDigits present areDigits (Nat.le_of_eq size)

namespace Check.Rules

variable
  {field : String}
  {submitted : Value}
  {text : String}

/-- The tag of a semester is accepted in upper case. -/
theorem semesterTag
    (shows : submitted.asText = .ok text) :
    Rules field []
      (Check.semesterTag submitted (.text field)) ()
      [⟨field, .semesterTag text⟩] := by
  have self := Value.BelongsTo.self field
  have short :
      Rules field [] (Check.textLength submitted (.text field) (.int 1)) ()
        [⟨field, .textWithin text 1⟩] :=
    textLength shows (Number.isWritable_of_lt (by decide))
  unfold Check.semesterTag Verdict.semesterTag
  cases verdict : Verdict.textWithin text 1 with
  | accepted stored =>
      rw [verdict] at short
      apply condense
      refine bind_ruling short (unless_hasErrors_of_not_failed self
        (by simp [Verdict.isRejected]) ?_)
      rw [if_neg (by simp [Verdict.isRejected])]
      exact bind_lift shows (textAmong rfl rfl)
  | rejected message others =>
      rw [verdict] at short
      exact short.bind
        (unless_hasErrors_of_failed self (by simp [Verdict.isRejected]))

/-- The year and the tag of a field are checked one after the other. -/
theorem yearAndTag
    {environment : Environment}
    {lower upper : Value}
    {earliest latest : Int}
    (years : environment.HasYears lower upper earliest latest)
    {digits : List Char}
    (fits :
      (Value.text (String.ofList digits)).FitsInto environment.memory)
    (tag : Char) :
    Rules field []
      (Check.yearAndTag environment digits tag (.text field) lower upper)
      (!Ruling.someFails
        (Ruling.yearAndTag field digits tag earliest latest))
      (Ruling.yearAndTag field digits tag earliest latest) := by
  have inYears :
      Rules field []
        (Check.year environment (.text (String.ofList digits))
          (.text (field ++ "_" ++ "year")) lower upper)
        () [_] :=
    of_part (year years.toBoundsYears fits (years.isAnswerable _))
      (List.forall_mem_nil _)
  have isTag
      (verdict : Verdict) :
      Rules field [⟨field ++ "_" ++ "year", verdict⟩]
        (Check.semesterTag (.text (String.ofList [tag]))
          (.text (field ++ "_" ++ "tag")))
        ()
        [⟨field ++ "_" ++ "tag",
          .semesterTag (String.ofList [tag])⟩] := by
    refine of_part (semesterTag rfl) (List.forall_mem_singleton.mpr ?_)
    exact (Value.BelongsTo.self _).not_of_apart (by decide) (by decide)
  unfold Check.yearAndTag Ruling.yearAndTag
  apply bind_partKey
  dsimp only
  split
  case isTrue rejected =>
    simp only [Ruling.someFails_cons, rejected, Bool.true_or, Bool.not_true]
    exact inYears.bind
      (unless_hasErrors_of_failed (.part ..) (by simp [rejected]))
  case isFalse accepted =>
    rw [Bool.not_eq_true] at accepted
    refine inYears.bind_ruling
      (unless_hasErrors_of_not_failed (.part ..) (by simp [accepted]) ?_)
    apply bind_partKey
    refine bind_ruling (isTag _) (bind_silent (hasErrors (.part ..)) ?_)
    simpa [accepted] using pure _

/-- A semester is accepted in upper case. -/
theorem semester
    (shows : submitted.asText = .ok text)
    {environment : Environment}
    {lower upper : Value}
    {earliest latest : Int}
    (years : environment.HasYears lower upper earliest latest) :
    Rules field []
      (Check.semester environment submitted (.text field) lower upper) ()
      (Ruling.semester field text earliest latest) := by
  unfold Check.semester Ruling.semester
  refine bind_lift shows ?_
  dsimp only
  match found : Check.yearAndTag? (Check.upperText text) with
  | none | some (_, _, _ :: _) =>
      exact reject field _
  | some (digits, tag, []) =>
      have parts : Rules field [] _ _ _ :=
        yearAndTag years.resolved (Check.fitsInto_yearDigits found) tag
      dsimp only
      cases failed :
          Ruling.someFails
            (Ruling.yearAndTag field digits tag earliest latest) with
      | true =>
          rw [failed] at parts
          rw [if_pos rfl]
          exact parts.bind_then_silent (pure ())
      | false =>
          rw [failed] at parts
          rw [if_neg Bool.false_ne_true]
          exact parts.bind (setValue field _)

/-- The digits behind the year and the tag are an integer up to 999. -/
theorem shortProgramNumber
    {environment : Environment}
    {digitsBehind : List Char}
    (fits :
      (Value.text (String.ofList digitsBehind)).FitsInto environment.memory)
    (digits : List Char)
    (tag : Char)
    (earliest latest : Int) :
    Rules field (Ruling.yearAndTag field digits tag earliest latest)
      (Check.shortProgramNumber environment
        (.text (String.ofList digitsBehind))
        (.text (field ++ "_" ++ "number")) .null .null)
      ()
      [⟨field ++ "_" ++ "number",
        .integerIn (.text (String.ofList digitsBehind)) (some 1)
          (some 999)⟩] := by
  refine of_part (clampedRange fits (Number.isWritable_of_lt (by decide))
    (Number.isWritable_of_lt (by decide))) ?_
  intro ruling member
  rcases Ruling.key_of_mem_yearAndTag member with isYear | isTag
  · rw [isYear]
    exact (Value.BelongsTo.self _).not_of_apart (by decide) (by decide)
  · rw [isTag]
    exact (Value.BelongsTo.self _).not_of_apart (by decide) (by decide)

/-- A program number is accepted in upper case. -/
theorem programNumber
    (shows : submitted.asText = .ok text)
    {environment : Environment}
    {lower upper : Value}
    {earliest latest : Int}
    (years :
      environment.HasYears lower
        (upper.orDefault (.int environment.nextYear)) earliest latest) :
    Rules field []
      (Check.programNumber environment submitted (.text field) lower upper)
      () (Ruling.programNumber field text earliest latest) := by
  have shape :
      Rules field []
        (Check.reject (.text field)
          "Invalid program number. Must look like 2025B001.")
        ()
        [⟨field,
          .rejected "Invalid program number. Must look like 2025B001."
            []⟩] :=
    reject field _
  unfold Check.programNumber Ruling.programNumber
  refine bind_lift shows ?_
  dsimp only
  match found : Check.yearAndTag? (Check.upperText text) with
  | none | some (_, _, []) | some (_, _, [_]) | some (_, _, [_, _])
  | some (_, _, _ :: _ :: _ :: _ :: _) =>
      exact shape
  | some (digits, tag, [hundreds, tens, units]) =>
      have parts : Rules field [] _ _ _ :=
        yearAndTag years.resolved (Check.fitsInto_yearDigits found) tag
      dsimp only
      split
      case isFalse =>
        exact shape
      case isTrue areDigits =>
        have fits :
            (Value.text (String.ofList [hundreds, tens, units])).FitsInto
              environment.memory :=
          Value.fitsInto_fewDigits (List.cons_ne_nil _ _)
            (List.all_eq_true.mp areDigits) (Nat.le_succ 3)
        have number : Rules field _ _ () _ :=
          shortProgramNumber fits digits tag earliest latest
        cases failed :
            Ruling.someFails
              (Ruling.yearAndTag field digits tag earliest latest) with
        | true =>
            rw [failed] at parts
            rw [if_pos rfl]
            exact parts.bind_then_silent (pure ())
        | false =>
            rw [failed] at parts
            simp only [Bool.false_eq_true, ↓reduceIte]
            have flawless :=
              Ruling.failsAt_of_not_someFails failed
                (field ++ "_" ++ "number")
            split
            case isTrue rejected =>
              refine parts.bind ?_
              rw [List.nil_append]
              refine bind_partKey (number.bind_then_silent ?_)
              refine unless_hasErrors_of_failed (.part ..) ?_
              simp only [Ruling.failsAt_append, Ruling.failsAt_cons,
                rejected, decide_true, Bool.and_self, Bool.true_or,
                Bool.or_true]
            case isFalse accepted =>
              rw [Bool.not_eq_true] at accepted
              refine parts.bind ?_
              rw [List.nil_append]
              refine bind_partKey (number.bind_ruling ?_)
              refine unless_hasErrors_of_not_failed (.part ..) ?_
                (setValue field _)
              simp only [Ruling.failsAt_append, flawless,
                Ruling.failsAt_cons, accepted, Bool.and_false,
                Ruling.failsAt_nil, Bool.or_self]

end Check.Rules

end FormCheck
