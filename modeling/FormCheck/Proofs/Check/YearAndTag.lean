import FormCheck.Proofs.Check.Refusing
import FormCheck.Proofs.SemesterDates

namespace FormCheck

/-!
# A year and a tag between given bounds

The year and the tag of a code are checked under keys of their own. With integers
for its bounds a year passes exactly if it lies between them, and it is refused
otherwise. A tag is looked at only behind a year that passes.
-/

namespace Check

variable
  {environment : Environment}
  {field key : String}
  {result : Result}
  {least greatest : Int}
  {digits : List Char}

/-- The entries that store a part of a field are aside from the field. -/
theorem areAside_integerEntries
    (field part : String)
    (number : Int) :
    Entry.AreAside field
      (integerEntries (field ++ "_" ++ part) number) := by
  simp [Entry.AreAside, integerEntries, Entry.isError, Entry.key]

/-- The entries that store the year and the tag of a field. -/
def yearAndTagEntries
    (field : String)
    (year : List Char)
    (tag : Char) : List Entry :=
  integerEntries (field ++ "_" ++ "year") (Text.numberOfAscii year) ++
    tagEntries (field ++ "_" ++ "tag") tag

/-- The year and the tag of a field are aside from the field. -/
theorem areAside_yearAndTagEntries
    (field : String)
    (year : List Char)
    (tag : Char) :
    Entry.AreAside field (yearAndTagEntries field year tag) := by
  simp [Entry.AreAside, yearAndTagEntries, integerEntries, tagEntries,
    Entry.isError, Entry.key]

/-- A result stays clean for a field when a year and a tag are stored. -/
theorem cleanFor_extend_yearAndTagEntries
    (clean : result.CleanFor field)
    (year : List Char)
    (tag : Char) :
    (result.extend (yearAndTagEntries field year tag)).CleanFor field :=
  (Result.cleanFor_extend_iff
    (Entry.areQuiet_append_iff.mpr
      ⟨areQuiet_integerEntries _ _, areQuiet_tagEntries _ _⟩)).mpr clean

/-- A check that passes accepts what it stores last. -/
theorem Passes.accepts
    {check : Check Unit}
    {stored : List Entry}
    {value : Value}
    (passes :
      check.Passes result () (stored ++ [.value (.text field) value])) :
    check.Accepts result field value where
  answers := by rw [passes.answers]
  quiet := by
    rw [passes.answers]
    exact passes.quiet
  stores := by
    rw [after, passes.answers, Result.value?_extend]
    simp [Entry.valueAt?]

/-- Between given bounds a year is an integer, and no earlier than any may be. -/
theorem year_of_integers
    (environment : Environment)
    (submitted : Value)
    (key : String)
    (least greatest : Int) :
    year environment submitted (.text key) (.int least) (.int greatest) =
      integerRange environment submitted (.text key)
        (.int (max earliestYear least)) (.int greatest) := by
  unfold year
  change
    (do
        let upper ← liftM (Except.ok (.int greatest) : Except Fault Value)
        let lower ← liftM ((Value.int earliestYear).greaterOf (.int least))
        integerRange environment submitted (.text key) lower upper :
          Check Unit) =
      _
  rw [lift_ok_bind, Value.greaterOf_int, lift_ok_bind]

/-- Digits pass exactly if the number that they write is within bounds. -/
theorem passes_integerRange_of_digits_iff
    {entries : List Entry}
    (present : digits ≠ [])
    (areDigits : ∀ digit ∈ digits, Text.isAsciiDigit digit = true)
    (few : digits.length ≤ 4)
    (clean : result.hasErrorsAt (.text key) = false) :
    (integerRange environment (.text (String.ofList digits)) (.text key)
        (.int least) (.int greatest)).Passes result () entries ↔
      (least ≤ Text.numberOfAscii digits ∧
          Text.numberOfAscii digits ≤ greatest) ∧
        entries = integerEntries key (Text.numberOfAscii digits) := by
  rw [passes_integerRange_iff clean]
  simp only [Value.fitsInto_fewDigits present areDigits few, true_and,
    Value.integerWithin?_eq_some_iff,
    Value.toInt?_of_fewDigits present areDigits few, Option.some.injEq, and_assoc,
    exists_eq_left']

/-- The year of a code passes exactly if it is within bounds. -/
theorem HasParts.passes_integerRange_year_iff
    {characters year number : List Char}
    {tag : Char}
    {entries : List Entry}
    (parts : HasParts characters year tag number)
    (clean : result.hasErrorsAt (.text key) = false) :
    (integerRange environment (.text (String.ofList year)) (.text key)
        (.int least) (.int greatest)).Passes result () entries ↔
      (least ≤ Text.numberOfAscii year ∧
          Text.numberOfAscii year ≤ greatest) ∧
        entries = integerEntries key (Text.numberOfAscii year) :=
  passes_integerRange_of_digits_iff
    (List.ne_nil_of_length_eq_add_one parts.yearSize) parts.yearDigits
    parts.yearSize.le clean

/-- Without bounds of its own a short program number lies between 1 and 999. -/
theorem shortProgramNumber_of_defaults
    (environment : Environment)
    (submitted key : Value) :
    shortProgramNumber environment submitted key .null .null =
      integerRange environment submitted key (.int 1) (.int 999) := by
  unfold shortProgramNumber clampedRange
  dsimp only [Value.orDefault]
  rw [Value.greaterOf_int, lift_ok_bind, Value.lesserOf_int, lift_ok_bind,
    Int.max_self, Int.min_self]

/-- A capital letter that is no tag is refused. -/
theorem semesterTag_refuses
    {tag : Char}
    (isCapital : 'A' ≤ tag ∧ tag ≤ 'Z')
    (noTag : tag ∉ ['A', 'B'])
    (clean : result.hasErrorsAt (.text key) = false)
    (differs : key ≠ field) :
    (semesterTag (.text (String.ofList [tag])) (.text key)).Refuses field
      result () key "Invalid value." none := by
  have areTags :
      semesterTags.members = .ok [.text "A", .text "B"] :=
    rfl
  have isText :
      (Value.text (String.ofList [tag])).asText =
        .ok (String.ofList [tag]) :=
    rfl
  unfold semesterTag
  refine Refuses.unless_hasErrors_of_passes
    (passes_textLength_iff.mpr ⟨by simp, rfl⟩) ?_ clean ?_
  · rw [Entry.AreAside, List.forall_mem_singleton]
    exact ⟨rfl, mt Value.text.inj differs⟩
  · rw [isText, lift_ok_bind, String.toList_ofList,
      Text.upperCase_singleton_of_isCapital isCapital]
    unfold textAmong
    dsimp only
    rw [isText, lift_ok_bind, areTags, lift_ok_bind, Value.contains_tags,
      if_neg (by simpa using noTag)]
    exact .reject

/-- A year that is not within bounds is refused. -/
theorem yearAndTag_refuses_year
    {characters year number : List Char}
    {tag : Char}
    (parts : HasParts characters year tag number)
    (clean : result.CleanFor field)
    (outside :
      ¬(max earliestYear least ≤ Text.numberOfAscii year ∧
        Text.numberOfAscii year ≤ greatest)) :
    (yearAndTag environment year tag (.text field) (.int least)
        (.int greatest)).Refuses
      field result false (field ++ "_" ++ "year")
      (boundsMessage (some (max earliestYear least)) (some greatest))
      (Refuses.boundsFault (max earliestYear least) greatest) := by
  unfold yearAndTag
  rw [partKey_text, lift_ok_bind, year_of_integers]
  apply Refuses.unless_hasErrors
  have present := List.ne_nil_of_length_eq_add_one parts.yearSize
  exact Refuses.integerRange
    (Value.fitsInto_fewDigits present parts.yearDigits parts.yearSize.le)
    (Value.toInt?_of_fewDigits present parts.yearDigits parts.yearSize.le)
    outside (clean _ (.part ..)) (Ruling.part_ne field _)

/-- A letter that is no tag is refused behind a year within bounds. -/
theorem yearAndTag_refuses_tag
    {characters year number : List Char}
    {tag : Char}
    (parts : HasParts characters year tag number)
    (clean : result.CleanFor field)
    (inYears :
      max earliestYear least ≤ Text.numberOfAscii year ∧
        Text.numberOfAscii year ≤ greatest)
    (noTag : tag ∉ ['A', 'B']) :
    (yearAndTag environment year tag (.text field) (.int least)
        (.int greatest)).Refuses
      field result false (field ++ "_" ++ "tag") "Invalid value." none := by
  have stored :=
    areQuiet_integerEntries (field ++ "_" ++ "year")
      (Text.numberOfAscii year)
  unfold yearAndTag
  rw [partKey_text, lift_ok_bind, year_of_integers]
  apply Refuses.unless_hasErrors_of_passes
    ((parts.passes_integerRange_year_iff (clean _ (.part ..))).mpr
      ⟨inYears, rfl⟩)
    (areAside_integerEntries field "year" _) (clean _ (.part ..))
  rw [partKey_text, lift_ok_bind]
  have refuses :
      (semesterTag (.text (String.ofList [tag]))
          (.text (field ++ "_" ++ "tag"))).Refuses
        field (result.extend (integerEntries _ _)) () _ _ none :=
    semesterTag_refuses parts.isCapital noTag
      ((Result.cleanFor_extend_iff stored).mpr clean _ (.part ..))
      (Ruling.part_ne field _)
  apply refuses.bind_of_leavesOut
  intro reachedResult failed
  have answers :
      hasErrors (.text (field ++ "_" ++ "tag")) reachedResult =
        ⟨[], .ok true⟩ := by
    rw [← failed]
    rfl
  rw [bind_of_ok answers]
  rfl

/-- A year and a tag pass if the year is within bounds and the tag is one. -/
theorem passes_yearAndTag_of_integers
    {characters year number : List Char}
    {tag : Char}
    (parts : HasParts characters year tag number)
    (clean : result.CleanFor field)
    (inYears :
      max earliestYear least ≤ Text.numberOfAscii year ∧
        Text.numberOfAscii year ≤ greatest)
    (isTag : tag ∈ ['A', 'B']) :
    (yearAndTag environment year tag (.text field) (.int least)
        (.int greatest)).Passes
      result true (yearAndTagEntries field year tag) := by
  refine (passes_yearAndTag_iff_of_year (fun stored => ?_) parts clean).mpr
    ⟨⟨inYears, isTag⟩, rfl, rfl⟩
  rw [year_of_integers]
  exact parts.passes_integerRange_year_iff (clean _ (.part ..))

end Check

end FormCheck
