import FormCheck.Proofs.Check.Decision.Number
import FormCheck.Proofs.Check.Sanitizing
import FormCheck.Proofs.IntegerParsing

namespace FormCheck

/-!
# Numbers are sanitized once

A check of an integer looks at nothing but the integer that is submitted or
written, and stores it. An integer that can be written is read as itself when it is
submitted again, and between bounds that can be written lies no other.
-/

namespace Value

/-- Integers that count as such are ordered by size. -/
theorem less_of_number?
    {left right : Value}
    {lesser greater : Int}
    (isLeft : left.number? = some (.int lesser))
    (isRight : right.number? = some (.int greater)) :
    less left right = .ok (decide (lesser < greater)) := by
  cases left with
  | bool _ | int _ =>
      cases isLeft
      cases right with
      | bool _ | int _ =>
          cases isRight
          simp [less, lessPlain?, number?, Numeric.compare?,
            Int.compare_eq_lt]
      | _ =>
          cases isRight
  | _ =>
      cases isLeft

/--
A value is a writable integer if it has no more digits than can be written. A truth
value counts as zero or one.
-/
def IsWritableInteger
    (value : Value) : Prop :=
  ∃ number,
    value.number? = some (.int number) ∧ Number.isWritable number = true

namespace IsWritableInteger

variable
  {first second lower upper : Value}
  {number : Int}

/-- An integer with few digits is one. -/
theorem int
    (writable : Number.isWritable number = true) :
    IsWritableInteger (.int number) :=
  ⟨number, rfl, writable⟩

/-- A writable integer has a text, as messages about bounds need. -/
theorem exists_shown
    (isInteger : first.IsWritableInteger) :
    ∃ text, first.shown = .ok text := by
  obtain ⟨number, isNumber, writable⟩ := isInteger
  cases first with
  | int own =>
      cases isNumber
      exact ⟨_, shown_int writable⟩
  | bool truth =>
      exact ⟨_, rfl⟩
  | _ =>
      cases isNumber

/-- Null is none. -/
theorem ne_null
    (isInteger : first.IsWritableInteger) :
    first ≠ .null := by
  rintro rfl
  obtain ⟨_, isNumber, _⟩ := isInteger
  cases isNumber

/-- Of two writable integers the greater is one. -/
theorem exists_greaterOf
    (isFirst : first.IsWritableInteger)
    (isSecond : second.IsWritableInteger) :
    ∃ greater,
      first.greaterOf second = .ok greater ∧ greater.IsWritableInteger := by
  obtain ⟨_, firstNumber, _⟩ := id isFirst
  obtain ⟨_, secondNumber, _⟩ := id isSecond
  unfold greaterOf
  rw [less_of_number? firstNumber secondNumber]
  exact ⟨_, rfl, by split <;> assumption⟩

/-- Of two writable integers the lesser is one. -/
theorem exists_lesserOf
    (isFirst : first.IsWritableInteger)
    (isSecond : second.IsWritableInteger) :
    ∃ lesser,
      first.lesserOf second = .ok lesser ∧ lesser.IsWritableInteger := by
  obtain ⟨_, firstNumber, _⟩ := id isFirst
  obtain ⟨_, secondNumber, _⟩ := id isSecond
  unfold lesserOf
  rw [less_of_number? secondNumber firstNumber]
  exact ⟨_, rfl, by split <;> assumption⟩

/-- An integer beside two writable ones is compared with them by size. -/
theorem exists_less
    (isBound : first.IsWritableInteger)
    (number : Int) :
    (∃ precedes, (Value.int number).less first = .ok precedes) ∧
      ∃ exceeds, first.less (.int number) = .ok exceeds := by
  obtain ⟨_, isNumber, _⟩ := isBound
  exact ⟨⟨_, less_of_number? rfl isNumber⟩,
    ⟨_, less_of_number? isNumber rfl⟩⟩

/-- An integer between writable ones is writable. -/
theorem isWritable_between
    (isLower : lower.IsWritableInteger)
    (isUpper : upper.IsWritableInteger)
    (notBelow : (Value.int number).less lower = .ok false)
    (notAbove : upper.less (.int number) = .ok false) :
    Number.isWritable number = true := by
  obtain ⟨least, lowerNumber, lowerWritable⟩ := isLower
  obtain ⟨greatest, upperNumber, upperWritable⟩ := isUpper
  rw [less_of_number? rfl lowerNumber] at notBelow
  rw [less_of_number? upperNumber rfl] at notAbove
  simp only [Except.ok.injEq, decide_eq_false_iff_not] at notBelow notAbove
  unfold Number.isWritable at lowerWritable upperWritable ⊢
  rw [decide_eq_true_iff] at lowerWritable upperWritable ⊢
  omega

end IsWritableInteger

/-- A bound is null, where there is none, or else a writable integer. -/
def IsIntegerBound
    (value : Value) : Prop :=
  value = .null ∨ value.IsWritableInteger

/-- In the place of a bound that is left out stands its default. -/
theorem IsIntegerBound.orDefault
    {bound default : Value}
    (isBound : bound.IsIntegerBound)
    (isDefault : default.IsWritableInteger) :
    (bound.orDefault default).IsWritableInteger := by
  rcases isBound with rfl | isInteger
  · exact isDefault
  · unfold Value.orDefault
    split
    · exact isDefault
    · exact isInteger

end Value

/--
The bounds for a year, those that are given or else those of the settings, are
writable integers.
-/
structure Environment.HasWritableYears
    (environment : Environment)
    (lower upper : Value) : Prop where
  lowest :
    (lower.orDefault environment.settings.minimalYear).IsWritableInteger
  highest :
    upper.IsWritableInteger ∨
      upper = .null ∧
        ∀ latest, environment.lastYear = .ok latest →
          latest.IsWritableInteger

namespace Check

variable
  {field : String}
  {lower upper : Value}

/-- With a bound on both sides a number is compared with both. -/
theorem withinBounds_of_ne_null
    (hasLower : lower ≠ .null)
    (hasUpper : upper ≠ .null)
    (number key : Value) :
    withinBounds number key lower upper = do
      if ← number.less lower then
        rejectBetween key lower upper
        return false
      else if ← upper.less number then
        rejectBetween key lower upper
        return false
      else
        return true := by
  unfold withinBounds
  split
  · exact absurd rfl hasLower
  · exact absurd rfl hasLower
  · exact absurd rfl hasUpper
  · rfl

/-- What lies within writable bounds is writable, and anything else is refused. -/
theorem withinBounds_of_writable
    (isLower : lower.IsWritableInteger)
    (isUpper : upper.IsWritableInteger)
    (number : Int)
    (result : Result) :
    (Number.isWritable number = true ∧
        withinBounds (.int number) (.text field) lower upper result =
          ⟨[], .ok true⟩) ∨
      ∃ message,
        withinBounds (.int number) (.text field) lower upper result =
          ⟨[.error (.text field) message], .ok false⟩ := by
  obtain ⟨lowerText, showsLower⟩ := isLower.exists_shown
  obtain ⟨upperText, showsUpper⟩ := isUpper.exists_shown
  obtain ⟨⟨precedes, compares⟩, _⟩ := isLower.exists_less number
  obtain ⟨_, ⟨exceeds, comparesToo⟩⟩ := isUpper.exists_less number
  have refuses :
      ∃ message,
        (do
            rejectBetween (.text field) lower upper
            return false : Check Bool) result =
          ⟨[.error (.text field) message], .ok false⟩ := by
    unfold rejectBetween
    rw [showsLower, lift_ok_bind, showsUpper, lift_ok_bind]
    exact ⟨_, rfl⟩
  rw [withinBounds_of_ne_null isLower.ne_null isUpper.ne_null, compares,
    lift_ok_bind]
  cases precedes with
  | true =>
      exact .inr refuses
  | false =>
      rw [if_neg Bool.false_ne_true, comparesToo, lift_ok_bind]
      cases exceeds with
      | true =>
          exact .inr refuses
      | false =>
          exact .inl
            ⟨isLower.isWritable_between isUpper compares comparesToo, rfl⟩

/-- Between writable bounds an integer is stored that is writable too. -/
theorem exists_of_integerRange
    {environment : Environment}
    {value stored : Value}
    (isLower : lower.IsWritableInteger)
    (isUpper : upper.IsWritableInteger)
    (sanitizes :
      (integerRange environment value (.text field) lower upper).Sanitizes
        field stored) :
    ∃ number,
      value.toInt? = some number ∧ Number.isWritable number = true ∧
        stored = .int number := by
  unfold integerRange at sanitizes
  by_cases fits : value.FitsInto environment.memory
  case neg =>
    rw [integer_eq_stop fits] at sanitizes
    obtain ⟨_, stopped, _⟩ := sanitizes.exists_of_messages (.stop _)
    cases stopped
  rw [integer_eq fits] at sanitizes
  cases isInteger : value.toInt? with
  | none =>
      rw [isInteger] at sanitizes
      exact sanitizes.false_of_reject_bind.elim
  | some number =>
      rw [isInteger] at sanitizes
      obtain ⟨quiet, stores⟩ := sanitizes
      dsimp only at quiet stores
      rw [setValue_unless_hasErrors, bind_of_ok (value_setValue ..)] at quiet
      rw [after, setValue_unless_hasErrors,
        bind_of_ok (value_setValue ..)] at stores
      rcases withinBounds_of_writable isLower isUpper number _ with
        ⟨writable, inside⟩ | ⟨message, outside⟩
      · rw [bind_of_ok inside] at stores
        have isLast :
            (Result.empty.extend
                [.value (.text field) (.int number),
                  .value (.text field) (.int number)]).value?
                (.text field) =
              some stored :=
          stores
        refine ⟨number, rfl, writable, ?_⟩
        simpa [Result.value?_extend, Entry.valueAt?] using isLast.symm
      · rw [bind_of_ok outside] at quiet
        cases quiet (.error (.text field) message) (by simp)

namespace Idempotent

/-- A check that sees nothing but an integer, and stores it, is idempotent. -/
theorem of_integer
    {check : Value → Check Unit}
    (isRead :
      ∀ {value other},
        value.toInt? = other.toInt? → check value = check other)
    (storesInteger :
      ∀ {value stored},
        (check value).Sanitizes field stored →
          ∃ number,
            value.toInt? = some number ∧
              Number.isWritable number = true ∧ stored = .int number) :
    Idempotent field check := by
  refine of_eq fun value stored sanitizes => ?_
  obtain ⟨number, isInteger, writable, rfl⟩ := storesInteger sanitizes
  exact isRead ((Value.toInt?_int writable).trans isInteger.symm)

/-! ## Integers between bounds -/

theorem integerRange
    (environment : Environment)
    (isLower : lower.IsWritableInteger)
    (isUpper : upper.IsWritableInteger) :
    Idempotent field fun value =>
      Check.integerRange environment value (.text field) lower upper :=
  of_integer
    (fun same => by
      unfold Check.integerRange Check.integer
      rw [Value.readInteger_congr same])
    (exists_of_integerRange isLower isUpper)

/-- The bounds are clamped in the same way both times. -/
theorem clampedRange
    (environment : Environment)
    {least greatest : Int}
    (isLower : lower.IsIntegerBound)
    (isUpper : upper.IsIntegerBound)
    (leastWritable : Number.isWritable least = true)
    (greatestWritable : Number.isWritable greatest = true) :
    Idempotent field fun value =>
      Check.clampedRange environment value (.text field) lower upper least
        greatest := by
  unfold Check.clampedRange
  rcases isLower with rfl | isLower
  · exact of_eq fun _ _ _ => rfl
  obtain ⟨lowest, isLowest, lowestWritable⟩ :=
    (Value.IsWritableInteger.int leastWritable).exists_greaterOf isLower
  rw [isLowest]
  simp only [lift_ok_bind]
  rcases isUpper with rfl | isUpper
  · exact of_eq fun _ _ _ => rfl
  obtain ⟨highest, isHighest, highestWritable⟩ :=
    (Value.IsWritableInteger.int greatestWritable).exists_lesserOf isUpper
  rw [isHighest]
  simp only [lift_ok_bind]
  exact integerRange environment lowestWritable highestWritable

theorem shortProgramNumber
    (environment : Environment)
    (isLower : lower.IsIntegerBound)
    (isUpper : upper.IsIntegerBound) :
    Idempotent field fun value =>
      Check.shortProgramNumber environment value (.text field) lower upper := by
  have one : Number.isWritable 1 = true :=
    Number.isWritable_of_lt (by decide)
  have many : Number.isWritable 999 = true :=
    Number.isWritable_of_lt (by decide)
  exact
    clampedRange environment (.inr (isLower.orDefault (.int one)))
      (.inr (isUpper.orDefault (.int many))) one many

/-- A year is compared with what its bounds are after all. -/
theorem year
    {environment : Environment}
    (years : environment.HasWritableYears lower upper) :
    Idempotent field fun value =>
      Check.year environment value (.text field) lower upper := by
  have isEarliest : (Value.int earliestYear).IsWritableInteger :=
    .int (Number.isWritable_of_lt (by decide))
  obtain ⟨lowest, isLowest, lowestWritable⟩ :=
    isEarliest.exists_greaterOf years.lowest
  unfold Check.year
  dsimp only
  rw [isLowest]
  simp only [lift_ok_bind]
  split
  case h_1 =>
    have isLatest :=
      (years.highest.resolve_left fun isNull => isNull.ne_null rfl).2
    cases isLast : environment.lastYear with
    | error fault =>
        exact of_eq fun _ _ _ => rfl
    | ok latest =>
        simp only [lift_ok_bind]
        exact integerRange environment lowestWritable (isLatest latest isLast)
  case h_2 present =>
    have given
        (value : Value) :
        (do
            let upper ← (pure upper : Check Value)
            Check.integerRange environment value (.text field) lowest upper) =
          Check.integerRange environment value (.text field) lowest upper :=
      lift_ok_bind upper fun upper =>
        Check.integerRange environment value (.text field) lowest upper
    simp only [given]
    exact integerRange environment lowestWritable
      (years.highest.resolve_right fun isNull => present isNull.1)

/-- What is stored lies between both bounds, whatever the message is otherwise. -/
theorem numberInRange
    (environment : Environment)
    (isLower : lower.IsIntegerBound)
    (isUpper : upper.IsIntegerBound)
    (message : Value) :
    Idempotent field fun value =>
      Check.numberInRange environment value (.text field) lower upper
        message := by
  have one : (Value.int 1).IsWritableInteger :=
    .int (Number.isWritable_of_lt (by decide))
  have many : (Value.int 9999).IsWritableInteger :=
    .int (Number.isWritable_of_lt (by decide))
  have lowerInteger := isLower.orDefault one
  have upperInteger := isUpper.orDefault many
  refine of_integer (fun same => ?_) fun {value stored} sanitizes => ?_
  · unfold Check.numberInRange
    rw [Value.readInteger_congr same]
  · unfold Check.numberInRange at sanitizes
    dsimp only at sanitizes
    have isFailure :
        Writes (Entry.isError · = true)
          (rejectWith message (.text field)
            (rejectNumber (.text field) (lower.orDefault (.int 1))
              (upper.orDefault (.int 9999)))) :=
      .ite (.addError_isError ..)
        (.bind (.lift _) fun _ => .bind (.lift _) fun _ =>
          .addError_isError ..)
    obtain ⟨read, isRead, sanitizes⟩ := sanitizes.exists_of_lift
    obtain ⟨_, rfl⟩ := Value.readInteger_eq_ok_iff.mp isRead
    cases isInteger : value.toInt? with
    | none =>
        rw [isInteger] at sanitizes
        exact (sanitizes.false_of_messages isFailure).elim
    | some number =>
        rw [isInteger] at sanitizes
        obtain ⟨precedes, compares, sanitizes⟩ := sanitizes.exists_of_lift
        cases precedes with
        | true =>
            exact (sanitizes.false_of_messages isFailure).elim
        | false =>
            obtain ⟨exceeds, comparesToo, sanitizes⟩ :=
              sanitizes.exists_of_lift
            cases exceeds with
            | true =>
                exact (sanitizes.false_of_messages isFailure).elim
            | false =>
                exact ⟨number, rfl,
                  lowerInteger.isWritable_between upperInteger compares
                    comparesToo,
                  sanitizes.eq_of_writes .setValue_self⟩

end Idempotent

end Check

end FormCheck
