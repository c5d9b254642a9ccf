import FormCheck.Proofs.Check.Ruling
import FormCheck.Proofs.Listing
import FormCheck.Proofs.Memory

namespace FormCheck

/-!
# Decisions on numbers

For each check the verdict on what it is given, as a function of that alone, and
the proof that it rules so. A bound that has too many digits to be written would
be a fault where a number exceeds it, so bounds have to be writable; and what is
given has to fit into the memory.
-/

namespace Value

/-- Integers are ordered by size. -/
@[simp] theorem less_int
    (left right : Int) :
    less (.int left) (.int right) = .ok (decide (left < right)) := by
  simp [less, lessPlain?, number?, Numeric.compare?, Int.compare_eq_lt]

/-- The greater of two integers. -/
theorem greaterOf_int
    (left right : Int) :
    greaterOf (.int left) (.int right) = .ok (.int (max left right)) := by
  unfold greaterOf
  rw [less_int]
  by_cases exceeds : left < right
  · have greater : max left right = right := by omega
    simp [bind, Except.bind, pure, Except.pure, exceeds, greater]
  · have greater : max left right = left := by omega
    simp [bind, Except.bind, pure, Except.pure, exceeds, greater]

/-- The lesser of two integers. -/
theorem lesserOf_int
    (left right : Int) :
    lesserOf (.int left) (.int right) = .ok (.int (min left right)) := by
  unfold lesserOf
  rw [less_int]
  by_cases precedes : right < left
  · have lesser : min left right = right := by omega
    simp [bind, Except.bind, pure, Except.pure, precedes, lesser]
  · have lesser : min left right = left := by omega
    simp [bind, Except.bind, pure, Except.pure, precedes, lesser]

/-- A bound that may be missing, as an argument. -/
def ofBound : Option Int → Value
  | none => .null
  | some number => .int number

/-- An integer that is short enough has a text. -/
theorem shown_int
    {number : Int}
    (writable : Number.isWritable number = true) :
    (Value.int number).shown = .ok (Number.decimalText number) := by
  rw [← Number.integerText_of_isWritable writable]
  simp only [shown, written]

end Value

/-- A bound that may be missing can be written if it is there. -/
def IsWritableBound
    (bound : Option Int) : Prop :=
  ∀ number ∈ bound, Number.isWritable number = true

/-- A missing bound need not be written. -/
theorem IsWritableBound.none :
    IsWritableBound none :=
  fun _ member => nomatch member

/-- A bound that is there is the one to be written. -/
theorem IsWritableBound.some
    {number : Int}
    (writable : Number.isWritable number = true) :
    IsWritableBound (some number) := by
  rintro _ ⟨⟩
  exact writable

/-- What is said about a number that does not lie within its bounds. -/
def boundsMessage : Option Int → Option Int → String
  | none, none => ""
  | none, some greatest =>
      "Value must not exceed " ++ Number.decimalText greatest ++ "."
  | some least, none =>
      "Value must be at least " ++ Number.decimalText least ++ "."
  | some least, some greatest =>
      "Invalid value: Must be between " ++ Number.decimalText least ++
        " and " ++ Number.decimalText greatest ++ "."

/-- Whether a number lies within its bounds. -/
def IsWithin
    (lower upper : Option Int)
    (number : Int) : Prop :=
  (∀ least ∈ lower, least ≤ number) ∧ ∀ greatest ∈ upper, number ≤ greatest

instance
    (lower upper : Option Int)
    (number : Int) :
    Decidable (IsWithin lower upper number) :=
  inferInstanceAs (Decidable (_ ∧ _))

/--
A value is answerable within bounds if it writes no integer outside of them, or else
both of them can be named.
-/
def Value.IsAnswerable
    (value : Value)
    (lower upper : Option Int) : Prop :=
  ∀ number,
    value.toInt? = some number →
      ¬IsWithin lower upper number →
        IsWritableBound lower ∧ IsWritableBound upper

/-- Any value is answerable within bounds that can be written. -/
theorem Value.isAnswerable_of_writable
    {lower upper : Option Int}
    (lowerWritable : IsWritableBound lower)
    (upperWritable : IsWritableBound upper)
    (value : Value) :
    value.IsAnswerable lower upper :=
  fun _ _ _ => ⟨lowerWritable, upperWritable⟩

namespace Verdict

/-- The verdict on an integer within bounds. -/
def integerIn
    (value : Value)
    (lower upper : Option Int) : Verdict :=
  match value.toInt? with
  | none => .rejected "Value must be a valid integer." []
  | some number =>
      .provided (IsWithin lower upper number) (.int number)
        (boundsMessage lower upper)

/-- The verdict on an integer within bounds, with a message of its own. -/
def numberIn
    (value : Value)
    (least greatest : Int)
    (message : String) : Verdict :=
  match value.toInt? with
  | none => .rejected message []
  | some number =>
      .provided (least ≤ number ∧ number ≤ greatest) (.int number) message

/-- Any integer is accepted without bounds. -/
theorem integerIn_unbounded
    {value : Value}
    {number : Int}
    (isInteger : value.toInt? = some number) :
    integerIn value none none = .accepted (.int number) := by
  unfold integerIn
  rw [isInteger]
  exact if_pos (by simp [IsWithin])

/-- A value that writes no integer is rejected whatever the bounds are. -/
theorem integerIn_of_eq_none
    {value : Value}
    (noInteger : value.toInt? = none)
    (lower upper : Option Int) :
    integerIn value lower upper =
      .rejected "Value must be a valid integer." [] := by
  unfold integerIn
  rw [noInteger]

/-- What is accepted as an integer within bounds. -/
theorem integerIn_eq_accepted_iff
    {value accepted : Value}
    {lower upper : Option Int} :
    integerIn value lower upper = .accepted accepted ↔
      ∃ number,
        value.toInt? = some number ∧ IsWithin lower upper number ∧
          .int number = accepted := by
  unfold integerIn
  cases value.toInt? with
  | none =>
      simp
  | some number =>
      simp [provided_eq_accepted_iff]

/-- What is accepted as a number within bounds. -/
theorem numberIn_eq_accepted_iff
    {value accepted : Value}
    {least greatest : Int}
    {message : String} :
    numberIn value least greatest message = .accepted accepted ↔
      ∃ number,
        value.toInt? = some number ∧
          (least ≤ number ∧ number ≤ greatest) ∧ .int number = accepted := by
  unfold numberIn
  cases value.toInt? with
  | none =>
      simp
  | some number =>
      simp [provided_eq_accepted_iff]

end Verdict

/-- Of a value that fits, the integer is stored that it writes, if any. -/
theorem Check.integer_eq
    {environment : Environment}
    {submitted : Value}
    (fits : submitted.FitsInto environment.memory)
    (key : Value) :
    integer environment submitted key =
      match submitted.toInt? with
      | some number => setValue key (.int number)
      | none => reject key "Value must be a valid integer." := by
  unfold integer
  rw [fits.readInteger]
  exact lift_ok_bind ..

/-- At a value that does not fit, the check for an integer stops. -/
theorem Check.integer_eq_stop
    {environment : Environment}
    {submitted : Value}
    (isLong : ¬submitted.FitsInto environment.memory)
    (key : Value) :
    integer environment submitted key = stop .outOfMemory := by
  unfold integer
  rw [Value.readInteger_of_not_fitsInto isLong]
  rfl

/-- Reject a number that does not lie in its range. -/
def Check.rejectNumber
    (key lower upper : Value) : Check Unit := do
  let lowerText ← lower.shown
  let upperText ← upper.shown
  reject key
    ("Invalid number: Must be between " ++ lowerText ++ " and " ++
      upperText ++ ".")

namespace Check.Rules

variable
  {field : String}
  {earlier : List Ruling}

/-- Where a condition holds, answering that it does decides nothing. -/
theorem answer_true
    {condition : Prop}
    [Decidable condition]
    (holds : condition)
    (rulings : List Ruling) :
    Rules field earlier (Pure.pure true : Check Bool) (decide condition)
      (if condition then [] else rulings) := by
  rw [decide_eq_true holds, if_pos holds]
  exact pure true

/-- Where a condition fails, a refusal comes before answering that it does. -/
theorem answer_false
    {condition : Prop}
    [Decidable condition]
    (fails : ¬condition)
    {refusal : Check Unit}
    {rulings : List Ruling}
    (refuses : Rules field earlier refusal () rulings) :
    Rules field earlier
      (do
        refusal
        return false)
      (decide condition) (if condition then [] else rulings) := by
  rw [decide_eq_false fails, if_neg fails]
  exact refuses.bind_then_silent (pure false)

/-- A number is compared with its bounds. -/
theorem withinBounds
    (number : Int)
    {lower upper : Option Int}
    (nameable :
      ¬IsWithin lower upper number →
        IsWritableBound lower ∧ IsWritableBound upper) :
    Rules field earlier
      (Check.withinBounds (.int number) (.text field) (.ofBound lower)
        (.ofBound upper))
      (decide (IsWithin lower upper number))
      (if IsWithin lower upper number then []
        else [⟨field, .rejected (boundsMessage lower upper) []⟩]) := by
  cases lower with
  | none =>
      cases upper with
      | none =>
          exact answer_true (by simp [IsWithin]) _
      | some greatest =>
          refine bind_lift (Value.less_int ..) ?_
          by_cases exceeds : greatest < number
          · have outside : ¬IsWithin none (some greatest) number := by
              simp [IsWithin, exceeds]
            have text := Value.shown_int ((nameable outside).2 _ rfl)
            rw [if_pos (decide_eq_true exceeds)]
            exact bind_lift text (answer_false outside (reject ..))
          · rw [if_neg (by simpa using exceeds)]
            exact answer_true (by simpa [IsWithin] using exceeds) _
  | some least =>
      cases upper with
      | none =>
          refine bind_lift (Value.less_int ..) ?_
          by_cases precedes : number < least
          · have outside : ¬IsWithin (some least) none number := by
              simp [IsWithin, precedes]
            have text := Value.shown_int ((nameable outside).1 _ rfl)
            rw [if_pos (decide_eq_true precedes)]
            exact bind_lift text (answer_false outside (reject ..))
          · rw [if_neg (by simpa using precedes)]
            exact answer_true (by simpa [IsWithin] using precedes) _
      | some greatest =>
          have refuses
              (outside : ¬IsWithin (some least) (some greatest) number) :
              Rules field earlier
                (Check.rejectBetween (.text field) (.int least)
                  (.int greatest))
                () [⟨field, .rejected _ []⟩] :=
            bind_lift (Value.shown_int ((nameable outside).1 _ rfl))
              (bind_lift (Value.shown_int ((nameable outside).2 _ rfl))
                (reject ..))
          refine bind_lift (Value.less_int ..) ?_
          by_cases precedes : number < least
          · have outside : ¬IsWithin (some least) (some greatest) number := by
              simp [IsWithin, precedes]
            rw [if_pos (decide_eq_true precedes)]
            exact answer_false outside (refuses outside)
          · rw [if_neg (by simpa using precedes)]
            refine bind_lift (Value.less_int ..) ?_
            by_cases exceeds : greatest < number
            · have outside :
                  ¬IsWithin (some least) (some greatest) number := by
                simp [IsWithin, exceeds]
              rw [if_pos (decide_eq_true exceeds)]
              exact answer_false outside (refuses outside)
            · rw [if_neg (by simpa using exceeds)]
              have inside : least ≤ number ∧ number ≤ greatest := by
                omega
              exact answer_true (by simpa [IsWithin] using inside) _

/-- A check goes on with the integer that a value writes if that fits. -/
theorem bind_readInteger
    {submitted : Value}
    {memory : Memory}
    (fits : submitted.FitsInto memory)
    {continuation : Option Int → Check answer}
    {value : answer}
    {later : List Ruling}
    (continuationRules :
      Rules field earlier (continuation submitted.toInt?) value later) :
    Rules field earlier
      ((liftM (submitted.readInteger memory) : Check (Option Int)) >>=
        continuation)
      value later :=
  bind_lift fits.readInteger continuationRules

/-- An integer is accepted, and nothing else. -/
theorem integer
    {environment : Environment}
    {submitted : Value}
    (fits : submitted.FitsInto environment.memory) :
    Rules field earlier
      (Check.integer environment submitted (.text field)) ()
      [⟨field, .integerIn submitted none none⟩] := by
  rw [Check.integer_eq fits]
  cases isInteger : submitted.toInt? with
  | none =>
      rw [Verdict.integerIn_of_eq_none isInteger]
      exact reject field _
  | some number =>
      rw [Verdict.integerIn_unbounded isInteger]
      exact setValue field _

/-- An integer within bounds is accepted, and nothing else. -/
theorem integerRange
    {environment : Environment}
    {submitted : Value}
    (fits : submitted.FitsInto environment.memory)
    (lower upper : Option Int)
    (answerable : submitted.IsAnswerable lower upper) :
    Rules field []
      (Check.integerRange environment submitted (.text field)
        (.ofBound lower) (.ofBound upper))
      () [⟨field, .integerIn submitted lower upper⟩] := by
  have self := Value.BelongsTo.self field
  have reads : Rules field [] _ () _ := integer fits
  unfold Check.integerRange
  cases isInteger : submitted.toInt? with
  | none =>
      rw [Verdict.integerIn_of_eq_none isInteger] at reads ⊢
      exact reads.bind
        (unless_hasErrors_of_failed self (by simp [Verdict.isRejected]))
  | some number =>
      rw [Verdict.integerIn_unbounded isInteger] at reads
      unfold Verdict.integerIn
      rw [isInteger]
      -- The integer is stored before it is compared, so two rulings are made.
      apply condense
      refine bind_ruling reads
        (unless_hasErrors_of_not_failed self
          (by simp [Verdict.isRejected]) ?_)
      refine bind_silent (value (Ruling.verdictAt?_concat ..)) ?_
      have compared :
          Rules field [⟨field, .accepted (.int number)⟩] _ _ _ :=
        withinBounds number (answerable number isInteger)
      by_cases inside : IsWithin lower upper number
      · simp only [Verdict.provided, inside, decide_true, ↓reduceIte]
          at compared ⊢
        exact bind_silent compared (setValue field _)
      · simp only [Verdict.provided, inside, decide_false, ↓reduceIte]
          at compared ⊢
        exact compared.bind (pure ())

/-- Bounds are clamped before an integer is compared with them. -/
theorem clampedRange
    {environment : Environment}
    {submitted : Value}
    (fits : submitted.FitsInto environment.memory)
    {lower upper least greatest : Int}
    (lowerWritable : Number.isWritable (max least lower) = true)
    (upperWritable : Number.isWritable (min greatest upper) = true) :
    Rules field []
      (Check.clampedRange environment submitted (.text field) (.int lower)
        (.int upper) least greatest)
      ()
      [⟨field,
        .integerIn submitted (some (max least lower))
          (some (min greatest upper))⟩] := by
  unfold Check.clampedRange
  refine bind_lift (Value.greaterOf_int ..) ?_
  refine bind_lift (Value.lesserOf_int ..) ?_
  exact integerRange fits (some _) (some _)
    (submitted.isAnswerable_of_writable (.some lowerWritable)
      (.some upperWritable))

/-- An integer within bounds is accepted, anything else has one message. -/
theorem numberInRange_of_rejects
    {environment : Environment}
    {submitted : Value}
    (fits : submitted.FitsInto environment.memory)
    (least greatest : Int)
    {own : Value}
    {message : String}
    (rejects :
      Rules field earlier
        (Check.rejectWith own (.text field)
          (Check.rejectNumber (.text field) (.int least) (.int greatest)))
        () [⟨field, .rejected message []⟩]) :
    Rules field earlier
      (Check.numberInRange environment submitted (.text field) (.int least)
        (.int greatest) own)
      () [⟨field, .numberIn submitted least greatest message⟩] := by
  unfold Check.numberInRange Verdict.numberIn
  dsimp only [Value.orDefault]
  refine bind_readInteger fits ?_
  cases submitted.toInt? with
  | none =>
      exact rejects
  | some number =>
      unfold Verdict.provided
      refine bind_lift (Value.less_int ..) ?_
      by_cases precedes : number < least
      · have outside : ¬(least ≤ number ∧ number ≤ greatest) := by omega
        simp only [precedes, outside, decide_true, ↓reduceIte]
        exact rejects
      · simp only [precedes, decide_false, Bool.false_eq_true, ↓reduceIte]
        refine bind_lift (Value.less_int ..) ?_
        by_cases exceeds : greatest < number
        · have outside : ¬(least ≤ number ∧ number ≤ greatest) := by omega
          simp only [exceeds, outside, decide_true, ↓reduceIte]
          exact rejects
        · have inside : least ≤ number ∧ number ≤ greatest := by omega
          simp only [exceeds, inside, decide_false, Bool.false_eq_true,
            and_self, ↓reduceIte]
          exact setValue field _

/-- The one message of a number in a range may be the caller's. -/
theorem numberInRange_of_message
    {environment : Environment}
    {submitted : Value}
    (fits : submitted.FitsInto environment.memory)
    (least greatest : Int)
    {message : String}
    (present : message ≠ "") :
    Rules field earlier
      (Check.numberInRange environment submitted (.text field) (.int least)
        (.int greatest) (.text message))
      () [⟨field, .numberIn submitted least greatest message⟩] := by
  apply numberInRange_of_rejects fits
  unfold Check.rejectWith
  rw [if_pos (by simpa [Value.isTruthy] using present)]
  exact reject field message

/-- Without a message of the caller's, the bounds are named. -/
theorem numberInRange
    {environment : Environment}
    {submitted : Value}
    (fits : submitted.FitsInto environment.memory)
    {least greatest : Int}
    (leastWritable : Number.isWritable least = true)
    (greatestWritable : Number.isWritable greatest = true) :
    Rules field earlier
      (Check.numberInRange environment submitted (.text field) (.int least)
        (.int greatest) .null)
      ()
      [⟨field,
        .numberIn submitted least greatest
          ("Invalid number: Must be between " ++
            Number.decimalText least ++ " and " ++
            Number.decimalText greatest ++ ".")⟩] := by
  apply numberInRange_of_rejects fits
  refine bind_lift (Value.shown_int leastWritable) ?_
  exact bind_lift (Value.shown_int greatestWritable) (reject field _)

end Check.Rules

end FormCheck
