import FormCheck.Proofs.Sanitizing.Code
import FormCheck.Proofs.Sanitizing.Selection
import FormCheck.Proofs.Sanitizing.Text

namespace FormCheck

/-!
# Sanitizing twice

Capabilities of one input store what they accept in a form of their own: without
blanks, in upper case, as an integer or as a list of texts. A form that is submitted
again is accepted and stored again, so it does not matter how often an input has
been through a plan.
-/

namespace Capability

/-- The capabilities that store a text. -/
def storingTexts : List Capability :=
  [.textLength, .emailFormat, .textAmong, .alphanumeric, .text, .shortText,
    .longText, .personName, .userName, .shell, .email, .semesterTag,
    .semester, .programNumber, .sessionCode]

/-- The capabilities that store one or more options. -/
def storingOptions : List Capability :=
  [.selection, .rating, .binaryOption]

/-- The capabilities that store an integer and have bounds of their own for it. -/
def storingIntegers : List Capability :=
  [.numberInRange, .shortProgramNumber, .timestamp, .month, .day, .hour,
    .minute, .second]

/--
A capability sanitizes with some extra arguments if it stores texts or options, or
else integers with bounds on both sides that are integers and can be written. Plain
integers have no other bounds than those that are given.
-/
inductive IsSanitizer
    (environment : Environment) : Capability → List Value → Prop where
  | texts
      {capability : Capability}
      (stores : capability ∈ storingTexts)
      (extra : List Value) :
      IsSanitizer environment capability extra
  | options
      {capability : Capability}
      (stores : capability ∈ storingOptions)
      (extra : List Value) :
      IsSanitizer environment capability extra
  | integers
      {capability : Capability}
      {extra : List Value}
      (stores : capability ∈ storingIntegers)
      (areBounds : ∀ bound ∈ extra.take 2, bound.IsIntegerBound) :
      IsSanitizer environment capability extra
  | integerRange
      {lower upper : Value}
      (isLower : lower.IsWritableInteger)
      (isUpper : upper.IsWritableInteger) :
      IsSanitizer environment .integerRange [lower, upper]
  | year
      {extra : List Value}
      (years :
        environment.HasWritableYears (extra.getD 0 .null)
          (extra.getD 1 .null)) :
      IsSanitizer environment .year extra

/-- What a capability does with a value that is submitted under a field. -/
abbrev calledWith
    (capability : Capability)
    (environment : Environment)
    (field : String)
    (extra : List Value)
    (value : Value) : Check Unit :=
  capability.call environment (value :: .text field :: extra)

end Capability

namespace Check.Idempotent

variable
  {field : String}
  {environment : Environment}
  {extra : List Value}

/-! ## Arguments that may be left out -/

theorem single
    {name : String}
    {act : Capability.Single}
    (idempotent :
      Idempotent field fun value =>
        act environment value (.text field) extra) :
    Idempotent field
      ((Capability.single name act).calledWith environment field extra) :=
  idempotent

theorem plainIn
    {check : Environment → Value → Value → Check Unit}
    (idempotent :
      Idempotent field fun value => check environment value (.text field))
    (extra : List Value) :
    Idempotent field fun value =>
      Capability.plainIn check environment value (.text field) extra :=
  match extra with
  | [] => idempotent
  | _ :: _ => stop _

theorem withOne
    {check : Value → Value → Value → Check Unit}
    (idempotent :
      ∀ argument,
        Idempotent field fun value => check value (.text field) argument)
    (extra : List Value) :
    Idempotent field fun value =>
      Capability.withOne check environment value (.text field) extra :=
  match extra with
  | [] => stop _
  | [argument] => idempotent argument
  | _ :: _ :: _ => stop _

theorem withOptionalIn
    {check : Environment → Value → Value → Value → Check Unit}
    (idempotent :
      ∀ argument,
        Idempotent field fun value =>
          check environment value (.text field) argument)
    (fallback : Value)
    (extra : List Value) :
    Idempotent field fun value =>
      Capability.withOptionalIn fallback check environment value (.text field)
        extra :=
  match extra with
  | [] => idempotent fallback
  | [argument] => idempotent argument
  | _ :: _ :: _ => stop _

/-- Bounds that are given or left out, all of one sort. -/
theorem withBoundsIn
    {check : Environment → Value → Value → Value → Value → Check Unit}
    (isBound : Value → Prop)
    (idempotent :
      ∀ {lower upper},
        isBound lower →
          isBound upper →
            Idempotent field fun value =>
              check environment value (.text field) lower upper)
    {lower upper : Value}
    (isLower : isBound lower)
    (isUpper : isBound upper)
    {extra : List Value}
    (areBounds : ∀ bound ∈ extra.take 2, isBound bound) :
    Idempotent field fun value =>
      Capability.withBoundsIn lower upper check environment value
        (.text field) extra :=
  match extra, areBounds with
  | [], _ => idempotent isLower isUpper
  | [_], areBounds => idempotent (areBounds _ (.head _)) isUpper
  | [_, _], areBounds =>
      idempotent (areBounds _ (.head _)) (areBounds _ (.tail _ (.head _)))
  | _ :: _ :: _ :: _, _ => stop _

/-- Two arguments that may be anything. -/
theorem withAnyIn
    {check : Environment → Value → Value → Value → Value → Check Unit}
    (idempotent :
      ∀ first second,
        Idempotent field fun value =>
          check environment value (.text field) first second)
    (first second : Value)
    (extra : List Value) :
    Idempotent field fun value =>
      Capability.withBoundsIn first second check environment value
        (.text field) extra :=
  withBoundsIn (fun _ => True) (fun _ _ => idempotent _ _) trivial trivial
    fun _ _ => trivial

end Check.Idempotent

namespace Capability

variable
  {environment : Environment}
  {capability : Capability}
  {extra : List Value}

/-- The capabilities for texts are idempotent with any extra arguments. -/
theorem idempotent_of_mem_storingTexts
    (stores : capability ∈ storingTexts)
    (environment : Environment)
    (field : String)
    (extra : List Value) :
    Check.Idempotent field (capability.calledWith environment field extra) := by
  revert capability
  simp only [storingTexts, List.forall_mem_cons]
  exact
    ⟨.single (.withOne .textLength extra),
      .single (.plainIn .emailFormat extra),
      .single (.withOne .textAmong extra),
      .single (.plainIn .alphanumeric extra),
      .single (.withOne .textLength extra),
      .single (.withOptionalIn .textLength _ extra),
      .single (.withOptionalIn .textLength _ extra),
      .single (.withOptionalIn .name _ extra),
      .single (.withOptionalIn .userName _ extra),
      .single (.withOptionalIn .shell _ extra),
      .single (.withAnyIn .email _ _ extra),
      .single (.plainIn .semesterTag extra),
      .single (.withAnyIn .semester _ _ extra),
      .single (.withAnyIn .programNumber _ _ extra),
      .single (.withOptionalIn .sessionCode _ extra),
      List.forall_mem_nil _⟩

/-- The capabilities for options are idempotent with any extra arguments. -/
theorem idempotent_of_mem_storingOptions
    (stores : capability ∈ storingOptions)
    (environment : Environment)
    (field : String)
    (extra : List Value) :
    Check.Idempotent field (capability.calledWith environment field extra) := by
  have rated
      (allowNone : Value) :
      Check.Idempotent field fun value =>
        Check.rating environment value (.text field) allowNone := by
    unfold Check.rating
    exact .integerOption_of_digits (by split <;> decide)
  have selected :
      Check.Idempotent field (selection.calledWith environment field extra) :=
    match extra with
    | [] => .stop _
    | [allowed] => .selection allowed _
    | [allowed, byKey] => .selection allowed byKey
    | _ :: _ :: _ :: _ => .stop _
  revert capability
  simp only [storingOptions, List.forall_mem_cons]
  exact
    ⟨selected,
      .single (.withOptionalIn rated _ extra),
      .single (.plainIn (.integerOption_of_digits (by decide)) extra),
      List.forall_mem_nil _⟩

/-- The capabilities for integers are idempotent with bounds that are integers. -/
theorem idempotent_of_mem_storingIntegers
    (stores : capability ∈ storingIntegers)
    (environment : Environment)
    (field : String)
    (areBounds : ∀ bound ∈ extra.take 2, bound.IsIntegerBound) :
    Check.Idempotent field (capability.calledWith environment field extra) := by
  have noBound : Value.null.IsIntegerBound := .inl rfl
  have isBound
      {number : Int}
      (small : number.natAbs < 1000000000000) :
      (Value.int number).IsIntegerBound :=
    .inr (.int (Number.isWritable_of_lt small))
  have clamped
      {least greatest : Int}
      (leastSmall : least.natAbs < 1000000000000)
      (greatestSmall : greatest.natAbs < 1000000000000) :
      Check.Idempotent field fun value =>
        withBoundsIn (.int least) (.int greatest)
          (fun environment value key lower upper =>
            Check.clampedRange environment value key lower upper least
              greatest)
          environment value (.text field) extra :=
    .withBoundsIn Value.IsIntegerBound
      (fun isLower isUpper =>
        .clampedRange _ isLower isUpper (Number.isWritable_of_lt leastSmall)
          (Number.isWritable_of_lt greatestSmall))
      (isBound leastSmall) (isBound greatestSmall) areBounds
  have numbered :
      Check.Idempotent field
        (numberInRange.calledWith environment field extra) :=
    match extra, areBounds with
    | [], _ => .numberInRange _ noBound noBound _
    | [_], areBounds => .numberInRange _ (areBounds _ (.head _)) noBound _
    | [_, _], areBounds | [_, _, _], areBounds =>
        .numberInRange _ (areBounds _ (.head _))
          (areBounds _ (.tail _ (.head _))) _
    | _ :: _ :: _ :: _ :: _, _ => .stop _
  revert capability
  simp only [storingIntegers, List.forall_mem_cons]
  exact
    ⟨numbered,
      .single
        (.withBoundsIn Value.IsIntegerBound (.shortProgramNumber _) noBound
          noBound areBounds),
      .single (clamped (by decide) (by decide)),
      .single (clamped (by decide) (by decide)),
      .single (clamped (by decide) (by decide)),
      .single (clamped (by decide) (by decide)),
      .single (clamped (by decide) (by decide)),
      .single (clamped (by decide) (by decide)),
      List.forall_mem_nil _⟩

/-- The years of a call are compared with bounds that are integers. -/
theorem idempotent_year
    (field : String)
    (years :
      environment.HasWritableYears (extra.getD 0 .null)
        (extra.getD 1 .null)) :
    Check.Idempotent field (year.calledWith environment field extra) :=
  match extra, years with
  | [], years => .year years
  | [_], years => .year years
  | [_, _], years => .year years
  | _ :: _ :: _ :: _, _ => .stop _

/--
Sanitizing is idempotent: where a call records no message and leaves a value under
its field, the same call with that value in the place of the input records no message
either and leaves the value again. It ends like the first call, too.
-/
theorem IsSanitizer.sanitizes_again
    (sanitizer : capability.IsSanitizer environment extra)
    (field : String)
    (value stored : Value)
    (sanitizes :
      (capability.call environment (value :: .text field :: extra)).Sanitizes
        field stored) :
    (capability.call environment
          (stored :: .text field :: extra)).Sanitizes field stored ∧
      (capability.call environment (stored :: .text field :: extra)
          .empty).ended =
        (capability.call environment (value :: .text field :: extra)
          .empty).ended := by
  have idempotent :
      Check.Idempotent field
        (capability.calledWith environment field extra) := by
    cases sanitizer with
    | texts stores =>
        exact idempotent_of_mem_storingTexts stores environment field extra
    | options stores =>
        exact idempotent_of_mem_storingOptions stores environment field extra
    | integers stores areBounds =>
        exact idempotent_of_mem_storingIntegers stores environment field
          areBounds
    | integerRange isLower isUpper =>
        exact .integerRange _ isLower isUpper
    | year years =>
        exact idempotent_year field years
  exact idempotent value stored sanitizes

/-- A number typed with digits of another script is stored as the integer it is. -/
theorem sanitizes_again_otherScript :
    let environment : Environment := .on ⟨2025, 3, 1⟩
    (integerRange.call environment
          [.text " -1_2\u0663.4500e2\t", .text "depth", .int (-20000),
            .int 0]).Sanitizes "depth" (.int (-12345)) ∧
      (integerRange.call environment
          [.int (-12345), .text "depth", .int (-20000), .int 0]).Sanitizes
        "depth" (.int (-12345)) := by
  intro environment
  have isWithin :
      (Value.text " -1_2\u0663.4500e2\t").integerWithin? (-20000) 0 =
        some (-12345) := by
    decide +kernel
  have isInteger := (Value.integerWithin?_eq_some_iff.mp isWithin).1
  have fits :
      (Value.text " -1_2\u0663.4500e2\t").FitsInto environment.memory :=
    Value.fitsInto_of_lt isInteger (by decide)
  have passes :
      (integerRange.call environment
          [.text " -1_2\u0663.4500e2\t", .text "depth", .int (-20000),
            .int 0]).Passes .empty ()
        ([.value (.text "depth") (.int (-12345))] ++
          [.value (.text "depth") (.int (-12345))]) :=
    (Check.passes_integerRange_iff rfl).mpr ⟨_, ⟨fits, isWithin⟩, rfl⟩
  have sanitizer :
      integerRange.IsSanitizer environment [.int (-20000), .int 0] :=
    .integerRange (.int (Number.isWritable_of_lt (by decide)))
      (.int (Number.isWritable_of_lt (by decide)))
  have sanitizes := passes.accepts.sanitizes
  exact ⟨sanitizes, (sanitizer.sanitizes_again "depth" _ _ sanitizes).1⟩

end Capability

end FormCheck
