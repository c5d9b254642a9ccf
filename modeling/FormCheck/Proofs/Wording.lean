import FormCheck.Proofs.Authorship
import FormCheck.Proofs.Check.Writing
import FormCheck.Proofs.Reporting

namespace FormCheck

/-!
# The wording of messages

All messages that the library makes itself are texts, and so is the message of a
step for a missing input. One capability records a message that a plan gives it
among its extra arguments. If that is a text as well, wherever it counts as one
to be used, then a run leaves nothing but texts as messages.
-/

/-- An entry is worded if it is a value, or a message that is a text. -/
def Entry.IsWorded
    (entry : Entry) : Prop :=
  ∀ key message, entry = .error key message → message.IsText

namespace Entry

/-- Values are worded. -/
theorem isWorded_value
    (key stored : Value) :
    (Entry.value key stored).IsWorded :=
  fun _ _ same => nomatch same

/-- Messages are worded if they are texts. -/
theorem isWorded_error
    {key message : Value}
    (isText : message.IsText) :
    (Entry.error key message).IsWorded := by
  intro recordedKey recorded same
  cases same
  exact isText

/-- Worded entries under any key are allowed where worded entries are. -/
theorem admits_isWorded
    (key : Value) :
    Entry.Admits IsWorded key where
  value stored := isWorded_value key stored
  error message := isWorded_error ⟨message, rfl⟩

end Entry

namespace Capability

/-- The messages that a plan gives to a capability among its extra arguments. -/
def givenMessages
    (capability : Capability)
    (extra : List Value) : List Value :=
  if capability.name = numberInRange.name then extra.drop 2 else []

/-- A capability writes what is allowed for its key, whatever it is called with. -/
def Writes
    (allowed : Value → Entry → Prop)
    (capability : Capability) : Prop :=
  ∀ environment values field extra,
    Check.Writes (allowed field)
      (capability.act environment values field extra)

namespace Writes

variable
  {allowed : Value → Entry → Prop}
  {name : String}

theorem single
    {act : Single}
    (writes :
      ∀ environment value field extra,
        Check.Writes (allowed field) (act environment value field extra)) :
    (Capability.single name act).Writes allowed := by
  intro environment values field extra
  unfold Capability.single
  dsimp only
  split
  · exact writes ..
  · exact .stop _

theorem plainIn
    {check : Environment → Value → Value → Check Unit}
    (writes :
      ∀ environment value field,
        Check.Writes (allowed field) (check environment value field)) :
    (Capability.single name (Capability.plainIn check)).Writes allowed := by
  refine single fun environment value field extra => ?_
  unfold Capability.plainIn
  split
  · exact writes ..
  · exact .stop _

theorem plain
    {check : Value → Value → Check Unit}
    (writes :
      ∀ value field, Check.Writes (allowed field) (check value field)) :
    (Capability.single name (Capability.plain check)).Writes allowed :=
  plainIn fun _ => writes

theorem withOne
    {check : Value → Value → Value → Check Unit}
    (writes :
      ∀ value field argument,
        Check.Writes (allowed field) (check value field argument)) :
    (Capability.single name (Capability.withOne check)).Writes allowed := by
  refine single fun environment value field extra => ?_
  unfold Capability.withOne
  split
  · exact writes ..
  · exact .stop _

theorem withOptionalIn
    {fallback : Value}
    {check : Environment → Value → Value → Value → Check Unit}
    (writes :
      ∀ environment value field argument,
        Check.Writes (allowed field)
          (check environment value field argument)) :
    (Capability.single name
      (Capability.withOptionalIn fallback check)).Writes allowed := by
  refine single fun environment value field extra => ?_
  unfold Capability.withOptionalIn
  split
  · exact writes ..
  · exact writes ..
  · exact .stop _

theorem withOptional
    {fallback : Value}
    {check : Value → Value → Value → Check Unit}
    (writes :
      ∀ value field argument,
        Check.Writes (allowed field) (check value field argument)) :
    (Capability.single name
      (Capability.withOptional fallback check)).Writes allowed :=
  withOptionalIn fun _ => writes

theorem withBoundsIn
    {lower upper : Value}
    {check : Environment → Value → Value → Value → Value → Check Unit}
    (writes :
      ∀ environment value field first second,
        Check.Writes (allowed field)
          (check environment value field first second)) :
    (Capability.single name
      (Capability.withBoundsIn lower upper check)).Writes allowed := by
  refine single fun environment value field extra => ?_
  unfold Capability.withBoundsIn
  split
  · exact writes ..
  · exact writes ..
  · exact writes ..
  · exact .stop _

theorem withBounds
    {lower upper : Value}
    {check : Value → Value → Value → Value → Check Unit}
    (writes :
      ∀ value field first second,
        Check.Writes (allowed field) (check value field first second)) :
    (Capability.single name
      (Capability.withBounds lower upper check)).Writes allowed :=
  withBoundsIn fun _ => writes

theorem selection
    (admits : ∀ field, Entry.Admits (allowed field) field) :
    Capability.selection.Writes allowed := by
  refine single fun environment value field extra => ?_
  split
  · exact .selection (admits field) ..
  · exact .selection (admits field) ..
  · exact .stop _

theorem rating
    (admits : ∀ field, Entry.Admits (allowed field) field) :
    Capability.rating.Writes allowed :=
  withOptionalIn fun _ _ field _ => .integerOption (admits field) ..

theorem binaryOption
    (admits : ∀ field, Entry.Admits (allowed field) field) :
    Capability.binaryOption.Writes allowed :=
  plainIn fun _ _ field => .integerOption (admits field) ..

theorem textLimit
    {fallback : Value}
    (admits : ∀ field, Entry.Admits (allowed field) field) :
    (Capability.single name
      (Capability.withOptional fallback Check.textLength)).Writes allowed :=
  withOptional fun _ field _ => .textLength (admits field) ..

theorem personName
    (admits : ∀ field, Entry.Admits (allowed field) field) :
    Capability.personName.Writes allowed :=
  withOptional fun _ field _ => .name (admits field) ..

theorem email
    (admits : ∀ field, Entry.Admits (allowed field) field) :
    Capability.email.Writes allowed :=
  withBounds fun _ field _ _ => .email (admits field) ..

section Parts

variable (admits : ∀ field key, Entry.Admits (allowed field) key)

include admits

theorem fullDate :
    Capability.fullDate.Writes allowed := by
  intro environment values field extra
  unfold Capability.fullDate
  dsimp only
  split
  · exact .fullDate (admits field) ..
  · exact .stop _

theorem fullDateTime :
    Capability.fullDateTime.Writes allowed := by
  intro environment values field extra
  unfold Capability.fullDateTime
  dsimp only
  split
  · exact .fullDateTime (admits field) ..
  · exact .stop _

theorem dateRange :
    Capability.dateRange.Writes allowed := by
  intro environment values field extra
  unfold Capability.dateRange
  dsimp only
  split
  · exact .dateRange (admits field) ..
  · exact .stop _

theorem dateInSemester :
    Capability.dateInSemester.Writes allowed := by
  intro environment values field extra
  unfold Capability.dateInSemester
  dsimp only
  split
  · exact .dateInSemester (admits field) ..
  · exact .stop _

end Parts

end Writes

/-- A capability words its messages if those that it is given are texts. -/
def IsWorded
    (capability : Capability) : Prop :=
  ∀ environment values field extra,
    (∀ message ∈ capability.givenMessages extra,
      message.isTruthy = true → message.IsText) →
      Check.Writes Entry.IsWorded
        (capability.act environment values field extra)

/-- A capability that writes worded entries anyway words its messages. -/
theorem Writes.isWorded
    {capability : Capability}
    (writes : capability.Writes fun _ => Entry.IsWorded) :
    capability.IsWorded :=
  fun environment values field extra _ =>
    writes environment values field extra

/-- The check for a number between bounds words its messages. -/
theorem isWorded_numberInRange :
    numberInRange.IsWorded := by
  intro environment values field extra given
  have inRange
      (value lower upper message : Value)
      (isText : message.isTruthy = true → message.IsText) :
      Check.Writes Entry.IsWorded
        (Check.numberInRange environment value field lower upper message) :=
    .numberInRange (Entry.admits_isWorded field) environment
      (fun truthy => Entry.isWorded_error (isText truthy)) ..
  have noMessage : Value.isTruthy .null = true → Value.IsText .null :=
    fun truthy => nomatch truthy
  unfold numberInRange single
  dsimp only
  split
  case h_1 value =>
    split
    · exact inRange _ _ _ _ noMessage
    · exact inRange _ _ _ _ noMessage
    · exact inRange _ _ _ _ noMessage
    · refine inRange _ _ _ _ (given _ ?_)
      exact List.mem_singleton_self _
    · exact .stop _
  case h_2 =>
    exact .stop _

end Capability

namespace Registry

open Capability Capability.Writes in
/-- Every capability of the library but the gate's check words its messages. -/
theorem isWorded_of_standard
    {name : String}
    {capability : Capability}
    (found : standard.find? name = some capability)
    (isOther : name ≠ requiredName) :
    capability.IsWorded := by
  have admits := Entry.admits_isWorded
  have clamped
      {name : String}
      {lower upper : Value}
      {least greatest : Int} :
      (Capability.single name
        (Capability.withBoundsIn lower upper
          fun environment value key lower upper =>
            Check.clampedRange environment value key lower upper least
              greatest)).IsWorded :=
    isWorded
      (withBoundsIn fun _ _ field _ _ => .clampedRange (admits field) ..)
  have isUserName : Capability.userName.IsWorded :=
    isWorded (withOptional fun _ field _ => .userName (admits field) ..)
  have isOption : Capability.binaryOption.IsWorded :=
    isWorded (Writes.binaryOption admits)
  have worded :
      ∀ item ∈ standard,
        item.1 = .text requiredName ∨ item.2.IsWorded := by
    simp only [standard, named, List.map_cons, List.map_nil,
      List.flatten_cons, List.flatten_nil, List.cons_append,
      List.nil_append, List.forall_mem_cons]
    exact ⟨.inl rfl,
      -- numbers
      .inr (isWorded (plainIn fun _ _ field => .integer (admits field) ..)),
      .inr (isWorded
        (withBoundsIn fun _ _ field _ _ =>
          .integerRange (admits field) ..)),
      .inr (isWorded (plain fun _ field => .float (admits field) ..)),
      .inr (isWorded
        (withBounds fun _ field _ _ => .floatRange (admits field) ..)),
      .inr isWorded_numberInRange,
      .inr (isWorded
        (withBoundsIn fun _ _ field _ _ =>
          .clampedRange (admits field) ..)),
      .inr (isWorded
        (plainIn fun _ _ field => .integerRange (admits field) ..)),
      .inr clamped,
      -- texts
      .inr (isWorded (withOne fun _ field _ => .textLength (admits field) ..)),
      .inr (isWorded (plain fun _ field => .emailFormat (admits field) ..)),
      .inr (isWorded (withOne fun _ field _ => .textAmong (admits field) ..)),
      .inr (isWorded (plain fun _ field => .alphanumeric (admits field) ..)),
      .inr (isWorded (withOne fun _ field _ => .textLength (admits field) ..)),
      .inr (isWorded (textLimit admits)),
      .inr (isWorded (textLimit admits)),
      .inr (isWorded (Writes.personName admits)),
      .inr isUserName,
      .inr isUserName,
      .inr (isWorded
        (withOptional fun _ field _ => .textAmong (admits field) ..)),
      .inr (isWorded (Writes.email admits)),
      .inr (isWorded (plain fun _ field => .semesterTag (admits field) ..)),
      .inr (isWorded (withBoundsIn fun _ _ _ _ _ => .semester admits ..)),
      .inr (isWorded
        (withBoundsIn fun _ _ _ _ _ => .programNumber admits ..)),
      .inr (isWorded
        (withOptional fun _ field _ => .sessionCode (admits field) ..)),
      -- options
      .inr (isWorded (Writes.selection admits)),
      .inr (isWorded (Writes.rating admits)),
      .inr isOption,
      .inr isOption,
      .inr isOption,
      .inr isOption,
      .inr isOption,
      -- dates and their components
      .inr (isWorded (withBoundsIn fun _ _ field _ _ => .year (admits field) ..)),
      .inr clamped,
      .inr clamped,
      .inr clamped,
      .inr clamped,
      .inr clamped,
      .inr (isWorded (Writes.fullDate fun _ => admits)),
      .inr (isWorded (Writes.fullDateTime fun _ => admits)),
      .inr (isWorded (Writes.dateRange fun _ => admits)),
      .inr (isWorded (Writes.dateInSemester fun _ => admits)),
      List.forall_mem_nil _⟩
  rcases worded _ (mem_of_find? found) with isRequired | isWorded
  · cases isRequired
    exact (isOther rfl).elim
  · exact isWorded

end Registry

namespace Step

variable
  {environment : Environment}
  {data : Value}
  {step : Step}
  {found : Result}
  {entry : Entry}

/-- What the gate of a step records is worded. -/
theorem isWorded_of_mem_gateEntries
    (member : entry ∈ step.gateEntries data) :
    entry.IsWorded := by
  obtain ⟨input, _, rfl⟩ := List.mem_map.mp member
  unfold gateEntry
  split
  · exact Entry.isWorded_error ⟨step.message, rfl⟩
  · exact Entry.isWorded_value _ _

/-- The messages that its plan gives a step are texts if they count as any. -/
def GivesTexts
    (step : Step) : Prop :=
  ∀ message ∈ step.capability.givenMessages step.arguments,
    message.isTruthy = true → message.IsText

/-- The call of a fitting step records only what its check may write. -/
theorem Fits.isAllowed_of_mem_call
    (fits : step.Fits)
    {allowed : Entry → Prop}
    (writes :
      Check.Writes allowed
        (step.capability.act environment (step.inputs.map data.submitted)
          step.key step.arguments))
    (called : entry ∈ (step.call environment data found).written) :
    allowed entry := by
  unfold call at called
  rw [fits.call_eq_act] at called
  exact writes.isAllowed _ entry called

/-- What a fitting step records is worded if it is given texts. -/
theorem Fits.isWorded_of_mem_act
    (fits : step.Fits)
    (givesTexts : step.GivesTexts)
    (member : entry ∈ (step.act environment data found).written) :
    entry.IsWorded := by
  rcases mem_act member with gated | called
  · exact isWorded_of_mem_gateEntries gated
  · have words :=
      Registry.isWorded_of_standard fits.found fits.isOther environment
        (step.inputs.map data.submitted) step.key step.arguments givesTexts
    exact fits.isAllowed_of_mem_call words called

end Step

/-- A run leaves texts as messages if its steps are given texts. -/
theorem Validator.hasTextMessages_reached
    {validator : Validator}
    {environment : Environment}
    {data context : Value}
    {plan : Plan}
    (library : validator.registry = Registry.standard)
    (built :
      (validator.buildPlan environment data context).ended = .ok plan)
    (ungated : ∀ step ∈ plan, step.method ≠ Registry.requiredName)
    (arity :
      ∀ step ∈ plan, step.inputs.length = step.capability.inputs)
    (givesTexts : ∀ step ∈ plan, step.GivesTexts) :
    (validator.reached environment data context).HasTextMessages := by
  intro key message recorded
  obtain ⟨visit, visited, written⟩ :=
    exists_visit_of_mem_reached library recorded
  have fits := fits_of_mem_course library built ungated arity visited
  have inPlan := step_mem_of_mem_course built visited
  exact fits.isWorded_of_mem_act (givesTexts _ inPlan) written key message rfl

end FormCheck
