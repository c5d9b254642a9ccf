import FormCheck.Proofs.Check.Frame
import FormCheck.Proofs.Check.Repetition
import FormCheck.Registry

namespace FormCheck

/-!
# The capabilities of the library are disciplined

Whatever a capability of the library is called with, its check is confined to
the value that it takes as the key of its field. Called with a textual field
behind as many values as it takes, it stays within the field and settles it,
whatever the extra arguments are. A number of extra arguments that it does not
take stops it before it records anything. The check for required inputs is the
exception: among the arguments of a step the gate's flag and message have no
place.
-/

/-- A check of a field is orderly if it stays within the field and settles it. -/
structure Check.Orderly
    (field : String)
    (check : Check Unit) : Prop where
  within : Check.Within field check
  concludes : Check.Concludes field (.text field) check

/--
A check is disciplined if it is confined to its key, whatever the key is,
settles every textual field, and repeats its success there.
-/
structure Check.Disciplined
    (mild : Prop)
    (check : Value → Check Unit) : Prop where
  confined :
    ∀ {owner}, Check.Confined owner (check owner)
  concludes :
    ∀ {field}, Check.Concludes field (.text field) (check (.text field))
  repeats :
    ∀ {field},
      Check.Repeats field mild [] (check (.text field)) fun _ _ => True

namespace Check.Disciplined

variable {mild : Prop}

/-- A check that stops at once is disciplined. -/
theorem stop
    (fault : Fault) :
    Disciplined mild fun _ => Check.stop fault where
  confined := .stop fault
  concludes := .stop fault
  repeats := .of_blind (.stop fault)

/-- A disciplined check of a textual field is orderly. -/
theorem orderly
    {check : Value → Check Unit}
    (disciplined : Disciplined mild check)
    (field : String) :
    (check (.text field)).Orderly field where
  within := disciplined.confined.within
  concludes := disciplined.concludes

end Check.Disciplined

namespace Capability

/-- A capability is orderly if its check of every textual field is. -/
def Orderly
    (capability : Capability) : Prop :=
  ∀ environment values field extra,
    (capability.act environment values (.text field) extra).Orderly field

/--
A capability is disciplined if its check is, whatever it is called with. The
check is mild if the capability takes a single input.
-/
def Disciplined
    (capability : Capability) : Prop :=
  ∀ environment values extra,
    Check.Disciplined (capability.inputs = 1) fun field =>
      capability.act environment values field extra

/-- A disciplined capability is orderly. -/
theorem Disciplined.orderly
    {capability : Capability}
    (disciplined : capability.Disciplined) :
    capability.Orderly :=
  fun environment values field extra =>
    (disciplined environment values extra).orderly field

/-- A call hands the values, the field and the extra arguments to the check. -/
theorem call_eq_act
    {capability : Capability}
    {values : List Value}
    (enough : values.length = capability.inputs)
    (environment : Environment)
    (field : Value)
    (extra : List Value) :
    capability.call environment (values ++ field :: extra) =
      capability.act environment values field extra := by
  simp [call, ← enough]

namespace Disciplined

variable {name : String}

theorem single
    {act : Single}
    (disciplined :
      ∀ environment value extra,
        Check.Disciplined (1 = 1) fun field =>
          act environment value field extra) :
    (Capability.single name act).Disciplined := by
  intro environment values extra
  unfold Capability.single
  dsimp only
  split
  · exact disciplined ..
  · exact .stop _

theorem plainIn
    {check : Environment → Value → Value → Check Unit}
    (disciplined :
      ∀ environment value,
        Check.Disciplined (1 = 1) (check environment value)) :
    (Capability.single name (Capability.plainIn check)).Disciplined := by
  refine single fun environment value extra => ?_
  unfold Capability.plainIn
  split
  · exact disciplined ..
  · exact .stop _

theorem plain
    {check : Value → Value → Check Unit}
    (disciplined :
      ∀ value, Check.Disciplined (1 = 1) (check value)) :
    (Capability.single name (Capability.plain check)).Disciplined :=
  plainIn fun _ => disciplined

theorem withOne
    {check : Value → Value → Value → Check Unit}
    (disciplined :
      ∀ value argument,
        Check.Disciplined (1 = 1) fun field => check value field argument) :
    (Capability.single name (Capability.withOne check)).Disciplined := by
  refine single fun environment value extra => ?_
  unfold Capability.withOne
  split
  · exact disciplined ..
  · exact .stop _

theorem withOptionalIn
    {fallback : Value}
    {check : Environment → Value → Value → Value → Check Unit}
    (disciplined :
      ∀ environment value argument,
        Check.Disciplined (1 = 1) fun field =>
          check environment value field argument) :
    (Capability.single name
      (Capability.withOptionalIn fallback check)).Disciplined := by
  refine single fun environment value extra => ?_
  unfold Capability.withOptionalIn
  split
  · exact disciplined ..
  · exact disciplined ..
  · exact .stop _

theorem withOptional
    {fallback : Value}
    {check : Value → Value → Value → Check Unit}
    (disciplined :
      ∀ value argument,
        Check.Disciplined (1 = 1) fun field => check value field argument) :
    (Capability.single name
      (Capability.withOptional fallback check)).Disciplined :=
  withOptionalIn fun _ => disciplined

theorem withBoundsIn
    {lower upper : Value}
    {check : Environment → Value → Value → Value → Value → Check Unit}
    (disciplined :
      ∀ environment value first second,
        Check.Disciplined (1 = 1) fun field =>
          check environment value field first second) :
    (Capability.single name
      (Capability.withBoundsIn lower upper check)).Disciplined := by
  refine single fun environment value extra => ?_
  unfold Capability.withBoundsIn
  split
  · exact disciplined ..
  · exact disciplined ..
  · exact disciplined ..
  · exact .stop _

theorem withBounds
    {lower upper : Value}
    {check : Value → Value → Value → Value → Check Unit}
    (disciplined :
      ∀ value first second,
        Check.Disciplined (1 = 1) fun field => check value field first second) :
    (Capability.single name
      (Capability.withBounds lower upper check)).Disciplined :=
  withBoundsIn fun _ => disciplined

theorem clamped
    {lower upper : Value}
    {least greatest : Int} :
    (Capability.single name
      (Capability.withBoundsIn lower upper
        fun environment value key lower upper =>
          Check.clampedRange environment value key lower upper least
            greatest)).Disciplined :=
  withBoundsIn fun _ _ _ _ =>
    ⟨.clampedRange .., .clampedRange .., .forget (.clampedRange ..)⟩

theorem textLimit
    {fallback : Value} :
    (Capability.single name
      (Capability.withOptional fallback Check.textLength)).Disciplined :=
  withOptional fun _ _ =>
    ⟨.textLength .., .textLength .., .of_blind (.textLength ..)⟩

theorem numberInRange :
    Capability.numberInRange.Disciplined := by
  have inRange
      (environment : Environment)
      (value lower upper message : Value) :
      Check.Disciplined (1 = 1) fun field =>
        Check.numberInRange environment value field lower upper message :=
    ⟨.numberInRange .., .numberInRange .., .of_blind (.numberInRange ..)⟩
  refine single fun environment value extra => ?_
  split
  · exact inRange ..
  · exact inRange ..
  · exact inRange ..
  · exact inRange ..
  · exact .stop _

theorem selection :
    Capability.selection.Disciplined := by
  have selected
      (value allowed byKey : Value) :
      Check.Disciplined (1 = 1) fun field =>
        Check.selection value field allowed byKey :=
    ⟨.selection .., .selection .., .of_blind (.selection ..)⟩
  refine single fun environment value extra => ?_
  split
  · exact selected ..
  · exact selected ..
  · exact .stop _

theorem fullDate :
    Capability.fullDate.Disciplined := by
  intro environment values extra
  unfold Capability.fullDate
  dsimp only
  split
  · exact ⟨.fullDate .., .fullDate (List.mem_cons_self ..) ..,
      .fullDate (by decide) ..⟩
  · exact .stop _

theorem fullDateTime :
    Capability.fullDateTime.Disciplined := by
  intro environment values extra
  unfold Capability.fullDateTime
  dsimp only
  split
  · exact ⟨.fullDateTime .., .fullDateTime .., .fullDateTime (by decide) ..⟩
  · exact .stop _

theorem dateRange :
    Capability.dateRange.Disciplined := by
  intro environment values extra
  unfold Capability.dateRange
  dsimp only
  split
  · exact ⟨.dateRange .., .dateRange .., .dateRange (by decide) ..⟩
  · exact .stop _

theorem dateInSemester :
    Capability.dateInSemester.Disciplined := by
  intro environment values extra
  unfold Capability.dateInSemester
  dsimp only
  split
  · exact ⟨.dateInSemester .., .dateInSemester .., .dateInSemester (by decide) ..⟩
  · exact .stop _

end Disciplined

end Capability

namespace Registry

/-- What is found in a registry is one of its items, under the name sought. -/
theorem mem_of_find?
    {registry : Registry}
    {name : String}
    {capability : Capability}
    (found : registry.find? name = some capability) :
    (Value.text name, capability) ∈ registry := by
  unfold find? at found
  induction registry with
  | nil =>
      simp [lookup] at found
  | cons item rest inductionHypothesis =>
      obtain ⟨key, present⟩ := item
      unfold lookup at found
      split at found
      case isTrue same =>
        cases Value.beq_text_iff.mp same
        cases found
        exact List.mem_cons_self ..
      case isFalse =>
        exact List.mem_cons_of_mem _ (inductionHypothesis found)

open Capability Capability.Disciplined in
/-- Every capability of the library but the gate's check is disciplined. -/
theorem disciplined_of_standard
    {name : String}
    {capability : Capability}
    (found : standard.find? name = some capability)
    (isOther : name ≠ requiredName) :
    capability.Disciplined := by
  have isUserName : userName.Disciplined :=
    withOptional fun _ _ =>
      ⟨.userName .., .userName .., .forget (.userName ..)⟩
  have isBinaryOption : binaryOption.Disciplined :=
    plainIn fun _ _ =>
      ⟨.integerOption .., .integerOption .., .of_blind (.integerOption ..)⟩
  have disciplined :
      ∀ item ∈ standard,
        item.1 = .text requiredName ∨ item.2.Disciplined := by
    simp only [standard, named, List.map_cons, List.map_nil,
      List.flatten_cons, List.flatten_nil, List.cons_append,
      List.nil_append, List.forall_mem_cons]
    exact ⟨.inl rfl,
      -- numbers
      .inr (plainIn fun _ _ =>
        ⟨.integer .., .integer .., .of_blind (.integer ..)⟩),
      .inr (withBoundsIn fun _ _ _ _ =>
        ⟨.integerRange .., .integerRange .., .forget (.integerRange ..)⟩),
      .inr (plain fun _ => ⟨.float .., .float .., .of_blind (.float ..)⟩),
      .inr (withBounds fun _ _ _ =>
        ⟨.floatRange .., .floatRange .., .forget (.floatRange ..)⟩),
      .inr numberInRange,
      .inr (withBoundsIn fun _ _ _ _ =>
        ⟨.clampedRange .., .clampedRange .., .forget (.clampedRange ..)⟩),
      .inr (plainIn fun _ _ =>
        ⟨.integerRange .., .integerRange .., .forget (.integerRange ..)⟩),
      .inr clamped,
      -- texts
      .inr (withOne fun _ _ =>
        ⟨.textLength .., .textLength .., .of_blind (.textLength ..)⟩),
      .inr (plain fun _ =>
        ⟨.emailFormat .., .emailFormat .., .of_blind (.emailFormat ..)⟩),
      .inr (withOne fun _ _ =>
        ⟨.textAmong .., .textAmong .., .of_blind (.textAmong ..)⟩),
      .inr (plain fun _ =>
        ⟨.alphanumeric .., .alphanumeric .., .of_blind (.alphanumeric ..)⟩),
      .inr (withOne fun _ _ =>
        ⟨.textLength .., .textLength .., .of_blind (.textLength ..)⟩),
      .inr textLimit,
      .inr textLimit,
      .inr (withOptional fun _ _ =>
        ⟨.name .., .name .., .of_blind (.name ..)⟩),
      .inr isUserName,
      .inr isUserName,
      .inr (withOptional fun _ _ =>
        ⟨.shell .., .shell .., .of_blind (.shell ..)⟩),
      .inr (withBounds fun _ _ _ =>
        ⟨.email .., .email .., .forget (.email ..)⟩),
      .inr (plain fun _ =>
        ⟨.semesterTag .., .semesterTag .., .forget (.semesterTag ..)⟩),
      .inr (withBoundsIn fun _ _ _ _ =>
        ⟨.semester .., .semester .., .semester ..⟩),
      .inr (withBoundsIn fun _ _ _ _ =>
        ⟨.programNumber .., .programNumber .., .programNumber ..⟩),
      .inr (withOptional fun _ _ =>
        ⟨.sessionCode .., .sessionCode .., .of_blind (.sessionCode ..)⟩),
      -- options
      .inr selection,
      .inr (withOptionalIn fun _ _ _ =>
        ⟨.integerOption .., .integerOption .., .of_blind (.integerOption ..)⟩),
      .inr isBinaryOption,
      .inr isBinaryOption,
      .inr isBinaryOption,
      .inr isBinaryOption,
      .inr isBinaryOption,
      -- dates and their components
      .inr (withBoundsIn fun _ _ _ _ =>
        ⟨.year .., .year .., .forget (.year ..)⟩),
      .inr clamped,
      .inr clamped,
      .inr clamped,
      .inr clamped,
      .inr clamped,
      .inr fullDate,
      .inr fullDateTime,
      .inr dateRange,
      .inr dateInSemester,
      List.forall_mem_nil _⟩
  rcases disciplined _ (mem_of_find? found) with isRequired | isDisciplined
  · cases isRequired
    exact (isOther rfl).elim
  · exact isDisciplined

/-- Every capability of the library but the gate's check is orderly. -/
theorem orderly_of_standard
    {name : String}
    {capability : Capability}
    (found : standard.find? name = some capability)
    (isOther : name ≠ requiredName) :
    capability.Orderly :=
  (disciplined_of_standard found isOther).orderly

end Registry

end FormCheck
