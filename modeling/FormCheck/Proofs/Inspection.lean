import FormCheck.Proofs.Gate
import FormCheck.Proofs.Strip

namespace FormCheck

/-!
# What the gate leaves of each input

The gate of a step goes over all inputs, also those behind one that is missing
and those that the step lists twice. What it leaves under an input depends on
the input alone: a missing one gains a message for each time it is listed, every
other one gets what was submitted. Whether the step is skipped is a question
about the result after the gate.
-/

namespace Value

/-- A submitted value that counts as not filled in. -/
inductive IsUnfilled : Value → Prop where
  | null : IsUnfilled .null
  | isFalse : IsUnfilled (.bool false)
  | blank
      (text : String)
      (isBlank : ∀ character ∈ text.toList, Text.isBlank character = true) :
      IsUnfilled (.text text)
  | list : IsUnfilled (.list [])
  | tuple : IsUnfilled (.tuple [])
  | set : IsUnfilled (.set [])
  | dict : IsUnfilled (.dict [])

/-- The check for empty values finds the values that are not filled in. -/
theorem isEmpty_iff
    {value : Value} :
    value.isEmpty = true ↔ value.IsUnfilled := by
  constructor
  · intro empty
    cases value with
    | null =>
        exact .null
    | bool truth =>
        cases truth with
        | false =>
            exact .isFalse
        | true =>
            cases empty
    | text characters =>
        rw [isEmpty, List.isEmpty_iff, Text.stripped_eq_nil_iff] at empty
        exact .blank characters empty
    | list items =>
        cases List.isEmpty_iff.mp empty
        exact .list
    | tuple items =>
        cases List.isEmpty_iff.mp empty
        exact .tuple
    | set items =>
        cases List.isEmpty_iff.mp empty
        exact .set
    | dict entries =>
        cases List.isEmpty_iff.mp empty
        exact .dict
    | int | float | bytes | date | dateTime | cycle =>
        cases empty
  · intro isUnfilled
    cases isUnfilled with
    | blank text isBlank =>
        rw [isEmpty, List.isEmpty_iff, Text.stripped_eq_nil_iff]
        exact isBlank
    | null | isFalse | list | tuple | set | dict =>
        rfl

end Value

namespace Step

variable
  {step : Step}
  {data : Value}
  {input : String}

/-- An input is lacking if the step requires it and it is not filled in. -/
theorem isLacking_iff :
    step.isLacking data input = true ↔
      step.isRequired = true ∧ (data.submitted input).IsUnfilled := by
  rw [isLacking, Bool.and_eq_true, Value.isEmpty_iff]

/--
What the entries of the gate show under an input is what the entry for that
input shows, once for each time that the step lists it.
-/
theorem filterMap_gateEntry
    {shows : Entry → Option Value}
    (foreign :
      ∀ other, other ≠ input → shows (step.gateEntry data other) = none)
    (inputs : List String) :
    (inputs.map (step.gateEntry data)).filterMap shows =
      (List.replicate (inputs.count input)
        (step.gateEntry data input)).filterMap shows := by
  induction inputs with
  | nil =>
      rfl
  | cons other rest inductionHypothesis =>
      rw [List.map_cons]
      by_cases same : other = input
      · subst same
        rw [List.count_cons_self, List.replicate_succ, List.filterMap_cons,
          List.filterMap_cons, inductionHypothesis]
      · rw [List.count_cons_of_ne same,
          List.filterMap_cons_none (foreign other same),
          inductionHypothesis]

/-- The entry for another input shows nothing under an input. -/
theorem key_gateEntry_ne
    {other : String}
    (differs : other ≠ input) :
    (step.gateEntry data other).key ≠ .text input := by
  rw [key_gateEntry]
  intro same
  cases same
  exact differs rfl

/-- The messages that the gate records under an input. -/
theorem messages_gateEntries
    (step : Step)
    (data : Value)
    (input : String) :
    (step.gateEntries data).filterMap (Entry.messageAt? (.text input)) =
      if step.isLacking data input then
        List.replicate (step.inputs.count input) (.text step.message)
      else
        [] := by
  rw [gateEntries,
    filterMap_gateEntry fun other differs =>
      Entry.messageAt?_eq_none (key_gateEntry_ne differs)]
  split
  case isTrue lacking =>
    exact List.filterMap_replicate_of_some
      (by simp [gateEntry, lacking, Entry.messageAt?])
  case isFalse present =>
    exact List.filterMap_replicate_of_none
      (by simp [gateEntry, present, Entry.messageAt?])

/-- The values that the gate records under an input. -/
theorem values_gateEntries
    (step : Step)
    (data : Value)
    (input : String) :
    (step.gateEntries data).filterMap (Entry.valueAt? (.text input)) =
      if step.isLacking data input then
        []
      else
        List.replicate (step.inputs.count input) (data.submitted input) := by
  rw [gateEntries,
    filterMap_gateEntry fun other differs =>
      Entry.valueAt?_eq_none (key_gateEntry_ne differs)]
  split
  case isTrue lacking =>
    exact List.filterMap_replicate_of_none
      (by simp [gateEntry, lacking, Entry.valueAt?])
  case isFalse present =>
    exact List.filterMap_replicate_of_some
      (by simp [gateEntry, present, Entry.valueAt?])

/--
What the gate of a step makes of a result. A required input that is not filled in
gains the message of the step. A required input that is filled in gets stored, and
so does an optional one, whatever was submitted. Nothing changes under a key that
is none of the inputs.
-/
structure Gates
    (step : Step)
    (data : Value)
    (before after : Result) : Prop where
  missing :
    step.isRequired = true →
      ∀ input ∈ step.inputs,
        (data.submitted input).IsUnfilled →
          after.value? (.text input) = before.value? (.text input) ∧
            after.errorsAt (.text input) =
              before.errorsAt (.text input) ++
                List.replicate (step.inputs.count input)
                  (.text step.message)
  filled :
    step.isRequired = true →
      ∀ input ∈ step.inputs,
        ¬(data.submitted input).IsUnfilled →
          after.value? (.text input) = some (data.submitted input) ∧
            after.errorsAt (.text input) = before.errorsAt (.text input)
  optional :
    step.isRequired = false →
      ∀ input ∈ step.inputs,
        after.value? (.text input) = some (data.submitted input) ∧
          after.errorsAt (.text input) = before.errorsAt (.text input)
  foreign :
    ∀ key,
      (∀ input ∈ step.inputs, key ≠ .text input) →
        after.value? key = before.value? key ∧
          after.errorsAt key = before.errorsAt key

/-- A lacking input keeps its value and gains messages. -/
theorem extend_gateEntries_of_isLacking
    (lacking : step.isLacking data input = true)
    (before : Result) :
    (before.extend (step.gateEntries data)).value? (.text input) =
        before.value? (.text input) ∧
      (before.extend (step.gateEntries data)).errorsAt (.text input) =
        before.errorsAt (.text input) ++
          List.replicate (step.inputs.count input) (.text step.message) := by
  rw [Result.value?_extend, Result.errorsAt_extend, values_gateEntries,
    messages_gateEntries, if_pos lacking, if_pos lacking]
  exact ⟨rfl, rfl⟩

/-- Any other input gets what was submitted and gains no message. -/
theorem extend_gateEntries_of_not_isLacking
    (present : ¬step.isLacking data input = true)
    (isInput : input ∈ step.inputs)
    (before : Result) :
    (before.extend (step.gateEntries data)).value? (.text input) =
        some (data.submitted input) ∧
      (before.extend (step.gateEntries data)).errorsAt (.text input) =
        before.errorsAt (.text input) := by
  have listed : step.inputs.count input ≠ 0 :=
    Nat.ne_of_gt (List.count_pos_iff.mpr isInput)
  rw [Result.value?_extend, Result.errorsAt_extend, values_gateEntries,
    messages_gateEntries, if_neg present, if_neg present,
    List.getLast?_replicate, if_neg listed, List.append_nil]
  exact ⟨rfl, rfl⟩

/-- The entries of the gate make of a result what the gate does. -/
theorem gates_gateEntries
    (step : Step)
    (data : Value)
    (before : Result) :
    step.Gates data before (before.extend (step.gateEntries data)) where
  missing := by
    intro isRequired input _ isUnfilled
    exact extend_gateEntries_of_isLacking
      (isLacking_iff.mpr ⟨isRequired, isUnfilled⟩) before
  filled := by
    intro _ input isInput isFilled
    exact extend_gateEntries_of_not_isLacking
      (fun lacking => isFilled (isLacking_iff.mp lacking).2) isInput before
  optional := by
    intro isOptional input isInput
    refine extend_gateEntries_of_not_isLacking ?_ isInput before
    simp [isLacking, isOptional]
  foreign := by
    intro key isForeign
    have recordsInputs :
        ∀ entry ∈ step.gateEntries data,
          ∃ input,
            entry.key = .text input ∧
              ¬∀ other ∈ step.inputs, Value.text input ≠ .text other := by
      intro entry member
      obtain ⟨input, isInput, rfl⟩ := List.mem_map.mp member
      exact ⟨input, key_gateEntry .., fun differs =>
        differs input isInput rfl⟩
    exact
      @Result.AgreeOn.of_foreign_texts
        (fun key => ∀ input ∈ step.inputs, key ≠ .text input)
        before _ recordsInputs key isForeign

/--
An input was lacking and had no value before the gate exactly if the step is
required and the input has no value after the gate.
-/
theorem isLacking_and_absent_iff
    (isInput : input ∈ step.inputs)
    (before : Result) :
    (step.isLacking data input && !before.hasValue (.text input)) = true ↔
      step.isRequired = true ∧
        (before.extend (step.gateEntries data)).hasValue (.text input) =
          false := by
  by_cases lacking : step.isLacking data input = true
  · have kept := (extend_gateEntries_of_isLacking lacking before).1
    simp [Result.hasValue, kept, lacking, (isLacking_iff.mp lacking).1]
  · have stored :=
      (extend_gateEntries_of_not_isLacking lacking isInput before).1
    simp [Result.hasValue, stored, lacking]

/--
With the original gate, whether a step is skipped always gets an answer. The
gate calls no capability of the plan and leaves of each input what is due to it,
a message for each time that a missing input is listed. The step is skipped
exactly if it is required and one of its inputs has no value after that.
-/
theorem isSkipped_gates
    {registry : Registry}
    (gate : registry.find? Registry.requiredName = some .requiredField)
    {data : Value}
    (mapping : data.IsMapping)
    (environment : Environment)
    (step : Step)
    (before : Result) :
    ∃ written isSkipped,
      step.isSkipped environment registry data before =
          ⟨written, .ok isSkipped⟩ ∧
        written.filterMap Event.call? = [] ∧
        step.Gates data before (before.follow written) ∧
        (isSkipped = true ↔
          step.isRequired = true ∧
            ∃ input ∈ step.inputs,
              (before.follow written).hasValue (.text input) = false) := by
  obtain ⟨written, inspected, entries, calls⟩ :=
    inspect_eq mapping environment step step.inputs before
  have left :
      before.follow written = before.extend (step.gateEntries data) :=
    congrArg before.extend entries
  have answered :
      step.isSkipped environment registry data before =
        ⟨written, .ok (step.isHeldBack data before)⟩ := by
    simp only [isSkipped, gate]
    exact inspected
  refine ⟨written, step.isHeldBack data before, answered, calls, ?_, ?_⟩
  · rw [left]
    exact gates_gateEntries step data before
  · rw [left, isHeldBack, List.any_eq_true]
    constructor
    · rintro ⟨input, isInput, isMissing⟩
      obtain ⟨isRequired, absent⟩ :=
        (isLacking_and_absent_iff isInput before).mp isMissing
      exact ⟨isRequired, input, isInput, absent⟩
    · rintro ⟨isRequired, input, isInput, absent⟩
      exact ⟨input, isInput,
        (isLacking_and_absent_iff isInput before).mpr ⟨isRequired, absent⟩⟩

/--
An input that is listed twice and blank gains two messages behind an older one,
and the input between them still gets stored.
-/
theorem isSkipped_gates_blank_listed_twice :
    let step : Step :=
      ⟨"pair", ["a", "b", "a"], "accept", .text, [], true, "Needed."⟩
    let data := Value.record [("a", .text " "), ("b", .int 0)]
    let before : Result := ⟨[.error (.text "a") (.text "Old.")]⟩
    ∃ written,
      step.isSkipped (.on ⟨2024, 1, 1⟩) .standard data before =
          ⟨written, .ok true⟩ ∧
        (before.follow written).errorsAt (.text "a") =
          [.text "Old.", .text "Needed.", .text "Needed."] ∧
        (before.follow written).value? (.text "b") = some (.int 0) := by
  intro step data before
  obtain ⟨written, isSkipped, answered, -, gates, skips⟩ :=
    isSkipped_gates
      (show Registry.standard.find? Registry.requiredName = _ from rfl)
      (show data.IsMapping from ⟨_, rfl⟩) (.on ⟨2024, 1, 1⟩) step before
  obtain ⟨kept, gained⟩ :=
    gates.missing rfl "a" (by decide)
      (Value.isEmpty_iff.mp (by decide +kernel))
  have stored :=
    gates.filled rfl "b" (by decide)
      (mt Value.isEmpty_iff.mpr (by decide +kernel))
  have absent : (before.follow written).hasValue (.text "a") = false := by
    rw [Result.hasValue, kept]
    rfl
  have isTrue : isSkipped = true :=
    skips.mpr ⟨rfl, "a", by decide, absent⟩
  refine ⟨written, ?_, ?_, ?_⟩
  · rw [answered, isTrue]
  · rw [gained]
    rfl
  · exact stored.1

end Step

end FormCheck
