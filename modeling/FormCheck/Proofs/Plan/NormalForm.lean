import FormCheck.Proofs.Plan.Acceptance

namespace FormCheck

/-!
# The normal form of a plan

The description of a step leaves nothing out. So a step that was normalised is
what its description is normalised to, with no warning, by any settings and at
any place in a plan. Plans are described step by step, and the same holds of
them.
-/

/-- What continues an answer starts with it at once. -/
theorem Journal.pure_bind
    (value : first)
    (continuation : first → Journal entry second) :
    (pure value : Journal entry first) >>= continuation =
      continuation value :=
  rfl

namespace Step

/--
A step is complete for a registry if its names are not empty, it has inputs, and
its capability is the one registered under its method.
-/
structure IsComplete
    (registry : Registry)
    (step : Step) : Prop where
  field : step.field ≠ ""
  method : step.method ≠ ""
  hasInputs : step.inputs ≠ []
  inputs : ∀ input ∈ step.inputs, input ≠ ""
  capability : registry.find? step.method = some step.capability

/-- The entries of the description of a step. -/
def description
    (step : Step) : Entries :=
  [(.text "field", .text step.field),
    (.text "fields", .list (step.inputs.map Value.text)),
    (.text "method", .text step.method),
    (.text "args", .list step.arguments),
    (.text "required", .bool step.isRequired),
    (.text "required_msg", .text step.message)]

/-- The description of a step is the mapping of its entries. -/
theorem toValue_eq
    (step : Step) :
    step.toValue = .dict step.description :=
  rfl

end Step

namespace Plan

/-- Names are not empty. -/
theorem ne_empty_of_names
    {values : List Value}
    {names : List String}
    (areNames : List.Forall₂ Value.Names values names) :
    ∀ name ∈ names, name ≠ "" := by
  induction areNames with
  | nil =>
      exact List.forall_mem_nil _
  | cons isName _ inductionHypothesis =>
      exact List.forall_mem_cons.mpr ⟨isName.2, inductionHypothesis⟩

/-- Texts that are not empty name themselves. -/
theorem names_map_text
    {names : List String}
    (present : ∀ name ∈ names, name ≠ "") :
    List.Forall₂ Value.Names (names.map Value.text) names := by
  induction names with
  | nil =>
      exact .nil
  | cons name rest inductionHypothesis =>
      rw [List.forall_mem_cons] at present
      exact .cons ⟨rfl, present.1⟩ (inductionHypothesis present.2)

/-- A sequence of inputs that is declared has some, and none is empty. -/
theorem DeclaresInputs.areProper
    {declared : Value}
    {field : String}
    {inputs : List String}
    (declares : DeclaresInputs declared field inputs)
    (isField : field ≠ "") :
    inputs ≠ [] ∧ ∀ input ∈ inputs, input ≠ "" := by
  cases declares with
  | leftOut =>
      exact ⟨List.cons_ne_nil _ _, List.forall_mem_singleton.mpr isField⟩
  | listed items inputs _ notEmpty areNames =>
      refine ⟨?_, ne_empty_of_names areNames⟩
      rintro rfl
      cases areNames
      exact notEmpty rfl

section Steps

variable
  {settings : Settings}
  {registry : Registry}
  {step : Step}

/-- What is normalised is complete. -/
theorem isComplete_of_normalizeStep
    {raw : Value}
    {index : Int}
    (accepted :
      (normalizeStep settings registry raw index).ended = .ok step) :
    step.IsComplete registry := by
  have countable : Number.isWritable 0 = true :=
    Number.isWritable_of_lt (by decide)
  -- The index may have too many digits to be written, the first one has not.
  obtain ⟨entries, rfl, _, stands⟩ :=
    (normalizeStep_answers_iff countable).mp
      (covers_normalizeStep raw step accepted)
  obtain ⟨hasInputs, inputs⟩ := stands.inputs.areProper stands.field.2
  exact
    { field := stands.field.2
      method := stands.method.2
      hasInputs := hasInputs
      inputs := inputs
      capability := stands.capability }

/-- A description has no unknown keys to warn of. -/
theorem warnOfUnknownKeys_description
    (step : Step)
    (index : Int) :
    warnOfUnknownKeys step.description index = pure () := by
  have known : unknownKeys step.description = [] := by
    rfl
  unfold warnOfUnknownKeys
  rw [known]
  rfl

/-- The inputs of a description are those of the step. -/
theorem inputsOf_description
    (complete : step.IsComplete registry)
    (index : Int) :
    inputsOf step.description step.field index = pure step.inputs := by
  have isListed :
      entryAt step.description "fields" =
        .list (step.inputs.map Value.text) :=
    rfl
  have areNames :
      properTexts? (step.inputs.map Value.text) = some step.inputs :=
    properTexts?_eq_some_iff.mpr (names_map_text complete.inputs)
  unfold inputsOf
  rw [isListed]
  simp only [sequence?, areNames]
  obtain ⟨input, rest, sameInputs⟩ :=
    List.exists_cons_of_ne_nil complete.hasInputs
  rw [sameInputs]
  rfl

/-- The names in a description are those of the step. -/
theorem fieldAndMethod_description
    (complete : step.IsComplete registry)
    (index : Int) :
    fieldAndMethod step.description index =
      pure (step.field, step.method) := by
  have isFieldEntry :
      entryAt step.description "field" = .text step.field :=
    rfl
  have isMethodEntry :
      entryAt step.description "method" = .text step.method :=
    rfl
  have isField : properText? (.text step.field) = some step.field :=
    properText?_eq_some_iff.mpr ⟨rfl, complete.field⟩
  have isMethod : properText? (.text step.method) = some step.method :=
    properText?_eq_some_iff.mpr ⟨rfl, complete.method⟩
  unfold fieldAndMethod
  rw [isFieldEntry, isMethodEntry]
  simp only [isField, isMethod]

/-- The capability of a complete step is found again. -/
theorem capabilityOf_eq
    (complete : step.IsComplete registry)
    (index : Int) :
    capabilityOf registry step.method index = pure step.capability := by
  unfold capabilityOf
  rw [complete.capability]

/-- A complete step is what its description is normalised to. -/
theorem normalizeStep_toValue
    (complete : step.IsComplete registry)
    (settings : Settings)
    (index : Int) :
    normalizeStep settings registry step.toValue index = pure step := by
  have sameArguments :
      argumentsOf step.description step.field index =
        pure step.arguments :=
    rfl
  have sameRequired :
      requiredOf step.description step.field index =
        pure step.isRequired :=
    rfl
  have sameMessage :
      messageOf settings step.description step.field index =
        pure step.message :=
    rfl
  rw [Step.toValue_eq]
  unfold normalizeStep
  simp only [warnOfUnknownKeys_description, fieldAndMethod_description complete,
    inputsOf_description complete, sameArguments, sameRequired, sameMessage,
    capabilityOf_eq complete, Journal.pure_bind]

end Steps

/-- A plan is complete if its steps are and, unless it is empty, it has a gate. -/
structure IsComplete
    (registry : Registry)
    (plan : Plan) : Prop where
  gate : plan ≠ [] → registry.has Registry.requiredName = true
  steps : ∀ step ∈ plan, step.IsComplete registry

section Plans

variable
  {settings : Settings}
  {registry : Registry}
  {plan : Plan}

/-- A plan that was normalised is complete. -/
theorem isComplete_of_normalize
    {raw : Value}
    (accepted : (normalize settings registry raw).ended = .ok plan) :
    IsComplete registry plan := by
  obtain ⟨items, listed, each⟩ := normalizeFrom_of_normalize accepted
  have isSequence := sequence?_eq_some_iff.mp listed
  have sameSteps := map_normalizeStep each
  constructor
  · intro notEmpty
    have hasItems : items ≠ [] := by
      rintro rfl
      exact notEmpty (List.map_eq_nil_iff.mp sameSteps.symm)
    cases registered : registry.find? Registry.requiredName with
    | some gate =>
        rw [Registry.has, registered]
        rfl
    | none =>
        rw [normalize_of_noGate isSequence hasItems registered] at accepted
        cases accepted
  · intro step member
    have isOk :
        Except.ok step ∈
          items.map fun item =>
            (normalizeStep settings registry item 0).ended := by
      rw [sameSteps]
      exact List.mem_map_of_mem member
    obtain ⟨item, _, ended⟩ := List.mem_map.mp isOk
    exact isComplete_of_normalizeStep ended

/-- Complete steps are what their descriptions are normalised to, one by one. -/
theorem normalizeFrom_map_toValue
    (complete : ∀ step ∈ plan, step.IsComplete registry)
    (settings : Settings)
    (index : Nat) :
    normalizeFrom settings registry (plan.map Step.toValue) index =
      pure plan := by
  induction plan generalizing index with
  | nil =>
      rfl
  | cons step rest inductionHypothesis =>
      rw [List.forall_mem_cons] at complete
      rw [List.map_cons, normalizeFrom, normalizeStep_toValue complete.1,
        Journal.pure_bind, inductionHypothesis complete.2, Journal.pure_bind]

/-- A complete plan is what its description is normalised to. -/
theorem normalize_toValue
    (complete : IsComplete registry plan)
    (settings : Settings) :
    normalize settings registry (toValue plan) = pure plan := by
  have isSequence :
      (toValue plan).IsSequenceOf (plan.map Step.toValue) :=
    .inl rfl
  have gate :
      plan.map Step.toValue ≠ [] →
        registry.has Registry.requiredName = true :=
    fun notEmpty => complete.gate (mt List.map_eq_nil_iff.mpr notEmpty)
  rw [normalize_of_gate isSequence gate,
    normalizeFrom_map_toValue complete.steps]

/--
What was normalised is in normal form: its description is normalised to the same
step or plan again. It does not matter by which settings that is done, nor where
in a plan the step stands then, and nothing is logged.
-/
theorem normalized_again
    (settings : Settings)
    (registry : Registry) :
    (∀ raw index step,
        (normalizeStep settings registry raw index).ended = .ok step →
          ∀ others place,
            normalizeStep others registry step.toValue place = pure step) ∧
      ∀ raw plan,
        (normalize settings registry raw).ended = .ok plan →
          ∀ others, normalize others registry (toValue plan) = pure plan := by
  constructor
  · intro raw index step accepted others place
    exact normalizeStep_toValue (isComplete_of_normalizeStep accepted) ..
  · intro raw plan accepted others
    exact normalize_toValue (isComplete_of_normalize accepted) others

/-- A raw step that leaves out what it can, with tuples where lists would do. -/
def terseStep : Value :=
  .record
    [("method", .text "validate_integer_range"), ("field", .text "age"),
      ("fields", .tuple [.text "years"]), ("args", .tuple [.int 0]),
      ("required", .null), ("requiredMsg", .text "How old?")]

/-- The step that the terse raw step stands for. -/
def ageStep : Step where
  field := "age"
  inputs := ["years"]
  method := "validate_integer_range"
  capability := .integerRange
  arguments := [.int 0]
  isRequired := false
  message := "How old?"

/--
The terse raw step and its description are normalised to the same step, and so
are the plans of the two, even by settings without a message.
-/
theorem normalized_again_age :
    (normalizeStep {} .standard terseStep 7).ended = .ok ageStep ∧
      normalizeStep { requiredMessage := .null } .standard ageStep.toValue 0 =
        pure ageStep ∧
      (normalize {} .standard (.tuple [terseStep])).ended = .ok [ageStep] ∧
      normalize { requiredMessage := .null } .standard (toValue [ageStep]) =
        pure [ageStep] := by
  have accepted :
      (normalizeStep {} .standard terseStep 7).ended = .ok ageStep := by
    rfl
  have acceptedPlan :
      (normalize {} .standard (.tuple [terseStep])).ended =
        .ok [ageStep] := by
    rfl
  have again := normalized_again {} .standard
  exact ⟨accepted, again.1 _ _ _ accepted _ _, acceptedPlan,
    again.2 _ _ acceptedPlan _⟩

end Plans

end Plan

end FormCheck
