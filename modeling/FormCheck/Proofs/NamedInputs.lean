import FormCheck.Proofs.Decomposition

namespace FormCheck

/-!
# What a run reads of its data

A step reads its data through its inputs alone. Two mappings that hold the same
at the inputs of a plan are therefore the same to all of its steps. A run reads
its data in two more places. It writes the keys into its log, which has no part
in how the run ends, and a validator may choose its raw plan by the data.
-/

/-- Two mappings hold the same at each input of a step. -/
def Step.ReadsAlike
    (step : Step)
    (data other : Value) : Prop :=
  ∀ input ∈ step.inputs, data.get (.text input) = other.get (.text input)

/-- Two mappings hold the same at each input of a plan. -/
def Plan.ReadsAlike
    (plan : Plan)
    (data other : Value) : Prop :=
  ∀ step ∈ plan, step.ReadsAlike data other

namespace Step

variable
  {step : Step}
  {data other : Value}

/-- The gate inspects some inputs alike if it is submitted the same there. -/
theorem inspect_congr
    {inputs : List String}
    (alike :
      ∀ input ∈ inputs, data.get (.text input) = other.get (.text input))
    (environment : Environment)
    (gate : Capability)
    (step : Step) :
    step.inspect environment gate data inputs =
      step.inspect environment gate other inputs := by
  induction inputs with
  | nil =>
      rfl
  | cons input rest inductionHypothesis =>
      obtain ⟨same, restAlike⟩ := List.forall_mem_cons.mp alike
      simp only [inspect, same, inductionHypothesis restAlike]

/-- A step is skipped alike, and with the same history of its gate. -/
theorem ReadsAlike.isSkipped_eq
    (alike : step.ReadsAlike data other)
    (environment : Environment)
    (registry : Registry) :
    step.isSkipped environment registry data =
      step.isSkipped environment registry other := by
  unfold isSkipped
  split
  · rfl
  · exact inspect_congr alike ..

/-- Some inputs are read alike if the same was submitted there. -/
theorem mapM_get_congr
    {inputs : List String}
    (alike :
      ∀ input ∈ inputs, data.get (.text input) = other.get (.text input)) :
    (inputs.mapM fun input => data.get (.text input)) =
      inputs.mapM fun input => other.get (.text input) := by
  induction inputs with
  | nil =>
      rfl
  | cons input rest inductionHypothesis =>
      obtain ⟨same, restAlike⟩ := List.forall_mem_cons.mp alike
      rw [List.mapM_cons, List.mapM_cons, same,
        inductionHypothesis restAlike]

/-- The capability of a step is given the same arguments. -/
theorem ReadsAlike.callArguments_eq
    (alike : step.ReadsAlike data other) :
    step.callArguments data = step.callArguments other := by
  unfold callArguments
  rw [mapM_get_congr alike]

end Step

namespace Validator

variable
  {validator : Validator}
  {environment : Environment}
  {data other context : Value}

/-- A step that reads the same runs the same. -/
theorem runStep_of_readsAlike
    {step : Step}
    (alike : step.ReadsAlike data other)
    (validator : Validator)
    (environment : Environment)
    (index : Nat) :
    validator.runStep environment data index step =
      validator.runStep environment other index step := by
  unfold runStep dispatch
  rw [alike.isSkipped_eq, alike.callArguments_eq]

/-- Steps that read the same run the same. -/
theorem runSteps_of_readsAlike
    {plan : Plan}
    (alike : plan.ReadsAlike data other)
    (validator : Validator)
    (environment : Environment)
    (index : Nat) :
    validator.runSteps environment data plan index =
      validator.runSteps environment other plan index := by
  induction plan generalizing index with
  | nil =>
      rfl
  | cons step rest inductionHypothesis =>
      obtain ⟨stepAlike, restAlike⟩ := List.forall_mem_cons.mp alike
      unfold runSteps
      rw [runStep_of_readsAlike stepAlike, inductionHypothesis restAlike]

/-- What is left of a run once its plan is built. -/
def remainder
    (validator : Validator)
    (environment : Environment)
    (data : Value)
    (plan : Plan) : Run Outcome := do
  validator.runSteps environment data plan 0
  validator.conclude environment plan

/-- A run of a mapping with textual keys ends as its plan and its steps do. -/
theorem ended_run_of_isRecord
    (isRecord : data.IsRecord) :
    (validator.run environment data context).ended =
      match (validator.buildPlan environment data context).ended with
      | .error fault => .error fault
      | .ok plan =>
          (validator.remainder environment data plan .empty).ended := by
  have opens :
      validator.opening environment data context =
        ⟨(validator.announce data).written ++
            (validator.buildPlan environment data context).written,
          (validator.buildPlan environment data context).ended⟩ :=
    Journal.bind_of_ok (announce_of_isRecord validator isRecord) _
  cases built : (validator.buildPlan environment data context).ended with
  | error fault =>
      rw [built] at opens
      rw [run_of_opening_error opens]
  | ok plan =>
      rw [built] at opens
      obtain ⟨rest, ran, rfl⟩ := run_of_opening_ok opens
      rw [ran]
      rfl

/-- How a step runs has nothing to do with the raw plan. -/
theorem runStep_withRawPlan
    (raw : Environment → (data context : Value) → Logged Value)
    (index : Nat)
    (step : Step) :
    { validator with rawPlan := raw }.runStep environment data index step =
      validator.runStep environment data index step :=
  rfl

/-- Nor has how some steps run. -/
theorem runSteps_withRawPlan
    (raw : Environment → (data context : Value) → Logged Value)
    (steps : List Step)
    (index : Nat) :
    { validator with rawPlan := raw }.runSteps environment data steps index =
      validator.runSteps environment data steps index := by
  induction steps generalizing index with
  | nil =>
      rfl
  | cons step rest inductionHypothesis =>
      unfold runSteps
      rw [inductionHypothesis, runStep_withRawPlan]

/-- How a run is concluded has nothing to do with the raw plan. -/
theorem conclude_withRawPlan
    (raw : Environment → (data context : Value) → Logged Value)
    (plan : Plan) :
    { validator with rawPlan := raw }.conclude environment plan =
      validator.conclude environment plan :=
  rfl

/-- Nor has what is left of a run once its plan is built. -/
theorem remainder_withRawPlan
    (raw : Environment → (data context : Value) → Logged Value)
    (plan : Plan) :
    { validator with rawPlan := raw }.remainder environment data plan =
      validator.remainder environment data plan := by
  unfold remainder
  rw [runSteps_withRawPlan, conclude_withRawPlan]

/-- A plan is built alike from raw plans that end alike. -/
theorem ended_buildPlan_congr
    {raw : Environment → (data context : Value) → Logged Value}
    (drafted :
      (validator.rawPlan environment data
          (context.orElse (.dict []))).ended =
        (raw environment other (context.orElse (.dict []))).ended) :
    (validator.buildPlan environment data context).ended =
      ({ validator with rawPlan := raw }.buildPlan environment other
        context).ended := by
  unfold buildPlan
  rw [Journal.ended_bind, Journal.ended_bind, drafted]

/--
Two runs end alike if they differ in their raw plans at most, if the same plan
is built for both and if their data are the same at the inputs of that plan.
-/
theorem ended_run_congr
    {raw : Environment → (data context : Value) → Logged Value}
    (isRecord : data.IsRecord)
    (isOtherRecord : other.IsRecord)
    (built :
      (validator.buildPlan environment data context).ended =
        ({ validator with rawPlan := raw }.buildPlan environment other
          context).ended)
    (alike :
      ∀ plan,
        (validator.buildPlan environment data context).ended = .ok plan →
          plan.ReadsAlike data other) :
    (validator.run environment data context).ended =
      ({ validator with rawPlan := raw }.run environment other
        context).ended := by
  -- The records of the log, where the keys differ, are left behind here.
  rw [ended_run_of_isRecord isRecord, ended_run_of_isRecord isOtherRecord,
    ← built]
  cases planned : (validator.buildPlan environment data context).ended with
  | error fault =>
      rfl
  | ok plan =>
      have sameRemainder :
          validator.remainder environment data plan =
            validator.remainder environment other plan := by
        unfold remainder
        rw [runSteps_of_readsAlike (alike plan planned)]
      dsimp only
      rw [sameRemainder, ← remainder_withRawPlan raw]

end Validator

end FormCheck
