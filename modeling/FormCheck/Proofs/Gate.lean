import FormCheck.Proofs.Journal
import FormCheck.Proofs.Result
import FormCheck.Validator

namespace FormCheck

/-!
# What the gate of a step does

The gate records one entry for each input of a step, the submitted value or the
step's message, and logs. Whether it holds the step back depends on two things:
which inputs are empty, and which of these hold a value from an earlier step.
-/

namespace Value

/-- Whether a value is a mapping. -/
def IsMapping
    (value : Value) : Prop :=
  ∃ entries, value = .dict entries

/-- Whether a value is a mapping with textual keys. -/
def IsRecord
    (value : Value) : Prop :=
  ∃ entries, value = record entries

/-- A mapping with textual keys is a mapping. -/
theorem IsRecord.isMapping
    {value : Value}
    (isRecord : value.IsRecord) :
    value.IsMapping := by
  obtain ⟨entries, rfl⟩ := isRecord
  exact ⟨_, rfl⟩

/-- The value submitted under a textual key, null if there is none. -/
def submitted
    (data : Value)
    (input : String) : Value :=
  match data.get (.text input) with
  | .ok value => value
  | .error _ => .null

/-- A mapping always tells what was submitted. -/
theorem get_text
    {data : Value}
    (mapping : data.IsMapping)
    (input : String) :
    data.get (.text input) = .ok (data.submitted input) := by
  obtain ⟨entries, rfl⟩ := mapping
  rfl

end Value

namespace Event

@[simp] theorem entry?_recorded
    (entry : Entry) :
    Event.entry? (recorded entry) = some entry :=
  rfl

@[simp] theorem entry?_logged
    (record : Log.Record) :
    Event.entry? (logged record) = none :=
  rfl

@[simp] theorem entry?_called
    (method : String)
    (arguments : List Value) :
    Event.entry? (called method arguments) = none :=
  rfl

@[simp] theorem call?_recorded
    (entry : Entry) :
    (recorded entry).call? = none :=
  rfl

@[simp] theorem call?_logged
    (record : Log.Record) :
    (logged record).call? = none :=
  rfl

@[simp] theorem call?_called
    (method : String)
    (arguments : List Value) :
    (called method arguments).call? = some (method, arguments) :=
  rfl

/-- Recording entries is recording just these. -/
@[simp] theorem entries_recorded
    (entries : List Entry) :
    (entries.map recorded).filterMap entry? = entries := by
  rw [List.filterMap_map]
  exact List.filterMap_some

/-- Recording entries calls nothing. -/
@[simp] theorem calls_recorded
    (entries : List Entry) :
    (entries.map recorded).filterMap call? = [] := by
  rw [List.filterMap_map, List.filterMap_eq_nil_iff]
  intro entry member
  rfl

/-- Logging records nothing. -/
@[simp] theorem entries_logged
    (records : List Log.Record) :
    (records.map logged).filterMap entry? = [] := by
  rw [List.filterMap_map, List.filterMap_eq_nil_iff]
  intro record member
  rfl

end Event

namespace Result

/-- Events that record nothing leave a result as it is. -/
theorem follow_of_silent
    (result : Result)
    {events : List Event}
    (silent : events.filterMap Event.entry? = []) :
    result.follow events = result := by
  simp [follow, silent]

end Result

namespace Run

/-- A run in two parts, once its first part is known to answer. -/
theorem bind_of_ok
    {leading : Run middle}
    {result : Result}
    {written : List Event}
    {value : middle}
    (answered : leading result = ⟨written, .ok value⟩)
    (continuation : middle → Run answer) :
    (leading >>= continuation) result =
      ⟨written ++ (continuation value (result.follow written)).written,
        (continuation value (result.follow written)).ended⟩ := by
  change
    (leading result >>= fun value =>
      continuation value (result.follow (leading result).written)) = _
  rw [answered]
  exact Journal.bind_of_ok rfl _

/-- A run in two parts, once its first part is known to stop. -/
theorem bind_of_error
    {leading : Run middle}
    {result : Result}
    {written : List Event}
    {fault : Fault}
    (stopped : leading result = ⟨written, .error fault⟩)
    (continuation : middle → Run answer) :
    (leading >>= continuation) result = ⟨written, .error fault⟩ := by
  change
    (leading result >>= fun value =>
      continuation value (result.follow (leading result).written)) = _
  rw [stopped]
  exact Journal.bind_of_error rfl _

/-- Continuing with a known answer is continuing at once. -/
theorem lift_ok_bind
    (value : middle)
    (continuation : middle → Run answer) :
    ((liftM (Except.ok value : Except Fault middle) : Run middle) >>=
        continuation) =
      continuation value := by
  funext result
  have lifted :
      (liftM (Except.ok value : Except Fault middle) : Run middle) result =
        ⟨[], .ok value⟩ :=
    rfl
  rw [bind_of_ok lifted, result.follow_of_silent rfl]
  rfl

/-- A check inside a run records what it records by itself. -/
theorem check_apply
    {check : Check answer}
    {result : Result}
    {entries : List Entry}
    {ended : Except Fault answer}
    (checked : check result = ⟨entries, ended⟩) :
    (liftM check : Run answer) result =
      ⟨entries.map Event.recorded, ended⟩ := by
  change (check result).mapEntries Event.recorded = _
  rw [checked]
  rfl

/-- What a run in two parts writes begins with what its first part does. -/
theorem written_bind
    (leading : Run middle)
    (continuation : middle → Run answer)
    (result : Result) :
    ((leading >>= continuation) result).written =
      (leading result).written ++
        match (leading result).ended with
        | .ok value =>
            (continuation value
              (result.follow (leading result).written)).written
        | .error _ => [] :=
  Journal.written_bind ..

/-- Whether all that a run does is logging. -/
def OnlyLogs
    (run : Run answer) : Prop :=
  ∀ result, ∀ event ∈ (run result).written, ∃ record, event = .logged record

namespace OnlyLogs

/-- A computation without events only logs. -/
theorem lift
    (computation : Except Fault answer) :
    OnlyLogs (liftM computation : Run answer) :=
  fun _ _ member => nomatch member

/-- Logging a message only logs. -/
theorem log
    (level : Log.Level)
    (source message : String) :
    OnlyLogs (Run.log level source message) := by
  intro result event member
  exact ⟨_, List.mem_singleton.mp member⟩

/-- A run in two parts that only log only logs. -/
theorem bind
    {leading : Run middle}
    {continuation : middle → Run answer}
    (leadingLogs : OnlyLogs leading)
    (continuationLogs : ∀ value, OnlyLogs (continuation value)) :
    OnlyLogs (leading >>= continuation) := by
  intro result event member
  rw [written_bind, List.mem_append] at member
  rcases member with early | late
  · exact leadingLogs result event early
  · cases ended : (leading result).ended with
    | error fault =>
        simp [ended] at late
    | ok value =>
        simp only [ended] at late
        exact continuationLogs value _ event late

end OnlyLogs

end Run

namespace Step

/-- Whether an input of a step is required but was not filled in. -/
def isLacking
    (step : Step)
    (data : Value)
    (input : String) : Bool :=
  step.isRequired && (data.submitted input).isEmpty

/-- What the gate of a step records for one input. -/
def gateEntry
    (step : Step)
    (data : Value)
    (input : String) : Entry :=
  if step.isLacking data input then
    .error (.text input) (.text step.message)
  else
    .value (.text input) (data.submitted input)

/-- What the gate of a step records. -/
def gateEntries
    (step : Step)
    (data : Value) : List Entry :=
  step.inputs.map (step.gateEntry data)

/--
Whether the gate of a step holds it back: an input is lacking, and nothing that
was recorded earlier stands in for it.
-/
def isHeldBack
    (step : Step)
    (data : Value)
    (result : Result) : Bool :=
  step.inputs.any fun input =>
    step.isLacking data input && !result.hasValue (.text input)

/-- The arguments that the capability of a step is called with. -/
def callValues
    (step : Step)
    (data : Value) : List Value :=
  step.inputs.map data.submitted ++ step.key :: step.arguments

/-- What the gate records for an input has the input as its key. -/
@[simp] theorem key_gateEntry
    (step : Step)
    (data : Value)
    (input : String) :
    (step.gateEntry data input).key = .text input := by
  unfold gateEntry
  split <;> rfl

/-- What the gate records for an input never fills in one that is lacking. -/
theorem hasValue_of_isLacking
    {step : Step}
    {data : Value}
    {wanted : String}
    (lacking : step.isLacking data wanted = true)
    (input : String)
    (result : Result) :
    (result.extend [step.gateEntry data input]).hasValue (.text wanted) =
      result.hasValue (.text wanted) := by
  rw [Bool.eq_iff_iff, Result.hasValue_text_iff, Result.hasValue_text_iff]
  have isOther :
      ∀ stored,
        Entry.value (.text wanted) stored ≠ step.gateEntry data input := by
    intro stored same
    have sameKey := congrArg Entry.key same
    rw [key_gateEntry] at sameKey
    cases sameKey
    simp [gateEntry, lacking] at same
  simp [isOther]

/--
Once the gate has recorded its entry for an input, the input of a required step
has no value exactly if it is lacking and had no value before.
-/
theorem isRequired_and_absent
    (step : Step)
    (data : Value)
    (input : String)
    (result : Result) :
    (step.isRequired &&
        !(result.extend [step.gateEntry data input]).hasValue
          (.text input)) =
      (step.isLacking data input && !result.hasValue (.text input)) := by
  cases lacking : step.isLacking data input with
  | true =>
      rw [hasValue_of_isLacking lacking]
      unfold isLacking at lacking
      simp only [Bool.and_eq_true] at lacking
      simp [lacking.1]
  | false =>
      have present :
          (result.extend [step.gateEntry data input]).hasValue
              (.text input) =
            true := by
        rw [Result.hasValue_text_iff]
        exact ⟨data.submitted input, by simp [gateEntry, lacking]⟩
      simp [present]

/-- The gate's check of one input records its entry. -/
theorem requiredField_call
    (environment : Environment)
    (step : Step)
    (data : Value)
    (input : String)
    (result : Result) :
    Capability.requiredField.call environment
        [data.submitted input, .bool step.isRequired, .text input,
          .text step.message]
        result =
      ⟨[step.gateEntry data input], .ok ()⟩ := by
  change
    Check.required (data.submitted input) (.bool step.isRequired)
        (.text input) (.text step.message) result = _
  unfold Check.required gateEntry isLacking
  by_cases lacking :
      (step.isRequired && (data.submitted input).isEmpty) = true
  · simp only [Value.isTruthy, lacking, ↓reduceIte]
    rfl
  · simp only [Value.isTruthy, lacking]
    rfl

/-- The entry for one input does not change whether others hold a step back. -/
theorem any_isLacking_extend
    (step : Step)
    (data : Value)
    (input : String)
    (others : List String)
    (result : Result) :
    (others.any fun other =>
        step.isLacking data other &&
          !(result.extend [step.gateEntry data input]).hasValue
            (.text other)) =
      others.any fun other =>
        step.isLacking data other && !result.hasValue (.text other) := by
  congr 1
  funext other
  cases lacking : step.isLacking data other with
  | false =>
      rfl
  | true =>
      rw [hasValue_of_isLacking lacking]

/--
The gate records one entry for each input that it inspects, calls nothing, and
tells whether an input was lacking without a value from before.
-/
theorem inspect_eq
    {data : Value}
    (mapping : data.IsMapping)
    (environment : Environment)
    (step : Step)
    (inputs : List String)
    (result : Result) :
    ∃ written,
      step.inspect environment .requiredField data inputs result =
          ⟨written,
            .ok (inputs.any fun input =>
              step.isLacking data input &&
                !result.hasValue (.text input))⟩ ∧
        written.filterMap Event.entry? =
          inputs.map (step.gateEntry data) ∧
        written.filterMap Event.call? = [] := by
  induction inputs generalizing result with
  | nil =>
      exact ⟨[], rfl, rfl, rfl⟩
  | cons input rest inductionHypothesis =>
      let after := result.extend [step.gateEntry data input]
      obtain ⟨written, inspected, entries, calls⟩ :=
        inductionHypothesis after
      rw [any_isLacking_extend] at inspected
      have gated :
          (liftM
              (Capability.requiredField.call environment
                [data.submitted input, .bool step.isRequired, .text input,
                  .text step.message]) :
            Run Unit) result =
            ⟨[.recorded (step.gateEntry data input)], .ok ()⟩ :=
        Run.check_apply (requiredField_call ..)
      have looked :
          (liftM (Check.hasValue (.text input)) : Run Bool) after =
            ⟨[], .ok (after.hasValue (.text input))⟩ :=
        rfl
      have reached :
          result.follow [.recorded (step.gateEntry data input)] = after :=
        rfl
      have finished
          (isMissing : Bool) :
          (do
              let othersMissing ←
                step.inspect environment .requiredField data rest
              return isMissing || othersMissing : Run Bool) after =
            ⟨written ++ [],
              .ok (isMissing ||
                rest.any fun other =>
                  step.isLacking data other &&
                    !result.hasValue (.text other))⟩ :=
        Run.bind_of_ok inspected _
      unfold inspect
      dsimp only
      rw [Value.get_text mapping, Run.lift_ok_bind, Run.bind_of_ok gated,
        reached, Run.bind_of_ok looked, isRequired_and_absent,
        after.follow_of_silent rfl, List.any_cons]
      split
      · have skipped
            (message : String) :
            Run.log .debug Log.planning message after =
              ⟨[.logged ⟨.debug, Log.planning, message⟩], .ok ()⟩ :=
          rfl
        rw [Run.bind_of_ok (skipped _), after.follow_of_silent rfl,
          finished]
        refine ⟨_, rfl, ?_, ?_⟩
        · simpa [List.filterMap_cons] using entries
        · simpa using calls
      · rw [finished]
        refine ⟨_, rfl, ?_, ?_⟩
        · simpa [List.filterMap_cons] using entries
        · simpa using calls

end Step

end FormCheck
