import Mathlib.Data.List.TakeWhile
import FormCheck.Proofs.Gate

namespace FormCheck

/-!
# The visit of a step

A visit of a step that the gate holds back ends with the gate. In any other
visit the capability is called, once, on the result that the gate left.
-/

/-- The visit of a step: the result that it found, and what happened in it. -/
structure Visit where
  step : Step
  found : Result
  history : Journal Event Unit

namespace Visit

/-- The capabilities called in a visit, with their arguments. -/
def calls
    (visit : Visit) : List (String × List Value) :=
  visit.history.written.filterMap Event.call?

/-- What was recorded in a visit. -/
def entries
    (visit : Visit) : List Entry :=
  visit.history.written.filterMap Event.entry?

/-- What was recorded in a visit since a capability was called. -/
def entriesOfCall
    (visit : Visit) : List Entry :=
  (visit.history.written.dropWhile (·.call?.isNone)).filterMap
    Event.entry?

/-- The value that the capability called in a visit left under a key. -/
def stored?
    (visit : Visit)
    (key : Value) : Option Value :=
  (visit.entriesOfCall.filterMap (Entry.valueAt? key)).getLast?

/-- Whether a visit found its step to be held back. -/
def isHeldBack
    (visit : Visit)
    (data : Value) : Bool :=
  visit.step.isHeldBack data visit.found

end Visit

namespace Step

/-- What the capability of a step does on the result that the gate leaves. -/
def call
    (environment : Environment)
    (data : Value)
    (step : Step)
    (result : Result) : Journal Entry Unit :=
  step.capability.call environment (step.callValues data)
    (result.extend (step.gateEntries data))

/-- What a step does to a result: its gate and, behind it, its capability. -/
def act
    (environment : Environment)
    (data : Value)
    (step : Step) : Check Unit :=
  fun result =>
    if step.isHeldBack data result then
      ⟨step.gateEntries data, .ok ()⟩
    else
      ⟨step.gateEntries data ++ (step.call environment data result).written,
        (step.call environment data result).ended⟩

/-- The arguments of a call are those that the step and the data give. -/
theorem callArguments_eq
    {data : Value}
    (mapping : data.IsMapping)
    (step : Step) :
    step.callArguments data = .ok (step.callValues data) := by
  have submitted
      (inputs : List String) :
      (inputs.mapM fun input => data.get (.text input)) =
        .ok (inputs.map data.submitted) := by
    induction inputs with
    | nil =>
        rfl
    | cons input rest inductionHypothesis =>
        rw [List.mapM_cons, Value.get_text mapping, inductionHypothesis]
        rfl
  unfold callArguments
  rw [submitted]
  rfl

/-- What the gate of a step records is recorded, held back or not. -/
theorem mem_act_of_mem_gateEntries
    {environment : Environment}
    {data : Value}
    {step : Step}
    {found : Result}
    {entry : Entry}
    (member : entry ∈ step.gateEntries data) :
    entry ∈ (step.act environment data found).written := by
  unfold act
  split
  · exact member
  · exact List.mem_append_left _ member

/-- For an input that is lacking, a step records its message. -/
theorem mem_act_of_isLacking
    {environment : Environment}
    {data : Value}
    {step : Step}
    {found : Result}
    {input : String}
    (member : input ∈ step.inputs)
    (lacking : step.isLacking data input = true) :
    Entry.error (.text input) (.text step.message) ∈
      (step.act environment data found).written := by
  refine mem_act_of_mem_gateEntries (List.mem_map.mpr ⟨input, member, ?_⟩)
  unfold gateEntry
  rw [if_pos lacking]

/-- A step that records no message lacks none of its inputs. -/
theorem isLacking_eq_false
    {environment : Environment}
    {data : Value}
    {step : Step}
    {found : Result}
    (clean :
      ∀ key message,
        Entry.error key message ∉
          (step.act environment data found).written)
    {input : String}
    (member : input ∈ step.inputs) :
    step.isLacking data input = false := by
  cases lacking : step.isLacking data input with
  | false =>
      rfl
  | true =>
      exact (clean _ _ (mem_act_of_isLacking member lacking)).elim

/-- A step that lacks none of its inputs is not held back. -/
theorem isHeldBack_eq_false
    {data : Value}
    {step : Step}
    (complete :
      ∀ input ∈ step.inputs, step.isLacking data input = false)
    (found : Result) :
    step.isHeldBack data found = false := by
  unfold isHeldBack
  rw [List.any_eq_false]
  intro input member
  simp [complete input member]

end Step

namespace Validator

variable
  {validator : Validator}
  {data : Value}

/-- Logging of the engine leaves one record behind. -/
theorem log_eq
    (message : String)
    (result : Result) :
    Run.log .debug Log.engine message result =
      ⟨[.logged ⟨.debug, Log.engine, message⟩], .ok ()⟩ :=
  rfl

/-- The events that tell how a call ended: none, or one that names its fault. -/
def faultEvents
    (validator : Validator)
    (step : Step) : Except Fault Unit → List Event
  | .ok () => []
  | .error fault => [validator.faultEvent step fault]

/--
A dispatch calls the capability, records what the capability records, notes a
fault of it and ends as it does.
-/
theorem dispatch_apply
    (validator : Validator)
    (environment : Environment)
    (mapping : data.IsMapping)
    (step : Step)
    (result : Result) :
    validator.dispatch environment data step result =
      let called :=
        step.capability.call environment (step.callValues data) result
      ⟨.called step.method (step.callValues data) ::
          (called.written.map Event.recorded ++
            validator.faultEvents step called.ended),
        called.ended⟩ := by
  have emitted :
      Run.emit (.called step.method (step.callValues data)) result =
        ⟨[.called step.method (step.callValues data)], .ok ()⟩ :=
    rfl
  unfold dispatch
  rw [Step.callArguments_eq mapping, Run.lift_ok_bind,
    Run.bind_of_ok emitted, result.follow_of_silent rfl]
  cases called :
      step.capability.call environment (step.callValues data) result with
  | mk written ended =>
      unfold Run.notingFault
      rw [Run.check_apply called]
      cases ended with
      | ok answer =>
          simp [faultEvents]
      | error fault =>
          simp [faultEvents]

/--
A dispatch calls the capability once, records what the capability records and
ends as it does.
-/
theorem dispatch_eq
    (validator : Validator)
    (environment : Environment)
    (mapping : data.IsMapping)
    (step : Step)
    (result : Result) :
    ∃ late,
      validator.dispatch environment data step result =
          ⟨.called step.method (step.callValues data) :: late,
            (step.capability.call environment (step.callValues data)
              result).ended⟩ ∧
        late.filterMap Event.entry? =
          (step.capability.call environment (step.callValues data)
            result).written ∧
        late.filterMap Event.call? = [] := by
  have unseen
      {shown : Type}
      {view : Event → Option shown}
      (hidden : ∀ record, view (.logged record) = none)
      (ended : Except Fault Unit) :
      (validator.faultEvents step ended).filterMap view = [] := by
    cases ended with
    | ok answer =>
        rfl
    | error fault =>
        exact List.filterMap_cons_none (hidden _)
  refine ⟨_, validator.dispatch_apply environment mapping step result,
    ?_, ?_⟩
  · rw [List.filterMap_append, Event.entries_recorded,
      unseen fun _ => rfl, List.append_nil]
  · rw [List.filterMap_append, Event.calls_recorded,
      unseen fun _ => rfl, List.append_nil]

/-- The gate tells whether it holds a step back, and records its entries. -/
theorem isSkipped_apply
    (gate :
      validator.registry.find? Registry.requiredName =
        some .requiredField)
    (mapping : data.IsMapping)
    (environment : Environment)
    (step : Step)
    (found : Result) :
    ∃ inspected,
      step.isSkipped environment validator.registry data found =
          ⟨inspected, .ok (step.isHeldBack data found)⟩ ∧
        inspected.filterMap Event.entry? = step.gateEntries data ∧
        inspected.filterMap Event.call? = [] := by
  unfold Step.isSkipped
  rw [gate]
  exact Step.inspect_eq mapping environment step step.inputs found

/-- A step that the gate holds back records what the gate does, and no call. -/
theorem runStep_of_isHeldBack
    (gate :
      validator.registry.find? Registry.requiredName =
        some .requiredField)
    (mapping : data.IsMapping)
    (environment : Environment)
    {step : Step}
    {found : Result}
    (held : step.isHeldBack data found = true)
    (index : Nat) :
    ∃ written,
      validator.runStep environment data index step found =
          ⟨written, .ok ()⟩ ∧
        written.filterMap Event.entry? = step.gateEntries data ∧
        written.filterMap Event.call? = [] := by
  obtain ⟨inspected, skipped, entries, calls⟩ :=
    isSkipped_apply gate mapping environment step found
  rw [held] at skipped
  unfold runStep
  rw [Run.bind_of_ok (log_eq _ found), found.follow_of_silent rfl,
    Run.bind_of_ok skipped]
  simp only [↓reduceIte]
  rw [log_eq]
  refine ⟨_, rfl, ?_, ?_⟩
  · simpa [List.filterMap_cons, List.filterMap_append, Step.gateEntries]
      using entries
  · simpa [List.filterMap_cons, List.filterMap_append] using calls

/--
A step that the gate does not hold back has its capability called once, behind
the gate. The step records what the gate and the capability record, and ends as
the capability does.
-/
theorem runStep_of_not_isHeldBack
    (gate :
      validator.registry.find? Registry.requiredName =
        some .requiredField)
    (mapping : data.IsMapping)
    (environment : Environment)
    {step : Step}
    {found : Result}
    (passed : step.isHeldBack data found = false)
    (index : Nat) :
    ∃ early late,
      validator.runStep environment data index step found =
          ⟨early ++ .called step.method (step.callValues data) :: late,
            (step.call environment data found).ended⟩ ∧
        early.filterMap Event.entry? = step.gateEntries data ∧
        early.filterMap Event.call? = [] ∧
        late.filterMap Event.entry? =
          (step.call environment data found).written ∧
        late.filterMap Event.call? = [] := by
  obtain ⟨inspected, notSkipped, entries, calls⟩ :=
    isSkipped_apply gate mapping environment step found
  rw [passed] at notSkipped
  have reached :
      found.follow inspected = found.extend (step.gateEntries data) := by
    rw [Result.follow, entries]
  unfold runStep
  rw [Run.bind_of_ok (log_eq _ found), found.follow_of_silent rfl,
    Run.bind_of_ok notSkipped, reached]
  simp only [Bool.false_eq_true, ↓reduceIte]
  obtain ⟨late, dispatched, lateEntries, lateCalls⟩ :=
    dispatch_eq validator environment mapping step
      (found.extend (step.gateEntries data))
  have earlyEntries :
      (.logged ⟨.debug, Log.engine,
          validator.stepLabel index step ++ " [START]"⟩ ::
        inspected).filterMap Event.entry? = step.gateEntries data := by
    simpa [List.filterMap_cons, Step.gateEntries] using entries
  have earlyCalls :
      (.logged ⟨.debug, Log.engine,
          validator.stepLabel index step ++ " [START]"⟩ ::
        inspected).filterMap Event.call? = [] := by
    simpa [List.filterMap_cons] using calls
  unfold Step.call
  cases ended :
      (step.capability.call environment (step.callValues data)
        (found.extend (step.gateEntries data))).ended with
  | ok answer =>
      rw [ended] at dispatched
      rw [Run.bind_of_ok dispatched, log_eq]
      let completed : Event :=
        .logged
          ⟨.debug, Log.engine,
            validator.stepLabel index step ++ " [COMPLETE]"⟩
      refine ⟨_, late ++ [completed], by simp [completed], earlyEntries,
        earlyCalls, ?_, ?_⟩
      · simpa [List.filterMap_append, List.filterMap_cons, completed]
          using lateEntries
      · simpa [List.filterMap_append, completed] using lateCalls
  | error fault =>
      rw [ended] at dispatched
      rw [Run.bind_of_error dispatched]
      exact ⟨_, late, by simp, earlyEntries, earlyCalls, lateEntries,
        lateCalls⟩

end Validator

/-! ## Regular visits -/

/--
A visit is regular if it records what the gate and the capability of its step
record, calls the capability unless the gate holds the step back, and ends as
the capability does.
-/
structure Visit.Regular
    (environment : Environment)
    (data : Value)
    (visit : Visit) : Prop where
  entries_eq :
    visit.entries = (visit.step.act environment data visit.found).written
  ended_eq :
    visit.history.ended =
      (visit.step.act environment data visit.found).ended
  calls_eq :
    visit.calls =
      if visit.isHeldBack data then
        []
      else
        [(visit.step.method, visit.step.callValues data)]
  entriesOfCall_eq :
    visit.entriesOfCall =
      if visit.isHeldBack data then
        []
      else
        (visit.step.call environment data visit.found).written

/-- Events without a call are all dropped in search of one. -/
theorem Event.dropWhile_of_calls_eq_nil
    {events : List Event}
    (none : events.filterMap Event.call? = []) :
    events.dropWhile (·.call?.isNone) = [] := by
  rw [List.dropWhile_eq_nil_iff]
  intro event member
  rw [List.filterMap_eq_nil_iff.mp none event member]
  rfl

/-- Whatever a step finds, its visit is regular. -/
theorem Validator.regular_runStep
    {validator : Validator}
    {data : Value}
    (gate :
      validator.registry.find? Registry.requiredName =
        some .requiredField)
    (mapping : data.IsMapping)
    (environment : Environment)
    (step : Step)
    (found : Result)
    (index : Nat) :
    Visit.Regular environment data
      ⟨step, found,
        validator.runStep environment data index step found⟩ := by
  cases held : step.isHeldBack data found with
  | true =>
      obtain ⟨written, ran, entries, calls⟩ :=
        Validator.runStep_of_isHeldBack
          gate mapping environment held index
      constructor
      · simp [Visit.entries, Step.act, ran, entries, held]
      · simp [Step.act, ran, held]
      · simp [Visit.calls, Visit.isHeldBack, ran, calls, held]
      · simp [Visit.entriesOfCall, Visit.isHeldBack, ran, held,
          Event.dropWhile_of_calls_eq_nil calls]
  | false =>
      obtain ⟨early, late, ran, earlyEntries, earlyCalls, lateEntries,
        lateCalls⟩ :=
        Validator.runStep_of_not_isHeldBack
          gate mapping environment held index
      constructor
      · simp [Visit.entries, Step.act, ran, earlyEntries, lateEntries, held,
          List.filterMap_cons]
      · simp [Step.act, ran, held]
      · simp [Visit.calls, Visit.isHeldBack, ran, earlyCalls, lateCalls,
          held]
      · have dropped :
            (early ++ .called step.method (step.callValues data) ::
                late).dropWhile (·.call?.isNone) =
              .called step.method (step.callValues data) :: late := by
          rw [List.dropWhile_append,
            Event.dropWhile_of_calls_eq_nil earlyCalls]
          rfl
        simp [Visit.entriesOfCall, Visit.isHeldBack, ran, dropped,
          lateEntries, held, List.filterMap_cons]

end FormCheck
