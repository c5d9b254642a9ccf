import Mathlib.Data.List.Basic
import FormCheck.Proofs.Check.Scope
import FormCheck.Proofs.Ending

namespace FormCheck

/-!
# The trace of the steps

A visit of a step logs that the step is started and, at its end, that it was
skipped or is complete. If a fault stops the capability there is no such end, but
an error that names the fault, and the visit is the last one. What the gate logs
in between is about planning.
-/

namespace Event

@[simp] theorem record?_recorded
    (entry : Entry) :
    (recorded entry).record? = none :=
  rfl

@[simp] theorem record?_logged
    (record : Log.Record) :
    (logged record).record? = some record :=
  rfl

@[simp] theorem record?_called
    (method : String)
    (arguments : List Value) :
    (called method arguments).record? = none :=
  rfl

/-- Recording entries logs nothing. -/
theorem records_recorded
    (entries : List Entry) :
    (entries.map recorded).filterMap record? = [] := by
  rw [List.filterMap_map, List.filterMap_eq_nil_iff]
  intro entry member
  rfl

/-- Logging records is logging just these. -/
theorem records_logged
    (records : List Log.Record) :
    (records.map logged).filterMap record? = records := by
  rw [List.filterMap_map]
  exact List.filterMap_some

end Event

namespace Log

/-- The records of a severity. -/
def ofLevel
    (level : Level)
    (records : List Record) : List Record :=
  records.filter (·.level = level)

/-- Whether a record of a validator is about a step being started or left. -/
def Record.isOfStep
    (name : String)
    (record : Record) : Bool :=
  record.level = .debug && record.source = engine &&
    Report.startsWith record.message (name ++ " step[")

/-- Only records for debugging are about a step being started or left. -/
theorem Record.level_of_isOfStep
    {name : String}
    {record : Record}
    (isOfStep : record.isOfStep name = true) :
    record.level = .debug := by
  unfold Record.isOfStep at isOfStep
  rw [Bool.and_eq_true, Bool.and_eq_true] at isOfStep
  exact of_decide_eq_true isOfStep.1.1

/-- Records of another severity are not about a step being started or left. -/
theorem Record.not_isOfStep_of_level
    {record : Record}
    (other : record.level ≠ .debug)
    (name : String) :
    record.isOfStep name = false := by
  rw [← Bool.not_eq_true]
  exact fun isOfStep => other (level_of_isOfStep isOfStep)

/-- Whether a record is a note about planning. -/
structure Record.IsPlanningNote
    (record : Record) : Prop where
  level : record.level = .debug
  source : record.source = planning

/-- Notes about planning are not about a step being started or left. -/
theorem Record.IsPlanningNote.not_isOfStep
    {record : Record}
    (isNote : record.IsPlanningNote)
    (name : String) :
    record.isOfStep name = false := by
  have otherSource : planning ≠ engine := by
    decide
  unfold isOfStep
  simp [isNote.source, otherSource]

end Log

namespace Run

/-- Whether all records of a run have a property. -/
def LogsWhere
    (property : Log.Record → Prop)
    (run : Run answer) : Prop :=
  ∀ result,
    ∀ record ∈ (run result).written.filterMap Event.record?,
      property record

namespace LogsWhere

variable {property : Log.Record → Prop}

/-- A computation without events logs nothing. -/
theorem lift
    (computation : Except Fault answer) :
    LogsWhere property (liftM computation : Run answer) :=
  fun _ _ member => nomatch member

/-- A check logs nothing. -/
theorem check
    (check : Check answer) :
    LogsWhere property (liftM check : Run answer) := by
  intro result record member
  change record ∈ ((check result).written.map Event.recorded).filterMap _
    at member
  rw [Event.records_recorded] at member
  cases member

/-- Logging a message logs just that. -/
theorem log
    {level : Log.Level}
    {source message : String}
    (has : property ⟨level, source, message⟩) :
    LogsWhere property (Run.log level source message) := by
  intro result record member
  change record ∈ [_] at member
  rwa [List.mem_singleton.mp member]

/-- What a run in two parts logs is what its parts do. -/
theorem bind
    {leading : Run middle}
    {continuation : middle → Run answer}
    (leads : LogsWhere property leading)
    (continues : ∀ value, LogsWhere property (continuation value)) :
    LogsWhere property (leading >>= continuation) := by
  intro result record member
  rw [written_bind, List.filterMap_append, List.mem_append] at member
  rcases member with early | late
  · exact leads result record early
  · cases ended : (leading result).ended with
    | error fault =>
        simp [ended] at late
    | ok value =>
        simp only [ended] at late
        exact continues value _ record late

end LogsWhere

end Run

/-! ## One visit -/

namespace Step

/-- Inspecting inputs logs nothing but notes about planning. -/
theorem inspect_logsWhere
    (environment : Environment)
    (gate : Capability)
    (step : Step)
    (data : Value)
    (inputs : List String) :
    (step.inspect environment gate data inputs).LogsWhere
      Log.Record.IsPlanningNote := by
  induction inputs with
  | nil =>
      exact .lift (.ok false)
  | cons input rest inductionHypothesis =>
      have continued
          (isMissing : Bool) :
          Run.LogsWhere Log.Record.IsPlanningNote (do
            let othersMissing ← step.inspect environment gate data rest
            return isMissing || othersMissing) :=
        .bind inductionHypothesis fun _ => .lift (.ok _)
      unfold inspect
      refine .bind (.lift _) fun value => ?_
      refine .bind (.check _) fun _ => ?_
      refine .bind (.check _) fun present => ?_
      dsimp only
      split
      · exact .bind (.log ⟨rfl, rfl⟩) fun _ => continued _
      · exact continued _

/-- A gate logs nothing but notes about planning. -/
theorem isSkipped_logsWhere
    (environment : Environment)
    (registry : Registry)
    (step : Step)
    (data : Value) :
    (step.isSkipped environment registry data).LogsWhere
      Log.Record.IsPlanningNote := by
  unfold isSkipped
  split
  · exact .lift (.error _)
  · exact step.inspect_logsWhere environment _ data step.inputs

/-- How the visit of a step ends. -/
inductive Exit where
  | skipped
  | complete
  | raised (fault : Fault)

/-- The fault that stopped the capability of a step, if any. -/
def Exit.fault? : Exit → Option Fault
  | .raised fault => some fault
  | .skipped | .complete => none

/-- How the visit of a step on a result ends. -/
def exit
    (environment : Environment)
    (data : Value)
    (step : Step)
    (found : Result) : Exit :=
  if step.isHeldBack data found then
    .skipped
  else
    match (step.call environment data found).ended with
    | .ok () => .complete
    | .error fault => .raised fault

end Step

namespace Visit

/-- How a visit ends. -/
def exit
    (environment : Environment)
    (data : Value)
    (visit : Visit) : Step.Exit :=
  visit.step.exit environment data visit.found

/-- The fault that stopped the capability called in a visit, if any. -/
def fault?
    (environment : Environment)
    (data : Value)
    (visit : Visit) : Option Fault :=
  (visit.exit environment data).fault?

/-- What was logged in a visit. -/
def records
    (visit : Visit) : List Log.Record :=
  visit.history.written.filterMap Event.record?

end Visit

namespace Validator

variable
  {validator : Validator}
  {environment : Environment}
  {data context : Value}

/-- The record that a step is started or left. -/
def stepRecord
    (validator : Validator)
    (index : Nat)
    (step : Step)
    (mark : String) : Log.Record :=
  ⟨.debug, Log.engine, validator.stepLabel index step ++ mark⟩

/-- The record that a fault stopped the capability of a step. -/
def faultRecord
    (validator : Validator)
    (step : Step)
    (fault : Fault) : Log.Record :=
  ⟨.error, Log.engine,
    Log.errorMessage
      (validator.name ++ " capability '" ++ step.method ++
        "' failed for field '" ++ step.field ++ "'")
      fault.label fault.message⟩

/-- What is noted about a capability that a fault stopped is a record. -/
theorem faultEvent_eq
    (validator : Validator)
    (step : Step)
    (fault : Fault) :
    validator.faultEvent step fault =
      .logged (validator.faultRecord step fault) :=
  rfl

/-- The record that a step is left, unless a fault stopped its capability. -/
def exitRecord?
    (validator : Validator)
    (index : Nat)
    (step : Step) : Step.Exit → Option Log.Record
  | .skipped => some (validator.stepRecord index step " [SKIPPED]")
  | .complete => some (validator.stepRecord index step " [COMPLETE]")
  | .raised _ => none

/-- The trace of a visit. -/
def visitTrace
    (validator : Validator)
    (environment : Environment)
    (data : Value)
    (index : Nat)
    (visit : Visit) : List Log.Record :=
  validator.stepRecord index visit.step " [START]" ::
    (validator.exitRecord? index visit.step
      (visit.exit environment data)).toList

/-- The trace of some visits, in order. -/
def trace
    (validator : Validator)
    (environment : Environment)
    (data : Value)
    (visits : List Visit) : List Log.Record :=
  visits.zipIdx.flatMap fun (visit, index) =>
    validator.visitTrace environment data index visit

/-- The record of a fault in a visit, if there is one. -/
def complaint?
    (validator : Validator)
    (environment : Environment)
    (data : Value)
    (visit : Visit) : Option Log.Record :=
  (visit.fault? environment data).map (validator.faultRecord visit.step)

/--
A visit of a step logs its start, notes about planning, and its end or else a
complaint about its capability.
-/
theorem records_runStep
    (gate :
      validator.registry.find? Registry.requiredName =
        some .requiredField)
    (mapping : data.IsMapping)
    (environment : Environment)
    (step : Step)
    (found : Result)
    (index : Nat) :
    ∃ notes,
      (validator.runStep environment data index step
            found).written.filterMap Event.record? =
          validator.stepRecord index step " [START]" ::
            (notes ++
              ((validator.exitRecord? index step
                  (step.exit environment data found)).toList ++
                ((step.exit environment data found).fault?.map
                  (validator.faultRecord step)).toList)) ∧
        ∀ note ∈ notes, note.IsPlanningNote := by
  obtain ⟨inspected, gated, entries, _⟩ :=
    isSkipped_apply gate mapping environment step found
  have areNotes :
      ∀ note ∈ inspected.filterMap Event.record?, note.IsPlanningNote := by
    have logs :=
      step.isSkipped_logsWhere environment validator.registry data found
    rwa [gated] at logs
  have reached :
      found.follow inspected = found.extend (step.gateEntries data) := by
    rw [Result.follow, entries]
  refine ⟨inspected.filterMap Event.record?, ?_, areNotes⟩
  unfold runStep
  rw [Run.bind_of_ok (log_eq _ found), found.follow_of_silent rfl,
    Run.bind_of_ok gated, reached]
  unfold Step.exit
  split
  case isTrue =>
    rw [log_eq]
    simp [exitRecord?, stepRecord, Step.Exit.fault?]
  case isFalse =>
    have dispatched :=
      dispatch_apply validator environment mapping step
        (found.extend (step.gateEntries data))
    unfold Step.call
    cases called :
        step.capability.call environment (step.callValues data)
          (found.extend (step.gateEntries data)) with
    | mk written ended =>
        rw [called] at dispatched
        cases ended with
        | ok answer =>
            rw [Run.bind_of_ok dispatched, log_eq]
            simp [exitRecord?, stepRecord, Step.Exit.fault?, faultEvents,
              List.filterMap_cons]
        | error fault =>
            rw [Run.bind_of_error dispatched]
            simp [exitRecord?, stepRecord, Step.Exit.fault?, faultEvents,
              faultEvent_eq, List.filterMap_cons]

/-- The records that a step is started or left are about just that. -/
theorem isOfStep_stepRecord
    (validator : Validator)
    (index : Nat)
    (step : Step)
    (mark : String) :
    (validator.stepRecord index step mark).isOfStep validator.name =
      true := by
  have leads :
      Report.startsWith (validator.stepLabel index step ++ mark)
          (validator.name ++ " step[") =
        true := by
    rw [Report.startsWith_iff, stepLabel]
    simp only [String.toList_append, List.append_assoc]
    rw [List.prefix_append_right_inj]
    exact List.prefix_append ..
  unfold stepRecord Log.Record.isOfStep
  rw [leads]
  rfl

end Validator

/-- Whether the records of a visit are its trace, notes and its complaint. -/
structure Visit.IsLogged
    (validator : Validator)
    (environment : Environment)
    (data : Value)
    (index : Nat)
    (visit : Visit) : Prop where
  trace :
    visit.records.filter (·.isOfStep validator.name) =
      validator.visitTrace environment data index visit
  errors :
    Log.ofLevel .error visit.records =
      (validator.complaint? environment data visit).toList
  infos : Log.ofLevel .info visit.records = []

namespace Validator

variable
  {validator : Validator}
  {environment : Environment}
  {data context : Value}

/-- Whatever a step finds, its visit is logged. -/
theorem isLogged_runStep
    (gate :
      validator.registry.find? Registry.requiredName =
        some .requiredField)
    (mapping : data.IsMapping)
    (environment : Environment)
    (step : Step)
    (found : Result)
    (index : Nat) :
    Visit.IsLogged validator environment data index
      ⟨step, found,
        validator.runStep environment data index step found⟩ := by
  obtain ⟨notes, logs, areNotes⟩ :=
    records_runStep gate mapping environment step found index
  have noTrace : notes.filter (·.isOfStep validator.name) = [] := by
    rw [List.filter_eq_nil_iff]
    intro note member
    simp [(areNotes note member).not_isOfStep]
  have noLevel
      {level : Log.Level}
      (other : level ≠ .debug) :
      notes.filter (·.level = level) = [] := by
    rw [List.filter_eq_nil_iff]
    intro note member
    simp [(areNotes note member).level, other.symm]
  have isTrace
      (mark : String) :=
    isOfStep_stepRecord validator index step mark
  have isDebug
      (mark : String) :
      (validator.stepRecord index step mark).level = .debug :=
    rfl
  constructor
  · unfold Visit.records visitTrace Visit.exit
    rw [logs]
    cases step.exit environment data found with
    | skipped | complete =>
        simp [noTrace, isTrace, exitRecord?, Step.Exit.fault?]
    | raised fault =>
        have notOfStep :
            (validator.faultRecord step fault).isOfStep validator.name =
              false :=
          Log.Record.not_isOfStep_of_level Log.Level.noConfusion _
        simp [noTrace, isTrace, exitRecord?, Step.Exit.fault?, notOfStep]
  · unfold Visit.records complaint? Visit.fault? Visit.exit Log.ofLevel
    rw [logs]
    cases step.exit environment data found with
    | skipped | complete =>
        simp [noLevel, isDebug, exitRecord?, Step.Exit.fault?]
    | raised fault =>
        simp [noLevel, isDebug, exitRecord?, Step.Exit.fault?, faultRecord]
  · unfold Visit.records Log.ofLevel
    rw [logs]
    cases step.exit environment data found with
    | skipped | complete =>
        simp [noLevel, isDebug, exitRecord?, Step.Exit.fault?]
    | raised fault =>
        simp [noLevel, isDebug, exitRecord?, Step.Exit.fault?, faultRecord]

/-! ## The visits of a run -/

/-- Every visit of some steps is logged, under the index of its step. -/
theorem isLogged_visits
    (gate :
      validator.registry.find? Registry.requiredName =
        some .requiredField)
    (mapping : data.IsMapping)
    (environment : Environment)
    (steps : List Step)
    (index : Nat)
    (found : Result) :
    ∀ visit number,
      (visit, number) ∈
          (validator.visits environment data steps index found).zipIdx
            index →
        visit.IsLogged validator environment data number := by
  induction steps generalizing index found with
  | nil =>
      intro visit number member
      cases member
  | cons step rest inductionHypothesis =>
      intro visit number member
      unfold visits at member
      dsimp only at member
      rw [List.zipIdx_cons, List.mem_cons] at member
      rcases member with here | later
      · cases here
        exact isLogged_runStep gate mapping environment step found index
      · split at later
        · exact inductionHypothesis _ _ visit number later
        · cases later

/-- Every visit of a whole run is logged, under its place in the course. -/
theorem isLogged_course
    (gate :
      validator.registry.find? Registry.requiredName =
        some .requiredField)
    (environment : Environment)
    (data context : Value) :
    ∀ visit number,
      (visit, number) ∈
          (validator.course environment data context).zipIdx →
        visit.IsLogged validator environment data number := by
  unfold course
  split
  case h_1 plan opened =>
    obtain ⟨⟨⟩, announced, _⟩ := Journal.ended_bind_eq_ok_iff.mp opened
    exact isLogged_visits gate (isMapping_of_announce announced) environment
      plan 0 .empty
  case h_2 =>
    intro visit number member
    cases member

end Validator

/--
Some visits end with a fault of the last capability that was called, or in order
if no capability was stopped.
-/
inductive Visit.EndWith
    (environment : Environment)
    (data : Value)
    (visits : List Visit) :
    Except Fault Unit → Prop where
  | orderly
      (none : ∀ visit ∈ visits, visit.fault? environment data = none) :
      EndWith environment data visits (.ok ())
  | raised
      (earlier : List Visit)
      (last : Visit)
      (fault : Fault)
      (split : visits = earlier ++ [last])
      (none : ∀ visit ∈ earlier, visit.fault? environment data = none)
      (raises : last.fault? environment data = some fault) :
      EndWith environment data visits (.error fault)

namespace Visit.EndWith

variable
  {environment : Environment}
  {data : Value}
  {visits : List Visit}
  {ended : Except Fault Unit}

/-- A visit in order goes before others. -/
theorem cons
    {first : Visit}
    (none : first.fault? environment data = none)
    (ends : EndWith environment data visits ended) :
    EndWith environment data (first :: visits) ended := by
  cases ends with
  | orderly others =>
      exact .orderly (List.forall_mem_cons.mpr ⟨none, others⟩)
  | raised earlier last fault split others raises =>
      refine .raised (first :: earlier) last fault ?_
        (List.forall_mem_cons.mpr ⟨none, others⟩) raises
      rw [split, List.cons_append]

/-- The visit of a capability that a fault stopped is the last one. -/
theorem eq_nil_of_fault
    {earlier later : List Visit}
    {visit : Visit}
    {fault : Fault}
    (ends : EndWith environment data (earlier ++ visit :: later) ended)
    (raises : visit.fault? environment data = some fault) :
    later = [] ∧ ended = .error fault := by
  cases ends with
  | orderly none =>
      rw [none visit List.mem_append_cons_self] at raises
      cases raises
  | raised others last first split none raisesLast =>
      rcases List.eq_nil_or_concat later with rfl | ⟨between, other, rfl⟩
      · obtain ⟨rfl, same⟩ := List.append_inj' split rfl
        cases same
        rw [raises] at raisesLast
        cases raisesLast
        exact ⟨rfl, rfl⟩
      · have isEarlier : visit ∈ others := by
          rw [List.concat_eq_append, ← List.cons_append,
            ← List.append_assoc] at split
          obtain ⟨rfl, _⟩ := List.append_inj' split rfl
          exact List.mem_append_cons_self
        rw [none visit isEarlier] at raises
        cases raises

/-- Without a fault in a visit, the steps are done. -/
theorem ended_eq_ok
    (ends : EndWith environment data visits ended)
    (none : ∀ visit ∈ visits, visit.fault? environment data = none) :
    ended = .ok () := by
  cases ends with
  | orderly =>
      rfl
  | raised earlier last fault split _ raises =>
      have member : last ∈ visits := by
        rw [split]
        exact List.mem_append_cons_self
      rw [none last member] at raises
      cases raises

end Visit.EndWith

namespace Validator

variable
  {validator : Validator}
  {environment : Environment}
  {data context : Value}

/-- A visit of a step ends with the fault that stopped the capability, if any. -/
theorem ended_runStep
    (gate :
      validator.registry.find? Registry.requiredName =
        some .requiredField)
    (mapping : data.IsMapping)
    (environment : Environment)
    (step : Step)
    (found : Result)
    (index : Nat) :
    (validator.runStep environment data index step found).ended =
      match (step.exit environment data found).fault? with
      | none => .ok ()
      | some fault => .error fault := by
  have regular :=
    regular_runStep gate mapping environment step found index
  refine regular.ended_eq.trans ?_
  unfold Step.act Step.exit
  split
  · rfl
  · cases (step.call environment data found).ended <;> rfl

/-- Steps end with the fault of their last visit, or in order. -/
theorem runSteps_endWith
    (gate :
      validator.registry.find? Registry.requiredName =
        some .requiredField)
    (mapping : data.IsMapping)
    (environment : Environment)
    (steps : List Step)
    (index : Nat)
    (found : Result) :
    Visit.EndWith environment data
      (validator.visits environment data steps index found)
      (validator.runSteps environment data steps index found).ended := by
  induction steps generalizing index found with
  | nil =>
      exact .orderly (List.forall_mem_nil _)
  | cons step rest inductionHypothesis =>
      have ended :=
        ended_runStep gate mapping environment step found index
      -- A fault in this visit leaves no others, so it is the last one.
      unfold visits runSteps
      cases ran : validator.runStep environment data index step found with
      | mk written stepEnded =>
          rw [ran] at ended
          cases raises : (step.exit environment data found).fault? with
          | none =>
              rw [raises] at ended
              cases ended
              rw [Run.bind_of_ok ran]
              exact (inductionHypothesis _ _).cons raises
          | some fault =>
              rw [raises] at ended
              cases ended
              rw [Run.bind_of_error ran]
              exact .raised [] _ fault rfl (List.forall_mem_nil _) raises

/-- The visits of a whole run end with a fault of the last one, or in order. -/
theorem course_endWith
    (gate :
      validator.registry.find? Registry.requiredName =
        some .requiredField)
    (environment : Environment)
    (data context : Value) :
    ∃ ended,
      Visit.EndWith environment data
        (validator.course environment data context) ended := by
  unfold course
  split
  case h_1 plan opened =>
    obtain ⟨⟨⟩, announced, _⟩ := Journal.ended_bind_eq_ok_iff.mp opened
    exact ⟨_, runSteps_endWith gate (isMapping_of_announce announced)
      environment plan 0 .empty⟩
  case h_2 =>
    exact ⟨.ok (), .orderly (List.forall_mem_nil _)⟩

/-- A run without a fault in a visit has visited all steps of its plan. -/
theorem steps_course
    (gate :
      validator.registry.find? Registry.requiredName =
        some .requiredField)
    {plan : Plan}
    (opened :
      (validator.opening environment data context).ended = .ok plan)
    (none :
      ∀ visit ∈ validator.course environment data context,
        visit.fault? environment data = none) :
    (validator.course environment data context).map Visit.step =
      plan := by
  obtain ⟨⟨⟩, announced, _⟩ := Journal.ended_bind_eq_ok_iff.mp opened
  unfold course at none ⊢
  rw [opened] at none ⊢
  have ends :=
    runSteps_endWith gate (isMapping_of_announce announced) environment plan
      0 .empty
  exact steps_visits (ends.ended_eq_ok none)

/-! ## The records of the visits -/

/-- What is logged while steps run is logged in their visits. -/
theorem records_runSteps
    (validator : Validator)
    (environment : Environment)
    (data : Value)
    (steps : List Step)
    (index : Nat)
    (found : Result) :
    (validator.runSteps environment data steps index
          found).written.filterMap Event.record? =
      (validator.visits environment data steps index found).flatMap
        Visit.records := by
  rw [written_runSteps, List.filterMap_flatMap]
  rfl

section Records

variable
  {visits : List Visit}
  (logged :
    ∀ visit number,
      (visit, number) ∈ visits.zipIdx →
        visit.IsLogged validator environment data number)

include logged

/-- What visits log about steps being started or left is their trace. -/
theorem trace_of_isLogged :
    (visits.flatMap Visit.records).filter
        (·.isOfStep validator.name) =
      validator.trace environment data visits :=
  calc
    (visits.flatMap Visit.records).filter (·.isOfStep validator.name)
    _ = visits.flatMap fun visit =>
          visit.records.filter (·.isOfStep validator.name) :=
        List.filter_flatMap
    _ = (visits.zipIdx.map Prod.fst).flatMap fun visit =>
          visit.records.filter (·.isOfStep validator.name) := by
        rw [List.zipIdx_map_fst]
    _ = visits.zipIdx.flatMap fun pair =>
          pair.1.records.filter (·.isOfStep validator.name) :=
        List.flatMap_map ..
    _ = validator.trace environment data visits :=
        List.flatMap_congr fun pair member =>
          (logged pair.1 pair.2 member).trace

/-- Each visit is logged under some index. -/
theorem exists_isLogged
    {visit : Visit}
    (member : visit ∈ visits) :
    ∃ number, visit.IsLogged validator environment data number := by
  rw [← List.zipIdx_map_fst 0 visits] at member
  obtain ⟨⟨visit, number⟩, isNumbered, rfl⟩ := List.mem_map.mp member
  exact ⟨number, logged visit number isNumbered⟩

/-- The errors that visits log are the complaints about their capabilities. -/
theorem errors_of_isLogged :
    Log.ofLevel .error (visits.flatMap Visit.records) =
      visits.filterMap (validator.complaint? environment data) := by
  rw [Log.ofLevel, List.filter_flatMap, List.filterMap_eq_flatMap_toList]
  refine List.flatMap_congr fun visit member => ?_
  obtain ⟨number, isLogged⟩ := exists_isLogged logged member
  exact isLogged.errors

/-- Visits log nothing for information. -/
theorem infos_of_isLogged :
    Log.ofLevel .info (visits.flatMap Visit.records) = [] := by
  rw [Log.ofLevel, List.filter_flatMap, List.flatMap_eq_nil_iff]
  intro visit member
  obtain ⟨number, isLogged⟩ := exists_isLogged logged member
  exact isLogged.infos

end Records

/-- Visits without a fault are not complained about. -/
theorem complaints_eq_nil
    {visits : List Visit}
    (none : ∀ visit ∈ visits, visit.fault? environment data = none) :
    visits.filterMap (validator.complaint? environment data) = [] := by
  rw [List.filterMap_eq_nil_iff]
  intro visit member
  rw [complaint?, none visit member]
  rfl

end Validator

end FormCheck
