import FormCheck.Proofs.Plan.Rejection
import FormCheck.Registry.Elementary

namespace FormCheck

/-!
# Severity

The log tells mistakes of the program from mistakes of its users. A plan that is
rejected and a capability that is stopped by a fault leave one error each, a form
that was not filled in as it should be leaves one record for information, and a
form that passes leaves neither.
-/

/-! ## Reports -/

namespace NeverRejects

/-- Collecting messages by their keys rejects no plan if the test never does. -/
theorem messagesWhere
    {test : String → Except Fault Bool}
    (never : ∀ key, NeverRejects (test key))
    (errors : List (Value × List Value)) :
    NeverRejects (Report.messagesWhere test errors) := by
  induction errors with
  | nil =>
      exact ok _
  | cons entry rest inductionHypothesis =>
      obtain ⟨key, messages⟩ := entry
      cases key with
      | text characters =>
          exact bind (never characters) fun _ =>
            bind inductionHypothesis fun _ => ok _
      | null | bool | int | float | bytes | date | dateTime
        | list | tuple | set | dict | cycle =>
          exact error id

/-- Combining messages of a field rejects no plan. -/
theorem combined
    (settings : Settings)
    (result : Result)
    (field : String)
    (delimiter : Value) :
    NeverRejects
      (Report.combined settings result (.text field) delimiter) := by
  have messageText
      (message : Value) :
      NeverRejects (Report.messageText message) := by
    unfold Report.messageText
    split
    · exact ok _
    · exact error id
  unfold Report.combined
  refine bind (messagesWhere (fun _ => ok _) _) fun messages => ?_
  split
  · exact bind (mapM messageText messages) fun _ => ok _
  · exact error id

/-- The standard payload of a result rejects no plan. -/
theorem standardErrors
    (settings : Settings)
    (plan : Plan)
    (result : Result) :
    NeverRejects (Report.standardErrors settings plan result) := by
  refine foldlM (fun payload step => ?_) plan []
  unfold Report.standardStep
  dsimp only
  split
  · exact bind (combined settings result step.field .null) fun _ => ok _
  · refine bind (messagesWhere (fun _ => ok _) _) fun derived => ?_
    split
    · exact ok _
    · exact ok _

end NeverRejects

/-! ## The log of a run -/

/--
The conclusion of a run logs one record: for information if the run fails, an
aside if it passes. A conclusion that is stopped rejects no plan and logs
nothing.
-/
inductive Concludes
    (name : String) :
    List Log.Record → Except Fault Outcome → Prop where
  | stopped
      (fault : Fault)
      (other : ¬fault.IsRejection) :
      Concludes name [] (.error fault)
  | failed
      (notice : Log.Record)
      (payload : Value)
      (isInfo : notice.level = .info) :
      Concludes name [notice] (.ok (.failed payload))
  | passed
      (last : Log.Record)
      (values : Value)
      (isAside : last.IsAside name) :
      Concludes name [last] (.ok (.passed values))

/--
The log of a run begins with its opening, which may reject the plan. Behind
asides there are the records of the visits and, if none of these was stopped, of
the conclusion.
-/
inductive IsLog
    (name : String)
    (environment : Environment)
    (data : Value)
    (visits : List Visit) :
    List Log.Record → Except Fault Outcome → Prop where
  | refused
      (opening : List Log.Record)
      (fault : Fault)
      (unvisited : visits = [])
      (ownsUp :
        OwnsUp name (⟨opening, .error fault⟩ : Logged Plan)) :
      IsLog name environment data visits opening (.error fault)
  | stopped
      (opening : List Log.Record)
      (fault : Fault)
      (asides : ∀ record ∈ opening, record.IsAside name)
      (ends : Visit.EndWith environment data visits (.error fault)) :
      IsLog name environment data visits
        (opening ++ visits.flatMap Visit.records) (.error fault)
  | concluded
      (opening conclusion : List Log.Record)
      (ended : Except Fault Outcome)
      (asides : ∀ record ∈ opening, record.IsAside name)
      (ends : Visit.EndWith environment data visits (.ok ()))
      (concludes : Concludes name conclusion ended) :
      IsLog name environment data visits
        (opening ++ visits.flatMap Visit.records ++ conclusion) ended

/-- Who owns up and answers has logged asides. -/
theorem OwnsUp.asides
    {name : String}
    {records : List Log.Record}
    {value : answer}
    (ownsUp : OwnsUp name (⟨records, .ok value⟩ : Logged answer)) :
    ∀ record ∈ records, record.IsAside name := by
  cases ownsUp with
  | quiet asides =>
      exact asides

namespace Validator

variable
  {validator : Validator}
  {environment : Environment}
  {data context : Value}

/-- With the standard report, a conclusion logs what it should. -/
theorem concludes_conclude
    (reporting : validator.style = Report.standard)
    (environment : Environment)
    (plan : Plan)
    (result : Result) :
    Concludes validator.name
      ((validator.conclude environment plan result).written.filterMap
        Event.record?)
      (validator.conclude environment plan result).ended := by
  have looked :
      Run.result result = ⟨[], .ok result⟩ :=
    rfl
  have never :
      NeverRejects (validator.failurePayload environment plan result) := by
    unfold failurePayload
    rw [reporting]
    exact .bind (.standardErrors environment.settings plan result)
      fun _ => .ok _
  unfold conclude
  rw [Run.bind_of_ok looked, result.follow_of_silent rfl]
  cases result.hasErrors with
  | true =>
      simp only [↓reduceIte]
      cases reported : validator.failurePayload environment plan result with
      | error fault =>
          exact .stopped fault (never fault reported)
      | ok payload =>
          rw [Run.lift_ok_bind]
          cases listed : keyListing payload with
          | error fault =>
              exact .stopped fault
                (NeverRejects.keyListing payload fault listed)
          | ok listing =>
              exact .failed _ payload rfl
  | false =>
      simp only [Bool.false_eq_true, ↓reduceIte]
      rw [reporting]
      exact .passed _ _ (Log.Record.isAside_of_engine (by decide))

/-- A run with the original gate and the standard report logs what it should. -/
theorem isLog_run
    (gate :
      validator.registry.find? Registry.requiredName =
        some .requiredField)
    (reporting : validator.style = Report.standard)
    (ownsUp :
      OwnsUp validator.name (validator.opening environment data context)) :
    IsLog validator.name environment data
      (validator.course environment data context)
      ((validator.run environment data context).written.filterMap
        Event.record?)
      (validator.run environment data context).ended := by
  cases opened : validator.opening environment data context with
  | mk opening ended =>
      rw [opened] at ownsUp
      cases ended with
      | error fault =>
          rw [run_of_opening_error opened, Event.records_logged]
          refine .refused opening fault ?_ ownsUp
          rw [course, opened]
      | ok plan =>
          obtain ⟨rest, ran, rfl⟩ := run_of_opening_ok opened
          have sameCourse :
              validator.course environment data context =
                validator.visits environment data plan 0 .empty := by
            rw [course, opened]
          obtain ⟨⟨⟩, announced, _⟩ :=
            Journal.ended_bind_eq_ok_iff.mp (congrArg Journal.ended opened)
          have ends :=
            runSteps_endWith gate (isMapping_of_announce announced)
              environment plan 0 .empty
          have records :=
            validator.records_runSteps environment data plan 0 .empty
          rw [ran, List.filterMap_append, Event.records_logged, sameCourse]
          cases stepped :
              validator.runSteps environment data plan 0 .empty with
          | mk written stepsEnded =>
              rw [stepped] at ends records
              cases stepsEnded with
              | error fault =>
                  rw [Run.bind_of_error stepped, records]
                  exact .stopped opening fault ownsUp.asides ends
              | ok answer =>
                  rw [Run.bind_of_ok stepped, List.filterMap_append, records,
                    ← List.append_assoc]
                  exact .concluded opening _ _ ownsUp.asides ends
                    (concludes_conclude reporting environment plan _)

end Validator

/-! ## What the severities tell -/

namespace Log

/-- The records of a severity of two logs are those of the one and the other. -/
theorem ofLevel_append
    (level : Level)
    (first second : List Record) :
    ofLevel level (first ++ second) =
      ofLevel level first ++ ofLevel level second :=
  List.filter_append ..

/-- Asides are no errors. -/
theorem errors_of_asides
    {name : String}
    {records : List Record}
    (asides : ∀ record ∈ records, record.IsAside name) :
    ofLevel .error records = [] := by
  rw [ofLevel, List.filter_eq_nil_iff]
  intro record member
  simp [(asides record member).notError]

/-- Asides are not for information. -/
theorem infos_of_asides
    {name : String}
    {records : List Record}
    (asides : ∀ record ∈ records, record.IsAside name) :
    ofLevel .info records = [] := by
  rw [ofLevel, List.filter_eq_nil_iff]
  intro record member
  simp [(asides record member).notInfo]

/-- Asides are about no step. -/
theorem trace_of_asides
    {name : String}
    {records : List Record}
    (asides : ∀ record ∈ records, record.IsAside name) :
    records.filter (·.isOfStep name) = [] := by
  rw [List.filter_eq_nil_iff]
  intro record member
  simp [(asides record member).notOfStep]

/-- A threshold hides nothing from a test that only records above it pass. -/
theorem filter_visible
    {threshold : Int}
    {test : Record → Bool}
    (shown :
      ∀ record, test record = true →
        effective threshold ≤ record.level.number)
    (records : List Record) :
    (visible threshold records).filter test = records.filter test := by
  unfold visible
  rw [List.filter_filter]
  refine List.filter_congr fun record _ => ?_
  cases passes : test record with
  | false =>
      rfl
  | true =>
      simpa using shown record passes

end Log

/-- Who owns up logs nothing about steps. -/
theorem OwnsUp.trace
    {name : String}
    {computation : Logged answer}
    (ownsUp : OwnsUp name computation) :
    computation.written.filter (·.isOfStep name) = [] := by
  cases ownsUp with
  | quiet asides =>
      exact Log.trace_of_asides asides
  | rejecting earlier complaint fault asides isError =>
      have notOfStep : complaint.isOfStep name = false :=
        Log.Record.not_isOfStep_of_level (by rw [isError]; nofun) name
      rw [List.filter_append, Log.trace_of_asides asides]
      simp [notOfStep]

/-- A conclusion logs nothing about steps. -/
theorem Concludes.trace
    {name : String}
    {records : List Log.Record}
    {ended : Except Fault Outcome}
    (concludes : Concludes name records ended) :
    records.filter (·.isOfStep name) = [] := by
  cases concludes with
  | stopped =>
      rfl
  | failed notice payload isInfo =>
      have notOfStep : notice.isOfStep name = false :=
        Log.Record.not_isOfStep_of_level (by rw [isInfo]; nofun) name
      simp [notOfStep]
  | passed last values isAside =>
      simp [isAside.notOfStep]

namespace Validator

/--
The severities of the records of a run tell how it ended. If a plan is rejected
or a capability is stopped, which also stops the run, there is one error and
nothing for information. If the run fails, there is one record for information
and no error, and if it passes, there is neither.
-/
structure TellsBySeverity
    (validator : Validator)
    (environment : Environment)
    (data : Value)
    (visits : List Visit)
    (records : List Log.Record)
    (ended : Except Fault Outcome) : Prop where
  rejected :
    ∀ fault,
      ended = .error fault → fault.IsRejection →
        (∃ complaint, Log.ofLevel .error records = [complaint]) ∧
          Log.ofLevel .info records = []
  raised :
    ∀ visit ∈ visits, ∀ fault,
      visit.fault? environment data = some fault →
        ended = .error fault ∧
          Log.ofLevel .error records =
            [validator.faultRecord visit.step fault] ∧
          Log.ofLevel .info records = []
  failed :
    ∀ payload,
      ended = .ok (.failed payload) →
        Log.ofLevel .error records = [] ∧
          ∃ notice, Log.ofLevel .info records = [notice]
  passed :
    ∀ values,
      ended = .ok (.passed values) →
        Log.ofLevel .error records = [] ∧ Log.ofLevel .info records = []

/--
The trace of a run tells for each step that it reached, in the order of the plan,
that it was started and that it was skipped or completed, unless its capability
was stopped, which only happens to the last of these steps.
-/
structure TracesSteps
    (validator : Validator)
    (environment : Environment)
    (data context : Value)
    (records : List Log.Record) : Prop where
  reached :
    ∀ plan,
      (validator.opening environment data context).ended = .ok plan →
        (validator.course environment data context).map Visit.step <+:
          plan
  traced :
    records.filter (·.isOfStep validator.name) =
      validator.trace environment data
        (validator.course environment data context)
  stopsLast :
    ∀ earlier visit later fault,
      validator.course environment data context =
          earlier ++ visit :: later →
        visit.fault? environment data = some fault → later = []
  goesOn :
    ∀ plan,
      (validator.opening environment data context).ended = .ok plan →
        (∀ visit ∈ validator.course environment data context,
            visit.fault? environment data = none) →
          (validator.course environment data context).map Visit.step = plan

section Severities

variable
  {validator : Validator}
  {environment : Environment}
  {data : Value}
  {visits : List Visit}
  {opening records : List Log.Record}
  {ended : Except Fault Outcome}
  {fault : Fault}

/-- An opening that owns up tells by its severities whether it rejects a plan. -/
theorem tells_of_ownsUp
    (ownsUp :
      OwnsUp validator.name (⟨opening, .error fault⟩ : Logged Plan)) :
    TellsBySeverity validator environment data [] opening
      (.error fault) := by
  cases ownsUp with
  | quiet asides never =>
      exact
        { rejected := by
            rintro _ ⟨⟩ isRejection
            exact absurd isRejection (never fault rfl)
          raised := by rintro _ ⟨⟩
          failed := by rintro _ ⟨⟩
          passed := by rintro _ ⟨⟩ }
  | rejecting earlier complaint fault asides isError isRejection =>
      refine
        { rejected := fun _ _ _ => ⟨⟨complaint, ?_⟩, ?_⟩
          raised := by rintro _ ⟨⟩
          failed := by rintro _ ⟨⟩
          passed := by rintro _ ⟨⟩ }
      · rw [Log.ofLevel_append, Log.errors_of_asides asides]
        simp [Log.ofLevel, isError]
      · rw [Log.ofLevel_append, Log.infos_of_asides asides]
        simp [Log.ofLevel, isError]

/-- Without a fault in a visit, a conclusion tells by its severities how it ends. -/
theorem tells_of_concludes
    (none : ∀ visit ∈ visits, visit.fault? environment data = none)
    (concludes : Concludes validator.name records ended) :
    TellsBySeverity validator environment data visits records ended := by
  have notRaised :
      ∀ visit ∈ visits, ∀ fault,
        visit.fault? environment data ≠ some fault := by
    intro visit member fault raises
    rw [none visit member] at raises
    cases raises
  cases concludes with
  | stopped fault other =>
      exact
        { rejected := by
            rintro _ ⟨⟩ isRejection
            exact absurd isRejection other
          raised := fun visit member fault raises =>
            absurd raises (notRaised visit member fault)
          failed := by rintro _ ⟨⟩
          passed := by rintro _ ⟨⟩ }
  | failed notice payload isInfo =>
      exact
        { rejected := by rintro _ ⟨⟩
          raised := fun visit member fault raises =>
            absurd raises (notRaised visit member fault)
          failed := fun _ _ =>
            ⟨by simp [Log.ofLevel, isInfo], notice,
              by simp [Log.ofLevel, isInfo]⟩
          passed := by rintro _ ⟨⟩ }
  | passed last values isAside =>
      have asides : ∀ record ∈ [last], record.IsAside _ :=
        List.forall_mem_singleton.mpr isAside
      exact
        { rejected := by rintro _ ⟨⟩
          raised := fun visit member fault raises =>
            absurd raises (notRaised visit member fault)
          failed := by rintro _ ⟨⟩
          passed := fun _ _ =>
            ⟨Log.errors_of_asides asides, Log.infos_of_asides asides⟩ }

/-- Records with the same errors and notices tell the same. -/
theorem TellsBySeverity.of_eq
    {others : List Log.Record}
    (tells :
      TellsBySeverity validator environment data visits records ended)
    (errors : Log.ofLevel .error others = Log.ofLevel .error records)
    (infos : Log.ofLevel .info others = Log.ofLevel .info records) :
    TellsBySeverity validator environment data visits others ended where
  rejected := by
    rw [errors, infos]
    exact tells.rejected
  raised := by
    rw [errors, infos]
    exact tells.raised
  failed := by
    rw [errors, infos]
    exact tells.failed
  passed := by
    rw [errors, infos]
    exact tells.passed

section Visits

variable
  (logged :
    ∀ visit number,
      (visit, number) ∈ visits.zipIdx →
        visit.IsLogged validator environment data number)

include logged

/-- Behind asides, visits log the errors about their capabilities. -/
theorem errors_of_visits
    (asides : ∀ record ∈ opening, record.IsAside validator.name) :
    Log.ofLevel .error (opening ++ visits.flatMap Visit.records) =
      visits.filterMap (validator.complaint? environment data) := by
  rw [Log.ofLevel_append, Log.errors_of_asides asides,
    errors_of_isLogged logged, List.nil_append]

/-- Behind asides, visits log nothing for information. -/
theorem infos_of_visits
    (asides : ∀ record ∈ opening, record.IsAside validator.name) :
    Log.ofLevel .info (opening ++ visits.flatMap Visit.records) = [] := by
  rw [Log.ofLevel_append, Log.infos_of_asides asides,
    infos_of_isLogged logged, List.nil_append]

/-- Visits tell by their severities which capability was stopped. -/
theorem tells_of_raised
    (asides : ∀ record ∈ opening, record.IsAside validator.name)
    (ends : Visit.EndWith environment data visits (.error fault)) :
    TellsBySeverity validator environment data visits
      (opening ++ visits.flatMap Visit.records) (.error fault) := by
  have infos := infos_of_visits logged asides
  have errors := errors_of_visits logged asides
  cases ends with
  | raised earlier last fault split none raises =>
      have complaint :
          visits.filterMap (validator.complaint? environment data) =
            [validator.faultRecord last.step fault] := by
        rw [split, List.filterMap_append, complaints_eq_nil none]
        simp [complaint?, raises]
      rw [complaint] at errors
      refine
        { rejected := fun _ _ _ => ⟨⟨_, errors⟩, infos⟩
          raised := ?_
          failed := by rintro _ ⟨⟩
          passed := by rintro _ ⟨⟩ }
      intro visit member other raisesToo
      rw [split, List.mem_append, List.mem_singleton] at member
      rcases member with isEarlier | rfl
      · rw [none visit isEarlier] at raisesToo
        cases raisesToo
      · rw [raises] at raisesToo
        cases raisesToo
        exact ⟨rfl, errors, infos⟩

/-- The log of a run tells by its severities how the run ended. -/
theorem tells_of_isLog
    (isLog :
      IsLog validator.name environment data visits records ended) :
    TellsBySeverity validator environment data visits records ended := by
  cases isLog with
  | refused _ fault unvisited ownsUp =>
      rw [unvisited]
      exact tells_of_ownsUp ownsUp
  | stopped opening fault asides ends =>
      exact tells_of_raised logged asides ends
  | concluded opening conclusion ended asides ends concludes =>
      cases ends with
      | orderly none =>
          refine (tells_of_concludes none concludes).of_eq ?_ ?_
          · rw [Log.ofLevel_append, errors_of_visits logged asides,
              complaints_eq_nil none, List.nil_append]
          · rw [Log.ofLevel_append, infos_of_visits logged asides,
              List.nil_append]

/-- What a run logs about steps is the trace of its visits. -/
theorem trace_of_isLog
    (isLog :
      IsLog validator.name environment data visits records ended) :
    records.filter (·.isOfStep validator.name) =
      validator.trace environment data visits := by
  cases isLog with
  | refused _ fault unvisited ownsUp =>
      rw [unvisited, ownsUp.trace]
      rfl
  | stopped opening fault asides ends =>
      rw [List.filter_append, Log.trace_of_asides asides,
        trace_of_isLogged logged, List.nil_append]
  | concluded opening conclusion ended asides ends concludes =>
      rw [List.filter_append, List.filter_append,
        Log.trace_of_asides asides, trace_of_isLogged logged,
        concludes.trace, List.nil_append, List.append_nil]

end Visits

end Severities

/-! ## Fixed plans -/

section Fixed

variable
  {registry : Registry}
  {threshold : Int}

/-- The records of a run that a threshold lets pass. -/
def shownRecords
    (validator : Validator)
    (environment : Environment)
    (data context : Value)
    (threshold : Int) : List Log.Record :=
  Log.visible threshold
    ((validator.run environment data context).written.filterMap
      Event.record?)

/--
With the original gate, a validator with a fixed plan tells by the severities of
its records how a run ended, at any threshold that lets records for information
pass. At one that lets all records pass it also traces the steps.
-/
theorem fixed_logs_bySeverity
    (gate :
      registry.find? Registry.requiredName = some .requiredField)
    (shown : Log.effective threshold ≤ Log.Level.info.number)
    (name : String)
    (raw : Value)
    (environment : Environment)
    (data context : Value) :
    TellsBySeverity (fixed name registry raw) environment data
        ((fixed name registry raw).course environment data context)
        ((fixed name registry raw).shownRecords environment data context
          threshold)
        ((fixed name registry raw).run environment data context).ended ∧
      (Log.effective threshold ≤ Log.Level.debug.number →
        TracesSteps (fixed name registry raw) environment data context
          ((fixed name registry raw).shownRecords environment data context
            threshold)) := by
  have hasGate :
      (fixed name registry raw).registry.find? Registry.requiredName =
        some .requiredField :=
    gate
  have isLog :=
    isLog_run hasGate rfl
      (.opening name registry raw environment data context)
  have logged := isLogged_course hasGate environment data context
  constructor
  · refine (tells_of_isLog logged isLog).of_eq ?_ ?_
    · refine Log.filter_visible (fun record isError => ?_) _
      rw [of_decide_eq_true isError]
      exact shown.trans (by decide)
    · refine Log.filter_visible (fun record isInfo => ?_) _
      rwa [of_decide_eq_true isInfo]
  · intro allShown
    exact
      { reached := by
          intro plan opened
          rw [course, opened]
          exact steps_visits_prefix ..
        traced := by
          refine (Log.filter_visible (fun record isOfStep => ?_) _).trans
            (trace_of_isLog logged isLog)
          rwa [Log.Record.level_of_isOfStep isOfStep]
        stopsLast := by
          intro earlier visit later fault split raises
          obtain ⟨ended, ends⟩ :=
            course_endWith hasGate environment data context
          rw [split] at ends
          exact (ends.eq_nil_of_fault raises).1
        goesOn := fun plan opened none =>
          steps_course hasGate opened none }

/-- A plan with a step that needs an input, and one with a capability that fails. -/
def brokenPlan : Value :=
  .list
    [.record
      [("field", .text "agreed"), ("method", .text "accept"),
        ("required", .bool true)],
      .record [("field", .text "age"), ("method", .text "explode")]]

/-- Without this input the first step is skipped, and the second one is stopped. -/
theorem fixed_logs_bySeverity_broken :
    let registry := Registry.elementary .requiredField
    let validator := fixed "Probe" registry brokenPlan
    let environment : Environment := .on ⟨2024, 1, 1⟩
    let data : Value := .record [("age", .text "7")]
    let records := validator.shownRecords environment data .null 10
    registry.find? Registry.requiredName = some .requiredField ∧
      Log.effective 10 ≤ Log.Level.info.number ∧
      (validator.run environment data .null).ended =
        .error (.broken "capability bug") ∧
      (∃ complaint, Log.ofLevel .error records = [complaint]) ∧
      Log.ofLevel .info records = [] ∧
      records.filter (·.isOfStep "Probe") =
        [⟨.debug, Log.engine, "Probe step[0]: agreed [START]"⟩,
          ⟨.debug, Log.engine, "Probe step[0]: agreed [SKIPPED]"⟩,
          ⟨.debug, Log.engine, "Probe step[1]: age [START]"⟩] := by
  intro registry validator environment data records
  have gate :
      registry.find? Registry.requiredName = some .requiredField :=
    rfl
  have shown : Log.effective 10 ≤ Log.Level.info.number := by
    decide
  obtain ⟨tells, traces⟩ :=
    fixed_logs_bySeverity gate shown "Probe" brokenPlan environment data .null
  have isRaised :
      (validator.course environment data .null).any
          (·.fault? environment data = some (.broken "capability bug")) =
        true := by
    decide +kernel
  obtain ⟨visit, member, raises⟩ := List.any_eq_true.mp isRaised
  obtain ⟨stopped, errors, infos⟩ :=
    tells.raised visit member _ (of_decide_eq_true raises)
  have traced :
      validator.trace environment data
          (validator.course environment data .null) =
        [⟨.debug, Log.engine, "Probe step[0]: agreed [START]"⟩,
          ⟨.debug, Log.engine, "Probe step[0]: agreed [SKIPPED]"⟩,
          ⟨.debug, Log.engine, "Probe step[1]: age [START]"⟩] := by
    decide +kernel
  exact ⟨gate, shown, stopped, ⟨_, errors⟩, infos,
    (traces (by decide)).traced.trans traced⟩

end Fixed

end Validator

end FormCheck
