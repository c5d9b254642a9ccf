import FormCheck.Proofs.Visit

namespace FormCheck

/-!
# The course of a run

A run visits the steps of its plan in order, until one of them stops it. What
happens in a run is a record of its opening, what happens in each visit, and a
record of its conclusion; only the visits record entries and call capabilities.
Each visit finds what the visits before it recorded.
-/

namespace Validator

/-- The visits of some steps, numbered from an index on. -/
def visits
    (validator : Validator)
    (environment : Environment)
    (data : Value) : List Step → Nat → Result → List Visit
  | [], _, _ => []
  | step :: rest, index, found =>
      let history := validator.runStep environment data index step found
      ⟨step, found, history⟩ ::
        match history.ended with
        | .ok () =>
            visits validator environment data rest (index + 1)
              (found.follow history.written)
        | .error _ => []

/-- What precedes the visits of a run: the announcement and the plan. -/
def opening
    (validator : Validator)
    (environment : Environment)
    (data context : Value) : Logged Plan := do
  validator.announce data
  validator.buildPlan environment data context

/-- The visits of a whole run, none if the plan is refused. -/
def course
    (validator : Validator)
    (environment : Environment)
    (data context : Value) : List Visit :=
  match (validator.opening environment data context).ended with
  | .ok plan => validator.visits environment data plan 0 .empty
  | .error _ => []

variable
  {validator : Validator}
  {environment : Environment}
  {data context : Value}

/-- What happens while steps run is what happens in their visits. -/
theorem written_runSteps
    (steps : List Step)
    (index : Nat)
    (result : Result) :
    (validator.runSteps environment data steps index result).written =
      (validator.visits environment data steps index result).flatMap
        (·.history.written) := by
  induction steps generalizing index result with
  | nil =>
      rfl
  | cons step rest inductionHypothesis =>
      unfold runSteps visits
      cases stepRun :
          validator.runStep environment data index step result with
      | mk written ended =>
          cases ended with
          | ok answer =>
              rw [Run.bind_of_ok stepRun]
              simp [inductionHypothesis]
          | error fault =>
              rw [Run.bind_of_error stepRun]
              simp

/-- Once its steps are done, every step of a plan has been visited, in order. -/
theorem steps_visits
    {steps : List Step}
    {index : Nat}
    {found : Result}
    (done :
      (validator.runSteps environment data steps index found).ended =
        .ok ()) :
    (validator.visits environment data steps index found).map
        Visit.step =
      steps := by
  induction steps generalizing index found with
  | nil =>
      rfl
  | cons step rest inductionHypothesis =>
      obtain ⟨⟨⟩, stepped, continued⟩ :=
        Journal.ended_bind_eq_ok_iff.mp done
      unfold visits
      simp only [stepped, List.map_cons]
      rw [inductionHypothesis continued]

/-- Steps are visited from the first one on, in order. -/
theorem steps_visits_prefix
    (validator : Validator)
    (environment : Environment)
    (data : Value)
    (steps : List Step)
    (index : Nat)
    (found : Result) :
    (validator.visits environment data steps index found).map
        Visit.step <+:
      steps := by
  induction steps generalizing index found with
  | nil =>
      exact List.prefix_rfl
  | cons step rest inductionHypothesis =>
      unfold visits
      dsimp only
      rw [List.map_cons, List.cons_prefix_cons]
      refine ⟨rfl, ?_⟩
      split
      · exact inductionHypothesis _ _
      · exact List.nil_prefix

/-- Once the steps are done, no visit has ended with a fault. -/
theorem ended_of_mem_visits
    {steps : List Step}
    {index : Nat}
    {found : Result}
    (done :
      (validator.runSteps environment data steps index found).ended =
        .ok ()) :
    ∀ visit ∈ validator.visits environment data steps index found,
      visit.history.ended = .ok () := by
  induction steps generalizing index found with
  | nil =>
      intro visit member
      cases member
  | cons step rest inductionHypothesis =>
      obtain ⟨⟨⟩, stepped, continued⟩ :=
        Journal.ended_bind_eq_ok_iff.mp done
      intro visit member
      unfold visits at member
      simp only [stepped] at member
      rcases List.mem_cons.mp member with rfl | later
      · exact stepped
      · exact inductionHypothesis continued visit later

/-- A visit finds what the visits before it recorded. -/
theorem found_of_visits_eq_append
    {steps : List Step}
    {index : Nat}
    {found : Result}
    {earlier later : List Visit}
    {visit : Visit}
    (split :
      validator.visits environment data steps index found =
        earlier ++ visit :: later) :
    visit.found = found.extend (earlier.flatMap Visit.entries) := by
  induction steps generalizing index found earlier with
  | nil =>
      simp [visits] at split
  | cons step rest inductionHypothesis =>
      unfold visits at split
      dsimp only at split
      cases earlier with
      | nil =>
          rw [List.nil_append, List.cons.injEq] at split
          obtain ⟨rfl, _⟩ := split
          simp
      | cons before others =>
          rw [List.cons_append, List.cons.injEq] at split
          obtain ⟨rfl, rest⟩ := split
          split at rest
          · rw [inductionHypothesis rest]
            simp [Result.follow, Visit.entries]
          · simp at rest

/-- Every visit of a run with the original gate is regular. -/
theorem regular_visits
    (gate :
      validator.registry.find? Registry.requiredName =
        some .requiredField)
    (mapping : data.IsMapping)
    (environment : Environment)
    (steps : List Step)
    (index : Nat)
    (found : Result) :
    ∀ visit ∈ validator.visits environment data steps index found,
      visit.Regular environment data := by
  induction steps generalizing index found with
  | nil =>
      intro visit member
      cases member
  | cons step rest inductionHypothesis =>
      intro visit member
      unfold visits at member
      rcases List.mem_cons.mp member with rfl | later
      · exact regular_runStep gate mapping environment step found index
      · split at later
        · exact inductionHypothesis _ _ visit later
        · cases later

/-- Only a run whose plan is built has visits, and these are of its steps. -/
theorem course_of_mem
    {visit : Visit}
    (member : visit ∈ validator.course environment data context) :
    ∃ plan,
      (validator.buildPlan environment data context).ended = .ok plan ∧
        validator.course environment data context =
          validator.visits environment data plan 0 .empty := by
  unfold course at member ⊢
  split at member
  case h_1 plan opened =>
    obtain ⟨⟨⟩, _, built⟩ := Journal.ended_bind_eq_ok_iff.mp opened
    exact ⟨plan, built, rfl⟩
  case h_2 =>
    cases member

/-- A visit of a run finds what the visits before it recorded. -/
theorem found_of_split
    {earlier later : List Visit}
    {visit : Visit}
    (split :
      validator.course environment data context =
        earlier ++ visit :: later) :
    visit.found = Result.empty.extend (earlier.flatMap Visit.entries) := by
  have member : visit ∈ validator.course environment data context := by
    rw [split]
    exact List.mem_append_cons_self
  obtain ⟨plan, _, sameCourse⟩ := course_of_mem member
  rw [sameCourse] at split
  exact found_of_visits_eq_append split

/-- Every visit of a whole run with the original gate is regular. -/
theorem regular_course
    (gate :
      validator.registry.find? Registry.requiredName =
        some .requiredField)
    (mapping : data.IsMapping)
    (environment : Environment)
    (context : Value) :
    ∀ visit ∈ validator.course environment data context,
      visit.Regular environment data := by
  unfold course
  split
  · exact regular_visits gate mapping environment _ _ _
  · intro visit member
    cases member

/-! ## The whole run -/

/-- A conclusion only logs. -/
theorem conclude_onlyLogs
    (validator : Validator)
    (environment : Environment)
    (plan : Plan) :
    (validator.conclude environment plan).OnlyLogs := by
  unfold conclude
  refine .bind (fun result event member => nomatch member) fun result => ?_
  split
  · refine .bind (.lift _) fun payload => ?_
    refine .bind (.lift _) fun listing => ?_
    exact .bind (.log _ _ _) fun _ => .lift (.ok _)
  · refine .bind (.log _ _ _) fun _ => ?_
    exact .bind (.lift _) fun values => .lift (.ok _)

/-- A logging computation inside a run leaves its records behind. -/
theorem logged_apply
    {logged : Logged answer}
    {records : List Log.Record}
    {ended : Except Fault answer}
    (evaluated : logged = ⟨records, ended⟩)
    (result : Result) :
    (liftM logged : Run answer) result =
      ⟨records.map Event.logged, ended⟩ := by
  subst evaluated
  rfl

/-- Behind a successful opening, a run is its steps and its conclusion. -/
theorem run_of_opening_ok
    {records : List Log.Record}
    {plan : Plan}
    (opened :
      validator.opening environment data context = ⟨records, .ok plan⟩) :
    ∃ rest,
      validator.run environment data context =
          ⟨records.map Event.logged ++ rest.written, rest.ended⟩ ∧
        rest =
          (do
            validator.runSteps environment data plan 0
            validator.conclude environment plan) .empty := by
  obtain ⟨early, answer, late, announced, built, rfl⟩ :=
    Journal.bind_eq_ok_iff.mp opened
  refine ⟨_, ?_, rfl⟩
  unfold run process
  rw [Run.bind_of_ok (logged_apply announced _),
    Result.follow_of_silent _ (Event.entries_logged early),
    Run.bind_of_ok (logged_apply built _),
    Result.follow_of_silent _ (Event.entries_logged late)]
  simp

/-- A run whose opening fails is that opening. -/
theorem run_of_opening_error
    {records : List Log.Record}
    {fault : Fault}
    (refused :
      validator.opening environment data context =
        ⟨records, .error fault⟩) :
    validator.run environment data context =
      ⟨records.map Event.logged, .error fault⟩ := by
  unfold opening at refused
  unfold run process
  cases announced : validator.announce data with
  | mk early ended =>
      cases ended with
      | error first =>
          rw [Journal.bind_of_error (by rw [announced]), announced]
            at refused
          cases refused
          exact Run.bind_of_error (logged_apply rfl _) _
      | ok answer =>
          rw [Journal.bind_of_ok (by rw [announced]), announced] at refused
          rw [Run.bind_of_ok (logged_apply rfl _),
            Result.follow_of_silent _ (Event.entries_logged early)]
          cases built : validator.buildPlan environment data context with
          | mk late ended =>
              rw [built] at refused
              cases refused
              rw [Run.bind_of_error (logged_apply rfl _)]
              simp

/-- All that a run does besides logging, it does in its visits. -/
theorem written_run
    (validator : Validator)
    (environment : Environment)
    (data context : Value) :
    ∃ before after,
      (validator.run environment data context).written =
          before ++
            (validator.course environment data context).flatMap
              (·.history.written) ++
            after ∧
        ∀ event ∈ before ++ after, ∃ record, event = .logged record := by
  unfold course
  cases opened : validator.opening environment data context with
  | mk records ended =>
      have onlyRecords :
          ∀ event ∈ records.map Event.logged,
            ∃ record, event = .logged record := by
        intro event member
        obtain ⟨record, _, rfl⟩ := List.mem_map.mp member
        exact ⟨record, rfl⟩
      cases ended with
      | error fault =>
          refine ⟨records.map Event.logged, [], ?_, ?_⟩
          · simp [run_of_opening_error opened]
          · rw [List.append_nil]
            exact onlyRecords
      | ok plan =>
          obtain ⟨rest, ran, rfl⟩ := run_of_opening_ok opened
          rw [ran, Run.written_bind, written_runSteps, ← List.append_assoc]
          refine ⟨records.map Event.logged, _, rfl, ?_⟩
          intro event member
          rcases List.mem_append.mp member with early | late
          · exact onlyRecords event early
          · split at late
            · exact conclude_onlyLogs validator environment plan _ event late
            · cases late

/-- A view of events that hides log records shows of a run what its visits do. -/
theorem view_run
    {view : Event → Option shown}
    (hidden : ∀ record, view (.logged record) = none)
    (validator : Validator)
    (environment : Environment)
    (data context : Value) :
    (validator.run environment data context).written.filterMap view =
      (validator.course environment data context).flatMap
        (·.history.written.filterMap view) := by
  obtain ⟨before, after, written, onlyRecords⟩ :=
    written_run validator environment data context
  have unseen :
      ∀ event ∈ before ++ after, view event = none := by
    intro event member
    obtain ⟨record, rfl⟩ := onlyRecords event member
    exact hidden record
  rw [written, List.filterMap_append, List.filterMap_append,
    List.filterMap_eq_nil_iff.mpr fun event member =>
      unseen event (List.mem_append_left _ member),
    List.filterMap_eq_nil_iff.mpr fun event member =>
      unseen event (List.mem_append_right _ member),
    List.filterMap_flatMap]
  simp

/-- All that a run records, it records in its visits. -/
theorem entries_run
    (validator : Validator)
    (environment : Environment)
    (data context : Value) :
    (validator.run environment data context).written.filterMap
        Event.entry? =
      (validator.course environment data context).flatMap
        Visit.entries :=
  view_run (fun _ => rfl) validator environment data context

/-- All that a run calls, it calls in its visits. -/
theorem calls_run
    (validator : Validator)
    (environment : Environment)
    (data context : Value) :
    (validator.run environment data context).written.filterMap
        Event.call? =
      (validator.course environment data context).flatMap
        Visit.calls :=
  view_run (fun _ => rfl) validator environment data context

end Validator

end FormCheck
