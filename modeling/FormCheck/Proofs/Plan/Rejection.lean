import FormCheck.Proofs.Plan.Acceptance
import FormCheck.Proofs.StepTrace

namespace FormCheck

/-!
# Rejections are logged

A plan is rejected in many places, and each of them logs one error first. What is
written, sorted and listed on the way may stop a computation too, but that
rejects no plan and logs no error.
-/

/-! ## What is written, sorted and listed -/

namespace NeverRejects

/-- Writing a value rejects no plan. -/
theorem written
    (value : Value) :
    NeverRejects value.written := by
  intro fault stopped
  rw [Value.eq_tooManyDigits_of_written value fault stopped]
  exact id

/-- Writing an integer rejects no plan. -/
theorem integerText
    (number : Int) :
    NeverRejects (Number.integerText number) := by
  intro fault stopped
  rw [Number.eq_tooManyDigits_of_integerText stopped]
  exact id

/-- Sorting values rejects no plan. -/
theorem sorted
    (values : List Value) :
    NeverRejects (Value.sorted values) := by
  intro fault stopped
  rw [(Value.sorted_eq_error_iff.mp stopped).2]
  exact id

/-- Listing the keys of a mapping rejects no plan. -/
theorem keyListing
    (mapping : Value) :
    NeverRejects (Validator.keyListing mapping) := by
  have keys : NeverRejects mapping.keys := by
    unfold Value.keys
    split
    · exact ok _
    · exact error id
  exact bind keys fun _ => bind (sorted _) fun _ => written _

end NeverRejects

/-! ## Computations that own up to a rejection -/

/-- Whether a record is neither an error, nor for information, nor about a step. -/
structure Log.Record.IsAside
    (name : String)
    (record : Log.Record) : Prop where
  notError : record.level ≠ .error
  notInfo : record.level ≠ .info
  notOfStep : record.isOfStep name = false

/--
A computation owns up if it logs an error exactly if it rejects a plan, and then
one, as its last record. All other records are asides.
-/
inductive OwnsUp
    (name : String) :
    Logged answer → Prop where
  | quiet
      {computation : Logged answer}
      (asides : ∀ record ∈ computation.written, record.IsAside name)
      (never : NeverRejects computation.ended) :
      OwnsUp name computation
  | rejecting
      (earlier : List Log.Record)
      (complaint : Log.Record)
      (fault : Fault)
      (asides : ∀ record ∈ earlier, record.IsAside name)
      (isError : complaint.level = .error)
      (isRejection : fault.IsRejection) :
      OwnsUp name ⟨earlier ++ [complaint], .error fault⟩

namespace OwnsUp

variable {name : String}

/-- A computation that logs nothing and rejects no plan owns up. -/
theorem lift
    {computation : Except Fault answer}
    (never : NeverRejects computation) :
    OwnsUp name (liftM computation : Logged answer) :=
  .quiet (fun _ member => nomatch member) never

/-- An answer owns up. -/
theorem pure
    (value : answer) :
    OwnsUp name (Pure.pure value : Logged answer) :=
  lift (.ok value)

/-- Logging an aside owns up. -/
theorem write
    {record : Log.Record}
    (isAside : record.IsAside name) :
    OwnsUp name (Journal.write record) := by
  refine .quiet (fun other member => ?_) (.ok ())
  rwa [List.mem_singleton.mp member]

/-- Logging an error and rejecting a plan owns up. -/
theorem reject
    {complaint : Log.Record}
    {fault : Fault}
    (isError : complaint.level = .error)
    (isRejection : fault.IsRejection) :
    OwnsUp name (do
      Journal.write complaint
      Journal.stop fault : Logged answer) :=
  .rejecting [] complaint fault nofun isError isRejection

/-- A computation in two parts owns up if both parts do. -/
theorem bind
    {leading : Logged first}
    {continuation : first → Logged second}
    (leads : OwnsUp name leading)
    (continues : ∀ value, OwnsUp name (continuation value)) :
    OwnsUp name (leading >>= continuation) := by
  cases leads with
  | rejecting earlier complaint fault asides isError isRejection =>
      rw [Journal.bind_of_error rfl]
      exact .rejecting earlier complaint fault asides isError isRejection
  | quiet asides never =>
      cases ended : leading.ended with
      | error fault =>
          rw [Journal.bind_of_error ended]
          exact .quiet asides (.error (never fault ended))
      | ok value =>
          rw [Journal.bind_of_ok ended]
          have later := continues value
          generalize continuation value = continued at later
          -- The asides of the first part go before those of the second.
          cases later with
          | quiet laterAsides laterNever =>
              exact .quiet
                (List.forall_mem_append.mpr ⟨asides, laterAsides⟩)
                laterNever
          | rejecting earlier complaint fault laterAsides isError
              isRejection =>
              dsimp only
              rw [← List.append_assoc]
              exact .rejecting _ complaint fault
                (List.forall_mem_append.mpr ⟨asides, laterAsides⟩)
                isError isRejection

end OwnsUp

/-! ## Plans -/

namespace Log.Record

variable {name : String}

/-- A record about plans is an aside unless it is an error or for information. -/
theorem isAside_of_planning
    {level : Level}
    {message : String}
    (notError : level ≠ .error)
    (notInfo : level ≠ .info) :
    IsAside name ⟨level, planning, message⟩ where
  notError := notError
  notInfo := notInfo
  notOfStep := by
    have otherSource : planning ≠ engine := by
      decide
    simp [isOfStep, otherSource]

/-- A record of a validator that names no step is an aside. -/
theorem isAside_of_engine
    {rest : String}
    (apart : Report.startsWith rest " step[" = false) :
    IsAside name ⟨.debug, engine, name ++ rest⟩ where
  notError := Level.noConfusion
  notInfo := Level.noConfusion
  notOfStep := by
    have cancelled :
        Report.startsWith (name ++ rest) (name ++ " step[") =
          Report.startsWith rest " step[" := by
      rw [Bool.eq_iff_iff, Report.startsWith_iff, Report.startsWith_iff,
        String.toList_append, String.toList_append,
        List.prefix_append_right_inj]
    unfold isOfStep
    rw [cancelled, apart, Bool.and_false]

end Log.Record

namespace OwnsUp

variable {name : String}

/-- Refusing a plan owns up. -/
theorem refuse
    (message : String)
    (step : Option Int) :
    OwnsUp name (Plan.refuse message step : Logged answer) :=
  reject rfl trivial

/-- Refusing a plan for a step owns up. -/
theorem refuseStep
    (message : String)
    (index : Int)
    (ending : String) :
    OwnsUp name (Plan.refuseStep message index ending : Logged answer) :=
  bind (lift (.integerText index)) fun _ => refuse _ _

/-- Warning of unknown keys owns up. -/
theorem warnOfUnknownKeys
    (entries : Entries)
    (index : Int) :
    OwnsUp name (Plan.warnOfUnknownKeys entries index) := by
  unfold Plan.warnOfUnknownKeys
  dsimp only
  split
  · exact pure ()
  · refine bind (lift (.sorted _)) fun _ => ?_
    refine bind (lift (.written _)) fun _ => ?_
    refine bind (lift (.integerText index)) fun _ => ?_
    exact write (Log.Record.isAside_of_planning nofun nofun)

/-- Reading the field and the method of a raw step owns up. -/
theorem fieldAndMethod
    (entries : Entries)
    (index : Int) :
    OwnsUp name (Plan.fieldAndMethod entries index) := by
  unfold Plan.fieldAndMethod
  split
  · exact refuseStep ..
  · exact refuseStep ..
  · split
    · exact refuseStep ..
    · split
      · exact refuseStep ..
      · exact pure _

/-- Reading the input keys of a raw step owns up. -/
theorem inputsOf
    (entries : Entries)
    (field : String)
    (index : Int) :
    OwnsUp name (Plan.inputsOf entries field index) := by
  unfold Plan.inputsOf
  split
  · exact pure _
  · split
    · exact refuseStep ..
    · split
      · exact pure _
      · exact refuseStep ..

/-- Reading the extra arguments of a raw step owns up. -/
theorem argumentsOf
    (entries : Entries)
    (field : String)
    (index : Int) :
    OwnsUp name (Plan.argumentsOf entries field index) := by
  unfold Plan.argumentsOf
  split
  · exact pure _
  · split
    · exact refuse ..
    · exact pure _

/-- Reading whether the inputs of a raw step are required owns up. -/
theorem requiredOf
    (entries : Entries)
    (field : String)
    (index : Int) :
    OwnsUp name (Plan.requiredOf entries field index) := by
  unfold Plan.requiredOf
  split
  · exact pure _
  · exact pure _
  · exact refuse ..

/-- Reading the message of a raw step owns up. -/
theorem messageOf
    (settings : Settings)
    (entries : Entries)
    (field : String)
    (index : Int) :
    OwnsUp name (Plan.messageOf settings entries field index) := by
  unfold Plan.messageOf
  dsimp only
  split
  · exact pure _
  · exact refuse ..

/-- Finding the capability of a raw step owns up. -/
theorem capabilityOf
    (registry : Registry)
    (method : String)
    (index : Int) :
    OwnsUp name (Plan.capabilityOf registry method index) := by
  unfold Plan.capabilityOf
  split
  · exact pure _
  · exact bind (lift (.integerText index)) fun _ => reject rfl trivial

/-- Normalising a step owns up. -/
theorem normalizeStep
    (settings : Settings)
    (registry : Registry)
    (raw : Value)
    (index : Int) :
    OwnsUp name (Plan.normalizeStep settings registry raw index) := by
  unfold Plan.normalizeStep
  split
  · refine bind (warnOfUnknownKeys _ index) fun _ => ?_
    refine bind (fieldAndMethod _ index) fun (field, method) => ?_
    refine bind (inputsOf _ field index) fun inputs => ?_
    refine bind (argumentsOf _ field index) fun arguments => ?_
    refine bind (requiredOf _ field index) fun isRequired => ?_
    refine bind (messageOf settings _ field index) fun message => ?_
    exact bind (capabilityOf registry method index) fun _ => pure _
  · exact refuseStep ..

/-- Normalising some steps owns up. -/
theorem normalizeFrom
    (settings : Settings)
    (registry : Registry)
    (raws : List Value)
    (index : Nat) :
    OwnsUp name (Plan.normalizeFrom settings registry raws index) := by
  induction raws generalizing index with
  | nil =>
      exact pure _
  | cons raw rest inductionHypothesis =>
      exact bind (normalizeStep settings registry raw index) fun _ =>
        bind (inductionHypothesis (index + 1)) fun _ => pure _

/-- Normalising a plan owns up. -/
theorem normalize
    (settings : Settings)
    (registry : Registry)
    (raw : Value) :
    OwnsUp name (Plan.normalize settings registry raw) := by
  unfold Plan.normalize
  split
  · exact refuse ..
  · dsimp only
    split
    -- Without a gate the plan is rejected before its steps are looked at.
    · exact .rejecting [] _ _ nofun rfl trivial
    · exact normalizeFrom settings registry _ 0

/-- Opening a run of a fixed plan owns up. -/
theorem opening
    (name : String)
    (registry : Registry)
    (raw : Value)
    (environment : Environment)
    (data context : Value) :
    OwnsUp name
      ((Validator.fixed name registry raw).opening environment data
        context) := by
  have announces :
      OwnsUp name ((Validator.fixed name registry raw).announce data) := by
    refine bind (lift (.keyListing data)) fun listing => write ?_
    rw [String.append_assoc]
    refine Log.Record.isAside_of_engine ?_
    rw [Report.startsWith, String.toList_append]
    rfl
  refine bind announces fun _ => ?_
  refine bind (pure raw) fun raw => ?_
  refine bind (normalize environment.settings registry raw) fun plan => ?_
  refine bind (lift (.written _)) fun description => ?_
  refine bind (write ?_) fun _ => pure plan
  rw [String.append_assoc]
  refine Log.Record.isAside_of_engine ?_
  rw [Report.startsWith, String.toList_append]
  rfl

end OwnsUp

end FormCheck
