import FormCheck.Proofs.Decomposition
import FormCheck.Proofs.Plan.RawStep

namespace FormCheck

/-!
# Acceptable plans

A raw plan is accepted as a whole or rejected as a whole. It is accepted exactly
if it is a sequence of well-formed raw steps with registered methods, and then
each raw step gives one step. The first raw step that is at fault rejects it,
by its index. A run of a rejected plan ends with the rejection before any gate
or capability is reached. Nothing else stops a plan but unknown keys that are
not texts, which can upset the warning about them.
-/

namespace Plan

/-- The keys of the mappings among the steps of a raw plan are texts. -/
def HasTextualKeys
    (raw : Value) : Prop :=
  ∀ items, raw.IsSequenceOf items →
    ∀ entries, Value.dict entries ∈ items →
      ∀ key ∈ entries.map Prod.fst, key.IsText

/-- The number of the steps of a raw plan has few enough digits to be written. -/
def IsCountable
    (raw : Value) : Prop :=
  ∀ items, raw.IsSequenceOf items →
    Number.isWritable items.length = true

/-- A raw step is acceptable if it is a well-formed mapping with a registered method. -/
def IsAcceptableStep
    (settings : Settings)
    (registry : Registry)
    (raw : Value) : Prop :=
  ∃ entries,
    raw = .dict entries ∧
      IsWellFormed settings entries ∧
        ∃ method,
          (entryAt entries "method").Names method ∧
            ∃ capability, registry.find? method = some capability

/--
A raw plan is acceptable if it is a sequence of acceptable steps and, unless it
is empty, the check of required inputs is registered.
-/
def IsAcceptable
    (settings : Settings)
    (registry : Registry)
    (raw : Value) : Prop :=
  ∃ items,
    raw.IsSequenceOf items ∧
      (items ≠ [] → registry.has Registry.requiredName = true) ∧
        ∀ item ∈ items, IsAcceptableStep settings registry item

/-- A raw step gives a step if it is a mapping that stands for it. -/
def Gives
    (settings : Settings)
    (registry : Registry)
    (raw : Value)
    (step : Step) : Prop :=
  ∃ entries, raw = .dict entries ∧ StandsFor settings registry entries step

/-- The fault that tells what a raw plan is rejected for. -/
inductive Blames
    (settings : Settings)
    (registry : Registry)
    (raw : Value) :
    Fault → Prop where
  | noSequence
      (message : String)
      (isOther : ∀ items, ¬raw.IsSequenceOf items) :
      Blames settings registry raw (.malformedPlan message none)
  | noGate
      (message : String)
      (items : List Value)
      (isSequence : raw.IsSequenceOf items)
      (notEmpty : items ≠ [])
      (absent : registry.find? Registry.requiredName = none) :
      Blames settings registry raw
        (.unknownCapability Registry.requiredName none message)
  | step
      (before : List Value)
      (item : Value)
      (after : List Value)
      (fault : Fault)
      (isSequence : raw.IsSequenceOf (before ++ item :: after))
      (hasGate : registry.has Registry.requiredName = true)
      (acceptable :
        ∀ earlier ∈ before, IsAcceptableStep settings registry earlier)
      (rejected :
        Rejection settings registry before.length item fault) :
      Blames settings registry raw fault

section Steps

variable
  {settings : Settings}
  {registry : Registry}

/-- Raw steps are normalised exactly as the steps that they are accepted as. -/
theorem normalizeFrom_answers_iff
    {items : List Value}
    {index : Nat}
    {plan : Plan}
    (countable : Number.isWritable (index + items.length : Nat) = true) :
    (normalizeFrom settings registry items index).ended = .ok plan ↔
      List.Forall₂ (IsAcceptedAs settings registry) items plan := by
  induction items generalizing index plan with
  | nil =>
      simp [normalizeFrom, eq_comm]
  | cons item rest inductionHypothesis =>
      have here : Number.isWritable index = true :=
        Number.isWritable_of_le (Nat.le_add_right _ _) countable
      have later :
          Number.isWritable (index + 1 + rest.length : Nat) = true := by
        rw [Nat.add_right_comm]
        exact countable
      simp only [normalizeFrom, Journal.ended_bind_eq_ok_iff,
        normalizeStep_answers_iff here, inductionHypothesis later,
        List.forall₂_cons_left_iff]
      constructor
      · rintro ⟨step, accepted, steps, others, complete⟩
        cases complete
        exact ⟨step, steps, accepted, others, rfl⟩
      · rintro ⟨step, steps, accepted, others, rfl⟩
        exact ⟨step, accepted, steps, others, rfl⟩

/--
The normalising of raw steps stops exactly with the fault of the first one that
is not accepted.
-/
theorem normalizeFrom_stops_iff
    {items : List Value}
    {index : Nat}
    {fault : Fault}
    (countable : Number.isWritable (index + items.length : Nat) = true) :
    (normalizeFrom settings registry items index).ended = .error fault ↔
      ∃ before item after,
        items = before ++ item :: after ∧
          (∀ earlier ∈ before,
            ∃ step, IsAcceptedAs settings registry earlier step) ∧
            (normalizeStep settings registry item
              (index + before.length : Nat)).ended = .error fault := by
  induction items generalizing index with
  | nil =>
      simp [normalizeFrom]
  | cons item rest inductionHypothesis =>
      have here : Number.isWritable index = true :=
        Number.isWritable_of_le (Nat.le_add_right _ _) countable
      have later :
          Number.isWritable (index + 1 + rest.length : Nat) = true := by
        rw [Nat.add_right_comm]
        exact countable
      simp only [normalizeFrom, Journal.ended_bind_eq_error_iff,
        normalizeStep_answers_iff here, inductionHypothesis later]
      constructor
      · rintro (first | ⟨step, accepted, stopped | ⟨steps, _, complete⟩⟩)
        · exact ⟨[], item, rest, rfl, nofun, first⟩
        · obtain ⟨before, next, after, rfl, earlier, stopped⟩ := stopped
          refine ⟨item :: before, next, after, rfl, ?_, ?_⟩
          · exact List.forall_mem_cons.mpr ⟨⟨step, accepted⟩, earlier⟩
          · rw [List.length_cons, Nat.add_comm before.length, ← Nat.add_assoc]
            exact stopped
        · cases complete
      · rintro ⟨before, next, after, split, earlier, stopped⟩
        cases before with
        | nil =>
            cases split
            exact .inl stopped
        | cons first before =>
            cases split
            obtain ⟨⟨step, accepted⟩, others⟩ :=
              List.forall_mem_cons.mp earlier
            refine .inr ⟨step, accepted, .inl ?_⟩
            refine ⟨before, next, after, rfl, others, ?_⟩
            rw [Nat.add_assoc, Nat.add_comm 1]
            exact stopped

end Steps

section Wholes

variable
  {settings : Settings}
  {registry : Registry}
  {raw : Value}
  {items : List Value}

/-- What is no sequence is refused without a step to blame. -/
theorem normalize_of_noSequence
    (isOther : ∀ items, ¬raw.IsSequenceOf items) :
    (normalize settings registry raw).ended =
      .error
        (.malformedPlan
          ("Validation plan must be a list, got " ++ raw.kindName) none) := by
  unfold normalize
  rw [sequence?_eq_none_iff.mpr isOther]
  rfl

/-- A sequence of steps is refused if the check of required inputs is missing. -/
theorem normalize_of_noGate
    (isSequence : raw.IsSequenceOf items)
    (notEmpty : items ≠ [])
    (absent : registry.find? Registry.requiredName = none) :
    (normalize settings registry raw).ended =
      .error
        (.unknownCapability Registry.requiredName none
          (unregisteredMessage Registry.requiredName "None")) := by
  have missing :
      (!items.isEmpty && !registry.has Registry.requiredName) = true := by
    simp [Registry.has, absent, notEmpty]
  unfold normalize
  rw [sequence?_eq_some_iff.mpr isSequence]
  dsimp only
  rw [if_pos missing]
  rfl

/-- Otherwise a sequence is normalised step by step. -/
theorem normalize_of_gate
    (isSequence : raw.IsSequenceOf items)
    (gate : items ≠ [] → registry.has Registry.requiredName = true) :
    normalize settings registry raw =
      normalizeFrom settings registry items 0 := by
  have present :
      ¬(!items.isEmpty && !registry.has Registry.requiredName) = true := by
    cases items with
    | nil =>
        simp
    | cons item rest =>
        simp [gate (List.cons_ne_nil item rest)]
  unfold normalize
  rw [sequence?_eq_some_iff.mpr isSequence]
  dsimp only
  rw [if_neg present]

/-- The steps of a countable plan can be numbered from zero on. -/
theorem IsCountable.fromZero
    (countable : IsCountable raw)
    (isSequence : raw.IsSequenceOf items) :
    Number.isWritable (0 + items.length : Nat) = true := by
  rw [Nat.zero_add]
  exact countable items isSequence

/-- A raw plan is no sequence, lacks the check of required inputs, or has what it needs. -/
theorem shape_cases
    (registry : Registry)
    (raw : Value) :
    (∀ items, ¬raw.IsSequenceOf items) ∨
      (∃ items,
        raw.IsSequenceOf items ∧
          items ≠ [] ∧ registry.find? Registry.requiredName = none) ∨
        ∃ items,
          raw.IsSequenceOf items ∧
            (items ≠ [] → registry.has Registry.requiredName = true) := by
  by_cases isOther : ∀ items, ¬raw.IsSequenceOf items
  · exact .inl isOther
  simp only [not_forall, not_not] at isOther
  obtain ⟨items, isSequence⟩ := isOther
  by_cases gate : items ≠ [] → registry.has Registry.requiredName = true
  · exact .inr (.inr ⟨items, isSequence, gate⟩)
  · simp only [Classical.not_imp, Registry.has,
      Option.not_isSome_iff_eq_none] at gate
    exact .inr (.inl ⟨items, isSequence, gate⟩)

/--
Raw plans are normalised exactly if they are sequences of accepted steps, with
the check of required inputs.
-/
theorem normalize_answers_iff
    {plan : Plan}
    (countable : IsCountable raw) :
    (normalize settings registry raw).ended = .ok plan ↔
      ∃ items,
        raw.IsSequenceOf items ∧
          (items ≠ [] → registry.has Registry.requiredName = true) ∧
            List.Forall₂ (IsAcceptedAs settings registry) items plan := by
  constructor
  · intro answered
    rcases shape_cases registry raw with
      isOther | ⟨items, isSequence, notEmpty, absent⟩ |
        ⟨items, isSequence, gate⟩
    · rw [normalize_of_noSequence isOther] at answered
      cases answered
    · rw [normalize_of_noGate isSequence notEmpty absent] at answered
      cases answered
    · rw [normalize_of_gate isSequence gate,
        normalizeFrom_answers_iff (countable.fromZero isSequence)] at answered
      exact ⟨items, isSequence, gate, answered⟩
  · rintro ⟨items, isSequence, gate, accepted⟩
    rw [normalize_of_gate isSequence gate,
      normalizeFrom_answers_iff (countable.fromZero isSequence)]
    exact accepted

/-- A raw step that is accepted is acceptable. -/
theorem IsAcceptedAs.isAcceptableStep
    {item : Value}
    {step : Step}
    (accepted : IsAcceptedAs settings registry item step) :
    IsAcceptableStep settings registry item := by
  obtain ⟨entries, rfl, _, stands⟩ := accepted
  exact ⟨entries, rfl, exists_standsFor_iff.mp ⟨step, stands⟩⟩

/--
A raw plan that is not normalised is rejected for its shape or stops with the
fault of its first step that is not accepted.
-/
theorem normalize_stops_cases
    {fault : Fault}
    (countable : IsCountable raw)
    (stopped : (normalize settings registry raw).ended = .error fault) :
    Blames settings registry raw fault ∨
      ∃ before item after,
        raw.IsSequenceOf (before ++ item :: after) ∧
          registry.has Registry.requiredName = true ∧
            (∀ earlier ∈ before,
              ∃ step, IsAcceptedAs settings registry earlier step) ∧
              UpsetByKeys item fault := by
  rcases shape_cases registry raw with
    isOther | ⟨items, isSequence, notEmpty, absent⟩ |
      ⟨items, isSequence, gate⟩
  · rw [normalize_of_noSequence isOther] at stopped
    cases stopped
    exact .inl (.noSequence _ isOther)
  · rw [normalize_of_noGate isSequence notEmpty absent] at stopped
    cases stopped
    exact .inl (.noGate _ items isSequence notEmpty absent)
  · rw [normalize_of_gate isSequence gate,
      normalizeFrom_stops_iff (countable.fromZero isSequence)] at stopped
    obtain ⟨before, item, after, rfl, earlier, stopped⟩ := stopped
    have hasGate := gate (List.append_ne_nil_of_right_ne_nil _ nofun)
    rw [Nat.zero_add] at stopped
    have here : Number.isWritable before.length = true :=
      Number.isWritable_of_le (by simp) (countable _ isSequence)
    rcases normalizeStep_stops here stopped with upset | rejected
    · exact .inr ⟨before, item, after, isSequence, hasGate, earlier, upset⟩
    · refine .inl (.step before item after fault isSequence hasGate ?_ rejected)
      intro first member
      obtain ⟨step, accepted⟩ := earlier first member
      exact accepted.isAcceptableStep

/-- Unknown keys that upset their listing stop the normalising of a plan. -/
theorem normalize_of_upsetByKeys
    {fault : Fault}
    {before after : List Value}
    {item : Value}
    (countable : IsCountable raw)
    (isSequence : raw.IsSequenceOf (before ++ item :: after))
    (hasGate : registry.has Registry.requiredName = true)
    (earlier :
      ∀ earlier ∈ before,
        ∃ step, IsAcceptedAs settings registry earlier step)
    (upset : UpsetByKeys item fault) :
    (normalize settings registry raw).ended = .error fault := by
  have here : Number.isWritable before.length = true :=
    Number.isWritable_of_le (by simp) (countable _ isSequence)
  rw [normalize_of_gate isSequence fun _ => hasGate,
    normalizeFrom_stops_iff (countable.fromZero isSequence)]
  refine ⟨before, item, after, rfl, earlier, ?_⟩
  rw [Nat.zero_add]
  exact normalizeStep_of_upsetByKeys here upset

/-- Unknown keys are keys. -/
theorem mem_keys_of_mem_unknownKeys
    {entries : Entries}
    {key : Value}
    (member : key ∈ unknownKeys entries) :
    key ∈ entries.map Prod.fst :=
  (List.mem_filter.mp member).1

end Wholes

end Plan

namespace Validator

/-- A run of a plan that is not normalised logs, and ends with that fault. -/
theorem run_of_normalize_error
    {validator : Validator}
    {environment : Environment}
    {data context raw : Value}
    {fault : Fault}
    (isRecord : data.IsRecord)
    (declared :
      (validator.rawPlan environment data
          (context.orElse (.dict []))).ended =
        .ok raw)
    (stopped :
      (Plan.normalize environment.settings validator.registry raw).ended =
        .error fault) :
    (validator.run environment data context).ended = .error fault ∧
      ∀ event ∈ (validator.run environment data context).written,
        ∃ record, event = .logged record := by
  have built :
      (validator.buildPlan environment data context).ended =
        .error fault := by
    refine Journal.ended_bind_eq_error_iff.mpr (.inr ⟨raw, declared, ?_⟩)
    exact Journal.ended_bind_eq_error_iff.mpr (.inl stopped)
  have opened :
      (validator.opening environment data context).ended = .error fault :=
    Journal.ended_bind_eq_error_iff.mpr
      (.inr ⟨(), announce_of_isRecord validator isRecord, built⟩)
  have runs :
      validator.run environment data context =
        ⟨(validator.opening environment data context).written.map
          Event.logged, .error fault⟩ := by
    refine run_of_opening_error ?_
    rw [← opened]
  rw [runs]
  refine ⟨rfl, fun event member => ?_⟩
  obtain ⟨record, _, rfl⟩ := List.mem_map.mp member
  exact ⟨record, rfl⟩

end Validator

namespace Plan

section Decisions

variable
  {settings : Settings}
  {registry : Registry}
  {raw : Value}

/-- Textual unknown keys can be listed. -/
theorem HasTextualKeys.areListable
    {items : List Value}
    {entries : Entries}
    (textual : HasTextualKeys raw)
    (isSequence : raw.IsSequenceOf items)
    (member : .dict entries ∈ items) :
    AreListable (unknownKeys entries) :=
  areListable_of_isText fun key unknown =>
    textual items isSequence entries member key
      (mem_keys_of_mem_unknownKeys unknown)

/--
A raw plan with textual keys is normalised exactly if it is acceptable, and then
each of its steps gives one step of the plan, in order. Otherwise the fault is
that of its shape or of the first step that is not acceptable, and every run
with this plan ends with it before it has called a capability or recorded
anything.
-/
theorem normalize_decides
    (settings : Settings)
    (registry : Registry)
    (textual : HasTextualKeys raw)
    (countable : IsCountable raw) :
    ((∃ plan, (normalize settings registry raw).ended = .ok plan) ↔
        IsAcceptable settings registry raw) ∧
      (∀ plan items,
        (normalize settings registry raw).ended = .ok plan →
          raw.IsSequenceOf items →
            List.Forall₂ (Gives settings registry) items plan) ∧
      ∀ fault,
        (normalize settings registry raw).ended = .error fault →
          Blames settings registry raw fault ∧
            ∀ (validator : Validator) (environment : Environment)
              (data context : Value),
              environment.settings = settings →
                validator.registry = registry →
                  data.IsRecord →
                    (validator.rawPlan environment data
                        (context.orElse (.dict []))).ended =
                      .ok raw →
                    (validator.run environment data context).ended =
                        .error fault ∧
                      ∀ event ∈
                        (validator.run environment data context).written,
                        ∃ record, event = .logged record := by
  refine ⟨⟨?_, ?_⟩, ?_, ?_⟩
  · rintro ⟨plan, answered⟩
    obtain ⟨items, isSequence, gate, accepted⟩ :=
      (normalize_answers_iff countable).mp answered
    refine ⟨items, isSequence, gate, fun item member => ?_⟩
    obtain ⟨step, isAccepted⟩ :=
      exists_forall₂_iff.mp ⟨plan, accepted⟩ item member
    exact isAccepted.isAcceptableStep
  · rintro ⟨items, isSequence, gate, acceptable⟩
    have accepted :
        ∃ plan, List.Forall₂ (IsAcceptedAs settings registry) items plan := by
      refine exists_forall₂_iff.mpr fun item member => ?_
      obtain ⟨entries, rfl, wellFormed⟩ := acceptable item member
      obtain ⟨step, stands⟩ := exists_standsFor_iff.mpr wellFormed
      have listable := textual.areListable isSequence member
      exact ⟨step, entries, rfl, listable, stands⟩
    obtain ⟨plan, areAccepted⟩ := accepted
    exact ⟨plan, (normalize_answers_iff countable).mpr
      ⟨items, isSequence, gate, areAccepted⟩⟩
  · intro plan items answered isSequence
    obtain ⟨others, isOther, _, accepted⟩ :=
      (normalize_answers_iff countable).mp answered
    rw [isSequence.unique isOther]
    refine accepted.imp fun item step isAccepted => ?_
    obtain ⟨entries, isMapping, _, stands⟩ := isAccepted
    exact ⟨entries, isMapping, stands⟩
  · intro fault stopped
    refine ⟨?_, ?_⟩
    · rcases normalize_stops_cases countable stopped with
        blamed | ⟨before, item, after, isSequence, _, _, upset⟩
      · exact blamed
      · obtain ⟨entries, rfl, upset⟩ := upset
        have listable : AreListable (unknownKeys entries) :=
          textual.areListable isSequence (by simp)
        exact absurd upset listable.not_upset
    · rintro validator environment data context rfl rfl isRecord declared
      exact Validator.run_of_normalize_error isRecord declared stopped

/-- A raw step with an input of its own, and with a key that steps may not have. -/
def colouredStep : Entries :=
  [(.text "method", .text "validate_integer"), (.text "field", .text "age"),
    (.text "fields", .tuple [.text "years"]), (.text "colour", .text "red"),
    (.text "requiredMsg", .null)]

/-- A plan with this step is acceptable, so it is normalised. -/
theorem normalize_decides_coloured :
    HasTextualKeys (.tuple [.dict colouredStep]) ∧
      IsCountable (.tuple [.dict colouredStep]) ∧
        ∃ plan,
          (normalize {} Registry.standard
              (.tuple [.dict colouredStep])).ended =
            .ok plan ∧
            List.Forall₂ (Gives {} Registry.standard)
              [.dict colouredStep] plan := by
  have isSequence :
      (Value.tuple [.dict colouredStep]).IsSequenceOf
        [.dict colouredStep] :=
    .inr rfl
  have textual : HasTextualKeys (.tuple [.dict colouredStep]) := by
    intro items isOther entries member key isKey
    rw [isOther.unique isSequence, List.mem_singleton] at member
    cases member
    have isText : ∀ key ∈ colouredStep.map Prod.fst, key.IsText := by
      simp [colouredStep, Value.IsText]
    obtain ⟨characters, rfl⟩ := isText key isKey
    exact ⟨characters, rfl⟩
  have countable : IsCountable (.tuple [.dict colouredStep]) := by
    intro items isOther
    rw [isOther.unique isSequence]
    exact Number.isWritable_of_lt (by decide)
  have wellFormed : IsWellFormed {} colouredStep :=
    { field := ⟨"age", rfl, by decide⟩
      method := ⟨"validate_integer", rfl, by decide⟩
      inputs :=
        ⟨"age", ["years"],
          .listed [.text "years"] ["years"] (.inr rfl) (by simp)
            (.cons ⟨rfl, by decide⟩ .nil)⟩
      arguments := ⟨[], .leftOut rfl⟩
      isRequired := ⟨false, .leftOut rfl⟩
      message := ⟨"This field is required", .leftOut rfl rfl⟩ }
  have registered :
      (Registry.standard.find? "validate_integer").isSome = true := by
    decide +kernel
  have acceptable :
      IsAcceptable {} Registry.standard (.tuple [.dict colouredStep]) := by
    refine ⟨_, isSequence, fun _ => by decide +kernel, ?_⟩
    intro item member
    rw [List.mem_singleton] at member
    exact ⟨colouredStep, member, wellFormed, "validate_integer",
      ⟨rfl, by decide⟩, Option.isSome_iff_exists.mp registered⟩
  have decides := normalize_decides {} Registry.standard textual countable
  obtain ⟨plan, normalized⟩ := decides.1.mpr acceptable
  exact ⟨textual, countable, plan, normalized,
    decides.2.1 plan _ normalized isSequence⟩

end Decisions

end Plan

/-- A fault rejects a plan if the plan is malformed or lacks a capability. -/
def Fault.IsRejection : Fault → Prop
  | .malformedPlan _ _ | .unknownCapability _ _ _ => True
  | _ => False

/-- Whether a computation does not stop with the rejection of a plan. -/
def NeverRejects
    (ended : Except Fault answer) : Prop :=
  ∀ fault, ended = .error fault → ¬fault.IsRejection

namespace NeverRejects

/-- An answer rejects nothing. -/
theorem ok
    (value : answer) :
    NeverRejects (.ok value) := by
  rintro _ ⟨⟩

/-- A fault that is no rejection rejects nothing. -/
theorem error
    {fault : Fault}
    (other : ¬fault.IsRejection) :
    NeverRejects (.error fault : Except Fault answer) := by
  rintro _ ⟨⟩
  exact other

/-- A computation in two parts rejects no plan if neither part does. -/
theorem bind
    {leading : Except Fault first}
    {continuation : first → Except Fault second}
    (leads : NeverRejects leading)
    (continues : ∀ value, NeverRejects (continuation value)) :
    NeverRejects (leading >>= continuation) := by
  intro fault stopped
  rcases Except.bind_eq_error_iff.mp stopped with here | ⟨value, _, later⟩
  · exact leads fault here
  · exact continues value fault later

/-- A computation on each member rejects no plan if it never does. -/
theorem mapM
    {computation : item → Except Fault answer}
    (never : ∀ member, NeverRejects (computation member))
    (members : List item) :
    NeverRejects (members.mapM computation) := by
  induction members with
  | nil =>
      exact ok _
  | cons member rest inductionHypothesis =>
      rw [List.mapM_cons]
      exact bind (never member) fun _ =>
        bind inductionHypothesis fun _ => ok _

/-- A fold rejects no plan if its step never does. -/
theorem foldlM
    {step : state → item → Except Fault state}
    (never : ∀ reached member, NeverRejects (step reached member))
    (members : List item)
    (reached : state) :
    NeverRejects (members.foldlM step reached) := by
  induction members generalizing reached with
  | nil =>
      exact ok _
  | cons member rest inductionHypothesis =>
      rw [List.foldlM_cons]
      exact bind (never reached member) inductionHypothesis

end NeverRejects

namespace Plan

section Escapes

variable
  {settings : Settings}
  {registry : Registry}
  {raw : Value}
  {fault : Fault}

/-- What a raw plan is rejected for is a rejection. -/
theorem Blames.isRejection
    (blamed : Blames settings registry raw fault) :
    fault.IsRejection := by
  cases blamed with
  | noSequence =>
      trivial
  | noGate =>
      trivial
  | step before item after fault _ _ _ rejected =>
      cases rejected <;> trivial

/-- What upsets the listing of keys is no rejection. -/
theorem Upset.not_isRejection
    {keys : List Value}
    (upset : Upset keys fault) :
    ¬fault.IsRejection := by
  cases upset <;> exact id

/--
The normalising of a plan stops with something else than a rejection exactly if
the unknown keys of a step upset the warning about them before another step is
at fault: some two of these keys have no order, or they can be sorted but one
of them has too many digits.
-/
theorem escapes_iff_upsetByKeys
    (countable : IsCountable raw) :
    (normalize settings registry raw).ended = .error fault ∧
        ¬fault.IsRejection ↔
      ∃ before item after,
        raw.IsSequenceOf (before ++ item :: after) ∧
          registry.has Registry.requiredName = true ∧
            (∀ earlier ∈ before,
              ∃ step, IsAcceptedAs settings registry earlier step) ∧
              UpsetByKeys item fault := by
  constructor
  · rintro ⟨stopped, notRejection⟩
    rcases normalize_stops_cases countable stopped with blamed | upset
    · exact absurd blamed.isRejection notRejection
    · exact upset
  · rintro ⟨before, item, after, isSequence, hasGate, earlier, upset⟩
    refine ⟨normalize_of_upsetByKeys countable isSequence hasGate earlier
      upset, ?_⟩
    obtain ⟨entries, _, upset⟩ := upset
    exact upset.not_isRejection

/-- A complete raw step with a number and a text among its unknown keys. -/
def mixedStep : Entries :=
  [(.text "field", .text "a"), (.text "method", .text "validate_integer"),
    (.int 1, .int 2), (.text "x", .int 3)]

/-- The unknown keys of this step have no order. -/
theorem upsetByKeys_mixedStep :
    UpsetByKeys (.dict mixedStep) .unordered := by
  refine ⟨mixedStep, rfl, .unordered fun ordered => ?_⟩
  have unordered :
      Value.allComparable (unknownKeys mixedStep) = false := by
    decide +kernel
  rw [← Value.allComparable_iff, unordered] at ordered
  cases ordered

/-- A plan of one step can be counted. -/
theorem isCountable_singleton
    (item : Value) :
    IsCountable (.list [item]) := by
  intro items isSequence
  rw [isSequence.unique (.inl rfl)]
  exact Number.isWritable_of_lt (by simp)

/-- The missing order stops the plan of this step. -/
theorem escapes_iff_upsetByKeys_mixed :
    IsCountable (.list [.dict mixedStep]) ∧
      (normalize {} Registry.standard
          (.list [.dict mixedStep])).ended =
        .error .unordered := by
  have countable := isCountable_singleton (.dict mixedStep)
  have hasGate : Registry.standard.has Registry.requiredName = true := by
    decide +kernel
  have escapes :
      (normalize {} Registry.standard
            (.list [.dict mixedStep])).ended =
          .error .unordered ∧
        ¬Fault.unordered.IsRejection :=
    (escapes_iff_upsetByKeys countable).mpr
      ⟨[], .dict mixedStep, [], .inl rfl, hasGate, nofun,
        upsetByKeys_mixedStep⟩
  exact ⟨countable, escapes.1⟩

/-- So not every plan is normalised or rejected. -/
theorem not_forall_normalized_or_rejected :
    ¬∀ (settings : Settings) (registry : Registry) (raw : Value),
      (∃ plan, (normalize settings registry raw).ended = .ok plan) ∨
        ∃ fault,
          (normalize settings registry raw).ended = .error fault ∧
            fault.IsRejection := by
  intro decided
  have stopped :
      (normalize {} Registry.standard (.list [.dict mixedStep])).ended =
        .error .unordered := by
    have isSequence :
        (Value.list [.dict mixedStep]).IsSequenceOf
          ([] ++ .dict mixedStep :: []) :=
      .inl rfl
    exact normalize_of_upsetByKeys (isCountable_singleton _) isSequence
      (by decide +kernel) nofun upsetByKeys_mixedStep
  rcases decided {} Registry.standard (.list [.dict mixedStep]) with
    ⟨plan, answered⟩ | ⟨fault, rejected, isRejection⟩
  · rw [stopped] at answered
    cases answered
  · rw [stopped] at rejected
    cases rejected
    exact isRejection

end Escapes

end Plan

end FormCheck
