import FormCheck.Proofs.Plan.UnknownKeys

namespace FormCheck

/-!
# What a raw step declares

A raw step declares the parts of a step. A part that is left out has a default.
Each function that reads a part answers exactly with what is declared, and
refuses the plan for the step if nothing is. So a raw step is accepted exactly
if it stands for a step, and a fault tells what keeps it from doing so.
-/

namespace Value

/-- A value names something if it is a text that is not empty. -/
def Names
    (value : Value)
    (characters : String) : Prop :=
  value = .text characters ∧ characters ≠ ""

/-- A value is a sequence of its items if it is a list or a tuple of them. -/
def IsSequenceOf
    (value : Value)
    (items : List Value) : Prop :=
  value = .list items ∨ value = .tuple items

/-- A null value is no sequence. -/
theorem not_isSequenceOf_null
    {items : List Value} :
    ¬Value.null.IsSequenceOf items := by
  rintro (isSequence | isSequence) <;> cases isSequence

/-- A value is a sequence of one list of items only. -/
theorem IsSequenceOf.unique
    {value : Value}
    {items others : List Value}
    (isSequence : value.IsSequenceOf items)
    (isOther : value.IsSequenceOf others) :
    items = others := by
  rcases isSequence with rfl | rfl
  · rcases isOther with same | same <;> cases same
    rfl
  · rcases isOther with same | same <;> cases same
    rfl

end Value

namespace Plan

/-- The characters of a value are those that it reads as. -/
theorem characters?_eq_some_iff
    {value : Value}
    {characters : String} :
    characters? value = some characters ↔ value = .text characters := by
  cases value <;> simp [characters?, eq_comm]

/-- The characters of a value that are not none are those of a name. -/
theorem properText?_eq_some_iff
    {value : Value}
    {characters : String} :
    properText? value = some characters ↔ value.Names characters := by
  unfold properText? Value.Names
  rw [Option.filter_eq_some_iff, characters?_eq_some_iff, decide_eq_true_iff]

/-- The names that some values are, one by one. -/
theorem properTexts?_eq_some_iff
    {values : List Value}
    {names : List String} :
    properTexts? values = some names ↔
      List.Forall₂ Value.Names values names := by
  unfold properTexts?
  induction values generalizing names with
  | nil =>
      simp [eq_comm]
  | cons value rest inductionHypothesis =>
      simp only [List.mapM_cons, Option.bind_eq_bind, Option.pure_def,
        Option.bind_eq_some_iff, properText?_eq_some_iff, inductionHypothesis,
        Option.some.injEq, List.forall₂_cons_left_iff]
      constructor
      · rintro ⟨name, isName, names, areNames, rfl⟩
        exact ⟨name, names, isName, areNames, rfl⟩
      · rintro ⟨name, names, isName, areNames, rfl⟩
        exact ⟨name, isName, names, areNames, rfl⟩

/-- The members of a sequence are its items. -/
theorem sequence?_eq_some_iff
    {value : Value}
    {items : List Value} :
    sequence? value = some items ↔ value.IsSequenceOf items := by
  unfold Value.IsSequenceOf
  cases value <;> simp [sequence?]

/-- What is no sequence has no members. -/
theorem sequence?_eq_none_iff
    {value : Value} :
    sequence? value = none ↔ ∀ items, ¬value.IsSequenceOf items := by
  rw [Option.eq_none_iff_forall_ne_some]
  exact forall_congr' fun items => not_congr sequence?_eq_some_iff

/-! ## Declarations -/

/-- The inputs that the value for them declares, the field alone by default. -/
inductive DeclaresInputs
    (declared : Value)
    (field : String) :
    List String → Prop where
  | leftOut
      (isNull : declared = .null) :
      DeclaresInputs declared field [field]
  | listed
      (items : List Value)
      (inputs : List String)
      (isSequence : declared.IsSequenceOf items)
      (notEmpty : items ≠ [])
      (areNames : List.Forall₂ Value.Names items inputs) :
      DeclaresInputs declared field inputs

/-- The extra arguments that the value for them declares, none by default. -/
inductive DeclaresArguments
    (declared : Value) :
    List Value → Prop where
  | leftOut
      (isNull : declared = .null) :
      DeclaresArguments declared []
  | listed
      (arguments : List Value)
      (isSequence : declared.IsSequenceOf arguments) :
      DeclaresArguments declared arguments

/-- What the value for it declares on whether inputs are required, false by default. -/
inductive DeclaresRequired
    (declared : Value) :
    Bool → Prop where
  | leftOut
      (isNull : declared = .null) :
      DeclaresRequired declared false
  | given
      (isRequired : Bool)
      (isTruth : declared = .bool isRequired) :
      DeclaresRequired declared isRequired

/-- The message that the value for it declares, the one of the settings by default. -/
inductive DeclaresMessage
    (settings : Settings)
    (declared : Value)
    (message : String) :
    Prop where
  | leftOut
      (isNull : declared = .null)
      (isDefault : settings.requiredMessage = .text message) :
      DeclaresMessage settings declared message
  | given
      (isText : declared = .text message) :
      DeclaresMessage settings declared message

/-- A raw step is well-formed if it declares each part. -/
structure IsWellFormed
    (settings : Settings)
    (entries : Entries) :
    Prop where
  field : ∃ field, (entryAt entries "field").Names field
  method : ∃ method, (entryAt entries "method").Names method
  inputs :
    ∃ field inputs,
      DeclaresInputs (entryAt entries "fields") field inputs
  arguments :
    ∃ arguments, DeclaresArguments (entryAt entries "args") arguments
  isRequired :
    ∃ isRequired, DeclaresRequired (entryAt entries "required") isRequired
  message :
    ∃ message, DeclaresMessage settings (messageAt entries) message

/-- A raw step stands for a step if it declares its parts, and if it is registered. -/
structure StandsFor
    (settings : Settings)
    (registry : Registry)
    (entries : Entries)
    (step : Step) :
    Prop where
  field : (entryAt entries "field").Names step.field
  method : (entryAt entries "method").Names step.method
  inputs : DeclaresInputs (entryAt entries "fields") step.field step.inputs
  arguments : DeclaresArguments (entryAt entries "args") step.arguments
  isRequired : DeclaresRequired (entryAt entries "required") step.isRequired
  message : DeclaresMessage settings (messageAt entries) step.message
  capability : registry.find? step.method = some step.capability

/-! ## Reading the parts -/

/--
A computation settles a part of the step at an index if it answers exactly with
what is declared, and otherwise refuses the plan for the step.
-/
structure Settles
    (index : Int)
    (computation : Logged part)
    (Declared : part → Prop) :
    Prop where
  answers_iff :
    ∀ value, computation.ended = .ok value ↔ Declared value
  refuses :
    ∀ fault,
      computation.ended = .error fault →
        ∃ message, fault = .malformedPlan message (some index)

namespace Settles

variable
  {index : Int}
  {Declared : part → Prop}

/-- An answer settles a part if it alone is declared. -/
theorem ofAnswer
    {value : part}
    (isDeclared : Declared value)
    (isOnly : ∀ other, Declared other → other = value) :
    Settles index (pure value) Declared where
  answers_iff other := by
    constructor
    · rintro ⟨⟩
      exact isDeclared
    · intro declared
      rw [isOnly other declared]
      rfl
  refuses :=
    nofun

/-- A refusal settles a part if nothing is declared. -/
theorem refuse
    (message : String)
    (undeclared : ∀ value, ¬Declared value) :
    Settles index (Plan.refuse message (some index)) Declared where
  answers_iff value :=
    iff_of_false nofun (undeclared value)
  refuses fault := by
    rintro ⟨⟩
    exact ⟨message, rfl⟩

/-- A refusal that writes the index settles a part if nothing is declared. -/
theorem refuseStep
    (countable : Number.isWritable index = true)
    (message ending : String)
    (undeclared : ∀ value, ¬Declared value) :
    Settles index (Plan.refuseStep message index ending) Declared := by
  unfold Plan.refuseStep
  rw [Number.integerText_of_isWritable countable]
  exact refuse _ undeclared

/-- What settles a part is at fault exactly if nothing is declared. -/
theorem exists_error_iff
    {computation : Logged part}
    (settles : Settles index computation Declared) :
    (∃ fault, computation.ended = .error fault) ↔
      ¬∃ value, Declared value := by
  simp only [← settles.answers_iff]
  cases computation.ended <;> simp

end Settles

section Parts

variable
  {settings : Settings}
  {entries : Entries}
  {index : Int}

/-- The reading of the names settles them. -/
theorem settles_fieldAndMethod
    (countable : Number.isWritable index = true) :
    Settles index (fieldAndMethod entries index) fun names =>
      (entryAt entries "field").Names names.1 ∧
        (entryAt entries "method").Names names.2 := by
  unfold fieldAndMethod
  split
  case h_1 isNull =>
    refine .refuseStep countable _ _ fun names declared => ?_
    rw [isNull] at declared
    cases declared.1.1
  case h_2 isNull _ =>
    refine .refuseStep countable _ _ fun names declared => ?_
    rw [isNull] at declared
    cases declared.2.1
  case h_3 =>
    split
    case h_1 noField =>
      refine .refuseStep countable _ _ fun names declared => ?_
      rw [← properText?_eq_some_iff, noField] at declared
      cases declared.1
    case h_2 field isField =>
      split
      case h_1 noMethod =>
        refine .refuseStep countable _ _ fun names declared => ?_
        rw [← properText?_eq_some_iff, ← properText?_eq_some_iff,
          noMethod] at declared
        cases declared.2
      case h_2 method isMethod =>
        simp only [← properText?_eq_some_iff]
        refine .ofAnswer ⟨isField, isMethod⟩ fun names declared => ?_
        rw [isField, isMethod] at declared
        cases declared.1
        cases declared.2
        rfl

/-- The reading of the inputs settles them. -/
theorem settles_inputsOf
    (countable : Number.isWritable index = true)
    (field : String) :
    Settles index (inputsOf entries field index)
      (DeclaresInputs (entryAt entries "fields") field) := by
  unfold inputsOf
  split
  case h_1 isNull =>
    refine .ofAnswer (.leftOut isNull) fun inputs declared => ?_
    cases declared with
    | leftOut =>
        rfl
    | listed items inputs isSequence =>
        rw [isNull] at isSequence
        exact absurd isSequence Value.not_isSequenceOf_null
  case h_2 notNull =>
    split
    case h_1 noSequence =>
      refine .refuseStep countable _ _ fun inputs declared => ?_
      cases declared with
      | leftOut isNull =>
          exact notNull isNull
      | listed items inputs isSequence =>
          exact sequence?_eq_none_iff.mp noSequence items isSequence
    case h_2 items isSequence =>
      split
      case h_1 first rest inputs areNames =>
        refine .ofAnswer ?_ fun others declared => ?_
        · exact .listed _ inputs (sequence?_eq_some_iff.mp isSequence)
            (List.cons_ne_nil _ _) (properTexts?_eq_some_iff.mp areNames)
        · cases declared with
          | leftOut isNull =>
              exact absurd isNull notNull
          | listed others names isOther _ areOthers =>
              rw [← sequence?_eq_some_iff, isSequence] at isOther
              cases isOther
              rw [← properTexts?_eq_some_iff, areNames] at areOthers
              cases areOthers
              rfl
      case h_2 noNames =>
        refine .refuseStep countable _ _ fun inputs declared => ?_
        cases declared with
        | leftOut isNull =>
            exact notNull isNull
        | listed others inputs isOther notEmpty areNames =>
            rw [← sequence?_eq_some_iff, isSequence] at isOther
            cases isOther
            rw [← properTexts?_eq_some_iff] at areNames
            obtain ⟨first, rest, rfl⟩ := List.exists_cons_of_ne_nil notEmpty
            exact noNames first rest inputs rfl areNames

/-- The reading of the extra arguments settles them. -/
theorem settles_argumentsOf
    (field : String) :
    Settles index (argumentsOf entries field index)
      (DeclaresArguments (entryAt entries "args")) := by
  unfold argumentsOf
  split
  case h_1 isNull =>
    refine .ofAnswer (.leftOut isNull) fun arguments declared => ?_
    cases declared with
    | leftOut =>
        rfl
    | listed _ isSequence =>
        rw [isNull] at isSequence
        exact absurd isSequence Value.not_isSequenceOf_null
  case h_2 notNull =>
    split
    case h_1 noSequence =>
      refine .refuse _ fun arguments declared => ?_
      cases declared with
      | leftOut isNull =>
          exact notNull isNull
      | listed _ isSequence =>
          exact sequence?_eq_none_iff.mp noSequence arguments isSequence
    case h_2 items isSequence =>
      refine .ofAnswer ?_ fun arguments declared => ?_
      · exact .listed items (sequence?_eq_some_iff.mp isSequence)
      · cases declared with
        | leftOut isNull =>
            exact absurd isNull notNull
        | listed _ isOther =>
            rw [← sequence?_eq_some_iff, isSequence] at isOther
            cases isOther
            rfl

/-- The reading whether inputs are required settles it. -/
theorem settles_requiredOf
    (field : String) :
    Settles index (requiredOf entries field index)
      (DeclaresRequired (entryAt entries "required")) := by
  unfold requiredOf
  split
  case h_1 isNull =>
    refine .ofAnswer (.leftOut isNull) fun isRequired declared => ?_
    cases declared with
    | leftOut =>
        rfl
    | given _ isTruth =>
        rw [isNull] at isTruth
        cases isTruth
  case h_2 isRequired isTruth =>
    refine .ofAnswer (.given isRequired isTruth) fun other declared => ?_
    cases declared with
    | leftOut isNull =>
        rw [isTruth] at isNull
        cases isNull
    | given _ isOther =>
        rw [isTruth] at isOther
        cases isOther
        rfl
  case h_3 notNull notTruth =>
    refine .refuse _ fun isRequired declared => ?_
    cases declared with
    | leftOut isNull =>
        exact notNull isNull
    | given _ isTruth =>
        exact notTruth isRequired isTruth

/-- A declared message is what the message reads as, if it is not left out. -/
theorem declaresMessage_iff
    {declared : Value}
    {message : String} :
    DeclaresMessage settings declared message ↔
      declared.orDefault settings.requiredMessage = .text message := by
  constructor
  · intro declares
    cases declares with
    | leftOut isNull isDefault =>
        rw [isNull]
        exact isDefault
    | given isText =>
        rw [isText]
        rfl
  · intro reads
    cases declared with
    | null =>
        exact .leftOut rfl reads
    | _ =>
        exact .given reads

/-- The reading of the message settles it. -/
theorem settles_messageOf
    (field : String) :
    Settles index (messageOf settings entries field index)
      (DeclaresMessage settings (messageAt entries)) := by
  unfold messageOf
  dsimp only
  split
  case h_1 message isText =>
    have reads := characters?_eq_some_iff.mp isText
    refine .ofAnswer (declaresMessage_iff.mpr reads) fun other declared => ?_
    rw [declaresMessage_iff, ← characters?_eq_some_iff, isText] at declared
    exact (Option.some.inj declared).symm
  case h_2 noText =>
    refine .refuse _ fun message declared => ?_
    rw [declaresMessage_iff, ← characters?_eq_some_iff, noText] at declared
    exact nomatch declared

/-- What keeps the inputs from being declared does not depend on the field. -/
theorem DeclaresInputs.exists_of_field
    {declared : Value}
    {field : String}
    {inputs : List String}
    (declares : DeclaresInputs declared field inputs)
    (other : String) :
    ∃ inputs, DeclaresInputs declared other inputs := by
  cases declares with
  | leftOut isNull =>
      exact ⟨[other], .leftOut isNull⟩
  | listed items inputs isSequence notEmpty areNames =>
      exact ⟨inputs, .listed items inputs isSequence notEmpty areNames⟩

end Parts

/-! ## The whole step -/

section Whole

variable
  {settings : Settings}
  {registry : Registry}
  {entries : Entries}
  {raw : Value}
  {index : Int}
  {step : Step}
  {fault : Fault}

/-- A capability is found exactly if it is registered under the method. -/
theorem capabilityOf_answers_iff
    {method : String}
    {capability : Capability} :
    (capabilityOf registry method index).ended = .ok capability ↔
      registry.find? method = some capability := by
  unfold capabilityOf
  cases registry.find? method with
  | some registered =>
      simp
  | none =>
      refine iff_of_false (fun answered => ?_) nofun
      obtain ⟨text, _, written⟩ := Journal.ended_bind_eq_ok_iff.mp answered
      obtain ⟨⟨⟩, _, stopped⟩ := Journal.ended_bind_eq_ok_iff.mp written
      cases stopped

/-- A capability that is not found is not registered under the method. -/
theorem capabilityOf_stops
    {method : String}
    (countable : Number.isWritable index = true)
    (stopped : (capabilityOf registry method index).ended = .error fault) :
    registry.find? method = none ∧
      ∃ message, fault = .unknownCapability method (some index) message := by
  unfold capabilityOf at stopped
  rw [Number.integerText_of_isWritable countable] at stopped
  cases absent : registry.find? method with
  | some registered =>
      rw [absent] at stopped
      cases stopped
  | none =>
      rw [absent] at stopped
      cases stopped
      exact ⟨rfl, _, rfl⟩

/-- A well-formed raw step whose method is registered stands for a step. -/
theorem exists_standsFor_iff :
    (∃ step, StandsFor settings registry entries step) ↔
      IsWellFormed settings entries ∧
        ∃ method,
          (entryAt entries "method").Names method ∧
            ∃ capability, registry.find? method = some capability := by
  constructor
  · rintro ⟨step, stands⟩
    have wellFormed : IsWellFormed settings entries :=
      { field := ⟨_, stands.field⟩
        method := ⟨_, stands.method⟩
        inputs := ⟨_, _, stands.inputs⟩
        arguments := ⟨_, stands.arguments⟩
        isRequired := ⟨_, stands.isRequired⟩
        message := ⟨_, stands.message⟩ }
    exact ⟨wellFormed, _, stands.method, _, stands.capability⟩
  · rintro ⟨wellFormed, method, isMethod, capability, registered⟩
    obtain ⟨field, isField⟩ := wellFormed.field
    obtain ⟨_, _, forOther⟩ := wellFormed.inputs
    obtain ⟨inputs, areInputs⟩ := forOther.exists_of_field field
    obtain ⟨arguments, areArguments⟩ := wellFormed.arguments
    obtain ⟨isRequired, declaresRequired⟩ := wellFormed.isRequired
    obtain ⟨message, isMessage⟩ := wellFormed.message
    exact
      ⟨⟨field, inputs, method, capability, arguments, isRequired, message⟩,
        isField, isMethod, areInputs, areArguments, declaresRequired,
        isMessage, registered⟩

/-- A raw step is accepted as the step that it stands for if its keys can be listed. -/
def IsAcceptedAs
    (settings : Settings)
    (registry : Registry)
    (raw : Value)
    (step : Step) : Prop :=
  ∃ entries,
    raw = .dict entries ∧
      AreListable (unknownKeys entries) ∧
        StandsFor settings registry entries step

/-- How a plan is rejected for a raw step at an index whose keys can be listed. -/
inductive Rejection
    (settings : Settings)
    (registry : Registry)
    (index : Int) :
    Value → Fault → Prop where
  | notMapping
      (raw : Value)
      (message : String)
      (isOther : ∀ entries, raw ≠ .dict entries) :
      Rejection settings registry index raw
        (.malformedPlan message (some index))
  | malformed
      (entries : Entries)
      (message : String)
      (notWellFormed : ¬IsWellFormed settings entries) :
      Rejection settings registry index (.dict entries)
        (.malformedPlan message (some index))
  | unregistered
      (entries : Entries)
      (method message : String)
      (wellFormed : IsWellFormed settings entries)
      (isMethod : (entryAt entries "method").Names method)
      (absent : registry.find? method = none) :
      Rejection settings registry index (.dict entries)
        (.unknownCapability method (some index) message)

/-- The unknown keys of a raw step upset the warning about them. -/
def UpsetByKeys
    (raw : Value)
    (fault : Fault) : Prop :=
  ∃ entries, raw = .dict entries ∧ Upset (unknownKeys entries) fault

/-- A raw step is normalised exactly as the step that it is accepted as. -/
theorem normalizeStep_answers_iff
    (countable : Number.isWritable index = true) :
    (normalizeStep settings registry raw index).ended = .ok step ↔
      IsAcceptedAs settings registry raw step := by
  constructor
  · intro answered
    unfold normalizeStep at answered
    split at answered
    case h_2 =>
      obtain ⟨text, _, refused⟩ := Journal.ended_bind_eq_ok_iff.mp answered
      cases refused
    case h_1 entries =>
      obtain ⟨⟨⟩, warned, named⟩ := Journal.ended_bind_eq_ok_iff.mp answered
      obtain ⟨⟨field, method⟩, isNamed, withInputs⟩ :=
        Journal.ended_bind_eq_ok_iff.mp named
      obtain ⟨inputs, areInputs, withArguments⟩ :=
        Journal.ended_bind_eq_ok_iff.mp withInputs
      obtain ⟨arguments, areArguments, withRequired⟩ :=
        Journal.ended_bind_eq_ok_iff.mp withArguments
      obtain ⟨isRequired, declaresRequired, withMessage⟩ :=
        Journal.ended_bind_eq_ok_iff.mp withRequired
      obtain ⟨message, isMessage, withCapability⟩ :=
        Journal.ended_bind_eq_ok_iff.mp withMessage
      obtain ⟨capability, found, complete⟩ :=
        Journal.ended_bind_eq_ok_iff.mp withCapability
      cases complete
      have names :=
        ((settles_fieldAndMethod countable).answers_iff _).mp isNamed
      exact ⟨entries, rfl, (warnOfUnknownKeys_answers_iff countable).mp warned,
        { field := names.1
          method := names.2
          inputs :=
            ((settles_inputsOf countable field).answers_iff _).mp areInputs
          arguments :=
            ((settles_argumentsOf field).answers_iff _).mp areArguments
          isRequired :=
            ((settles_requiredOf field).answers_iff _).mp declaresRequired
          message := ((settles_messageOf field).answers_iff _).mp isMessage
          capability := capabilityOf_answers_iff.mp found }⟩
  · rintro ⟨entries, rfl, listable, stands⟩
    unfold normalizeStep
    have named :=
      ((settles_fieldAndMethod countable).answers_iff
        (step.field, step.method)).mpr ⟨stands.field, stands.method⟩
    refine Journal.ended_bind_eq_ok_iff.mpr
      ⟨(), (warnOfUnknownKeys_answers_iff countable).mpr listable, ?_⟩
    refine Journal.ended_bind_eq_ok_iff.mpr ⟨_, named, ?_⟩
    refine Journal.ended_bind_eq_ok_iff.mpr
      ⟨_, ((settles_inputsOf countable _).answers_iff _).mpr stands.inputs,
        ?_⟩
    refine Journal.ended_bind_eq_ok_iff.mpr
      ⟨_, ((settles_argumentsOf _).answers_iff _).mpr stands.arguments, ?_⟩
    refine Journal.ended_bind_eq_ok_iff.mpr
      ⟨_, ((settles_requiredOf _).answers_iff _).mpr stands.isRequired, ?_⟩
    refine Journal.ended_bind_eq_ok_iff.mpr
      ⟨_, ((settles_messageOf _).answers_iff _).mpr stands.message, ?_⟩
    exact Journal.ended_bind_eq_ok_iff.mpr
      ⟨_, capabilityOf_answers_iff.mpr stands.capability, rfl⟩

/-- Unknown keys that upset their listing stop the normalising of a raw step. -/
theorem normalizeStep_of_upsetByKeys
    (countable : Number.isWritable index = true)
    (upset : UpsetByKeys raw fault) :
    (normalizeStep settings registry raw index).ended = .error fault := by
  obtain ⟨entries, rfl, upset⟩ := upset
  unfold normalizeStep
  exact Journal.ended_bind_eq_error_iff.mpr
    (.inl ((warnOfUnknownKeys_stops_iff countable).mpr upset))

/-- A part that is not settled rejects a raw step, which is malformed. -/
theorem Settles.rejects
    {computation : Logged part}
    {Declared : part → Prop}
    (settles : Settles index computation Declared)
    (needed : IsWellFormed settings entries → ∃ value, Declared value)
    (stopped : computation.ended = .error fault) :
    Rejection settings registry index (.dict entries) fault := by
  have undeclared := settles.exists_error_iff.mp ⟨fault, stopped⟩
  obtain ⟨message, rfl⟩ := settles.refuses fault stopped
  exact .malformed entries message fun wellFormed =>
    undeclared (needed wellFormed)

/-- A raw step that is not normalised has unknown keys that upset it, or is rejected. -/
theorem normalizeStep_stops
    (countable : Number.isWritable index = true)
    (stopped :
      (normalizeStep settings registry raw index).ended = .error fault) :
    UpsetByKeys raw fault ∨ Rejection settings registry index raw fault := by
  unfold normalizeStep at stopped
  split at stopped
  case h_2 isOther =>
    rw [refuseStep, Number.integerText_of_isWritable countable] at stopped
    cases stopped
    exact .inr (.notMapping _ _ isOther)
  case h_1 entries =>
    rcases Journal.ended_bind_eq_error_iff.mp stopped with
      unwarned | ⟨⟨⟩, _, stopped⟩
    · have upset := (warnOfUnknownKeys_stops_iff countable).mp unwarned
      exact .inl ⟨entries, rfl, upset⟩
    right
    rcases Journal.ended_bind_eq_error_iff.mp stopped with
      unnamed | ⟨⟨field, method⟩, named, stopped⟩
    · refine (settles_fieldAndMethod countable).rejects
        (fun wellFormed => ?_) unnamed
      obtain ⟨field, isField⟩ := wellFormed.field
      obtain ⟨method, isMethod⟩ := wellFormed.method
      exact ⟨(field, method), isField, isMethod⟩
    have names := ((settles_fieldAndMethod countable).answers_iff _).mp named
    rcases Journal.ended_bind_eq_error_iff.mp stopped with
      unread | ⟨inputs, areInputs, stopped⟩
    · refine (settles_inputsOf countable field).rejects
        (fun wellFormed => ?_) unread
      obtain ⟨_, _, forOther⟩ := wellFormed.inputs
      exact forOther.exists_of_field field
    rcases Journal.ended_bind_eq_error_iff.mp stopped with
      unread | ⟨arguments, areArguments, stopped⟩
    · exact (settles_argumentsOf field).rejects (·.arguments) unread
    rcases Journal.ended_bind_eq_error_iff.mp stopped with
      unread | ⟨isRequired, declaresRequired, stopped⟩
    · exact (settles_requiredOf field).rejects (·.isRequired) unread
    rcases Journal.ended_bind_eq_error_iff.mp stopped with
      unread | ⟨message, isMessage, stopped⟩
    · exact (settles_messageOf field).rejects (·.message) unread
    rcases Journal.ended_bind_eq_error_iff.mp stopped with
      unfound | ⟨capability, _, complete⟩
    · obtain ⟨absent, message, rfl⟩ := capabilityOf_stops countable unfound
      have wellFormed : IsWellFormed settings entries :=
        { field := ⟨_, names.1⟩
          method := ⟨_, names.2⟩
          inputs :=
            ⟨_, _,
              ((settles_inputsOf countable field).answers_iff _).mp areInputs⟩
          arguments :=
            ⟨_, ((settles_argumentsOf field).answers_iff _).mp areArguments⟩
          isRequired :=
            ⟨_, ((settles_requiredOf field).answers_iff _).mp declaresRequired⟩
          message :=
            ⟨_, ((settles_messageOf field).answers_iff _).mp isMessage⟩ }
      exact .unregistered entries method message wellFormed names.2 absent
    · cases complete

end Whole

end Plan

end FormCheck
