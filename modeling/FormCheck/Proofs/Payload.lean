import Mathlib.Data.List.Pairwise
import FormCheck.Proofs.Messages
import FormCheck.Proofs.Territory

namespace FormCheck

/-!
# The payload of steps that are apart

A step puts its notices under its own names and finds its messages under keys
that start with one of them. What other steps recorded is far from it, so among
them it puts the same notices as it does alone, behind theirs.
-/

/-- A payload holds its notices, as values, under their fields. -/
theorem Payload.at?_toValue
    (payload : Payload)
    (key : String) :
    payload.toValue.at? (.text key) =
      (lookup key payload).map Notice.toValue := by
  unfold toValue
  rw [Value.at?_record, lookup_map]

/-- An entry is far from a step if its key starts with no name of the step. -/
def Entry.IsFarFrom
    (entry : Entry)
    (step : Step) : Prop :=
  ∃ characters,
    entry.key = .text characters ∧
      ∀ name ∈ step.names, Report.startsWith characters name = false

/-- The key of an entry far from a step is no name of the step. -/
theorem Entry.IsFarFrom.key_ne
    {entry : Entry}
    {step : Step}
    (far : entry.IsFarFrom step)
    {name : String}
    (isName : name ∈ step.names) :
    entry.key ≠ .text name := by
  obtain ⟨characters, isText, differs⟩ := far
  intro same
  rw [isText] at same
  cases same
  have differsFromItself := differs _ isName
  rw [Report.startsWith_self] at differsFromItself
  cases differsFromItself

namespace Result

/-- A result encloses another for a step if all else in it is far from the step. -/
def Encloses
    (whole own : Result)
    (step : Step) : Prop :=
  ∃ before after,
    whole.entries = before ++ own.entries ++ after ∧
      ∀ entry ∈ before ++ after, entry.IsFarFrom step

namespace Encloses

variable
  {whole own : Result}
  {step : Step}

/-- A view that shows nothing of far entries shows the same of both results. -/
theorem filterMap_eq
    (encloses : whole.Encloses own step)
    {view : Entry → Option shown}
    (hidden : ∀ entry, entry.IsFarFrom step → view entry = none) :
    whole.entries.filterMap view = own.entries.filterMap view := by
  obtain ⟨before, after, split, far⟩ := encloses
  rw [split, List.filterMap_append, List.filterMap_append,
    List.filterMap_eq_nil_iff.mpr fun entry member =>
      hidden entry (far entry (List.mem_append_left _ member)),
    List.filterMap_eq_nil_iff.mpr fun entry member =>
      hidden entry (far entry (List.mem_append_right _ member))]
  simp

/-- The enclosing result has no more values under a name of the step. -/
theorem value?_eq
    (encloses : whole.Encloses own step)
    {name : String}
    (isName : name ∈ step.names) :
    whole.value? (.text name) = own.value? (.text name) := by
  unfold value?
  rw [encloses.filterMap_eq fun _ far =>
    Entry.valueAt?_eq_none (far.key_ne isName)]

/-- The enclosing result has no more messages under a name of the step. -/
theorem errorsAt_eq
    (encloses : whole.Encloses own step)
    {name : String}
    (isName : name ∈ step.names) :
    whole.errorsAt (.text name) = own.errorsAt (.text name) :=
  encloses.filterMap_eq fun _ far =>
    Entry.messageAt?_eq_none (far.key_ne isName)

/-- The enclosing result has no more messages under keys derived from a name. -/
theorem messagesUnder_eq
    (encloses : whole.Encloses own step)
    {test : String → Bool}
    {name : String}
    (isName : name ∈ step.names)
    (derives :
      ∀ characters, test characters = true →
        Report.startsWith characters name = true) :
    Report.messagesUnder test whole = Report.messagesUnder test own := by
  obtain ⟨before, after, split, far⟩ := encloses
  have none
      (entry : Entry)
      (member : entry ∈ before ++ after) :
      ¬Value.passes test entry.key = true := by
    obtain ⟨characters, isText, differs⟩ := far entry member
    intro passed
    rw [isText] at passed
    have starts := derives characters passed
    rw [differs name isName] at starts
    cases starts
  unfold Report.messagesUnder restrict
  rw [split, List.filter_append, List.filter_append,
    List.filter_eq_nil_iff.mpr fun entry member =>
      none entry (List.mem_append_left _ member),
    List.filter_eq_nil_iff.mpr fun entry member =>
      none entry (List.mem_append_right _ member)]
  simp

/-- An enclosed result has textual keys if the enclosing one has. -/
theorem hasTextKeys
    (encloses : whole.Encloses own step)
    (textual : whole.HasTextKeys) :
    own.HasTextKeys := by
  obtain ⟨before, after, split, _⟩ := encloses
  intro entry member
  apply textual entry
  rw [split]
  exact List.mem_append_left _ (List.mem_append_right _ member)

end Encloses

end Result

namespace Report

variable
  {settings : Settings}
  {inputKeys : List String}
  {whole own : Result}
  {step : Step}
  {payload notices : Payload}

/-! ## The notices of one step -/

/-- Add the messages of one input. -/
def withErrorsOf
    (result : Result)
    (payload : Payload)
    (input : String) : Payload :=
  match result.errorsAt (.text input) with
  | [] => payload
  | messages => put input (.many messages) payload

/-- The messages of the inputs are added one input after the other. -/
theorem withInputErrors_eq_foldl
    (result : Result)
    (payload : Payload)
    (step : Step) :
    withInputErrors result payload step =
      step.inputs.foldl (withErrorsOf result) payload :=
  rfl

/-- A step puts the notices of its inputs behind those under other names. -/
theorem withInputErrors_append
    (encloses : whole.Encloses own step)
    (fresh : ∀ input ∈ step.inputs, input ∉ payload.map Prod.fst)
    (notices : Payload) :
    withInputErrors whole (payload ++ notices) step =
      payload ++ withInputErrors own notices step := by
  have collected
      (inputs : List String)
      (areInputs : ∀ input ∈ inputs, input ∈ step.inputs)
      (notices : Payload) :
      inputs.foldl (withErrorsOf whole) (payload ++ notices) =
        payload ++ inputs.foldl (withErrorsOf own) notices := by
    induction inputs generalizing notices with
    | nil =>
        rfl
    | cons input rest inductionHypothesis =>
        rw [List.forall_mem_cons] at areInputs
        have appended :
            withErrorsOf whole (payload ++ notices) input =
              payload ++ withErrorsOf own notices input := by
          unfold withErrorsOf
          rw [encloses.errorsAt_eq (List.mem_cons_of_mem _ areInputs.1)]
          split
          · rfl
          · rw [put_append_of_not_mem (.of_lawful _)
              (fresh input areInputs.1)]
        rw [List.foldl_cons, List.foldl_cons, appended]
        exact inductionHypothesis areInputs.2 _
  exact collected step.inputs (fun _ member => member) notices

/-- Adding messages of inputs adds notices only under these inputs. -/
theorem mem_inputs_of_withInputErrors
    {result : Result}
    {name : String}
    (member : name ∈ (withInputErrors result payload step).map Prod.fst) :
    name ∈ payload.map Prod.fst ∨ name ∈ step.inputs := by
  rw [withInputErrors_eq_foldl] at member
  generalize step.inputs = inputs at member ⊢
  induction inputs generalizing payload with
  | nil =>
      exact .inl member
  | cons input rest inductionHypothesis =>
      rcases inductionHypothesis member with early | later
      · unfold withErrorsOf at early
        split at early
        · exact .inl early
        · rcases mem_keys_put early with rfl | old
          · exact .inr (List.mem_cons_self ..)
          · exact .inl old
      · exact .inr (List.mem_cons_of_mem _ later)

/-- An input with messages puts a notice. -/
theorem withInputErrors_ne_nil
    {result : Result}
    {input : String}
    (isInput : input ∈ step.inputs)
    (failed : result.errorsAt (.text input) ≠ [])
    (payload : Payload) :
    withInputErrors result payload step ≠ [] := by
  have stays
      (inputs : List String)
      (payload : Payload)
      (present : payload ≠ []) :
      inputs.foldl (withErrorsOf result) payload ≠ [] := by
    induction inputs generalizing payload with
    | nil =>
        exact present
    | cons other rest inductionHypothesis =>
        apply inductionHypothesis
        unfold withErrorsOf
        split
        · exact present
        · exact put_ne_nil _ _ _
  obtain ⟨early, late, split⟩ := List.append_of_mem isInput
  rw [withInputErrors_eq_foldl, split, List.foldl_append, List.foldl_cons]
  apply stays late
  unfold withErrorsOf
  split
  case h_1 none =>
    exact (failed none).elim
  case h_2 =>
    exact put_ne_nil _ _ _

/-- The combined text of a step is that of its own messages. -/
theorem combined_eq
    (encloses : whole.Encloses own step)
    (textual : whole.HasTextKeys) :
    combined settings whole step.key .null =
      combined settings own step.key .null := by
  have found
      (result : Result)
      (resultTextual : result.HasTextKeys) :
      messagesWhere (startsWithValue step.key) result.errors =
        .ok (messagesUnder (startsWith · step.field) result) :=
    messagesWhere_errors resultTextual _
  unfold combined
  rw [found whole textual, found own (encloses.hasTextKeys textual),
    encloses.messagesUnder_eq (List.mem_cons_self ..) fun _ starts => starts]

/-- A step puts its combined text behind the notices of steps apart from it. -/
theorem withCombined_append
    (encloses : whole.Encloses own step)
    (textual : whole.HasTextKeys)
    (freshField : step.field ∉ payload.map Prod.fst)
    {collected : Payload}
    (alone : withCombined settings own collected step = .ok notices) :
    withCombined settings whole (payload ++ collected) step =
      .ok (payload ++ notices) := by
  unfold withCombined at alone ⊢
  rw [combined_eq encloses textual]
  cases joined : combined settings own step.key .null with
  | error fault =>
      rw [joined] at alone
      cases alone
  | ok text =>
      rw [joined] at alone
      cases alone
      change Except.ok (if text = "" then _ else _) = _
      split
      · rfl
      · rw [put_append_of_not_mem (.of_lawful _) freshField]

/-- The messages under derived keys of a step are those that it has alone. -/
theorem derivedMessages_eq
    (encloses : whole.Encloses own step)
    (textual : whole.HasTextKeys)
    (sameInputs :
      ∀ key, startsWith key (step.field ++ "_") = true →
        inputKeys.contains key = step.inputs.contains key) :
    messagesWhere
        (fun key =>
          .ok
            (startsWith key (step.field ++ "_") &&
              !inputKeys.contains key))
        whole.errors =
      messagesWhere
        (fun key =>
          .ok
            (startsWith key (step.field ++ "_") &&
              !step.inputs.contains key))
        own.errors := by
  have sameDerived :
      (fun key =>
          startsWith key (step.field ++ "_") &&
            !inputKeys.contains key) =
        fun key =>
          startsWith key (step.field ++ "_") &&
            !step.inputs.contains key := by
    funext key
    cases starts : startsWith key (step.field ++ "_") with
    | false =>
        rfl
    | true =>
        rw [sameInputs key starts]
  have derivedFromField
      (key : String)
      (derived :
        (startsWith key (step.field ++ "_") &&
          !step.inputs.contains key) = true) :
      startsWith key step.field = true :=
    startsWith_trans (Bool.and_eq_true_iff.mp derived).1
      (startsWith_append _ _)
  rw [messagesWhere_errors textual, sameDerived,
    messagesWhere_errors (encloses.hasTextKeys textual),
    encloses.messagesUnder_eq (List.mem_cons_self ..) derivedFromField]

/--
Among the notices of steps apart from it, and with the inputs of all steps, a
step puts the notices that it puts alone.
-/
theorem standardStep_append
    (encloses : whole.Encloses own step)
    (textual : whole.HasTextKeys)
    (sameInputs :
      ∀ key, startsWith key (step.field ++ "_") = true →
        inputKeys.contains key = step.inputs.contains key)
    (fresh : ∀ name ∈ step.names, name ∉ payload.map Prod.fst)
    (alone :
      standardStep settings step.inputs own [] step = .ok notices) :
    standardStep settings inputKeys whole payload step =
      .ok (payload ++ notices) := by
  have freshField := fresh step.field (List.mem_cons_self ..)
  have inputErrors :
      withInputErrors whole payload step =
        payload ++ withInputErrors own [] step := by
    have appended :=
      withInputErrors_append encloses
        (fun input isInput => fresh input (List.mem_cons_of_mem _ isInput)) []
    rwa [List.append_nil] at appended
  unfold standardStep at alone ⊢
  dsimp only at alone ⊢
  rw [inputErrors]
  generalize withInputErrors own [] step = collected at alone ⊢
  cases isComposite : step.isComposite with
  | true =>
      simp only [isComposite, ↓reduceIte] at alone ⊢
      exact withCombined_append encloses textual freshField alone
  | false =>
      simp only [isComposite, Bool.false_eq_true, ↓reduceIte] at alone ⊢
      rw [derivedMessages_eq encloses textual sameInputs,
        lookup_append_of_not_mem (.of_lawful _) freshField, Step.key,
        encloses.errorsAt_eq (List.mem_cons_self ..)]
      rw [messagesWhere_errors (encloses.hasTextKeys textual)] at alone ⊢
      unfold Step.key at alone
      simp only [bind, Except.bind] at alone ⊢
      split
      case h_1 none =>
        rw [none] at alone
        cases alone
        rfl
      case h_2 messages =>
        split at alone
        case h_1 none =>
          exact (messages none).elim
        case h_2 =>
          cases alone
          rw [put_append_of_not_mem (.of_lawful _) freshField]
          rfl

/-- Behind the notices of its inputs, a step puts at most one under its field. -/
theorem standardStep_cases
    {result : Result}
    (answered :
      standardStep settings inputKeys result payload step = .ok notices) :
    notices = withInputErrors result payload step ∨
      ∃ notice,
        notices =
          put step.field notice (withInputErrors result payload step) := by
  unfold standardStep at answered
  dsimp only at answered
  split at answered
  · unfold withCombined at answered
    cases joined : combined settings result step.key .null with
    | error fault =>
        rw [joined] at answered
        cases answered
    | ok text =>
        rw [joined] at answered
        change Except.ok (if text = "" then _ else _) = _ at answered
        cases answered
        split
        · exact .inl rfl
        · exact .inr ⟨_, rfl⟩
  · cases derived :
        messagesWhere
          (fun key =>
            .ok
              (startsWith key (step.field ++ "_") &&
                !inputKeys.contains key))
          result.errors with
    | error fault =>
        rw [derived] at answered
        cases answered
    | ok messages =>
        rw [derived] at answered
        simp only [bind, Except.bind] at answered
        split at answered
        · cases answered
          exact .inl rfl
        · cases answered
          exact .inr ⟨_, rfl⟩

/-- A step adds notices only under its own names. -/
theorem mem_names_of_standardStep
    {result : Result}
    (answered :
      standardStep settings inputKeys result payload step = .ok notices)
    {name : String}
    (member : name ∈ notices.map Prod.fst) :
    name ∈ payload.map Prod.fst ∨ name ∈ step.names := by
  have ofInputs
      (isKey :
        name ∈ (withInputErrors result payload step).map Prod.fst) :
      name ∈ payload.map Prod.fst ∨ name ∈ step.names :=
    (mem_inputs_of_withInputErrors isKey).imp_right
      (List.mem_cons_of_mem _)
  rcases standardStep_cases answered with rfl | ⟨notice, rfl⟩
  · exact ofInputs member
  · rcases mem_keys_put member with rfl | collected
    · exact .inr (List.mem_cons_self ..)
    · exact ofInputs collected

/-- The standard payload of one step is what the step puts alone. -/
theorem standardErrors_singleton
    (settings : Settings)
    (step : Step)
    (result : Result) :
    standardErrors settings [step] result =
      standardStep settings step.inputs result [] step := by
  unfold standardErrors
  rw [List.foldlM_cons, List.flatMap_singleton]
  cases standardStep settings step.inputs result [] step <;> rfl

/-! ## The notices of a whole plan -/

/-- The notices that a step puts on a result of its own, none if it is at fault. -/
def noticesOf
    (settings : Settings)
    (step : Step)
    (own : Result) : Payload :=
  match standardStep settings step.inputs own [] step with
  | .ok notices => notices
  | .error _ => []

/-- The notices of a step are under its names. -/
theorem mem_names_of_noticesOf
    {name : String}
    (member : name ∈ (noticesOf settings step own).map Prod.fst) :
    name ∈ step.names := by
  unfold noticesOf at member
  split at member
  case h_1 notices answered =>
    rcases mem_names_of_standardStep answered member with none | isName
    · cases none
    · exact isName
  case h_2 =>
    cases member

/-- The names of a step are no keys of the notices of a step apart from it. -/
theorem not_mem_noticesOf
    {other : Step}
    (apart : other.Apart step)
    {name : String}
    (isName : name ∈ step.names) :
    name ∉ (noticesOf settings other own).map Prod.fst :=
  fun member => apart.not_mem_names (mem_names_of_noticesOf member) isName

/-- Steps that are apart put their notices one behind the other. -/
theorem foldlM_standardStep
    {plan : Plan}
    {own : Step → Result}
    (textual : whole.HasTextKeys)
    (apart : plan.Pairwise Step.Apart)
    (encloses : ∀ step ∈ plan, whole.Encloses (own step) step)
    (sameInputs :
      ∀ step ∈ plan, ∀ key,
        startsWith key (step.field ++ "_") = true →
          inputKeys.contains key = step.inputs.contains key)
    (alone :
      ∀ step ∈ plan,
        standardStep settings step.inputs (own step) [] step =
          .ok (noticesOf settings step (own step)))
    (fresh :
      ∀ step ∈ plan, ∀ name ∈ step.names, name ∉ payload.map Prod.fst) :
    plan.foldlM (standardStep settings inputKeys whole) payload =
      .ok (payload ++
        plan.flatMap fun step => noticesOf settings step (own step)) := by
  induction plan generalizing payload with
  | nil =>
      simp [pure, Except.pure]
  | cons step rest inductionHypothesis =>
      rw [List.pairwise_cons] at apart
      rw [List.forall_mem_cons] at encloses sameInputs alone fresh
      rw [List.foldlM_cons,
        standardStep_append encloses.1 textual sameInputs.1 fresh.1 alone.1]
      have freshThen :
          ∀ other ∈ rest, ∀ name ∈ other.names,
            name ∉
              (payload ++ noticesOf settings step (own step)).map
                Prod.fst := by
        intro other isRest name isName
        rw [List.map_append, List.mem_append, not_or]
        exact ⟨fresh.2 other isRest name isName,
          not_mem_noticesOf (apart.1 other isRest) isName⟩
      refine (inductionHypothesis apart.2 encloses.2 sameInputs.2 alone.2
        freshThen).trans ?_
      rw [List.flatMap_cons, List.append_assoc]

/-- No other step of a plan of steps apart has an input derived from a field. -/
theorem contains_inputs_of_apart
    {plan : Plan}
    (apart : plan.Pairwise Step.Apart)
    (member : step ∈ plan)
    {key : String}
    (derived : startsWith key (step.field ++ "_") = true) :
    (plan.flatMap Step.inputs).contains key =
      step.inputs.contains key := by
  rw [Bool.eq_iff_iff, List.contains_iff_mem, List.contains_iff_mem,
    List.mem_flatMap]
  constructor
  · rintro ⟨other, isOther, isInput⟩
    by_cases same : step = other
    · subst same
      exact isInput
    · have apartHere :=
        apart.forall member isOther same
      have starts :=
        startsWith_trans derived (startsWith_append step.field "_")
      have differs :=
        (apartHere step.field (List.mem_cons_self ..) key
          (List.mem_cons_of_mem _ isInput)).2
      rw [starts] at differs
      cases differs
  · intro isInput
    exact ⟨step, member, isInput⟩

/-- The standard payload of steps that are apart. -/
theorem standardErrors_of_apart
    {plan : Plan}
    {own : Step → Result}
    (textual : whole.HasTextKeys)
    (apart : plan.Pairwise Step.Apart)
    (encloses : ∀ step ∈ plan, whole.Encloses (own step) step)
    (alone :
      ∀ step ∈ plan,
        standardStep settings step.inputs (own step) [] step =
          .ok (noticesOf settings step (own step))) :
    standardErrors settings plan whole =
      .ok (plan.flatMap fun step =>
        noticesOf settings step (own step)) :=
  foldlM_standardStep textual apart encloses
    (fun _ member _ derived =>
      contains_inputs_of_apart apart member derived)
    alone (fun _ _ _ _ none => nomatch none)

end Report

end FormCheck
