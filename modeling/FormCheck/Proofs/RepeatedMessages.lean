import FormCheck.Proofs.PayloadLookup
import FormCheck.Proofs.RecordedMessages
import FormCheck.Proofs.Reporting
import Mathlib.Data.List.Induction

namespace FormCheck

/-!
# How often a payload lists a message

A step with one input lists the messages of its field behind what is listed there
already. It does so whether or not these messages are in that list, so each
further step with the same field lists them once more, and the first one does if
another step has the field among its inputs. What is listed in the end is what
the last step left that started the list anew, and behind it the messages of the
field, once for each step with the field that came later.
-/

/-- Whether a step adds to what is listed under a name. -/
def Step.addsTo
    (name : String)
    (step : Step) : Bool :=
  step.field == name && !step.isComposite

namespace Report

/--
The messages of a field: those under the field itself and those under keys that
are derived from it and are no inputs.
-/
def fieldMessages
    (inputKeys : List String)
    (result : Result)
    (name : String) : List Value :=
  result.errorsAt (.text name) ++
    messagesUnder
      (fun key => startsWith key (name ++ "_") && !inputKeys.contains key)
      result

/--
A step starts the list under a name anew if it does not matter what was listed
there before. It does so with the messages of an input, to which the messages of
the field are added if it has one input; and a combined text lists nothing.
-/
inductive StartsAnew
    (settings : Settings)
    (inputKeys : List String)
    (result : Result)
    (name : String)
    (step : Step) : List Value → Prop where
  | otherInput
      (isOther : step.field ≠ name)
      (reads : name ∈ step.inputs)
      (failed : result.errorsAt (.text name) ≠ []) :
      StartsAnew settings inputKeys result name step
        (result.errorsAt (.text name))
  | ownInput
      (adds : step.addsTo name = true)
      (reads : name ∈ step.inputs)
      (failed : result.errorsAt (.text name) ≠ []) :
      StartsAnew settings inputKeys result name step
        (fieldMessages inputKeys result name)
  | text
      {text : String}
      (isField : step.field = name)
      (isComposite : step.isComposite = true)
      (combines : combined settings result (.text name) .null = .ok text)
      (present : text ≠ "") :
      StartsAnew settings inputKeys result name step []
  | emptyText
      (isField : step.field = name)
      (isComposite : step.isComposite = true)
      (combines : combined settings result (.text name) .null = .ok "")
      (reads : name ∈ step.inputs)
      (failed : result.errorsAt (.text name) ≠ []) :
      StartsAnew settings inputKeys result name step
        (result.errorsAt (.text name))

variable
  {settings : Settings}
  {inputKeys : List String}
  {result : Result}
  {step : Step}
  {payload notices : Payload}
  {name : String}

/-- What makes a step start the list under a name anew. -/
theorem StartsAnew.cause
    {start : List Value}
    (anew : StartsAnew settings inputKeys result name step start) :
    name ∈ step.inputs ∧ result.errorsAt (.text name) ≠ [] ∨
      step.isComposite = true ∧
        step.field = name ∧
          combined settings result (.text name) .null ≠ .ok "" := by
  cases anew with
  | otherInput _ reads failed =>
      exact .inl ⟨reads, failed⟩
  | ownInput _ reads failed =>
      exact .inl ⟨reads, failed⟩
  | text isField isComposite combines present =>
      refine .inr ⟨isComposite, isField, fun empty => ?_⟩
      cases combines.symm.trans empty
      exact present rfl
  | emptyText _ _ _ reads failed =>
      exact .inl ⟨reads, failed⟩

/-! ## One step -/

/-- With several inputs, a step starts the list under its field anew or keeps it. -/
theorem listed_of_composite
    (textual : result.HasTextKeys)
    (answered :
      standardStep settings inputKeys result payload step = .ok notices)
    (isComposite : step.isComposite = true) :
    StartsAnew settings inputKeys result step.field step
        (Notice.listed (lookup step.field notices)) ∨
      (∀ start,
          ¬StartsAnew settings inputKeys result step.field step start) ∧
        Notice.listed (lookup step.field notices) =
          Notice.listed (lookup step.field payload) := by
  obtain ⟨delimiter, texts, isDelimiter, areAll, after⟩ :=
    lookup_standardStep_of_composite textual answered isComposite
  have combines :
      combined settings result (.text step.field) .null =
        .ok (Value.joined delimiter texts) :=
    (combined_eq_ok_iff textual).mpr
      ⟨delimiter, texts, isDelimiter, areAll, rfl⟩
  rw [after, lookup_withInputErrors]
  by_cases present : Value.joined delimiter texts = ""
  · rw [present] at combines
    rw [if_pos present]
    by_cases isRead :
        step.field ∈ step.inputs ∧
          result.errorsAt (.text step.field) ≠ []
    · rw [if_pos isRead]
      exact .inl (.emptyText rfl isComposite combines isRead.1 isRead.2)
    · rw [if_neg isRead]
      refine .inr ⟨fun start anew => ?_, rfl⟩
      rcases anew.cause with isRead' | ⟨_, _, isPresent⟩
      · exact isRead isRead'
      · exact isPresent combines
  · rw [if_neg present]
    exact .inl (.text rfl isComposite combines present)

/-- With one input, a step adds the messages of its field, at times from anew. -/
theorem listed_of_single
    (textual : result.HasTextKeys)
    (answered :
      standardStep settings inputKeys result payload step = .ok notices)
    (isSingle : step.isComposite = false) :
    StartsAnew settings inputKeys result step.field step
        (Notice.listed (lookup step.field notices)) ∨
      (∀ start,
          ¬StartsAnew settings inputKeys result step.field step start) ∧
        Notice.listed (lookup step.field notices) =
          Notice.listed (lookup step.field payload) ++
            fieldMessages inputKeys result step.field := by
  have listed :
      Notice.listed (lookup step.field notices) =
        singleMessages inputKeys result payload step := by
    rw [lookup_standardStep_of_single textual answered isSingle]
    split
    case isTrue none =>
      rw [none]
      unfold singleMessages at none
      rw [List.append_assoc, List.append_eq_nil_iff] at none
      exact none.1
    case isFalse =>
      rfl
  have adds : step.addsTo step.field = true := by
    simp [Step.addsTo, isSingle]
  rw [listed]
  unfold singleMessages
  rw [lookup_withInputErrors]
  by_cases isRead :
      step.field ∈ step.inputs ∧ result.errorsAt (.text step.field) ≠ []
  · have anew :
        StartsAnew settings inputKeys result step.field step
          (fieldMessages inputKeys result step.field) :=
      .ownInput adds isRead.1 isRead.2
    left
    simpa [isRead, Notice.listed, fieldMessages] using anew
  · right
    constructor
    · intro start anew
      rcases anew.cause with isRead' | ⟨several, _⟩
      · exact isRead isRead'
      · rw [isSingle] at several
        cases several
    · rw [if_neg isRead, List.append_assoc]
      congr 2
      split
      case isTrue reads =>
        rw [List.contains_iff_mem] at reads
        exact (not_not.mp fun failed => isRead ⟨reads, failed⟩).symm
      case isFalse =>
        rfl

/-- Under a name that is not its field, a step lists the messages of an input. -/
theorem listed_of_ne
    (answered :
      standardStep settings inputKeys result payload step = .ok notices)
    (isOther : step.field ≠ name) :
    StartsAnew settings inputKeys result name step
        (Notice.listed (lookup name notices)) ∨
      (∀ start, ¬StartsAnew settings inputKeys result name step start) ∧
        Notice.listed (lookup name notices) =
          Notice.listed (lookup name payload) := by
  rw [lookup_standardStep_of_ne answered (Ne.symm isOther),
    lookup_withInputErrors]
  by_cases isRead :
      name ∈ step.inputs ∧ result.errorsAt (.text name) ≠ []
  · rw [if_pos isRead]
    exact .inl (.otherInput isOther isRead.1 isRead.2)
  · rw [if_neg isRead]
    refine .inr ⟨fun start anew => ?_, rfl⟩
    rcases anew.cause with isRead' | ⟨_, isField, _⟩
    · exact isRead isRead'
    · exact isOther isField

/--
A step starts the list under a name anew, or it keeps what is listed and adds the
messages of the field, if it is a step with one input and that field.
-/
theorem listed_standardStep
    (textual : result.HasTextKeys)
    (answered :
      standardStep settings inputKeys result payload step = .ok notices)
    (name : String) :
    StartsAnew settings inputKeys result name step
        (Notice.listed (lookup name notices)) ∨
      (∀ start, ¬StartsAnew settings inputKeys result name step start) ∧
        Notice.listed (lookup name notices) =
          Notice.listed (lookup name payload) ++
            if step.addsTo name then
              fieldMessages inputKeys result name
            else [] := by
  by_cases isField : step.field = name
  · subst isField
    cases composite : step.isComposite with
    | true =>
        simpa [Step.addsTo, composite] using
          listed_of_composite textual answered composite
    | false =>
        simpa [Step.addsTo, composite] using
          listed_of_single textual answered composite
  · simpa [Step.addsTo, isField] using listed_of_ne answered isField

/-! ## A whole plan -/

/--
What some steps leave listed under a name: what the last one left that started
the list anew, if there is one, and the messages of the field once for each step
behind it that adds them.
-/
theorem exists_split_of_foldlM
    {steps : List Step}
    (textual : result.HasTextKeys)
    (answered :
      steps.foldlM (standardStep settings inputKeys result) [] =
        .ok notices)
    (name : String) :
    ∃ early late start,
      steps = early ++ late ∧
        (early = [] ∧ start = [] ∨
          ∃ before step,
            early = before ++ [step] ∧
              StartsAnew settings inputKeys result name step start) ∧
        (∀ step ∈ late, ∀ start,
          ¬StartsAnew settings inputKeys result name step start) ∧
        Notice.listed (lookup name notices) =
          start ++
            (List.replicate (late.countP (Step.addsTo name))
              (fieldMessages inputKeys result name)).flatten := by
  induction steps using List.reverseRecOn generalizing notices with
  | nil =>
      cases answered
      exact ⟨[], [], [], rfl, .inl ⟨rfl, rfl⟩, List.forall_mem_nil _, rfl⟩
  | append_singleton before last inductionHypothesis =>
      rw [List.foldlM_append] at answered
      obtain ⟨between, others, stepped⟩ :=
        Except.bind_eq_ok_iff.mp answered
      rw [List.foldlM_cons] at stepped
      obtain ⟨after, stepped, same⟩ := Except.bind_eq_ok_iff.mp stepped
      cases same
      rcases listed_standardStep textual stepped name with
          anew | ⟨keeps, listed⟩
      · exact ⟨before ++ [last], [], _, (List.append_nil _).symm,
          .inr ⟨before, last, rfl, anew⟩, List.forall_mem_nil _,
          (List.append_nil _).symm⟩
      · obtain ⟨early, late, start, split, opened, kept, found⟩ :=
          inductionHypothesis others
        refine ⟨early, late ++ [last], start, ?_, opened, ?_, ?_⟩
        · rw [split, List.append_assoc]
        · intro step member
          rcases List.mem_append.mp member with old | isLast
          · exact kept step old
          · rw [List.mem_singleton.mp isLast]
            exact keeps
        · rw [listed, found, List.countP_append,
            ← List.replicate_append_replicate, List.flatten_append,
            List.append_assoc]
          congr 2
          cases adds : last.addsTo name <;> simp [adds]

/-- The messages of a field are no more than those of the result. -/
theorem count_fieldMessages_le
    (inputKeys : List String)
    (result : Result)
    (name : String)
    (message : Value) :
    (fieldMessages inputKeys result name).count message ≤
      result.messages.count message := by
  unfold fieldMessages
  rw [List.count_append, Result.errorsAt_eq_messages,
    (messagesUnder_perm _ result).count_eq]
  refine Result.count_messages_restrict_le (fun key isField => ?_) result
    message
  rw [Value.beq_text_iff.mp isField]
  simp [Value.passes, not_startsWith_self]

/-- The messages under one key are no more than those of the result. -/
theorem count_errorsAt_le
    (name : String)
    (message : Value) :
    (result.errorsAt (.text name)).count message ≤
      result.messages.count message := by
  rw [Result.errorsAt_eq_messages]
  exact (List.filter_sublist.filterMap _).count_le message

/-- What a list is started anew with holds no message more often than recorded. -/
theorem StartsAnew.count_le
    {start : List Value}
    (anew : StartsAnew settings inputKeys result name step start)
    (message : Value) :
    start.count message ≤ result.messages.count message := by
  cases anew with
  | otherInput | emptyText =>
      exact count_errorsAt_le name message
  | ownInput =>
      exact count_fieldMessages_le _ _ name message
  | text =>
      exact Nat.zero_le _

/-! ## No message twice -/

/--
Whether a plan adds to the list under a name once at most, and then from anew or
to a list that no input can have started.
-/
def ListsOnce
    (plan : Plan)
    (name : String) : Prop :=
  plan.countP (Step.addsTo name) ≤ 1 ∧
    ∀ step ∈ plan, step.addsTo name = true →
      name ∈ step.inputs ∨ ∀ other ∈ plan, name ∉ other.inputs

/-- If a list is started anew and a plan lists once, nothing is added behind. -/
theorem StartsAnew.isLast
    {plan before late : List Step}
    {start : List Value}
    (anew : StartsAnew settings inputKeys result name step start)
    (split : plan = before ++ step :: late)
    (once : ListsOnce plan name)
    (kept :
      ∀ other ∈ late, ∀ start,
        ¬StartsAnew settings inputKeys result name other start) :
    start = [] ∨ late.countP (Step.addsTo name) = 0 := by
  have isStep : step ∈ plan := by
    rw [split]
    exact List.mem_append_cons_self
  have inPlan
      (other : Step)
      (isLate : other ∈ late) :
      other ∈ plan := by
    rw [split]
    exact List.mem_append_right _ (List.mem_cons_of_mem _ isLate)
  have afterInput
      (reads : name ∈ step.inputs)
      (failed : result.errorsAt (.text name) ≠ []) :
      late.countP (Step.addsTo name) = 0 := by
    refine List.countP_eq_zero.mpr fun other isLate adds => ?_
    rcases once.2 other (inPlan other isLate) adds with own | unread
    · exact kept other isLate _ (.ownInput adds own failed)
    · exact unread step isStep reads
  cases anew with
  | otherInput _ reads failed =>
      exact .inr (afterInput reads failed)
  | emptyText _ _ _ reads failed =>
      exact .inr (afterInput reads failed)
  | ownInput _ reads failed =>
      exact .inr (afterInput reads failed)
  | text =>
      exact .inl rfl

/--
What a standard payload lists under a name is what the last step left that
started the list anew, and the messages of the field once for each step behind
it with one input and that field. So no message is listed more often than it was
recorded if the plan lists the field once; a plan that lists it again may repeat
its messages.
-/
theorem listed_of_standardErrors
    {plan : Plan}
    {messages : List Value}
    (textual : result.HasTextKeys)
    (reported : standardErrors settings plan result = .ok payload)
    (found : lookup name payload = some (.many messages)) :
    (∃ early late start,
      plan = early ++ late ∧
        (early = [] ∧ start = [] ∨
          ∃ before step,
            early = before ++ [step] ∧
              StartsAnew settings (plan.flatMap Step.inputs) result name
                step start) ∧
        (∀ step ∈ late, ∀ start,
          ¬StartsAnew settings (plan.flatMap Step.inputs) result name step
            start) ∧
        messages =
          start ++
            (List.replicate (late.countP (Step.addsTo name))
              (fieldMessages (plan.flatMap Step.inputs) result
                name)).flatten) ∧
      (ListsOnce plan name →
        ∀ message,
          messages.count message ≤ result.messages.count message) := by
  have split := exists_split_of_foldlM textual reported name
  rw [found] at split
  refine ⟨split, fun once message => ?_⟩
  obtain ⟨early, late, start, isPlan, opened, kept, listed⟩ := split
  change messages = _ at listed
  have startFits : start.count message ≤ result.messages.count message := by
    rcases opened with ⟨_, rfl⟩ | ⟨_, _, _, anew⟩
    · exact Nat.zero_le _
    · exact anew.count_le message
  have alone :
      start = [] ∨ late.countP (Step.addsTo name) = 0 := by
    rcases opened with ⟨_, none⟩ | ⟨before, step, rfl, anew⟩
    · exact .inl none
    · rw [List.append_assoc, List.singleton_append] at isPlan
      exact anew.isLast isPlan once kept
  rcases alone with rfl | none
  · have addedOnce : late.countP (Step.addsTo name) ≤ 1 := by
      have counted := once.1
      rw [isPlan, List.countP_append] at counted
      omega
    have added :=
      count_fieldMessages_le (plan.flatMap Step.inputs) result name message
    rcases Nat.le_one_iff_eq_zero_or_eq_one.mp addedOnce with none | single
    · rw [none] at listed
      simp [listed]
    · rw [single] at listed
      simpa [listed] using added
  · rw [none] at listed
    simpa [listed] using startFits

/-- A raw plan with one field for two numbers, each with an input of its own. -/
def twoNumbers : Value :=
  .list
    [.record
        [("field", .text "uid"), ("fields", .list [.text "a"]),
          ("method", .text "validate_integer")],
      .record
        [("field", .text "uid"), ("fields", .list [.text "b"]),
          ("method", .text "validate_integer")]]

/-- The step that checks the number of an input for the field of the two. -/
def numberStep
    (input : String) : Step where
  field := "uid"
  inputs := [input]
  method := "validate_integer"
  capability := Capability.integer
  arguments := []
  isRequired := false
  message := "This field is required"

/-- The two numbers are checked by two steps. -/
theorem normalize_twoNumbers :
    (Plan.normalize {} Registry.standard twoNumbers).ended =
      .ok [numberStep "a", numberStep "b"] := by
  rfl

/-- The message about an input that is no number. -/
def numberMessage : Value :=
  .text "Value must be a valid integer."

/-- What is left behind if one of the numbers is none. -/
def noNumber : Result :=
  ⟨[.error (.text "uid") numberMessage]⟩

/-- The payload lists the one message twice. -/
theorem standardErrors_noNumber :
    standardErrors {} [numberStep "a", numberStep "b"] noNumber =
      .ok [("uid", .many [numberMessage, numberMessage])] := by
  rfl

/-- The one message is recorded under a text. -/
theorem hasTextKeys_noNumber :
    noNumber.HasTextKeys := by
  simp [Result.HasTextKeys, noNumber, Entry.key]

/-- The two listings of the one message are those of the two steps. -/
theorem listed_of_standardErrors_noNumber :
    ∃ early late start,
      [numberStep "a", numberStep "b"] = early ++ late ∧
        [numberMessage, numberMessage] =
          start ++
            (List.replicate (late.countP (Step.addsTo "uid"))
              (fieldMessages ["a", "b"] noNumber "uid")).flatten := by
  have found :
      lookup "uid" [("uid", Notice.many [numberMessage, numberMessage])] =
        some (.many [numberMessage, numberMessage]) :=
    rfl
  obtain ⟨⟨early, late, start, split, _, _, listed⟩, _⟩ :=
    listed_of_standardErrors hasTextKeys_noNumber standardErrors_noNumber
      found
  exact ⟨early, late, start, split, listed⟩

/-- A standard payload can list a message more often than it was recorded. -/
theorem not_forall_count_le :
    ¬∀ (settings : Settings) (registry : Registry) (raw : Value)
        (plan : Plan) (result : Result) (payload : Payload) (name : String)
        (messages : List Value) (message : Value),
      (Plan.normalize settings registry raw).ended = .ok plan →
        result.HasTextKeys →
        result.HasTextMessages →
        standardErrors settings plan result = .ok payload →
        lookup name payload = some (.many messages) →
        messages.count message ≤ result.messages.count message := by
  intro isListedOnce
  have textual : noNumber.HasTextMessages := by
    intro key message recorded
    cases List.mem_singleton.mp recorded
    exact ⟨_, rfl⟩
  have counted :=
    isListedOnce {} Registry.standard twoNumbers _ noNumber _ "uid" _
      numberMessage normalize_twoNumbers hasTextKeys_noNumber textual
      standardErrors_noNumber rfl
  revert counted
  decide

end Report

end FormCheck
