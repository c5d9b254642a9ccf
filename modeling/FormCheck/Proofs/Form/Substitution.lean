import FormCheck.Proofs.Check.Scope
import FormCheck.Proofs.Form.Resolution
import FormCheck.Proofs.Members
import FormCheck.Proofs.Plan
import FormCheck.Proofs.Plan.UnknownKeys

namespace FormCheck

/-!
# Substitution from the context

The raw plan of a configured form is substituted as a whole or refused as a
whole. An argument that refers to a key of the context is replaced by what the
context holds there, once and as it is; whatever else the plan has stays. The
first step that needs a key which the context does not hold refuses the plan.
-/

/-- Something is put into entries in place of what they hold at its key. -/
theorem forall₂_put
    {wanted present : Value}
    {entries : Entries}
    (found : lookup wanted entries = some present)
    (isExact : ExactKey wanted)
    (value : Value) :
    List.Forall₂
      (fun old new => new.1 = old.1 ∧ (old.1 ≠ wanted → new.2 = old.2))
      entries (put wanted value entries) := by
  induction entries with
  | nil =>
      cases found
  | cons entry rest inductionHypothesis =>
      obtain ⟨key, held⟩ := entry
      have unchanged :
          List.Forall₂
            (fun old new : Value × Value =>
              new.1 = old.1 ∧ (old.1 ≠ wanted → new.2 = old.2))
            rest rest :=
        List.forall₂_same.mpr fun _ _ => ⟨rfl, fun _ => rfl⟩
      unfold lookup at found
      unfold put
      split at found
      case isTrue same =>
        rw [if_pos same]
        exact .cons ⟨rfl, fun differs => absurd ((isExact _).mp same) differs⟩
          unchanged
      case isFalse differs =>
        rw [if_neg differs]
        exact .cons ⟨rfl, fun _ => rfl⟩ (inductionHypothesis found)

/-- Where some member has a property, there is a first one that has it. -/
theorem exists_first_iff
    {members : List member}
    {property : member → Prop} :
    (∃ item ∈ members, property item) ↔
      ∃ before item after,
        members = before ++ item :: after ∧
          (∀ other ∈ before, ¬property other) ∧ property item := by
  constructor
  · intro some
    induction members with
    | nil =>
        simp at some
    | cons first rest inductionHypothesis =>
        by_cases here : property first
        · exact ⟨[], first, rest, rfl, nofun, here⟩
        · have later : ∃ item ∈ rest, property item := by
            simpa [here] using some
          obtain ⟨before, item, after, rfl, others, found⟩ :=
            inductionHypothesis later
          exact ⟨first :: before, item, after, rfl,
            List.forall_mem_cons.mpr ⟨here, others⟩, found⟩
  · rintro ⟨before, item, after, rfl, _, found⟩
    exact ⟨item, by simp, found⟩

namespace Form.Configured

/-- An argument refers to a key if it is a text of the mark with the key behind it. -/
inductive RefersTo : (argument key : Value) → Prop where
  | text
      (characters : String) :
      RefersTo (.text (contextMark ++ characters)) (.text characters)

/-- The key that is found in an argument is the one that it refers to. -/
theorem contextKey?_eq_some_iff
    {argument : Value}
    {key : String} :
    contextKey? argument = some key ↔ RefersTo argument (.text key) := by
  constructor
  · intro found
    unfold contextKey? at found
    split at found
    case h_1 characters =>
      split at found
      case isTrue starts =>
        obtain ⟨rest, split⟩ := Report.startsWith_iff.mp starts
        cases found
        have whole :
            characters = contextMark ++ String.ofList rest := by
          apply String.toList_injective
          rw [String.toList_append, String.toList_ofList, split]
        rw [← split, ← String.length_toList, List.drop_left, whole]
        exact .text _
      case isFalse =>
        cases found
    case h_2 =>
      cases found
  · rintro ⟨⟩
    have starts :
        Report.startsWith (contextMark ++ key) contextMark = true :=
      Report.startsWith_append ..
    unfold contextKey?
    simp only [starts, if_true]
    rw [String.toList_append, ← String.length_toList, List.drop_left,
      String.ofList_toList]

/-- A key that is referred to is a text. -/
theorem RefersTo.isText
    {argument key : Value}
    (refers : RefersTo argument key) :
    key.IsText := by
  cases refers with
  | text characters =>
      exact ⟨characters, rfl⟩

/-- An argument refers to one key at most. -/
theorem RefersTo.unique
    {argument key other : Value}
    (refers : RefersTo argument key)
    (refersToo : RefersTo argument other) :
    key = other := by
  obtain ⟨characters, rfl⟩ := refers.isText
  obtain ⟨_, rfl⟩ := refersToo.isText
  rw [← contextKey?_eq_some_iff] at refers refersToo
  rw [Option.some.inj (refers.symm.trans refersToo)]

/-- An argument in which no key is found refers to none. -/
theorem contextKey?_eq_none_iff
    {argument : Value} :
    contextKey? argument = none ↔ ∀ key, ¬RefersTo argument key := by
  rw [Option.eq_none_iff_forall_ne_some]
  constructor
  · intro noKey key refers
    obtain ⟨characters, rfl⟩ := refers.isText
    exact noKey characters (contextKey?_eq_some_iff.mpr refers)
  · intro refersToNone characters found
    exact refersToNone _ (contextKey?_eq_some_iff.mp found)

/-- What an argument is replaced by: itself, or what the context holds at its key. -/
inductive Substitutes
    (context : Entries)
    (argument : Value) :
    Value → Prop where
  | kept
      (isPlain : ∀ key, ¬RefersTo argument key) :
      Substitutes context argument argument
  | replaced
      (key held : Value)
      (refers : RefersTo argument key)
      (holds : lookup key context = some held) :
      Substitutes context argument held

/-- An argument lacks a key if it refers to it and the context does not hold it. -/
def Lacks
    (context : Entries)
    (argument key : Value) : Prop :=
  RefersTo argument key ∧ lookup key context = none

/-- A raw step lists arguments if it is a mapping that holds a list of them. -/
def Lists
    (step : Value)
    (items : List Value) : Prop :=
  ∃ entries,
    step = .dict entries ∧
      lookup (Value.text "args") entries = some (.list items)

/--
What a raw step is replaced by: a mapping with the same keys in the same places
that holds the same values but for the list of arguments, or, if it lists none,
the step itself.
-/
inductive SubstitutesStep
    (context : Entries)
    (step : Value) :
    Value → Prop where
  | listed
      (entries changed : Entries)
      (items results : List Value)
      (isMapping : step = .dict entries)
      (lists : lookup (Value.text "args") entries = some (.list items))
      (each : List.Forall₂ (Substitutes context) items results)
      (listsResults :
        lookup (Value.text "args") changed = some (.list results))
      (keepsOthers :
        List.Forall₂
          (fun old new =>
            new.1 = old.1 ∧ (old.1 ≠ .text "args" → new.2 = old.2))
          entries changed) :
      SubstitutesStep context step (.dict changed)
  | unlisted
      (listsNothing : ∀ items, ¬Lists step items) :
      SubstitutesStep context step step

/-- A step first lacks a key that an argument does and no argument before it. -/
def FirstLacks
    (context : Entries)
    (step key : Value) : Prop :=
  ∃ earlier argument later,
    Lists step (earlier ++ argument :: later) ∧
      (∀ other ∈ earlier, ∀ key, ¬Lacks context other key) ∧
        Lacks context argument key

/-- A key that a step lacks is a text. -/
theorem FirstLacks.isText
    {context : Entries}
    {step key : Value}
    (lacks : FirstLacks context step key) :
    key.IsText := by
  obtain ⟨_, _, _, _, _, refers, _⟩ := lacks
  exact refers.isText

/-- The fault of a step that needs a key which the context does not hold. -/
inductive NeedsKey
    (form : String)
    (index : Nat)
    (key : Value) :
    Fault → Prop where
  | intro
      (characters : String)
      (isText : key = .text characters) :
      NeedsKey form index key
        (.malformedPlan
          ("Form '" ++ form ++ "' step " ++ toString index ++
            " needs context key '" ++ characters ++ "'")
          (some index))

section Substituting

variable
  {form : String}
  {context : Entries}
  {index : Nat}
  {fault : Fault}

/-- In a mapping, an argument is resolved to what it is replaced by. -/
theorem resolvesArgument_dict_iff
    {argument resolved : Value} :
    ResolvesArgument (.dict context) argument resolved ↔
      Substitutes context argument resolved := by
  constructor
  · rintro (isPlain | ⟨key, _, refers, _, isHeld⟩)
    · exact .kept (contextKey?_eq_none_iff.mp isPlain)
    · refine .replaced (.text key) resolved
        (contextKey?_eq_some_iff.mp refers) ?_
      unfold Value.atKey at isHeld
      cases found : lookup (Value.text key) context with
      | none =>
          simp [found] at isHeld
      | some value =>
          simpa [found] using isHeld
  · rintro (isPlain | ⟨key, _, refers, holds⟩)
    · exact .plain (contextKey?_eq_none_iff.mpr isPlain)
    · obtain ⟨characters, rfl⟩ := refers.isText
      refine .referring characters resolved
        (contextKey?_eq_some_iff.mpr refers) ?_ ?_
      · simp only [Value.holdsText, holds, Option.isSome_some]
      · simp only [Value.atKey, holds]

/-- An argument stops its plan exactly if it lacks a key. -/
theorem resolveArgument_stops_iff
    {argument : Value} :
    (resolveArgument form (.dict context) index argument).ended =
        .error fault ↔
      ∃ key, Lacks context argument key ∧ NeedsKey form index key fault := by
  unfold resolveArgument
  cases found : contextKey? argument with
  | none =>
      have isPlain := contextKey?_eq_none_iff.mp found
      constructor
      · rintro ⟨⟩
      · rintro ⟨key, ⟨refers, _⟩, _⟩
        exact absurd refers (isPlain key)
  | some key =>
      have refers := contextKey?_eq_some_iff.mp found
      simp only [Value.holdsText, Value.atKey]
      cases holds : lookup (Value.text key) context with
      | some value =>
          constructor
          · rintro ⟨⟩
          · rintro ⟨other, ⟨refersToo, absent⟩, _⟩
            rw [← refers.unique refersToo, holds] at absent
            cases absent
      | none =>
          constructor
          · rintro ⟨⟩
            exact ⟨_, ⟨refers, holds⟩, .intro key rfl⟩
          · rintro ⟨other, ⟨refersToo, _⟩, ⟨characters, isText⟩⟩
            obtain rfl : key = characters :=
              Value.text.inj ((refers.unique refersToo).trans isText)
            rfl

/-- An argument that lacks no key does not stop its plan. -/
theorem exists_resolvesArgument_iff
    {argument : Value} :
    (∃ resolved, ResolvesArgument (.dict context) argument resolved) ↔
      ∀ key, ¬Lacks context argument key := by
  simp only [resolvesArgument_dict_iff]
  constructor
  · rintro ⟨_, isPlain | ⟨key, _, refers, holds⟩⟩ other ⟨refersToo, absent⟩
    · exact isPlain other refersToo
    · rw [← refers.unique refersToo, holds] at absent
      cases absent
  · intro lacksNothing
    cases found : contextKey? argument with
    | none =>
        exact ⟨argument, .kept (contextKey?_eq_none_iff.mp found)⟩
    | some key =>
        have refers := contextKey?_eq_some_iff.mp found
        cases holds : lookup (Value.text key) context with
        | none =>
            exact absurd ⟨refers, holds⟩ (lacksNothing (.text key))
        | some held =>
            exact ⟨held, .replaced (.text key) held refers holds⟩

/-- Arguments stop their plan exactly with the first one that lacks a key. -/
theorem resolveArguments_stops_iff
    {items : List Value} :
    (resolveArguments form (.dict context) index items).ended =
        .error fault ↔
      ∃ earlier argument later key,
        items = earlier ++ argument :: later ∧
          (∀ other ∈ earlier, ∀ key, ¬Lacks context other key) ∧
            Lacks context argument key ∧ NeedsKey form index key fault := by
  induction items with
  | nil =>
      simp [resolveArguments]
  | cons item rest inductionHypothesis =>
      simp only [resolveArguments, Journal.ended_bind_eq_error_iff,
        resolveArgument_stops_iff, resolveArgument_answers_iff,
        inductionHypothesis]
      constructor
      · rintro (⟨key, lacks, needs⟩ | ⟨resolved, isResolved, stopped⟩)
        · exact ⟨[], item, rest, key, rfl, List.forall_mem_nil _, lacks, needs⟩
        · rcases stopped with stopped | ⟨_, _, complete⟩
          · obtain ⟨earlier, argument, later, key, rfl, others, lacks,
              needs⟩ := stopped
            have here := exists_resolvesArgument_iff.mp ⟨_, isResolved⟩
            exact ⟨item :: earlier, argument, later, key, rfl,
              List.forall_mem_cons.mpr ⟨here, others⟩, lacks, needs⟩
          · cases complete
      · rintro ⟨earlier, argument, later, key, split, others, lacks, needs⟩
        cases earlier with
        | nil =>
            cases split
            exact .inl ⟨key, lacks, needs⟩
        | cons first earlier =>
            cases split
            obtain ⟨here, others⟩ := List.forall_mem_cons.mp others
            obtain ⟨resolved, isResolved⟩ :=
              exists_resolvesArgument_iff.mpr here
            exact .inr ⟨resolved, isResolved, .inl
              ⟨earlier, argument, later, key, rfl, others, lacks, needs⟩⟩

/-- A raw step lists at most one row of arguments. -/
theorem Lists.unique
    {step : Value}
    {items others : List Value}
    (lists : Lists step items)
    (listsToo : Lists step others) :
    others = items := by
  obtain ⟨entries, rfl, found⟩ := lists
  obtain ⟨_, same, foundToo⟩ := listsToo
  cases same
  cases found.symm.trans foundToo
  rfl

/-- A raw step lists some arguments, or it is resolved to itself. -/
theorem resolveStep_cases
    (form : String)
    (context : Value)
    (index : Nat)
    (step : Value) :
    (∃ items, Lists step items) ∨
      (∀ items, ¬Lists step items) ∧
        resolveStep form context index step = pure step := by
  by_cases listed : ∃ items, Lists step items
  · exact .inl listed
  · rw [not_exists] at listed
    refine .inr ⟨listed, ?_⟩
    unfold resolveStep
    split
    case h_1 entries =>
      split
      case h_1 items lists =>
        exact absurd ⟨entries, rfl, lists⟩ (listed items)
      case h_2 =>
        rfl
    case h_2 =>
      rfl

/-- A raw step stops its plan exactly with the first key that it lacks. -/
theorem resolveStep_stops_iff
    {step : Value} :
    (resolveStep form (.dict context) index step).ended = .error fault ↔
      ∃ key,
        FirstLacks context step key ∧ NeedsKey form index key fault := by
  rcases resolveStep_cases form (.dict context) index step with
    ⟨items, lists⟩ | ⟨listsNothing, resolves⟩
  · obtain ⟨entries, rfl, found⟩ := id lists
    unfold resolveStep
    simp only [found, Journal.ended_bind_eq_error_iff,
      resolveArguments_stops_iff]
    constructor
    · rintro (stopped | ⟨_, _, complete⟩)
      · obtain ⟨earlier, argument, later, key, rfl, others, lacks,
          needs⟩ := stopped
        exact ⟨key, ⟨earlier, argument, later, lists, others, lacks⟩, needs⟩
      · cases complete
    · rintro ⟨key, ⟨earlier, argument, later, listsToo, others, lacks⟩, needs⟩
      cases lists.unique listsToo
      exact .inl
        ⟨earlier, argument, later, key, rfl, others, lacks, needs⟩
  · rw [resolves]
    constructor
    · rintro ⟨⟩
    · rintro ⟨key, ⟨_, _, _, lists, _⟩, _⟩
      exact absurd lists (listsNothing _)

/-- A raw step in a mapping is resolved to what it is replaced by. -/
theorem ResolvesStep.substitutes
    {step resolved : Value}
    (resolves : ResolvesStep (.dict context) step resolved) :
    SubstitutesStep context step resolved := by
  cases resolves with
  | listed entries items results lists each =>
      have isExact := ExactKey.text "args"
      refine .listed entries _ items results rfl lists ?_
        (lookup_put_self isExact _ _) (forall₂_put lists isExact _)
      exact each.imp fun _ _ => resolvesArgument_dict_iff.mp
  | unlisted _ listsNothing =>
      refine .unlisted ?_
      rintro items ⟨entries, rfl, lists⟩
      exact listsNothing entries items rfl lists

/-- A step needs no key if none of its arguments lacks one. -/
theorem exists_firstLacks_iff
    {step : Value} :
    (∃ key, FirstLacks context step key) ↔
      ∃ items,
        Lists step items ∧
          ∃ argument ∈ items, ∃ key, Lacks context argument key := by
  constructor
  · rintro ⟨key, earlier, argument, later, lists, _, lacks⟩
    exact ⟨_, lists, argument, by simp, key, lacks⟩
  · rintro ⟨items, lists, lacking⟩
    obtain ⟨earlier, argument, later, rfl, others, key, lacks⟩ :=
      exists_first_iff.mp lacking
    exact ⟨key, earlier, argument, later, lists,
      fun other member => not_exists.mp (others other member), lacks⟩

/-- A step is resolved unless one of its arguments lacks a key. -/
theorem exists_resolvesStep_iff
    {step : Value} :
    (∃ resolved, ResolvesStep (.dict context) step resolved) ↔
      ∀ key, ¬FirstLacks context step key := by
  rw [← not_exists, exists_firstLacks_iff]
  constructor
  · rintro ⟨_, ⟨entries, items, results, lists, each⟩ | ⟨_, listsNothing⟩⟩
      ⟨others, ⟨_, same, listsToo⟩, argument, member, key, lacks⟩
    · cases same
      cases lists.symm.trans listsToo
      have resolves := exists_forall₂_iff.mp ⟨results, each⟩ argument member
      exact exists_resolvesArgument_iff.mp resolves key lacks
    · exact listsNothing _ _ same listsToo
  · intro lacksNothing
    by_cases listed : ∃ items, Lists step items
    · obtain ⟨items, entries, rfl, lists⟩ := listed
      have resolves :
          ∃ results,
            List.Forall₂ (ResolvesArgument (.dict context)) items results := by
        refine exists_forall₂_iff.mpr fun argument member => ?_
        refine exists_resolvesArgument_iff.mpr fun key lacks => ?_
        exact lacksNothing
          ⟨items, ⟨entries, rfl, lists⟩, argument, member, key, lacks⟩
      obtain ⟨results, each⟩ := resolves
      exact ⟨_, .listed entries items results lists each⟩
    · refine ⟨step, .unlisted step fun entries items same lists => ?_⟩
      exact listed ⟨items, entries, same, lists⟩

/-- Raw steps stop their plan with the first one that lacks a key. -/
theorem resolveSteps_stops_iff
    {steps : List Value} :
    (resolveSteps form (.dict context) steps index).ended = .error fault ↔
      ∃ before step after key,
        steps = before ++ step :: after ∧
          (∀ other ∈ before, ∀ key, ¬FirstLacks context other key) ∧
            FirstLacks context step key ∧
              NeedsKey form (index + before.length) key fault := by
  induction steps generalizing index with
  | nil =>
      simp [resolveSteps]
  | cons step rest inductionHypothesis =>
      simp only [resolveSteps, Journal.ended_bind_eq_error_iff,
        resolveStep_stops_iff, resolveStep_answers_iff, inductionHypothesis]
      constructor
      · rintro (⟨key, lacks, needs⟩ | ⟨resolved, resolves, stopped⟩)
        · exact ⟨[], step, rest, key, rfl, List.forall_mem_nil _, lacks, needs⟩
        · rcases stopped with stopped | ⟨_, _, complete⟩
          · obtain ⟨before, next, after, key, rfl, others, lacks, needs⟩ :=
              stopped
            have here := exists_resolvesStep_iff.mp ⟨_, resolves⟩
            refine ⟨step :: before, next, after, key, rfl,
              List.forall_mem_cons.mpr ⟨here, others⟩, lacks, ?_⟩
            rwa [List.length_cons, Nat.add_comm before.length,
              ← Nat.add_assoc]
          · cases complete
      · rintro ⟨before, next, after, key, split, others, lacks, needs⟩
        cases before with
        | nil =>
            cases split
            exact .inl ⟨key, lacks, needs⟩
        | cons first before =>
            cases split
            obtain ⟨here, others⟩ := List.forall_mem_cons.mp others
            obtain ⟨resolved, resolves⟩ := exists_resolvesStep_iff.mpr here
            rw [List.length_cons, Nat.add_comm before.length,
              ← Nat.add_assoc] at needs
            exact .inr ⟨resolved, resolves, .inl
              ⟨before, next, after, key, rfl, others, lacks, needs⟩⟩

end Substituting

section Plans

variable
  {session : PlanFile.Session}
  {content : PlanFile.Content}
  {form : Value}
  {formText : String}
  {steps : List Value}

/-- With the steps of a form, its raw plan ends as their resolving does. -/
theorem ended_rawPlan
    (loaded :
      (session.query content (PlanFile.formPlan form)).2.ended = .ok steps)
    (context : Value) :
    (rawPlan session content form formText context).ended =
      Value.list <$> (resolveSteps formText context steps 0).ended := by
  have listed :
      (do
          let resolved ← resolveSteps formText context steps 0
          return Value.list resolved : Logged Value).ended =
        Value.list <$> (resolveSteps formText context steps 0).ended := by
    rw [Journal.ended_bind]
    cases (resolveSteps formText context steps 0).ended <;> rfl
  unfold rawPlan
  rw [Journal.bind_of_ok loaded, ← listed]
  dsimp only
  split
  · rw [Journal.bind_of_ok rfl]
  · rfl

/--
The steps that a loader gives for a form are substituted from a context, each in
its place, or the form is refused: exactly if some argument refers to a key that
the context does not hold, with the index of the first step that has one.
-/
theorem rawPlan_substitutes_or_refuses
    (loaded :
      (session.query content (PlanFile.formPlan form)).2.ended = .ok steps)
    (formText : String)
    (context : Entries) :
    (∀ raw,
        (rawPlan session content form formText (.dict context)).ended =
            .ok raw →
          ∃ results,
            raw = .list results ∧
              List.Forall₂ (SubstitutesStep context) steps results) ∧
      (∀ fault,
        (rawPlan session content form formText (.dict context)).ended =
            .error fault ↔
          ∃ before step after key,
            steps = before ++ step :: after ∧
              (∀ other ∈ before, ∀ key, ¬FirstLacks context other key) ∧
                FirstLacks context step key ∧
                  NeedsKey formText before.length key fault) ∧
        ((∃ fault,
            (rawPlan session content form formText (.dict context)).ended =
              .error fault) ↔
          ∃ step ∈ steps, ∃ items,
            Lists step items ∧
              ∃ argument ∈ items, ∃ key,
                RefersTo argument key ∧ lookup key context = none) := by
  have stopped
      (fault : Fault) :
      (rawPlan session content form formText (.dict context)).ended =
          .error fault ↔
        (resolveSteps formText (.dict context) steps 0).ended =
          .error fault := by
    rw [ended_rawPlan loaded]
    cases (resolveSteps formText (.dict context) steps 0).ended <;>
      simp [Functor.map, Except.map]
  refine ⟨fun raw answered => ?_, fun fault => ?_, ?_⟩
  · rw [ended_rawPlan loaded] at answered
    cases resolves : (resolveSteps formText (.dict context) steps 0).ended with
    | error fault =>
        rw [resolves] at answered
        cases answered
    | ok results =>
        rw [resolves] at answered
        cases answered
        refine ⟨results, rfl, ?_⟩
        exact (resolveSteps_answers_iff.mp resolves).imp
          fun _ _ => ResolvesStep.substitutes
  · rw [stopped, resolveSteps_stops_iff]
    simp only [Nat.zero_add]
  · simp only [stopped, resolveSteps_stops_iff, Nat.zero_add]
    constructor
    · rintro ⟨fault, before, step, after, key, rfl, _, lacks, _⟩
      exact ⟨step, by simp, exists_firstLacks_iff.mp ⟨key, lacks⟩⟩
    · rintro ⟨step, member, lacking⟩
      have some : ∃ step ∈ steps, ∃ key, FirstLacks context step key :=
        ⟨step, member, exists_firstLacks_iff.mpr lacking⟩
      obtain ⟨before, first, after, rfl, others, key, lacks⟩ :=
        exists_first_iff.mp some
      obtain ⟨characters, isText⟩ := lacks.isText
      exact ⟨_, before, first, after, key, rfl,
        fun other member => not_exists.mp (others other member), lacks,
        .intro characters isText⟩

/-- A step whose arguments refer to the context in a list and in a list inside it. -/
def rangeStep : Entries :=
  [(.text "args",
      .list
        [.text "$context.first", .list [.text "$context.first"], .int 9]),
    (.text "field", .text "a")]

/-- A session that has taken a snapshot with this step alone. -/
def rangeSession : PlanFile.Session where
  path := "plans.yaml"
  snapshot :=
    some (.record
      [("forms", .record [("f", .record [("plan", .list [.dict rangeStep])])])])

/-- What the context holds looks like a reference itself, and is left as it is. -/
theorem rawPlan_substitutes_or_refuses_range :
    (rangeSession.query none (PlanFile.formPlan (.text "f"))).2.ended =
        .ok [.dict rangeStep] ∧
      SubstitutesStep [(.text "first", .text "$context.second")]
        (.dict rangeStep)
        (.dict
          [(.text "args",
              .list
                [.text "$context.second", .list [.text "$context.first"],
                  .int 9]),
            (.text "field", .text "a")]) := by
  have loaded :
      (rangeSession.query none (PlanFile.formPlan (.text "f"))).2.ended =
        .ok [.dict rangeStep] :=
    rfl
  obtain ⟨results, same, each⟩ :=
    (rawPlan_substitutes_or_refuses loaded "f"
      [(.text "first", .text "$context.second")]).1 _ rfl
  cases same
  cases each with
  | cons substitutes =>
      exact ⟨loaded, substitutes⟩

end Plans

end Form.Configured

end FormCheck
