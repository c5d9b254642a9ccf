import FormCheck.Proofs.Form.Resolution
import FormCheck.Proofs.Plan.Acceptance
import FormCheck.Proofs.PlanFile

namespace FormCheck

/-!
# Messages of configured forms

The plan of a configured form is drafted from its declaration, resolved and
normalised. What a step of the built plan has as its message depends on four
places: its own entry, the global message, its alias and the settings. An entry
of its own comes first, but the alias counts only where there is no global
message.
-/

namespace Plan

/-- Entries of a raw step that were changed at no key but one that it may have. -/
structure ChangedAt
    (key : String)
    (entries changed : Entries) :
    Prop where
  elsewhere :
    ∀ other, other ≠ key →
      lookup (Value.text other) changed = lookup (Value.text other) entries
  unknown : unknownKeys changed = unknownKeys entries

/-- Changed entries differ from the old ones as these do from them. -/
theorem ChangedAt.symm
    {key : String}
    {entries changed : Entries}
    (isChanged : ChangedAt key entries changed) :
    ChangedAt key changed entries where
  elsewhere other differs := (isChanged.elsewhere other differs).symm
  unknown := isChanged.unknown.symm

/-- A global message that is taken over changes only the entry for a message. -/
theorem changedAt_merged
    {entries : Entries}
    (distinct : HasDistinctKeys entries)
    (message : Value) :
    ChangedAt "required_msg" entries
      (PlanFile.merged [(.text "required_msg", message)] entries) where
  elsewhere other differs := by
    have below :
        lookup (Value.text other) [(.text "required_msg", message)] =
          none := by
      simp [lookup, Ne.symm differs]
    rw [PlanFile.lookup_merged distinct, below, Option.or_none]
  unknown := by
    unfold unknownKeys
    rw [PlanFile.keys_merged distinct, List.filter_append,
      List.filter_filter]
    have known :
        (stepKeys.map Value.text).contains (.text "required_msg") = true := by
      decide +kernel
    simp only [List.map_cons, List.map_nil, List.filter_cons, known,
      Bool.not_true, Bool.false_eq_true, if_false, List.filter_nil,
      List.nil_append]
    refine List.filter_congr fun key _ => ?_
    cases isKnown : (stepKeys.map Value.text).contains key with
    | true =>
        rfl
    | false =>
        have differs : (Value.text "required_msg" == key) = false := by
          rw [Bool.eq_false_iff]
          intro same
          rw [Value.text_beq_iff.mp same, known] at isKnown
          cases isKnown
        simp [differs]

/-- A list of resolved arguments changes only the entry for the arguments. -/
theorem changedAt_put
    {entries : Entries}
    {present : Value}
    (found : lookup (Value.text "args") entries = some present)
    (value : Value) :
    ChangedAt "args" entries (put (.text "args") value entries) where
  elsewhere other differs :=
    lookup_put_of_ne (.text "args") (.text other) (by simpa using differs)
      value entries
  unknown := by
    have member :
        (entries.map Prod.fst).any (· == Value.text "args") = true := by
      rw [List.any_eq_true]
      exact ⟨_, mem_keys_of_lookup (.text "args") found, by simp⟩
    unfold unknownKeys
    rw [keys_put, if_pos member, List.append_nil]

end Plan

namespace Form.Configured

open Plan

/--
The message of a step of a built plan: the one of its own entry; without such
an entry, the global one; and without both, the one of its alias. An entry or an
alias that is null declares the message of the settings.
-/
inductive InheritsMessage
    (settings : Settings)
    (global : Value)
    (entries : Entries)
    (message : String) :
    Prop where
  | own
      (declared : Value)
      (isOwn : lookup (Value.text "required_msg") entries = some declared)
      (isMessage : DeclaresMessage settings declared message) :
      InheritsMessage settings global entries message
  | inherited
      (absent : lookup (Value.text "required_msg") entries = none)
      (isGlobal : global = .text message) :
      InheritsMessage settings global entries message
  | alias
      (absent : lookup (Value.text "required_msg") entries = none)
      (noGlobal : global = .null)
      (isMessage :
        DeclaresMessage settings (entryAt entries "requiredMsg") message) :
      InheritsMessage settings global entries message

/-- The arguments that a raw step declares in a context, none by default. -/
inductive DeclaresResolved
    (context declared : Value) :
    List Value → Prop where
  | leftOut
      (isNull : declared = .null) :
      DeclaresResolved context declared []
  | fixed
      (arguments : List Value)
      (isFixed : declared = .tuple arguments) :
      DeclaresResolved context declared arguments
  | listed
      (items arguments : List Value)
      (lists : declared = .list items)
      (each : List.Forall₂ (ResolvesArgument context) items arguments) :
      DeclaresResolved context declared arguments

/--
What entries give to the plan that is built for a configured form, with
arguments and a message of some kind.
-/
structure Produces
    (registry : Registry)
    (entries : Entries)
    (AreArguments : List Value → Prop)
    (IsMessage : String → Prop)
    (step : Step) :
    Prop where
  listable : AreListable (unknownKeys entries)
  field : (entryAt entries "field").Names step.field
  method : (entryAt entries "method").Names step.method
  inputs : DeclaresInputs (entryAt entries "fields") step.field step.inputs
  arguments : AreArguments step.arguments
  isRequired : DeclaresRequired (entryAt entries "required") step.isRequired
  message : IsMessage step.message
  capability : registry.find? step.method = some step.capability

section Building

variable
  {settings : Settings}
  {registry : Registry}
  {context global : Value}
  {entries changed : Entries}
  {AreArguments : List Value → Prop}
  {IsMessage : String → Prop}
  {step : Step}

/-- Where entries were not changed, they hold what they held. -/
theorem entryAt_of_changedAt
    {key : String}
    (isChanged : ChangedAt key entries changed)
    (other : String)
    (differs : other ≠ key) :
    entryAt changed other = entryAt entries other := by
  unfold entryAt
  rw [isChanged.elsewhere other differs]

/-- Entries whose arguments were changed declare the same message. -/
theorem messageAt_of_changedAt
    (isChanged : ChangedAt "args" entries changed) :
    messageAt changed = messageAt entries := by
  unfold messageAt
  rw [isChanged.elsewhere _ (by decide),
    entryAt_of_changedAt isChanged _ (by decide)]

/-- What is produced is not changed with the arguments or the message. -/
theorem Produces.of_changedAt
    {key : String}
    (isPart : key = "args" ∨ key = "required_msg")
    (isChanged : ChangedAt key entries changed)
    (produces : Produces registry changed AreArguments IsMessage step) :
    Produces registry entries AreArguments IsMessage step := by
  have kept
      (other : String)
      (isOther : other ≠ "args" ∧ other ≠ "required_msg") :
      entryAt changed other = entryAt entries other := by
    apply entryAt_of_changedAt isChanged
    rcases isPart with rfl | rfl
    · exact isOther.1
    · exact isOther.2
  exact
    { listable := isChanged.unknown ▸ produces.listable
      field := kept "field" (by decide) ▸ produces.field
      method := kept "method" (by decide) ▸ produces.method
      inputs := kept "fields" (by decide) ▸ produces.inputs
      arguments := produces.arguments
      isRequired := kept "required" (by decide) ▸ produces.isRequired
      message := produces.message
      capability := produces.capability }

/-- What is produced depends on entries elsewhere than at the arguments and the message. -/
theorem produces_changedAt_iff
    {key : String}
    (isPart : key = "args" ∨ key = "required_msg")
    (isChanged : ChangedAt key entries changed) :
    Produces registry changed AreArguments IsMessage step ↔
      Produces registry entries AreArguments IsMessage step :=
  ⟨.of_changedAt isPart isChanged, .of_changedAt isPart isChanged.symm⟩

/-- What is produced depends on which arguments and messages are right. -/
theorem produces_congr
    {areOthers : List Value → Prop}
    {isOther : String → Prop}
    (arguments : ∀ values, AreArguments values ↔ areOthers values)
    (message : ∀ characters, IsMessage characters ↔ isOther characters) :
    Produces registry entries AreArguments IsMessage step ↔
      Produces registry entries areOthers isOther step := by
  rw [funext fun values => propext (arguments values),
    funext fun characters => propext (message characters)]

/-- A mapping is accepted as what it produces. -/
theorem isAcceptedAs_dict_iff :
    IsAcceptedAs settings registry (.dict entries) step ↔
      Produces registry entries
        (DeclaresArguments (entryAt entries "args"))
        (DeclaresMessage settings (messageAt entries)) step := by
  constructor
  · rintro ⟨_, isMapping, listable, stands⟩
    cases isMapping
    exact { stands with listable := listable }
  · intro produces
    exact ⟨entries, rfl, produces.listable, { produces with }⟩

/-- A value that is not null is not replaced by a default. -/
theorem orDefault_of_ne_null
    {value : Value}
    (notNull : value ≠ .null)
    (other : Value) :
    value.orDefault other = value := by
  unfold Value.orDefault
  split
  · exact absurd rfl notNull
  · rfl

/-- A value found at a key is the entry there. -/
theorem entryAt_of_lookup
    {key : String}
    {value : Value}
    (found : lookup (Value.text key) entries = some value) :
    entryAt entries key = value := by
  unfold entryAt
  rw [found, Option.getD_some]

/-- What is not null is found at its key. -/
theorem lookup_of_entryAt
    {key : String}
    {value : Value}
    (isEntry : entryAt entries key = value)
    (notNull : value ≠ .null) :
    lookup (Value.text key) entries = some value := by
  unfold entryAt at isEntry
  cases found : lookup (Value.text key) entries with
  | none =>
      rw [found] at isEntry
      exact absurd isEntry.symm notNull
  | some held =>
      rw [found] at isEntry
      exact congrArg some isEntry

/-- A list of arguments declares itself. -/
theorem declaresArguments_list_iff
    {items arguments : List Value} :
    DeclaresArguments (.list items) arguments ↔ arguments = items := by
  constructor
  · rintro (isNull | ⟨_, isSequence⟩)
    · cases isNull
    · exact isSequence.unique (.inl rfl)
  · rintro rfl
    exact .listed arguments (.inl rfl)

/-- Arguments that are not listed are declared as they are. -/
theorem declaresResolved_iff_of_ne_list
    {declared : Value}
    {arguments : List Value}
    (notList : ∀ items, declared ≠ .list items) :
    DeclaresArguments declared arguments ↔
      DeclaresResolved context declared arguments := by
  constructor
  · rintro (isNull | ⟨_, isList | isTuple⟩)
    · exact .leftOut isNull
    · exact absurd isList (notList arguments)
    · exact .fixed arguments isTuple
  · rintro (isNull | ⟨_, isTuple⟩ | ⟨items, _, isList, _⟩)
    · exact .leftOut isNull
    · exact .listed arguments (.inr isTuple)
    · exact absurd isList (notList items)

/-- A list of arguments declares what each of them stands for. -/
theorem declaresResolved_list_iff
    {items arguments : List Value} :
    DeclaresResolved context (.list items) arguments ↔
      List.Forall₂ (ResolvesArgument context) items arguments := by
  constructor
  · rintro (isNull | ⟨_, isTuple⟩ | ⟨_, _, isList, each⟩)
    · cases isNull
    · cases isTuple
    · cases isList
      exact each
  · exact .listed items arguments rfl

/-- Entries with a list of resolved arguments produce it. -/
theorem isAcceptedAs_put_iff
    {items resolved : List Value}
    (lists : lookup (Value.text "args") entries = some (.list items)) :
    IsAcceptedAs settings registry
        (.dict (put (.text "args") (.list resolved) entries)) step ↔
      Produces registry entries (· = resolved)
        (DeclaresMessage settings (messageAt entries)) step := by
  have isChanged := changedAt_put lists (.list resolved)
  have atArguments :
      entryAt (put (.text "args") (.list resolved) entries) "args" =
        .list resolved :=
    entryAt_of_lookup (lookup_put_self (.text "args") _ _)
  rw [isAcceptedAs_dict_iff, produces_changedAt_iff (.inl rfl) isChanged,
    messageAt_of_changedAt isChanged, atArguments]
  exact produces_congr (fun _ => declaresArguments_list_iff) fun _ => Iff.rfl

/-- What a resolved mapping is accepted as, the mapping produces. -/
theorem exists_resolved_iff :
    (∃ resolved,
        ResolvesStep context (.dict entries) resolved ∧
          IsAcceptedAs settings registry resolved step) ↔
      Produces registry entries
        (DeclaresResolved context (entryAt entries "args"))
        (DeclaresMessage settings (messageAt entries)) step := by
  by_cases listed :
      ∃ items, lookup (Value.text "args") entries = some (.list items)
  · obtain ⟨items, lists⟩ := listed
    rw [entryAt_of_lookup lists]
    constructor
    · rintro ⟨_, resolves, accepted⟩
      cases resolves with
      | listed _ others arguments listsToo each =>
          cases lists.symm.trans listsToo
          have produces := (isAcceptedAs_put_iff lists).mp accepted
          rw [← produces.arguments] at each
          exact
            { produces with arguments := declaresResolved_list_iff.mpr each }
      | unlisted _ listsNothing =>
          exact absurd lists (listsNothing entries items rfl)
    · intro produces
      have each := declaresResolved_list_iff.mp produces.arguments
      exact ⟨_, .listed entries items step.arguments lists each,
        (isAcceptedAs_put_iff lists).mpr { produces with arguments := rfl }⟩
  · simp only [not_exists] at listed
    have notList
        (items : List Value) :
        entryAt entries "args" ≠ .list items :=
      fun isList => listed items (lookup_of_entryAt isList nofun)
    rw [← produces_congr
      (fun _ => declaresResolved_iff_of_ne_list notList)
      fun _ => Iff.rfl, ← isAcceptedAs_dict_iff]
    constructor
    · rintro ⟨_, resolves, accepted⟩
      cases resolves with
      | listed _ items _ lists =>
          exact absurd lists (listed items)
      | unlisted =>
          exact accepted
    · intro accepted
      refine ⟨.dict entries, .unlisted _ fun others items same => ?_, accepted⟩
      cases same
      exact listed items

/-- The message is that of the own entry, of the global one or of the alias. -/
theorem inheritsMessage_iff
    {message : String} :
    InheritsMessage settings global entries message ↔
      DeclaresMessage settings
        ((lookup (Value.text "required_msg") entries).getD
          (global.orDefault (entryAt entries "requiredMsg")))
        message := by
  cases found : lookup (Value.text "required_msg") entries with
  | some declared =>
      rw [Option.getD_some]
      constructor
      · rintro (⟨_, isOwn, isMessage⟩ | ⟨absent, _⟩ | ⟨absent, _, _⟩)
        · rw [found] at isOwn
          cases isOwn
          exact isMessage
        · rw [found] at absent
          cases absent
        · rw [found] at absent
          cases absent
      · exact .own declared found
  | none =>
      rw [Option.getD_none]
      constructor
      · rintro (⟨_, isOwn, _⟩ | ⟨_, isText⟩ | ⟨_, noGlobal, isMessage⟩)
        · rw [found] at isOwn
          cases isOwn
        · rw [isText]
          exact .given rfl
        · rw [noGlobal]
          exact isMessage
      · intro declares
        by_cases noGlobal : global = .null
        · rw [noGlobal] at declares
          exact .alias found noGlobal declares
        · rw [orDefault_of_ne_null noGlobal] at declares
          rcases declares with ⟨isNull, _⟩ | isText
          · exact absurd isNull noGlobal
          · exact .inherited found isText

/-- The entries of a draft: those of the step, put into the global message. -/
def draftOf
    (global : Value)
    (entries : Entries) : Entries :=
  match global with
  | .null => entries
  | message => PlanFile.merged [(.text "required_msg", message)] entries

/-- With a global message, a draft is merged from it and the entries of the step. -/
theorem draftOf_of_ne_null
    (hasMessage : global ≠ .null) :
    draftOf global entries =
      PlanFile.merged [(.text "required_msg", global)] entries := by
  unfold draftOf
  split
  · exact absurd rfl hasMessage
  · rfl

/-- A step becomes the mapping of a draft exactly if it is read as its entries. -/
theorem drafts_dict_iff
    {item : Value}
    {draft : Entries} :
    PlanFile.Drafts global item (.dict draft) ↔
      ∃ entries,
        PlanFile.IsReadAs global item entries ∧
          draft = draftOf global entries := by
  constructor
  · intro drafts
    generalize made : Value.dict draft = raw at drafts
    cases drafts with
    | converted entries noMessage isConverted =>
        cases made
        subst noMessage
        exact ⟨draft, .converted rfl isConverted, rfl⟩
    | inheriting hasMessage =>
        cases item with
        | dict entries =>
            cases made
            exact ⟨entries, .mapping hasMessage rfl,
              (draftOf_of_ne_null hasMessage).symm⟩
        | _ =>
            cases made
  · rintro ⟨entries, ⟨noMessage, isConverted⟩ | ⟨hasMessage, rfl⟩, rfl⟩
    · subst noMessage
      exact .converted entries rfl isConverted
    · rw [draftOf_of_ne_null hasMessage]
      exact .inheriting hasMessage

/-- A draft is changed at most in its entry for a message. -/
theorem changedAt_draftOf
    (distinct : global ≠ .null → HasDistinctKeys entries) :
    ChangedAt "required_msg" entries (draftOf global entries) := by
  by_cases noMessage : global = .null
  · subst noMessage
    exact ⟨fun _ _ => rfl, rfl⟩
  · rw [draftOf_of_ne_null noMessage]
    exact changedAt_merged (distinct noMessage) global

/-- A draft declares its own message, or the global one, or that of its alias. -/
theorem messageAt_draftOf
    (distinct : global ≠ .null → HasDistinctKeys entries) :
    messageAt (draftOf global entries) =
      (lookup (Value.text "required_msg") entries).getD
        (global.orDefault (entryAt entries "requiredMsg")) := by
  by_cases noMessage : global = .null
  · subst noMessage
    rfl
  · rw [draftOf_of_ne_null noMessage, orDefault_of_ne_null noMessage]
    unfold messageAt
    rw [PlanFile.lookup_merged (distinct noMessage)]
    cases lookup (Value.text "required_msg") entries with
    | some declared =>
        rfl
    | none =>
        simp [lookup]

/-- A draft produces what its step does, with the message that it inherits. -/
theorem produces_draftOf_iff
    (distinct : global ≠ .null → HasDistinctKeys entries) :
    Produces registry (draftOf global entries)
        (DeclaresResolved context
          (entryAt (draftOf global entries) "args"))
        (DeclaresMessage settings (messageAt (draftOf global entries)))
        step ↔
      Produces registry entries
        (DeclaresResolved context (entryAt entries "args"))
        (InheritsMessage settings global entries) step := by
  have isChanged := changedAt_draftOf distinct
  rw [produces_changedAt_iff (.inr rfl) isChanged,
    entryAt_of_changedAt isChanged "args" (by decide),
    messageAt_draftOf distinct]
  exact produces_congr (fun _ => Iff.rfl) fun _ => inheritsMessage_iff.symm

/-- Only a mapping is resolved to a mapping. -/
theorem ResolvesStep.exists_dict
    {raw : Value}
    {others : Entries}
    (resolves : ResolvesStep context raw (.dict others)) :
    ∃ entries, raw = .dict entries := by
  generalize made : Value.dict others = resolved at resolves
  cases resolves with
  | listed entries =>
      exact ⟨entries, rfl⟩
  | unlisted =>
      exact ⟨others, made.symm⟩

/-- What a declared step becomes in a built plan, its entries produce. -/
theorem exists_raw_iff
    {item : Value}
    (distinct :
      ∀ entries, item = .dict entries → HasDistinctKeys entries) :
    (∃ raw,
        PlanFile.Drafts global item raw ∧
          ∃ resolved,
            ResolvesStep context raw resolved ∧
              IsAcceptedAs settings registry resolved step) ↔
      ∃ entries,
        PlanFile.IsReadAs global item entries ∧
          Produces registry entries
            (DeclaresResolved context (entryAt entries "args"))
            (InheritsMessage settings global entries) step := by
  have apart
      {entries : Entries}
      (read : PlanFile.IsReadAs global item entries)
      (hasMessage : global ≠ .null) :
      HasDistinctKeys entries := by
    cases read with
    | converted noMessage =>
        exact absurd noMessage hasMessage
    | mapping _ isMapping =>
        exact distinct entries isMapping
  constructor
  · rintro ⟨raw, drafts, resolved, resolves, accepted⟩
    obtain ⟨others, rfl, _⟩ := id accepted
    obtain ⟨draft, rfl⟩ := resolves.exists_dict
    obtain ⟨entries, read, rfl⟩ := drafts_dict_iff.mp drafts
    refine ⟨entries, read, (produces_draftOf_iff (apart read)).mp ?_⟩
    exact exists_resolved_iff.mp ⟨_, resolves, accepted⟩
  · rintro ⟨entries, read, produces⟩
    exact ⟨_, drafts_dict_iff.mpr ⟨entries, read, rfl⟩,
      exists_resolved_iff.mpr
        ((produces_draftOf_iff (apart read)).mpr produces)⟩

/-- A plan is drafted from the declared steps, and their arguments are resolved. -/
theorem rawPlan_answers_iff
    {session : PlanFile.Session}
    {content : PlanFile.Content}
    {configuration form raw : Value}
    {formText : String}
    {items : List Value}
    (snapshot :
      (session.configuration content).2.ended = .ok configuration)
    (hasMessage : PlanFile.HasGlobalMessage configuration global)
    (declares : PlanFile.DeclaresSteps configuration form items) :
    (rawPlan session content form formText context).ended = .ok raw ↔
      ∃ drafts resolved,
        raw = .list resolved ∧
          List.Forall₂ (PlanFile.Drafts global) items drafts ∧
          List.Forall₂ (ResolvesStep context) drafts resolved := by
  have asked
      (drafts : List Value) :
      (session.query content (PlanFile.formPlan form)).2.ended =
          .ok drafts ↔
        List.Forall₂ (PlanFile.Drafts global) items drafts := by
    rw [← PlanFile.formPlan_eq_ok_iff hasMessage declares,
      PlanFile.Session.ended_query_of_configuration snapshot]
  have listed
      (drafts : List Value) :
      (do
            let resolved ← resolveSteps formText context drafts 0
            return Value.list resolved : Logged Value).ended =
          .ok raw ↔
        ∃ resolved,
          raw = .list resolved ∧
            List.Forall₂ (ResolvesStep context) drafts resolved := by
    rw [Journal.ended_bind_eq_ok_iff]
    simp only [resolveSteps_answers_iff]
    constructor
    · rintro ⟨resolved, resolves, complete⟩
      cases complete
      exact ⟨resolved, rfl, resolves⟩
    · rintro ⟨resolved, rfl, resolves⟩
      exact ⟨resolved, resolves, rfl⟩
  unfold rawPlan
  rw [Journal.ended_bind_eq_ok_iff]
  constructor
  · rintro ⟨drafts, isDrafted, resolves⟩
    have complete : ∃ resolved,
        raw = .list resolved ∧
          List.Forall₂ (ResolvesStep context) drafts resolved := by
      dsimp only at resolves
      split at resolves
      · obtain ⟨⟨⟩, _, resolves⟩ := Journal.ended_bind_eq_ok_iff.mp resolves
        exact (listed drafts).mp resolves
      · exact (listed drafts).mp resolves
    obtain ⟨resolved, isList, each⟩ := complete
    exact ⟨drafts, resolved, isList, (asked drafts).mp isDrafted, each⟩
  · rintro ⟨drafts, resolved, isList, isDrafted, each⟩
    refine ⟨drafts, (asked drafts).mpr isDrafted, ?_⟩
    have complete := (listed drafts).mpr ⟨resolved, isList, each⟩
    dsimp only
    split
    · exact Journal.ended_bind_eq_ok_iff.mpr ⟨(), rfl, complete⟩
    · exact complete

/-- Steps are drafted, resolved and accepted exactly as their entries produce. -/
theorem exists_drafts_iff
    {items : List Value}
    {plan : Plan}
    (distinct : ∀ entries, .dict entries ∈ items → HasDistinctKeys entries) :
    (∃ drafts,
        List.Forall₂ (PlanFile.Drafts global) items drafts ∧
          ∃ resolved,
            List.Forall₂ (ResolvesStep context) drafts resolved ∧
              List.Forall₂ (IsAcceptedAs settings registry) resolved plan) ↔
      List.Forall₂
        (fun item step =>
          ∃ entries,
            PlanFile.IsReadAs global item entries ∧
              Produces registry entries
                (DeclaresResolved context (entryAt entries "args"))
                (InheritsMessage settings global entries) step)
        items plan := by
  have apart :
      ∀ item ∈ items,
        ∀ entries, item = .dict entries → HasDistinctKeys entries := by
    rintro item member entries rfl
    exact distinct entries member
  simp only [forall₂_comp_iff]
  constructor
  · intro composed
    have each := (List.forall₂_and_left _ _).mpr ⟨apart, composed⟩
    exact each.imp fun item step accepted =>
      (exists_raw_iff accepted.1).mp accepted.2
  · intro produced
    have each := (List.forall₂_and_left _ _).mpr ⟨apart, produced⟩
    exact each.imp fun item step produces =>
      (exists_raw_iff produces.1).mpr produces.2

/--
What the validator of a configured form builds: each declared step gives one step
of the plan, with the message that it inherits.
-/
theorem buildPlan_answers_iff_produces
    {session : PlanFile.Session}
    {content : PlanFile.Content}
    {configuration form : Value}
    {items : List Value}
    {validator : Validator}
    {environment : Environment}
    {data context : Value}
    {plan : Plan}
    (made :
      Configured.validator registry session content form = .ok validator)
    (snapshot :
      (session.configuration content).2.ended = .ok configuration)
    (hasMessage : PlanFile.HasGlobalMessage configuration global)
    (declares : PlanFile.DeclaresSteps configuration form items)
    (countable : Number.isWritable items.length = true)
    (distinct : ∀ entries, .dict entries ∈ items → HasDistinctKeys entries) :
    (validator.buildPlan environment data context).ended = .ok plan ↔
      (items ≠ [] → registry.has Registry.requiredName = true) ∧
        List.Forall₂
          (fun item step =>
            ∃ entries,
              PlanFile.IsReadAs global item entries ∧
                Produces registry entries
                  (DeclaresResolved (context.orElse (.dict []))
                    (entryAt entries "args"))
                  (InheritsMessage environment.settings global entries)
                  step)
          items plan ∧
        ∀ step ∈ plan, ∀ argument ∈ step.arguments, argument.IsWritable := by
  obtain ⟨formText, _, complete⟩ := Except.bind_eq_ok_iff.mp made
  cases complete
  have countedAs
      {drafts resolved : List Value}
      (isDrafted : List.Forall₂ (PlanFile.Drafts global) items drafts)
      (resolves :
        List.Forall₂ (ResolvesStep (context.orElse (.dict []))) drafts
          resolved) :
      IsCountable (.list resolved) ∧ (resolved ≠ [] ↔ items ≠ []) := by
    have size : resolved.length = items.length :=
      (isDrafted.length_eq.trans resolves.length_eq).symm
    refine ⟨fun others isSequence => ?_, ?_⟩
    · rw [isSequence.unique (.inl rfl), size]
      exact countable
    · rw [← List.length_pos_iff_ne_nil, size, List.length_pos_iff_ne_nil]
  rw [Validator.buildPlan_answers_iff, ← exists_drafts_iff distinct,
    ← Plan.isWritable_toValue_iff]
  constructor
  · rintro ⟨raw, drafted, normal, writable⟩
    obtain ⟨drafts, resolved, rfl, isDrafted, resolves⟩ :=
      (rawPlan_answers_iff snapshot hasMessage declares).mp drafted
    obtain ⟨counted, sameShape⟩ := countedAs isDrafted resolves
    obtain ⟨others, isSequence, gate, accepted⟩ :=
      (normalize_answers_iff counted).mp normal
    cases isSequence.unique (.inl rfl)
    exact ⟨fun notEmpty => gate (sameShape.mpr notEmpty),
      ⟨drafts, isDrafted, resolved, resolves, accepted⟩, writable⟩
  · rintro ⟨gate, ⟨drafts, isDrafted, resolved, resolves, accepted⟩,
      writable⟩
    obtain ⟨counted, sameShape⟩ := countedAs isDrafted resolves
    exact ⟨.list resolved,
      (rawPlan_answers_iff snapshot hasMessage declares).mpr
        ⟨drafts, resolved, rfl, isDrafted, resolves⟩,
      (normalize_answers_iff counted).mpr
        ⟨resolved, .inl rfl, fun notEmpty => gate (sameShape.mp notEmpty),
          accepted⟩,
      writable⟩

end Building

/-- A raw step that declares its message under the alias. -/
def aliasStep : Entries :=
  [(.text "field", .text "a"), (.text "method", .text "validate_integer"),
    (.text "requiredMsg", .text "Own")]

/-- A configuration with a global message and with this step alone. -/
def aliasConfiguration : Value :=
  .record
    [("global", .record [("required_msg", .text "Global")]),
      ("forms",
        .record [("f", .record [("plan", .list [.dict aliasStep])])])]

/-- A session that has taken a snapshot of this configuration. -/
def aliasSession : PlanFile.Session :=
  ⟨"plans.yaml", some aliasConfiguration⟩

/-- The validator of the form of this configuration. -/
def aliasValidator : Validator where
  name := "ConfiguredFormValidator[f]"
  registry := Registry.standard
  rawPlan _ _ context :=
    rawPlan aliasSession none (.text "f") "f" context
  style := Report.standard

/-- The configuration has its global message. -/
theorem hasGlobalMessage_alias :
    PlanFile.HasGlobalMessage aliasConfiguration (.text "Global") :=
  ⟨_, rfl, rfl⟩

/-- The configuration declares its step. -/
theorem declaresSteps_alias :
    PlanFile.DeclaresSteps aliasConfiguration (.text "f")
      [.dict aliasStep] :=
  ⟨_, _, _, rfl, rfl, rfl, rfl⟩

/-- The step of this form takes over the global message. -/
theorem buildPlan_answers_iff_produces_alias :
    Configured.validator Registry.standard aliasSession none (.text "f") =
        .ok aliasValidator ∧
      HasDistinctKeys aliasStep ∧
        ∃ step,
          (aliasValidator.buildPlan (.on ⟨2024, 1, 1⟩) (.dict [])
              .null).ended =
            .ok [step] ∧
            step.message = "Global" := by
  have distinct : HasDistinctKeys aliasStep := by
    simp [HasDistinctKeys, aliasStep]
  have registered :
      (Registry.standard.find? "validate_integer").isSome = true := by
    decide +kernel
  have hasGate : Registry.standard.has Registry.requiredName = true := by
    decide +kernel
  obtain ⟨capability, isCapability⟩ := Option.isSome_iff_exists.mp registered
  have noUnknown : unknownKeys aliasStep = [] := by
    decide +kernel
  have produces :
      Produces Registry.standard aliasStep
        (DeclaresResolved (Value.null.orElse (.dict []))
          (entryAt aliasStep "args"))
        (InheritsMessage {} (.text "Global") aliasStep)
        ⟨"a", ["a"], "validate_integer", capability, [], false, "Global"⟩ :=
    { listable := noUnknown ▸ ⟨.nil, nofun⟩
      field := ⟨rfl, by simp⟩
      method := ⟨rfl, by simp⟩
      inputs := .leftOut rfl
      arguments := .leftOut rfl
      isRequired := .leftOut rfl
      message := .inherited rfl rfl
      capability := isCapability }
  have counted : Number.isWritable [Value.dict aliasStep].length = true :=
    Number.isWritable_of_lt (by decide)
  have eachDistinct
      (entries : Entries)
      (member : .dict entries ∈ [Value.dict aliasStep]) :
      HasDistinctKeys entries := by
    rw [List.mem_singleton] at member
    cases member
    exact distinct
  refine ⟨rfl, distinct,
    ⟨"a", ["a"], "validate_integer", capability, [], false, "Global"⟩, ?_,
    rfl⟩
  exact (buildPlan_answers_iff_produces rfl rfl hasGlobalMessage_alias
    declaresSteps_alias counted eachDistinct).mpr
    ⟨fun _ => hasGate, .cons ⟨_, .dict _ _, produces⟩ .nil, by simp⟩

/-- So a message that a step declares under the alias is not always kept. -/
theorem not_forall_alias_kept :
    ¬∀ (registry : Registry) (session : PlanFile.Session)
        (content : PlanFile.Content) (configuration form global : Value)
        (items : List Value) (validator : Validator)
        (environment : Environment) (data context : Value) (plan : Plan),
        Configured.validator registry session content form =
            .ok validator →
          (session.configuration content).2.ended = .ok configuration →
          PlanFile.HasGlobalMessage configuration global →
          PlanFile.DeclaresSteps configuration form items →
          (validator.buildPlan environment data context).ended = .ok plan →
          List.Forall₂
            (fun item step =>
              ∀ entries own,
                item = .dict entries →
                  lookup (Value.text "required_msg") entries = none →
                    entryAt entries "requiredMsg" = .text own →
                      step.message = own)
            items plan := by
  intro kept
  have builds :
      (aliasValidator.buildPlan (.on ⟨2024, 1, 1⟩) (.dict [])
          .null).answersWith
          (fun plan => decide (plan.map (·.message) = ["Global"])) =
        true := by
    decide +kernel
  obtain ⟨plan, built, messages⟩ := Journal.exists_of_answersWith builds
  have each :=
    kept Registry.standard aliasSession none aliasConfiguration (.text "f")
      (.text "Global") [.dict aliasStep] aliasValidator _ _ _ plan rfl rfl
      hasGlobalMessage_alias declaresSteps_alias built
  cases each with
  | cons keptFirst rest =>
      cases rest
      have own := keptFirst aliasStep "Own" rfl rfl rfl
      simp [own] at messages

end Form.Configured

end FormCheck
