import Mathlib.Data.List.Forall2
import FormCheck.Proofs.Check.Decision.Selection

namespace FormCheck

/-!
# Selections are all or nothing

The options of a selection are compared, by their texts, with the keys or the
values of a mapping or with the members of another collection. Each option that
is not found there gets a message of its own, in the order of selection. The
texts of the options are stored, together, if there is no such option, and
otherwise no value changes.
-/

namespace Value

/-- A value has a text if that is how it is shown. -/
def HasText
    (value : Value)
    (text : String) : Prop :=
  value.shown = .ok text

/-- A value is a collection of its items if it is a list, a tuple or a set of them. -/
def IsCollectionOf
    (value : Value)
    (items : List Value) : Prop :=
  value = .list items ∨ value = .tuple items ∨ value = .set items

end Value

namespace Check

/-! ## Options and offers -/

/-- A submitted value selects nothing, the items of a collection, or itself. -/
inductive Selects
    (submitted : Value) :
    List Value → Prop where
  | nothing
      (isNull : submitted = .null) :
      Selects submitted []
  | several
      (options : List Value)
      (isCollection : submitted.IsCollectionOf options) :
      Selects submitted options
  | single
      (notNull : submitted ≠ .null)
      (notCollection : ∀ items, ¬submitted.IsCollectionOf items) :
      Selects submitted [submitted]

/-- A mapping offers its keys or its values, anything else its members. -/
inductive Offers
    (allowed : Value)
    (byKey : Bool) :
    List Value → Prop where
  | keys
      (entries : Entries)
      (isMapping : allowed = .dict entries)
      (areKeys : byKey = true) :
      Offers allowed byKey (entries.map Prod.fst)
  | values
      (entries : Entries)
      (isMapping : allowed = .dict entries)
      (areValues : byKey = false) :
      Offers allowed byKey (entries.map Prod.snd)
  | members
      (members : List Value)
      (notMapping : ∀ entries, allowed ≠ .dict entries)
      (areMembers : allowed.members = .ok members) :
      Offers allowed byKey members

/-- The texts of the options of a selection, and those of what is offered. -/
structure Compares
    (submitted allowed : Value)
    (byKey : Bool)
    (texts offered : List String) : Prop where
  selects :
    ∃ options,
      Selects submitted options ∧ List.Forall₂ Value.HasText options texts
  offers :
    ∃ options,
      Offers allowed byKey options ∧ List.Forall₂ Value.HasText options offered

/-- The options that a value selects are the selected ones. -/
theorem selects_iff
    {submitted : Value}
    {options : List Value} :
    Selects submitted options ↔ selectedOptions submitted = options := by
  constructor
  · intro selects
    cases selects with
    | nothing isNull =>
        rw [isNull]
        rfl
    | several _ isCollection =>
        rcases isCollection with rfl | rfl | rfl <;> rfl
    | single notNull notCollection =>
        unfold selectedOptions
        split
        · exact absurd rfl notNull
        · exact absurd (.inl rfl) (notCollection _)
        · exact absurd (.inr (.inl rfl)) (notCollection _)
        · exact absurd (.inr (.inr rfl)) (notCollection _)
        · rfl
  · rintro rfl
    cases submitted with
    | null =>
        exact .nothing rfl
    | list items =>
        exact .several items (.inl rfl)
    | tuple items =>
        exact .several items (.inr (.inl rfl))
    | set items =>
        exact .several items (.inr (.inr rfl))
    | bool | int | float | text | bytes | date | dateTime | dict
      | cycle =>
        exact .single nofun (by simp [Value.IsCollectionOf])

/-- Values have texts together exactly if each has its text. -/
theorem shownAll_eq_ok_iff
    {values : List Value}
    {texts : List String} :
    shownAll values = .ok texts ↔ List.Forall₂ Value.HasText values texts := by
  unfold shownAll
  induction values generalizing texts with
  | nil =>
      rw [List.forall₂_nil_left_iff]
      exact ⟨fun same => by cases same; rfl, fun none => by rw [none]; rfl⟩
  | cons value rest inductionHypothesis =>
      simp only [List.mapM_cons, Except.bind_eq_ok_iff, inductionHypothesis,
        List.forall₂_cons_left_iff]
      constructor
      · rintro ⟨text, shows, others, showsRest, same⟩
        cases same
        exact ⟨text, others, shows, showsRest, rfl⟩
      · rintro ⟨text, others, shows, showsRest, rfl⟩
        exact ⟨text, shows, others, showsRest, rfl⟩

/-- The options that are allowed are the texts of what is offered. -/
theorem allowedOptions_eq_ok_iff
    {allowed : Value}
    {byKey : Bool}
    {offered : List String} :
    allowedOptions allowed byKey = .ok offered ↔
      ∃ options,
        Offers allowed byKey options ∧
          List.Forall₂ Value.HasText options offered := by
  simp only [← shownAll_eq_ok_iff]
  constructor
  · intro answered
    unfold allowedOptions at answered
    split at answered
    case h_1 entries =>
      cases byKey with
      | true =>
          exact ⟨_, .keys entries rfl rfl, answered⟩
      | false =>
          exact ⟨_, .values entries rfl rfl, answered⟩
    case h_2 notMapping =>
      obtain ⟨members, areMembers, shows⟩ :=
        Except.bind_eq_ok_iff.mp answered
      exact ⟨members, .members members notMapping areMembers, shows⟩
  · rintro ⟨options, offers, shows⟩
    cases offers with
    | keys entries isMapping areKeys =>
        rw [isMapping, areKeys]
        exact shows
    | values entries isMapping areValues =>
        rw [isMapping, areValues]
        exact shows
    | members _ notMapping areMembers =>
        unfold allowedOptions
        split
        case h_1 entries =>
          exact absurd rfl (notMapping entries)
        case h_2 =>
          exact Except.bind_eq_ok_iff.mpr ⟨options, areMembers, shows⟩

/-! ## What becomes of a selection -/

section Outcome

variable
  {submitted allowed byKey : Value}
  {field : String}
  {texts offered : List String}
  {result : Result}

/-- The messages for the options that are not offered. -/
def flawEntries
    (field : String)
    (texts offered : List String) : List Entry :=
  (texts.filter (· ∉ offered)).map fun text =>
    .error (.text field) (.text (Verdict.optionMessage text))

/-- The options as they are stored, if all of them are offered. -/
def storedEntries
    (field : String)
    (texts offered : List String) : List Entry :=
  if ∀ text ∈ texts, text ∈ offered then
    [.value (.text field) (.list (texts.map Value.text))]
  else
    []

/-- A selection that can be compared records its flaws, or else is stored. -/
theorem selection_eq
    (compares : Compares submitted allowed byKey.isTruthy texts offered)
    (field : String)
    (result : Result) :
    selection submitted (.text field) allowed byKey result =
      ⟨flawEntries field texts offered ++ storedEntries field texts offered,
        .ok ()⟩ := by
  obtain ⟨options, selects, shows⟩ := compares.selects
  have isAllowed : allowedOptions allowed byKey.isTruthy = .ok offered :=
    allowedOptions_eq_ok_iff.mpr compares.offers
  have sameFlaws :
      texts.filter (!offered.contains ·) = texts.filter (· ∉ offered) := by
    simp
  unfold selection
  rw [isAllowed, lift_ok_bind, selects_iff.mp selects,
    bind_of_ok (sortOut_eq field offered (shownAll_eq_ok_iff.mpr shows) _),
    sameFlaws]
  unfold flawEntries storedEntries
  by_cases flawless : ∀ text ∈ texts, text ∈ offered
  · have isAll : texts.all offered.contains = true := by
      simpa using flawless
    have isKept : texts.filter offered.contains = texts := by
      simpa using flawless
    simp only [isAll, isKept, if_pos flawless]
    rfl
  · have notAll : texts.all offered.contains = false := by
      simpa using flawless
    simp only [notAll, if_neg flawless]
    rfl

/-- A selection answers exactly if it can be compared with what is offered. -/
theorem selection_answers_iff :
    (selection submitted (.text field) allowed byKey result).ended =
        .ok () ↔
      ∃ texts offered,
        Compares submitted allowed byKey.isTruthy texts offered := by
  constructor
  · intro answered
    obtain ⟨offered, isAllowed, sorts⟩ :=
      Journal.ended_bind_eq_ok_iff.mp answered
    obtain ⟨sorted, isSorted, _⟩ := Journal.ended_bind_eq_ok_iff.mp sorts
    obtain ⟨texts, shows⟩ := exists_shownAll_of_sortOut isSorted
    exact ⟨texts, offered,
      { selects :=
          ⟨_, selects_iff.mpr rfl, shownAll_eq_ok_iff.mp shows⟩
        offers := allowedOptions_eq_ok_iff.mp isAllowed }⟩
  · rintro ⟨texts, offered, compares⟩
    rw [selection_eq compares]

end Outcome

end Check

namespace Result

/-- Messages change no values. -/
theorem values_extend_of_isError
    (result : Result)
    {entries : List Entry}
    (areErrors : ∀ entry ∈ entries, entry.isError = true) :
    (result.extend entries).values = result.values := by
  have unchanged
      (values : Entries) :
      entries.foldl collectValue values = values := by
    induction entries with
    | nil =>
        rfl
    | cons entry rest inductionHypothesis =>
        rw [List.forall_mem_cons] at areErrors
        cases entry with
        | value =>
            cases areErrors.1
        | error =>
            exact inductionHypothesis areErrors.2
  rw [values, entries_extend, List.foldl_append, unchanged]
  rfl

/-- A value that is stored is put among the values. -/
theorem values_extend_value
    (result : Result)
    (key stored : Value) :
    (result.extend [.value key stored]).values =
      put key stored result.values := by
  rw [values, entries_extend, List.foldl_append]
  rfl

end Result

/-- A message is shown under the field that it was recorded for. -/
theorem Entry.messageAt?_error_self
    (field : String)
    (message : Value) :
    (Entry.error (.text field) message).messageAt? (.text field) =
      some message := by
  simp [messageAt?]

namespace Check

/-- Storing the options adds no messages. -/
theorem errorsAt_storedEntries
    (result : Result)
    (field : String)
    (texts offered : List String)
    (key : Value) :
    (result.extend (storedEntries field texts offered)).errorsAt key =
      result.errorsAt key := by
  rw [Result.errorsAt_extend]
  unfold storedEntries
  split <;> exact List.append_nil _

/--
What a selection leaves of a result: one message more under the field for each
option that is not offered, in the order of selection, and the texts of all
options as the value of the field if there is no such option.
-/
structure IsAllOrNothing
    (field : String)
    (texts offered : List String)
    (before after : Result) : Prop where
  messages :
    after.errorsAt (.text field) =
      before.errorsAt (.text field) ++
        (texts.filter (· ∉ offered)).map fun text =>
          .text (Verdict.optionMessage text)
  others :
    ∀ key, key ≠ .text field → after.errorsAt key = before.errorsAt key
  all :
    (∀ text ∈ texts, text ∈ offered) →
      after.values =
        put (.text field) (.list (texts.map Value.text)) before.values
  nothing :
    (∃ text ∈ texts, text ∉ offered) → after.values = before.values

/-- The flaws of a selection, or else its options, are all or nothing. -/
theorem isAllOrNothing_extend
    (field : String)
    (texts offered : List String)
    (before : Result) :
    IsAllOrNothing field texts offered before
      ((before.extend (flawEntries field texts offered)).extend
        (storedEntries field texts offered)) where
  messages := by
    have shows :
        Entry.messageAt? (.text field) ∘
            (fun text => .error (.text field)
              (.text (Verdict.optionMessage text))) =
          some ∘ fun text => .text (Verdict.optionMessage text) :=
      funext fun text => Entry.messageAt?_error_self field _
    rw [errorsAt_storedEntries, Result.errorsAt_extend, flawEntries,
      List.filterMap_map, shows, List.filterMap_eq_map]
  others := by
    intro key differs
    have unseen :
        (flawEntries field texts offered).filterMap
            (Entry.messageAt? key) =
          [] := by
      refine List.filterMap_eq_nil_iff.mpr fun entry member => ?_
      obtain ⟨text, _, rfl⟩ := List.mem_map.mp member
      exact Entry.messageAt?_eq_none_of_text rfl differs
    rw [errorsAt_storedEntries, Result.errorsAt_extend, unseen,
      List.append_nil]
  all := by
    intro flawless
    have noFlaws : texts.filter (· ∉ offered) = [] := by
      simpa using flawless
    rw [flawEntries, noFlaws, storedEntries, if_pos flawless, List.map_nil,
      Result.extend_nil, Result.values_extend_value]
  nothing := by
    intro flawed
    have notAll : ¬∀ text ∈ texts, text ∈ offered := by
      simpa using flawed
    rw [storedEntries, if_neg notAll, Result.extend_nil]
    refine before.values_extend_of_isError fun entry member => ?_
    obtain ⟨text, _, rfl⟩ := List.mem_map.mp member
    rfl

/--
A selection answers exactly if each selected option and each offer has a text.
Then it is all or nothing: it adds a message for each option that is not offered,
or stores the texts of all options.
-/
theorem selection_allOrNothing
    (submitted allowed byKey : Value)
    (field : String)
    (result : Result) :
    ((selection submitted (.text field) allowed byKey result).ended =
          .ok () ↔
        ∃ texts offered,
          Compares submitted allowed byKey.isTruthy texts offered) ∧
      ∀ texts offered,
        Compares submitted allowed byKey.isTruthy texts offered →
          IsAllOrNothing field texts offered result
            ((selection submitted (.text field) allowed byKey).after
              result) := by
  refine ⟨selection_answers_iff, fun texts offered compares => ?_⟩
  rw [after, selection_eq compares, ← Result.extend_extend]
  exact isAllOrNothing_extend field texts offered result

/-- Numbers and texts that are offered as the keys of a mapping. -/
def instruments : Value :=
  .dict [(.int 1, .text "camera"), (.text "spex", .text "spectrograph")]

/-- A selection with two options that are not offered, one of them twice. -/
def mixedOptions : Value :=
  .list [.text "7", .text "1", .int 7, .text "camera", .text "spex"]

/--
Three messages are added for this selection, and the value that the field had
before is kept.
-/
theorem selection_allOrNothing_mixed :
    let before : Result :=
      ⟨[.value (.text "used") .null, .error (.text "used") (.text "Old.")]⟩
    let texts := ["7", "1", "7", "camera", "spex"]
    let check :=
      selection mixedOptions (.text "used") instruments (.bool true)
    Compares mixedOptions instruments true texts ["1", "spex"] ∧
      (check before).ended = .ok () ∧
      (check.after before).errorsAt (.text "used") =
        [.text "Old.", .text "Invalid option: '7'.",
          .text "Invalid option: '7'.", .text "Invalid option: 'camera'."] ∧
      (check.after before).values = [(.text "used", .null)] := by
  intro before texts check
  have compares :
      Compares mixedOptions instruments true texts ["1", "spex"] :=
    { selects :=
        ⟨_, .several _ (.inl rfl), shownAll_eq_ok_iff.mp (by decide +kernel)⟩
      offers :=
        ⟨_, .keys _ rfl rfl, shownAll_eq_ok_iff.mp (by decide +kernel)⟩ }
  obtain ⟨answers, settles⟩ :=
    selection_allOrNothing mixedOptions instruments (.bool true) "used" before
  have settled := settles texts _ compares
  refine ⟨compares, answers.mpr ⟨texts, _, compares⟩, ?_, ?_⟩
  · rw [settled.messages]
    rfl
  · rw [settled.nothing ⟨"7", by decide, by decide⟩]
    rfl

end Check

end FormCheck
