import FormCheck.Check.Required
import FormCheck.Capability
import FormCheck.Proofs.Check.Decision.Selection
import FormCheck.Proofs.Reporting
import FormCheck.Proofs.Strip

namespace FormCheck

/-!
# What forms submit

A form submits nothing, one text or several texts for an input. Every such input
has a text and options, which checks of texts and selections look at. An input
that is not filled in writes no number.
-/

namespace Value

/-- What is not filled in writes no integer. -/
theorem toInt?_of_isEmpty
    {value : Value}
    (isEmpty : value.isEmpty = true) :
    value.toInt? = none := by
  unfold toInt?
  have noDecimal : value.toDecimal? = none := by
    cases value with
    | int number =>
        cases isEmpty
    | float number =>
        cases isEmpty
    | text characters =>
        change Number.Decimal.ofText? characters = none
        unfold Number.Decimal.ofText?
        rw [List.isEmpty_iff.mp isEmpty]
        rfl
    | _ =>
        rfl
  rw [noDecimal]
  rfl

/-- What writes an integer is filled in. -/
theorem isEmpty_eq_false_of_toInt?
    {value : Value}
    {number : Int}
    (isInteger : value.toInt? = some number) :
    value.isEmpty = false := by
  rw [← Bool.not_eq_true]
  intro isEmpty
  rw [toInt?_of_isEmpty isEmpty] at isInteger
  cases isInteger

/-- What is submitted under a name is nothing or what an entry holds. -/
theorem submitted_record
    (entries : List (String × Value))
    (name : String) :
    (record entries).submitted name = null ∨
      (name, (record entries).submitted name) ∈ entries := by
  let keyed : Entries :=
    entries.map fun entry => (Value.text entry.1, entry.2)
  change
    (lookup (Value.text name) keyed).getD null = null ∨
      (name, (lookup (Value.text name) keyed).getD null) ∈ entries
  cases found : lookup (Value.text name) keyed with
  | none =>
      exact .inl rfl
  | some value =>
      obtain ⟨entry, isEntry, same⟩ :=
        List.mem_map.mp (mem_of_lookup (.text name) found)
      cases same
      exact .inr isEntry

/-- What a form submits for one input: nothing, a text or several texts. -/
inductive IsInput : Value → Prop where
  | null : IsInput .null
  | text (characters : String) : IsInput (.text characters)
  | texts (options : List String) : IsInput (.list (options.map .text))

/-- A submission is a mapping from names to inputs. -/
def IsSubmission
    (data : Value) : Prop :=
  ∃ entries,
    data = record entries ∧ ∀ entry ∈ entries, entry.2.IsInput

namespace IsSubmission

variable {data : Value}

/-- A submission has textual keys. -/
theorem isRecord
    (submission : data.IsSubmission) :
    data.IsRecord := by
  obtain ⟨entries, rfl, _⟩ := submission
  exact ⟨entries, rfl⟩

/-- What is submitted under a name is an input. -/
theorem isInput_submitted
    (submission : data.IsSubmission)
    (name : String) :
    (data.submitted name).IsInput := by
  obtain ⟨entries, rfl, inputs⟩ := submission
  rcases submitted_record entries name with absent | present
  · rw [absent]
    exact .null
  · exact inputs _ present

end IsSubmission

namespace IsInput

variable {value : Value}

/-- Every input has a text. -/
theorem exists_asText
    (isInput : value.IsInput) :
    ∃ text, value.asText = .ok text := by
  cases isInput with
  | null =>
      exact ⟨"", rfl⟩
  | text characters =>
      exact ⟨characters, rfl⟩
  | texts options =>
      have writable : (list (options.map .text)).IsWritable := by
        rw [isWritable_list_iff, List.forall_mem_map]
        exact fun option _ => ⟨_, rfl⟩
      exact writable

/-- The options of every input are texts. -/
theorem exists_options
    (isInput : value.IsInput) :
    ∃ options : List String,
      Check.selectedOptions value = options.map .text := by
  cases isInput with
  | null =>
      exact ⟨[], rfl⟩
  | text characters =>
      exact ⟨[characters], rfl⟩
  | texts options =>
      exact ⟨options, rfl⟩

/-- An input that was filled in has an option. -/
theorem selectedOptions_ne_nil
    (isInput : value.IsInput)
    (present : value.isEmpty = false) :
    Check.selectedOptions value ≠ [] := by
  cases isInput with
  | null =>
      cases present
  | text characters =>
      exact List.cons_ne_nil _ _
  | texts options =>
      exact List.isEmpty_eq_false_iff.mp present

/-- The text of several texts starts with a bracket. -/
theorem exists_toList_asText_texts
    {options : List String}
    {shown : String}
    (shows : (list (options.map .text)).asText = .ok shown) :
    ∃ rest, shown.toList = '[' :: rest := by
  unfold asText Value.shown written at shows
  obtain ⟨texts, _, same⟩ := Except.bind_eq_ok_iff.mp shows
  cases same
  exact ⟨_, by rw [String.toList_append, String.toList_append]; rfl⟩

/-- An input that was filled in has a text that is not blank. -/
theorem strip_ne_empty
    (isInput : value.IsInput)
    (present : value.isEmpty = false)
    {shown : String}
    (shows : value.asText = .ok shown) :
    Text.strip shown ≠ "" := by
  have filled : Text.stripped shown.toList ≠ [] := by
    cases isInput with
    | null =>
        cases present
    | text characters =>
        cases shows
        exact List.isEmpty_eq_false_iff.mp present
    | texts options =>
        obtain ⟨rest, bracketed⟩ := exists_toList_asText_texts shows
        rw [bracketed]
        exact List.ne_nil_of_mem
          (Text.mem_stripped_of_not_isBlank (List.mem_cons_self ..)
            (by decide))
  exact fun blank => filled (String.ofList_injective blank)

/-- An input that shows one of some texts is that text. -/
theorem eq_text_of_mem
    (isInput : value.IsInput)
    {shown : String}
    (shows : value.asText = .ok shown)
    {texts : List String}
    (listed : shown ∈ texts)
    (proper :
      ∀ text ∈ texts, text ≠ "" ∧ text.toList.head? ≠ some '[') :
    value = .text shown := by
  obtain ⟨present, unbracketed⟩ := proper shown listed
  cases isInput with
  | null =>
      cases shows
      exact absurd rfl present
  | text characters =>
      cases shows
      rfl
  | texts options =>
      obtain ⟨rest, bracketed⟩ := exists_toList_asText_texts shows
      rw [bracketed] at unbracketed
      exact absurd rfl unbracketed

/-- The verdict on the options of an input is that of the capability. -/
theorem rules_selection
    (isInput : value.IsInput)
    {allowed : Value}
    {allowedTexts : List String}
    (allows : Check.allowedOptions allowed true = .ok allowedTexts)
    (environment : Environment)
    (field : String) :
    ∃ options : List String,
      Check.selectedOptions value = options.map .text ∧
        Check.Rules field []
          (Capability.selection.call environment
            [value, .text field, allowed])
          () [⟨field, .selection allowedTexts options⟩] := by
  obtain ⟨options, areOptions⟩ := isInput.exists_options
  have selects :
      Check.shownAll (Check.selectedOptions value) = .ok options := by
    rw [areOptions]
    exact Check.shownAll_texts options
  have allowsByKey :
      Check.allowedOptions allowed (bool true).isTruthy =
        .ok allowedTexts :=
    allows
  exact ⟨options, areOptions,
    Check.Rules.selection allowsByKey selects⟩

end IsInput

/-- The text of what is submitted for an input, empty if there is none. -/
def entered
    (data : Value)
    (name : String) : String :=
  match (data.submitted name).asText with
  | .ok shown => shown
  | .error _ => ""

section Entered

variable
  {data : Value}
  {name : String}

/-- An input shows the text that is entered. -/
theorem asText_submitted
    (isInput : (data.submitted name).IsInput) :
    (data.submitted name).asText = .ok (data.entered name) := by
  obtain ⟨text, shows⟩ := isInput.exists_asText
  unfold entered
  rw [shows]

/-- A single input is filled in if the text that is entered is not blank. -/
theorem isEmpty_submitted_iff
    (isInput : (data.submitted name).IsInput)
    (isSingle : ∀ options, data.submitted name ≠ list options) :
    (data.submitted name).isEmpty = false ↔
      Text.strip (data.entered name) ≠ "" := by
  constructor
  · intro present
    exact isInput.strip_ne_empty present (asText_submitted isInput)
  · unfold entered
    intro filled
    cases submitted : data.submitted name with
    | null =>
        rw [submitted] at filled
        exact absurd rfl filled
    | text characters =>
        rw [submitted] at filled
        refine List.isEmpty_eq_false_iff.mpr fun blank => filled ?_
        change Text.strip characters = ""
        rw [Text.strip, blank]
    | list options =>
        exact absurd submitted (isSingle options)
    | _ =>
        rw [submitted] at isInput
        cases isInput

end Entered

/-- A context supplies options if it has a mapping with textual keys for them. -/
def Supplies
    (context : Value)
    (key : String)
    (options : List (String × Value)) : Prop :=
  ∃ entries,
    context = dict entries ∧
      lookup (text key) entries = some (record options)

/-- What a context supplies under a key is what it holds there. -/
theorem Supplies.submitted
    {context : Value}
    {key : String}
    {options : List (String × Value)}
    (supplies : context.Supplies key options) :
    context.submitted key = record options := by
  obtain ⟨entries, rfl, found⟩ := supplies
  change (lookup (text key) entries).getD null = _
  rw [found]
  rfl

/-- A context that supplies options is not left out. -/
theorem Supplies.orElse
    {context : Value}
    {key : String}
    {options : List (String × Value)}
    (supplies : context.Supplies key options)
    (other : Value) :
    context.orElse other = context := by
  obtain ⟨entries, rfl, found⟩ := supplies
  cases entries with
  | nil =>
      cases found
  | cons first rest =>
      rfl

end Value

/-- A mapping with textual keys allows its keys. -/
theorem Check.allowedOptions_record
    (options : List (String × Value)) :
    allowedOptions (.record options) true =
      .ok (options.map Prod.fst) := by
  have keys :
      allowedOptions (.record options) true =
        shownAll ((options.map Prod.fst).map Value.text) := by
    unfold Value.record allowedOptions
    simp [Function.comp_def]
  rw [keys, shownAll_texts]

end FormCheck
