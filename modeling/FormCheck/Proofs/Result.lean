import FormCheck.Result

namespace FormCheck

/-!
# Views of results

A textual key is equal to itself alone, so what a result shows under it comes
from the entries with that very key. Two results agree on some keys if they
show the same value and the same messages under each of them; recording the
same entries keeps the agreement, and recording under other keys changes
nothing there.
-/

namespace Value

/-- A value equals a text exactly if it is that text. -/
theorem beq_text_iff
    {value : Value}
    {characters : String} :
    (value == Value.text characters) = true ↔
      value = .text characters := by
  constructor
  · intro same
    cases value with
    | text present =>
        rw [text_beq_text] at same
        rw [eq_of_beq same]
    | null | bool | int | float | bytes | date | dateTime
    | list | tuple | set | dict | cycle =>
        simp [BEq.beq, Value.same, number?] at same
  · rintro rfl
    simp

/-- A text equals a value exactly if the value is that text. -/
theorem text_beq_iff
    {value : Value}
    {characters : String} :
    (Value.text characters == value) = true ↔
      value = .text characters := by
  constructor
  · intro same
    cases value with
    | text present =>
        rw [text_beq_text] at same
        rw [eq_of_beq same]
    | null | bool | int | float | bytes | date | dateTime
    | list | tuple | set | dict | cycle =>
        simp [BEq.beq, Value.same, number?] at same
  · rintro rfl
    simp

end Value

namespace Entry

/-- An entry that shows a value under a text has that text as its key. -/
theorem key_of_valueAt?
    {entry : Entry}
    {characters : String}
    {stored : Value}
    (shows : entry.valueAt? (.text characters) = some stored) :
    entry = .value (.text characters) stored := by
  cases entry with
  | error key message =>
      simp [valueAt?] at shows
  | value key present =>
      simp only [valueAt?, Option.ite_none_right_eq_some,
        Value.beq_text_iff] at shows
      obtain ⟨rfl, shown⟩ := shows
      cases shown
      rfl

/-- An entry that shows a message under a text has that text as its key. -/
theorem key_of_messageAt?
    {entry : Entry}
    {characters : String}
    {message : Value}
    (shows : entry.messageAt? (.text characters) = some message) :
    entry = .error (.text characters) message := by
  cases entry with
  | value key present =>
      simp [messageAt?] at shows
  | error key present =>
      simp only [messageAt?, Option.ite_none_right_eq_some,
        Value.beq_text_iff] at shows
      obtain ⟨rfl, shown⟩ := shows
      cases shown
      rfl

/-- An entry shows no value under a text that is not its key. -/
theorem valueAt?_eq_none
    {entry : Entry}
    {characters : String}
    (differs : entry.key ≠ .text characters) :
    entry.valueAt? (.text characters) = none := by
  cases shows : entry.valueAt? (.text characters) with
  | none =>
      rfl
  | some stored =>
      rw [key_of_valueAt? shows] at differs
      exact (differs rfl).elim

/-- An entry shows no message under a text that is not its key. -/
theorem messageAt?_eq_none
    {entry : Entry}
    {characters : String}
    (differs : entry.key ≠ .text characters) :
    entry.messageAt? (.text characters) = none := by
  cases shows : entry.messageAt? (.text characters) with
  | none =>
      rfl
  | some message =>
      rw [key_of_messageAt? shows] at differs
      exact (differs rfl).elim

/-- An entry whose key is a text shows no value under another key. -/
theorem valueAt?_eq_none_of_text
    {entry : Entry}
    {characters : String}
    (isText : entry.key = .text characters)
    {key : Value}
    (differs : key ≠ .text characters) :
    entry.valueAt? key = none := by
  cases entry with
  | error ownKey message =>
      rfl
  | value ownKey stored =>
      cases isText
      simp [valueAt?, Value.text_beq_iff, differs]

/-- An entry whose key is a text shows no message under another key. -/
theorem messageAt?_eq_none_of_text
    {entry : Entry}
    {characters : String}
    (isText : entry.key = .text characters)
    {key : Value}
    (differs : key ≠ .text characters) :
    entry.messageAt? key = none := by
  cases entry with
  | value ownKey stored =>
      rfl
  | error ownKey message =>
      cases isText
      simp [messageAt?, Value.text_beq_iff, differs]

end Entry

namespace Result

/-- Recording more may replace the value under a key. -/
theorem value?_extend
    (result : Result)
    (entries : List Entry)
    (key : Value) :
    (result.extend entries).value? key =
      (entries.filterMap (Entry.valueAt? key)).getLast?.or
        (result.value? key) := by
  simp [value?, List.getLast?_append]

/-- Recording in two goes is recording all at once. -/
@[simp] theorem extend_extend
    (result : Result)
    (first second : List Entry) :
    (result.extend first).extend second =
      result.extend (first ++ second) := by
  simp [extend]

/-- A value is held under a text exactly if one was recorded there. -/
theorem hasValue_text_iff
    {result : Result}
    {characters : String} :
    result.hasValue (.text characters) = true ↔
      ∃ stored, Entry.value (.text characters) stored ∈ result.entries := by
  rw [hasValue, value?, List.getLast?_isSome,
    ← List.isEmpty_eq_false_iff, List.isEmpty_eq_false_iff_exists_mem]
  simp only [List.mem_filterMap]
  constructor
  · rintro ⟨stored, entry, member, shows⟩
    exact ⟨stored, Entry.key_of_valueAt? shows ▸ member⟩
  · rintro ⟨stored, member⟩
    exact ⟨stored, _, member, by simp [Entry.valueAt?]⟩

/-- A text has errors exactly if a message was recorded there. -/
theorem hasErrorsAt_text_iff
    {result : Result}
    {characters : String} :
    result.hasErrorsAt (.text characters) = true ↔
      ∃ message,
        Entry.error (.text characters) message ∈ result.entries := by
  rw [hasErrorsAt, errorsAt, Bool.not_eq_true',
    List.isEmpty_eq_false_iff_exists_mem]
  simp only [List.mem_filterMap]
  constructor
  · rintro ⟨message, entry, member, shows⟩
    exact ⟨message, Entry.key_of_messageAt? shows ▸ member⟩
  · rintro ⟨message, member⟩
    exact ⟨message, _, member, by simp [Entry.messageAt?]⟩

/-- A result has errors exactly if a message was recorded under some key. -/
theorem hasErrors_iff
    {result : Result} :
    result.hasErrors = true ↔
      ∃ key message, Entry.error key message ∈ result.entries := by
  simp only [hasErrors, List.any_eq_true]
  constructor
  · rintro ⟨entry, member, isError⟩
    cases entry with
    | value key stored =>
        simp [Entry.isError] at isError
    | error key message =>
        exact ⟨key, message, member⟩
  · rintro ⟨key, message, member⟩
    exact ⟨_, member, rfl⟩

/-- Recording more never takes errors away. -/
theorem hasErrorsAt_extend
    {result : Result}
    {key : Value}
    (failed : result.hasErrorsAt key = true)
    (entries : List Entry) :
    (result.extend entries).hasErrorsAt key = true := by
  simp only [hasErrorsAt, errorsAt_extend, Bool.not_eq_true',
    List.isEmpty_eq_false_iff, ne_eq, List.append_eq_nil_iff,
    not_and] at failed ⊢
  intro none
  exact (failed none).elim

/-- Recording more never takes a message away. -/
theorem hasErrors_of_extend
    {result : Result}
    {entries : List Entry}
    (clean : (result.extend entries).hasErrors = false) :
    result.hasErrors = false := by
  unfold hasErrors at clean ⊢
  rw [entries_extend, List.any_append, Bool.or_eq_false_iff] at clean
  exact clean.1

/-! ## Agreement on some keys -/

/-- Two results show the same under each of some keys. -/
def AgreeOn
    (owned : Value → Prop)
    (first second : Result) : Prop :=
  ∀ key, owned key →
    first.value? key = second.value? key ∧
      first.errorsAt key = second.errorsAt key

namespace AgreeOn

/-- Results that agree on some keys agree on fewer of them. -/
theorem mono
    {narrow wide : Value → Prop}
    {first second : Result}
    (agree : AgreeOn wide first second)
    (within : ∀ key, narrow key → wide key) :
    AgreeOn narrow first second :=
  fun key owned => agree key (within key owned)

/-- Agreements follow on each other. -/
theorem trans
    {owned : Value → Prop}
    {first second third : Result}
    (agree : AgreeOn owned first second)
    (agreeThen : AgreeOn owned second third) :
    AgreeOn owned first third :=
  fun key keyOwned =>
    ⟨(agree key keyOwned).1.trans (agreeThen key keyOwned).1,
      (agree key keyOwned).2.trans (agreeThen key keyOwned).2⟩

/-- Recording the same entries keeps an agreement. -/
theorem extend
    {owned : Value → Prop}
    {first second : Result}
    (agree : AgreeOn owned first second)
    (entries : List Entry) :
    AgreeOn owned (first.extend entries) (second.extend entries) := by
  intro key keyOwned
  obtain ⟨sameValue, sameErrors⟩ := agree key keyOwned
  simp only [value?_extend, errorsAt_extend, sameValue, sameErrors, and_self]

/-- Entries under other keys change nothing on some textual keys. -/
theorem of_foreign
    {owned : Value → Prop}
    (textual : ∀ key, owned key → ∃ characters, key = .text characters)
    (result : Result)
    {entries : List Entry}
    (foreign : ∀ entry ∈ entries, ¬owned entry.key) :
    AgreeOn owned (result.extend entries) result := by
  intro key keyOwned
  obtain ⟨characters, rfl⟩ := textual key keyOwned
  have differs :
      ∀ entry ∈ entries, entry.key ≠ .text characters := by
    intro entry member same
    exact foreign entry member (same ▸ keyOwned)
  have noValue :
      entries.filterMap (Entry.valueAt? (.text characters)) = [] :=
    List.filterMap_eq_nil_iff.mpr fun entry member =>
      Entry.valueAt?_eq_none (differs entry member)
  have noMessage :
      entries.filterMap (Entry.messageAt? (.text characters)) = [] :=
    List.filterMap_eq_nil_iff.mpr fun entry member =>
      Entry.messageAt?_eq_none (differs entry member)
  simp [value?_extend, errorsAt_extend, noValue, noMessage]

/-- Entries under other textual keys change nothing on any keys. -/
theorem of_foreign_texts
    {owned : Value → Prop}
    (result : Result)
    {entries : List Entry}
    (foreign :
      ∀ entry ∈ entries,
        ∃ characters,
          entry.key = .text characters ∧ ¬owned (.text characters)) :
    AgreeOn owned (result.extend entries) result := by
  intro key keyOwned
  have differs
      (entry : Entry)
      (member : entry ∈ entries) :
      ∃ characters,
        entry.key = .text characters ∧ key ≠ .text characters := by
    obtain ⟨characters, isText, isForeign⟩ := foreign entry member
    refine ⟨characters, isText, ?_⟩
    rintro rfl
    exact isForeign keyOwned
  have noValue : entries.filterMap (Entry.valueAt? key) = [] := by
    refine List.filterMap_eq_nil_iff.mpr fun entry member => ?_
    obtain ⟨_, isText, keyDiffers⟩ := differs entry member
    exact Entry.valueAt?_eq_none_of_text isText keyDiffers
  have noMessage : entries.filterMap (Entry.messageAt? key) = [] := by
    refine List.filterMap_eq_nil_iff.mpr fun entry member => ?_
    obtain ⟨_, isText, keyDiffers⟩ := differs entry member
    exact Entry.messageAt?_eq_none_of_text isText keyDiffers
  simp [value?_extend, errorsAt_extend, noValue, noMessage]

end AgreeOn

end Result

end FormCheck
