import FormCheck.Proofs.Members
import FormCheck.Report

namespace FormCheck

/-!
# Messages by key

The messages of a result, by key, come from its entries alone: leaving out keys
leaves out the entries with these keys. So what a report finds under the keys
that pass a test depends only on the entries with such keys.
-/

namespace Value

/-- Whether a key is a text that passes a test. -/
def passes
    (test : String → Bool) : Value → Bool
  | .text characters => test characters
  | _ => false

end Value

namespace Result

/-- Whether all that a result holds was recorded under texts. -/
def HasTextKeys
    (result : Result) : Prop :=
  ∀ entry ∈ result.entries, ∃ characters, entry.key = .text characters

/-- What a result holds under some keys. -/
def restrict
    (result : Result)
    (kept : Value → Bool) : Result :=
  ⟨result.entries.filter (kept ·.key)⟩

/-- A collected message is kept or left out with its key. -/
theorem filter_collectError
    (kept : Value → Bool)
    {entry : Entry}
    {characters : String}
    (textual : entry.key = .text characters)
    (errors : List (Value × List Value)) :
    (collectError errors entry).filter (kept ·.1) =
      if kept entry.key then
        collectError (errors.filter (kept ·.1)) entry
      else
        errors.filter (kept ·.1) := by
  cases entry with
  | value key stored =>
      simp [collectError]
  | error key message =>
      obtain rfl : key = .text characters := textual
      have isExact := ExactKey.text characters
      simp only [collectError, Entry.key]
      rw [filter_put isExact]
      by_cases isKept : kept (Value.text characters) = true
      · simp [isKept, lookup_filter isExact isKept]
      · simp [isKept]

/-- The messages under some keys are those of the entries with these keys. -/
theorem filter_errors
    {result : Result}
    (textual : result.HasTextKeys)
    (kept : Value → Bool) :
    result.errors.filter (kept ·.1) = (result.restrict kept).errors := by
  have collected
      (entries : List Entry)
      (allTextual :
        ∀ entry ∈ entries, ∃ characters, entry.key = .text characters)
      (errors : List (Value × List Value)) :
      (entries.foldl collectError errors).filter (kept ·.1) =
        (entries.filter (kept ·.key)).foldl collectError
          (errors.filter (kept ·.1)) := by
    induction entries generalizing errors with
    | nil =>
        rfl
    | cons entry rest inductionHypothesis =>
        obtain ⟨characters, isText⟩ :=
          allTextual entry (List.mem_cons_self ..)
        have restTextual :
            ∀ other ∈ rest, ∃ characters, other.key = .text characters :=
          fun other member =>
            allTextual other (List.mem_cons_of_mem _ member)
        rw [List.foldl_cons, inductionHypothesis restTextual,
          filter_collectError kept isText]
        cases isKept : kept entry.key <;>
          simp [isKept]
  exact collected result.entries textual []

/-- Messages are collected under each text in the order of recording. -/
theorem lookup_errors
    {result : Result}
    (textual : result.HasTextKeys)
    (wanted : String) :
    (lookup (Value.text wanted) result.errors).getD [] =
      result.errorsAt (.text wanted) := by
  have isExact := ExactKey.text wanted
  have collected
      (entries : List Entry)
      (allTextual :
        ∀ entry ∈ entries, ∃ characters, entry.key = .text characters)
      (errors : List (Value × List Value)) :
      (lookup (Value.text wanted)
          (entries.foldl collectError errors)).getD [] =
        (lookup (Value.text wanted) errors).getD [] ++
          entries.filterMap (Entry.messageAt? (.text wanted)) := by
    induction entries generalizing errors with
    | nil =>
        simp
    | cons entry rest inductionHypothesis =>
        have restTextual :
            ∀ other ∈ rest, ∃ characters, other.key = .text characters :=
          fun other member =>
            allTextual other (List.mem_cons_of_mem _ member)
        rw [List.foldl_cons, inductionHypothesis restTextual,
          List.filterMap_cons]
        cases entry with
        | value key stored =>
            simp [collectError, Entry.messageAt?]
        | error key message =>
            obtain ⟨characters, isText⟩ :=
              allTextual _ (List.mem_cons_self ..)
            obtain rfl : key = .text characters := isText
            by_cases same : characters = wanted
            · subst same
              simp [collectError, Entry.messageAt?,
                lookup_put_self isExact]
            · have differs :
                  Value.text wanted ≠ .text characters := by
                intro equal
                cases equal
                exact same rfl
              rw [Entry.messageAt?_eq_none (Ne.symm differs)]
              simp [collectError,
                lookup_put_of_ne (.text characters) isExact differs]
  exact (collected result.entries textual []).trans (List.nil_append _)

/-- Messages by key are there exactly if a message was recorded. -/
theorem errors_ne_nil
    {result : Result}
    (failed : result.hasErrors = true) :
    result.errors ≠ [] := by
  have stays
      (entries : List Entry)
      (errors : List (Value × List Value))
      (present : errors ≠ []) :
      entries.foldl collectError errors ≠ [] := by
    induction entries generalizing errors with
    | nil =>
        exact present
    | cons entry rest inductionHypothesis =>
        apply inductionHypothesis
        cases entry with
        | value key stored =>
            exact present
        | error key message =>
            exact put_ne_nil _ _ _
  obtain ⟨key, message, member⟩ := hasErrors_iff.mp failed
  obtain ⟨early, late, split⟩ := List.append_of_mem member
  unfold errors
  rw [split, List.foldl_append, List.foldl_cons]
  exact stays late _ (put_ne_nil _ _ _)

/-- A result without messages has none by key. -/
theorem errors_of_not_hasErrors
    {result : Result}
    (passed : result.hasErrors = false) :
    result.errors = [] := by
  unfold hasErrors at passed
  unfold errors
  rw [List.any_eq_false] at passed
  generalize result.entries = entries at passed ⊢
  induction entries with
  | nil =>
      rfl
  | cons entry rest inductionHypothesis =>
      rw [List.forall_mem_cons] at passed
      cases entry with
      | value key stored =>
          exact inductionHypothesis passed.2
      | error key message =>
          exact (passed.1 rfl).elim

/-- A result without messages has none under any key. -/
theorem errorsAt_of_not_hasErrors
    {result : Result}
    (passed : result.hasErrors = false)
    (key : Value) :
    result.errorsAt key = [] := by
  unfold hasErrors at passed
  rw [List.any_eq_false] at passed
  refine List.filterMap_eq_nil_iff.mpr fun entry member => ?_
  cases entry with
  | value present stored =>
      rfl
  | error present message =>
      exact (passed _ member rfl).elim

/-- Messages are collected under keys under which messages were recorded. -/
theorem exists_error_of_mem_errors
    {result : Result}
    {key : Value}
    (member : key ∈ result.errors.map Prod.fst) :
    ∃ message, Entry.error key message ∈ result.entries := by
  have collected
      (entries : List Entry)
      (errors : List (Value × List Value))
      (isKey :
        key ∈ (entries.foldl collectError errors).map Prod.fst) :
      key ∈ errors.map Prod.fst ∨
        ∃ message, Entry.error key message ∈ entries := by
    induction entries generalizing errors with
    | nil =>
        exact .inl isKey
    | cons entry rest inductionHypothesis =>
        rcases inductionHypothesis _ isKey with early | ⟨message, later⟩
        · cases entry with
          | value present stored =>
              exact .inl early
          | error present message =>
              rcases mem_keys_put early with rfl | old
              · exact .inr ⟨message, List.mem_cons_self ..⟩
              · exact .inl old
        · exact .inr ⟨message, List.mem_cons_of_mem _ later⟩
  rcases collected result.entries [] member with none | found
  · cases none
  · exact found

end Result

namespace Report

/-- With textual keys, a report finds the messages under the keys that pass. -/
theorem messagesWhere_of_textual
    {errors : List (Value × List Value)}
    (textual :
      ∀ key ∈ errors.map Prod.fst, ∃ characters, key = .text characters)
    (test : String → Bool) :
    messagesWhere (fun key => .ok (test key)) errors =
      .ok ((errors.filter (Value.passes test ·.1)).flatMap Prod.snd) := by
  induction errors with
  | nil =>
      rfl
  | cons error rest inductionHypothesis =>
      obtain ⟨key, messages⟩ := error
      obtain ⟨characters, rfl⟩ := textual key (List.mem_cons_self ..)
      have restTextual :
          ∀ key ∈ rest.map Prod.fst, ∃ characters, key = .text characters :=
        fun key member => textual key (List.mem_cons_of_mem _ member)
      unfold messagesWhere
      rw [inductionHypothesis restTextual]
      cases passed : test characters <;>
        simp [bind, Except.bind, pure, Except.pure, Value.passes, passed]

/-- The messages of a result under the textual keys that pass a test. -/
def messagesUnder
    (test : String → Bool)
    (result : Result) : List Value :=
  (result.restrict (Value.passes test)).errors.flatMap Prod.snd

/-- A report finds the messages of the entries whose keys pass. -/
theorem messagesWhere_errors
    {result : Result}
    (textual : result.HasTextKeys)
    (test : String → Bool) :
    messagesWhere (fun key => .ok (test key)) result.errors =
      .ok (messagesUnder test result) := by
  rw [messagesWhere_of_textual, Result.filter_errors textual]
  · rfl
  · intro key member
    obtain ⟨message, recorded⟩ :=
      Result.exists_error_of_mem_errors member
    exact textual _ recorded

/-- No message is found if none was recorded under a key that passes. -/
theorem messagesUnder_eq_nil
    {result : Result}
    {test : String → Bool}
    (none :
      ∀ characters message,
        test characters = true →
          Entry.error (.text characters) message ∉ result.entries) :
    messagesUnder test result = [] := by
  have passed :
      (result.restrict (Value.passes test)).hasErrors = false := by
    rw [← Bool.not_eq_true, Result.hasErrors_iff]
    rintro ⟨key, message, member⟩
    obtain ⟨recorded, passes⟩ := List.mem_filter.mp member
    cases key with
    | text characters =>
        exact none characters message passes recorded
    | null | bool | int | float | bytes | date | dateTime
    | list | tuple | set | dict | cycle =>
        cases passes
  unfold messagesUnder
  rw [Result.errors_of_not_hasErrors passed]
  rfl

/-- A message recorded under a key that passes is found. -/
theorem mem_messagesUnder
    {result : Result}
    (textual : result.HasTextKeys)
    {test : String → Bool}
    {characters : String}
    {message : Value}
    (recorded :
      Entry.error (.text characters) message ∈ result.entries)
    (passed : test characters = true) :
    message ∈ messagesUnder test result := by
  have member :
      message ∈
        (result.restrict (Value.passes test)).errorsAt
          (.text characters) := by
    refine List.mem_filterMap.mpr ⟨_, List.mem_filter.mpr ⟨recorded, ?_⟩, ?_⟩
    · exact passed
    · simp [Entry.messageAt?]
  have restricted :
      (result.restrict (Value.passes test)).HasTextKeys :=
    fun entry kept => textual entry (List.mem_filter.mp kept).1
  rw [← Result.lookup_errors restricted] at member
  cases found :
      lookup (Value.text characters)
        (result.restrict (Value.passes test)).errors with
  | none =>
      simp [found] at member
  | some messages =>
      rw [found] at member
      exact List.mem_flatMap.mpr
        ⟨_, mem_of_lookup (.text characters) found, member⟩

end Report

end FormCheck
