import FormCheck.Proofs.Ending
import FormCheck.Proofs.Listing
import FormCheck.Proofs.Notices

namespace FormCheck

/-!
# Reports that do not fail

The standard report of a result with textual keys answers, unless it has to
combine messages that are no texts or has no text to put between them. What it
answers has textual keys, so that it can be listed, and the run is concluded.
-/

/-- What is held somewhere is held under some key. -/
theorem exists_key_of_lookup
    [BEq key]
    {wanted : key}
    {value : entry}
    {entries : List (key × entry)}
    (found : lookup wanted entries = some value) :
    ∃ present, (present, value) ∈ entries := by
  induction entries with
  | nil =>
      simp [lookup] at found
  | cons item rest inductionHypothesis =>
      obtain ⟨present, held⟩ := item
      unfold lookup at found
      split at found
      · cases found
        exact ⟨present, List.mem_cons_self ..⟩
      · obtain ⟨other, member⟩ := inductionHypothesis found
        exact ⟨other, List.mem_cons_of_mem _ member⟩

/-- An entry after one was put is an old one or holds what was put. -/
theorem mem_of_mem_put
    [BEq key]
    {wanted : key}
    {value : entry}
    {entries : List (key × entry)}
    {item : key × entry}
    (member : item ∈ put wanted value entries) :
    item ∈ entries ∨ item.2 = value := by
  induction entries with
  | nil =>
      rw [put, List.mem_singleton] at member
      exact .inr (congrArg Prod.snd member)
  | cons first rest inductionHypothesis =>
      obtain ⟨present, held⟩ := first
      unfold put at member
      split at member
      · rcases List.mem_cons.mp member with rfl | old
        · exact .inr rfl
        · exact .inl (List.mem_cons_of_mem _ old)
      · rcases List.mem_cons.mp member with rfl | later
        · exact .inl (List.mem_cons_self ..)
        · exact (inductionHypothesis later).imp_left
            (List.mem_cons_of_mem _)

/-- Values that are all texts are the texts of some row. -/
theorem Value.exists_texts
    {values : List Value}
    (areTexts : ∀ value ∈ values, value.IsText) :
    ∃ texts : List String, values = texts.map .text := by
  induction values with
  | nil =>
      exact ⟨[], rfl⟩
  | cons value rest inductionHypothesis =>
      rw [List.forall_mem_cons] at areTexts
      obtain ⟨⟨characters, rfl⟩, restTexts⟩ := areTexts
      obtain ⟨others, rfl⟩ := inductionHypothesis restTexts
      exact ⟨characters :: others, rfl⟩

namespace Result

/-- Whether all messages that a result holds are texts. -/
def HasTextMessages
    (result : Result) : Prop :=
  ∀ key message, Entry.error key message ∈ result.entries → message.IsText

/-- The messages by key of a result with textual messages are texts. -/
theorem isText_of_mem_errors
    {result : Result}
    (textual : result.HasTextMessages)
    {item : Value × List Value}
    (member : item ∈ result.errors) :
    ∀ message ∈ item.2, message.IsText := by
  have collected
      (entries : List Entry)
      (allTextual :
        ∀ key message, Entry.error key message ∈ entries → message.IsText)
      (errors : List (Value × List Value))
      (areTexts :
        ∀ item ∈ errors, ∀ message ∈ item.2, message.IsText) :
      ∀ item ∈ entries.foldl collectError errors,
        ∀ message ∈ item.2, message.IsText := by
    induction entries generalizing errors with
    | nil =>
        exact areTexts
    | cons entry rest inductionHypothesis =>
        apply inductionHypothesis
        · intro key message later
          exact allTextual key message (List.mem_cons_of_mem _ later)
        · cases entry with
          | value key stored =>
              exact areTexts
          | error key message =>
              intro item isItem text listed
              rcases mem_of_mem_put isItem with old | same
              · exact areTexts item old text listed
              · rw [same] at listed
                rcases List.mem_append.mp listed with earlier | new
                · cases found : lookup key errors with
                  | none =>
                      simp [found] at earlier
                  | some messages =>
                      rw [found] at earlier
                      obtain ⟨present, held⟩ := exists_key_of_lookup found
                      exact areTexts _ held text earlier
                · rw [List.mem_singleton] at new
                  rw [new]
                  exact allTextual key message (List.mem_cons_self ..)
  exact collected result.entries textual [] (List.forall_mem_nil _) item
    member

end Result

namespace Report

variable
  {settings : Settings}
  {result : Result}

/-- The messages that a report finds are texts if all messages are. -/
theorem isText_of_mem_messagesUnder
    (textual : result.HasTextMessages)
    {test : String → Bool}
    {message : Value}
    (member : message ∈ messagesUnder test result) :
    message.IsText := by
  obtain ⟨item, isItem, listed⟩ := List.mem_flatMap.mp member
  have restricted :
      (result.restrict (Value.passes test)).HasTextMessages :=
    fun key message kept =>
      textual key message (List.mem_filter.mp kept).1
  exact Result.isText_of_mem_errors restricted isItem message listed

/-- Textual messages can be combined if there is a delimiter. -/
theorem withCombined_answers
    (keys : result.HasTextKeys)
    (messages : result.HasTextMessages)
    (delimiter : settings.HasDelimiter)
    (payload : Payload)
    (step : Step) :
    ∃ notices, withCombined settings result payload step = .ok notices := by
  obtain ⟨texts, areTexts⟩ :=
    Value.exists_texts fun message member =>
      isText_of_mem_messagesUnder messages member
  obtain ⟨between, isDelimiter⟩ := delimiter
  have combines :
      combined settings result step.key .null =
        .ok (Value.joined between texts) :=
    (combined_eq_ok_iff keys).mpr
      ⟨between, texts, isDelimiter, areTexts, rfl⟩
  unfold withCombined
  rw [combines]
  exact ⟨_, rfl⟩

/-- A payload is put together if each step can add to it. -/
theorem foldlM_answers
    {add : Payload → Step → Except Fault Payload}
    {plan : Plan}
    (adds :
      ∀ step ∈ plan, ∀ payload, ∃ notices, add payload step = .ok notices)
    (payload : Payload) :
    ∃ notices, plan.foldlM add payload = .ok notices := by
  induction plan generalizing payload with
  | nil =>
      exact ⟨payload, rfl⟩
  | cons step rest inductionHypothesis =>
      rw [List.forall_mem_cons] at adds
      obtain ⟨middle, added⟩ := adds.1 payload
      obtain ⟨notices, others⟩ := inductionHypothesis adds.2 middle
      refine ⟨notices, ?_⟩
      rw [List.foldlM_cons, added]
      exact others

/-- The standard report answers if what it combines are texts. -/
theorem standardErrors_answers
    (keys : result.HasTextKeys)
    {plan : Plan}
    (combinable :
      (∀ step ∈ plan, step.isComposite = false) ∨
        result.HasTextMessages ∧ settings.HasDelimiter) :
    ∃ notices, standardErrors settings plan result = .ok notices := by
  refine foldlM_answers (fun step member payload => ?_) []
  unfold standardStep
  dsimp only
  split
  case isTrue isComposite =>
    rcases combinable with single | ⟨messages, delimiter⟩
    · rw [single step member] at isComposite
      cases isComposite
    · exact withCombined_answers keys messages delimiter _ step
  case isFalse =>
    rw [messagesWhere_errors keys]
    simp only [bind, Except.bind]
    split <;> exact ⟨_, rfl⟩

end Report

namespace Validator

variable
  {validator : Validator}
  {environment : Environment}
  {plan : Plan}
  {result : Result}

/-- A failure is reported if the style of the validator reports it. -/
theorem failurePayload_answers
    (keys : result.HasTextKeys)
    (reports :
      ∃ notices,
        validator.style.errors environment.settings plan result =
          .ok notices) :
    ∃ payload listing,
      validator.failurePayload environment plan result = .ok payload ∧
        keyListing payload = .ok listing := by
  obtain ⟨notices, reported⟩ := reports
  have listed
      (entries : Entries)
      (texts : ∀ key ∈ entries.map Prod.fst, key.IsText)
      (chosen :
        validator.failurePayload environment plan result =
          .ok (.dict entries)) :
      ∃ payload listing,
        validator.failurePayload environment plan result = .ok payload ∧
          keyListing payload = .ok listing := by
    obtain ⟨listing, isListed⟩ := keyListing_of_isText texts
    exact ⟨_, listing, chosen, isListed⟩
  cases isEmpty : notices.isEmpty with
  | true =>
      refine listed result.errorEntries ?_ ?_
      · intro key member
        rw [Result.errorEntries, List.map_map] at member
        obtain ⟨message, recorded⟩ :=
          Result.exists_error_of_mem_errors member
        exact keys _ recorded
      · unfold failurePayload
        rw [reported]
        simp only [bind, Except.bind, isEmpty, ↓reduceIte]
        rfl
  | false =>
      refine listed
        ((notices.map fun item => (item.1, item.2.toValue)).map fun entry =>
          (.text entry.1, entry.2)) ?_ ?_
      · intro key member
        rw [List.map_map] at member
        obtain ⟨entry, _, rfl⟩ := List.mem_map.mp member
        exact ⟨_, rfl⟩
      · unfold failurePayload
        rw [reported]
        simp only [bind, Except.bind, isEmpty, Bool.false_eq_true,
          ↓reduceIte]
        rfl

/-- A run is concluded if its style reports what the run leaves behind. -/
theorem conclude_answers
    (keys : result.HasTextKeys)
    (reports :
      ∃ notices,
        validator.style.errors environment.settings plan result =
          .ok notices)
    (shows :
      result.hasErrors = false →
        ∃ values, validator.style.values plan result = .ok values) :
    ∃ outcome,
      (validator.conclude environment plan result).ended = .ok outcome := by
  cases failed : result.hasErrors with
  | true =>
      obtain ⟨payload, listing, chosen, listed⟩ :=
        failurePayload_answers keys reports
      exact ⟨_, (conclude_of_hasErrors failed).mpr
        ⟨payload, chosen, ⟨listing, listed⟩, rfl⟩⟩
  | false =>
      obtain ⟨values, shown⟩ := shows failed
      exact ⟨_, (conclude_of_not_hasErrors failed).mpr
        ⟨values, shown, rfl⟩⟩

end Validator

end FormCheck
