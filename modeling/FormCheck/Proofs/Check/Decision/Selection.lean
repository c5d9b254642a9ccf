import FormCheck.Check.Selection
import FormCheck.Proofs.Check.Decision.Number

namespace FormCheck

/-!
# Decisions on selections

A selection is decided on as a whole, with one message for each option that is
not allowed. An integer option that is not allowed is named in its message, and
one with too many digits to be written is a fault there.
-/

namespace Verdict

/-- What is said about an option that is not allowed. -/
def optionMessage
    (option : String) : String :=
  "Invalid option: '" ++ option ++ "'."

/-- The verdict on selected options, of which all must be allowed. -/
def selection
    (allowed options : List String) : Verdict :=
  match options.filter (!allowed.contains ·) with
  | [] => .accepted (.list (options.map Value.text))
  | first :: others =>
      .rejected (optionMessage first) (others.map optionMessage)

/-- The verdict on an integer that must be one of some. -/
def integerOption
    (value : Value)
    (allowed : List Int) : Verdict :=
  match value.toInt? with
  | none => .rejected "Value must be a valid integer." []
  | some number =>
      .provided (allowed.contains number = true) (.int number)
        (optionMessage (Number.decimalText number))

/-- A selection is accepted as it is if all of its options are allowed. -/
theorem selection_eq_accepted_iff
    {allowed options : List String}
    {stored : Value} :
    selection allowed options = .accepted stored ↔
      (∀ option ∈ options, option ∈ allowed) ∧
        .list (options.map Value.text) = stored := by
  unfold selection
  cases excluded : options.filter (!allowed.contains ·) with
  | nil =>
      have flawless : ∀ option ∈ options, option ∈ allowed := by
        simpa [List.filter_eq_nil_iff] using excluded
      rw [and_iff_right flawless, accepted.injEq]
  | cons first others =>
      have isExcluded :
          first ∈ options.filter (!allowed.contains ·) := by
        rw [excluded]
        exact List.mem_cons_self ..
      obtain ⟨member, isFlaw⟩ := List.mem_filter.mp isExcluded
      have flawed : first ∉ allowed := by simpa using isFlaw
      constructor
      · rintro ⟨⟩
      · exact fun flawless => absurd (flawless.1 first member) flawed

end Verdict

namespace Check

/-- Values that each show a text show these texts. -/
theorem shownAll_map
    {toValue : α → Value}
    {toText : α → String}
    {items : List α}
    (shows : ∀ item ∈ items, (toValue item).shown = .ok (toText item)) :
    shownAll (items.map toValue) = .ok (items.map toText) := by
  unfold shownAll
  induction items with
  | nil =>
      rfl
  | cons item rest inductionHypothesis =>
      rw [List.forall_mem_cons] at shows
      rw [List.map_cons, List.mapM_cons, shows.1,
        inductionHypothesis shows.2]
      rfl

/-- Texts show themselves. -/
theorem shownAll_texts
    (texts : List String) :
    shownAll (texts.map Value.text) = .ok texts := by
  have shown : shownAll (texts.map Value.text) = .ok (texts.map id) :=
    shownAll_map fun _ _ => rfl
  rwa [List.map_id] at shown

/-- The members of a list are the options that it allows. -/
theorem allowedOptions_list
    (items : List Value)
    (byKey : Bool) :
    allowedOptions (.list items) byKey = shownAll items :=
  rfl

/-- Sorting out writes a message for each option that is not allowed. -/
theorem sortOut_eq
    (field : String)
    (allowed : List String)
    {options : List Value}
    {texts : List String}
    (shows : shownAll options = .ok texts)
    (result : Result) :
    sortOut (.text field) allowed options result =
      ⟨(texts.filter (!allowed.contains ·)).map fun text =>
          .error (.text field) (.text (Verdict.optionMessage text)),
        .ok (texts.filter allowed.contains, texts.all allowed.contains)⟩ := by
  unfold shownAll at shows
  induction options generalizing texts result with
  | nil =>
      cases shows
      rfl
  | cons option rest inductionHypothesis =>
      rw [List.mapM_cons] at shows
      obtain ⟨text, isText, continued⟩ := Except.bind_eq_ok_iff.mp shows
      obtain ⟨others, areTexts, same⟩ := Except.bind_eq_ok_iff.mp continued
      cases same
      have sorted := inductionHypothesis areTexts
      unfold sortOut
      rw [isText, lift_ok_bind]
      by_cases isAllowed : allowed.contains text = true
      · have member : text ∈ allowed := by simpa using isAllowed
        rw [if_pos isAllowed, bind_of_ok (sorted result)]
        simp [member]
      · rw [if_neg isAllowed]
        have rejected :
            reject (.text field)
                ("Invalid option: '" ++ text ++ "'.") result =
              ⟨[.error (.text field)
                (.text (Verdict.optionMessage text))], .ok ()⟩ :=
          rfl
        have excluded : text ∉ allowed := by simpa using isAllowed
        rw [bind_of_ok rejected, bind_of_ok (sorted _)]
        simp [excluded]

/-- Options that are sorted out to the end all have texts. -/
theorem exists_shownAll_of_sortOut
    {key : Value}
    {allowed : List String}
    {options : List Value}
    {result : Result}
    {sorted : List String × Bool}
    (answered :
      (sortOut key allowed options result).ended = .ok sorted) :
    ∃ texts, shownAll options = .ok texts := by
  induction options generalizing result sorted with
  | nil =>
      exact ⟨[], rfl⟩
  | cons option rest inductionHypothesis =>
      unfold sortOut at answered
      cases shows : option.shown with
      | error fault =>
          rw [shows] at answered
          cases answered
      | ok text =>
          have rested :
              ∃ reached others,
                (sortOut key allowed rest reached).ended = .ok others := by
            rw [shows, lift_ok_bind] at answered
            split at answered
            · obtain ⟨others, sortedRest, _⟩ :=
                Journal.ended_bind_eq_ok_iff.mp answered
              exact ⟨_, others, sortedRest⟩
            · obtain ⟨⟨⟩, _, continued⟩ :=
                Journal.ended_bind_eq_ok_iff.mp answered
              obtain ⟨others, sortedRest, _⟩ :=
                Journal.ended_bind_eq_ok_iff.mp continued
              exact ⟨_, others, sortedRest⟩
          obtain ⟨reached, others, sortedRest⟩ := rested
          obtain ⟨texts, shown⟩ := inductionHypothesis sortedRest
          refine ⟨text :: texts, ?_⟩
          unfold shownAll at shown ⊢
          rw [List.mapM_cons, shows, shown]
          rfl

end Check

namespace Check.Rules

variable
  {field : String}
  {earlier : List Ruling}
  {submitted : Value}

/-- A selection of allowed options is accepted. -/
theorem selection
    {allowed byKey : Value}
    {allowedTexts texts : List String}
    (allows :
      Check.allowedOptions allowed byKey.isTruthy = .ok allowedTexts)
    (selects :
      Check.shownAll (Check.selectedOptions submitted) = .ok texts) :
    Rules field earlier
      (Check.selection submitted (.text field) allowed byKey) ()
      [⟨field, .selection allowedTexts texts⟩] := by
  unfold Check.selection Verdict.selection
  refine bind_lift allows ?_
  constructor
  intro start entries fresh spell
  rw [bind_of_ok (Check.sortOut_eq field allowedTexts selects _)]
  cases excluded : texts.filter (!allowedTexts.contains ·) with
  | nil =>
      have flawless :
          ∀ text ∈ texts, allowedTexts.contains text = true := by
        simpa [List.filter_eq_nil_iff] using excluded
      rw [List.all_eq_true.mpr flawless, List.filter_eq_self.mpr flawless]
      exact ⟨_, rfl, .single (.value_entry ..)⟩
  | cons first others =>
      have flawed : texts.all allowedTexts.contains = false := by
        rw [List.all_eq_false]
        have isExcluded :
            first ∈ texts.filter (!allowedTexts.contains ·) := by
          rw [excluded]
          exact List.mem_cons_self ..
        obtain ⟨member, isFlaw⟩ := List.mem_filter.mp isExcluded
        exact ⟨first, member, by simpa using isFlaw⟩
      rw [flawed]
      refine ⟨_, rfl, .single ?_⟩
      have spelled :=
        Ruling.IsSpelledBy.error_entries field
          (Verdict.optionMessage first) (others.map Verdict.optionMessage)
      simpa [Function.comp_def] using spelled

/-- An integer that is one of some is accepted. -/
theorem integerOption
    {environment : Environment}
    {allowed : List Int}
    (fits : submitted.FitsInto environment.memory)
    (writable :
      ∀ number, submitted.toInt? = some number →
        allowed.contains number = true ∨ Number.isWritable number = true) :
    Rules field earlier
      (Check.integerOption environment submitted (.text field) allowed) ()
      [⟨field, .integerOption submitted allowed⟩] := by
  unfold Check.integerOption Verdict.integerOption
  refine bind_readInteger fits ?_
  cases isInteger : submitted.toInt? with
  | none =>
      exact reject field _
  | some number =>
      unfold Verdict.provided
      dsimp only
      split
      · exact setValue field _
      · rename_i excluded
        have text := (writable number isInteger).resolve_left excluded
        exact bind_lift (Number.integerText_of_isWritable text)
          (reject field _)

end Check.Rules

/-- An integer too long to be written faults where it is not allowed. -/
theorem Check.integerOption_of_unwritable
    {environment : Environment}
    {submitted : Value}
    (fits : submitted.FitsInto environment.memory)
    {number : Int}
    {allowed : List Int}
    (isInteger : submitted.toInt? = some number)
    (excluded : allowed.contains number = false)
    (unwritable : Number.isWritable number = false)
    (key : Value)
    (result : Result) :
    Check.integerOption environment submitted key allowed result =
      ⟨[], .error .tooManyDigits⟩ := by
  unfold integerOption Number.integerText
  rw [fits.readInteger, lift_ok_bind]
  simp only [isInteger, excluded, unwritable, Bool.false_eq_true,
    ↓reduceIte]
  rfl

end FormCheck
