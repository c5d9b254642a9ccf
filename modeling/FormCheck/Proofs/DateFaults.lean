import FormCheck.Proofs.Calendar
import FormCheck.Proofs.Complaints

namespace FormCheck

/-!
# What is wrong with a date

A date is complained about under the key of each component outside its bounds,
or under its own key if its components make no date that exists. All rulings on
one date or on two have keys of their own, so no key has more than one message.
-/

namespace Ruling.Spell

variable
  {entries : List Entry}
  {rulings : List Ruling}

/-- A ruling with a key of its own has just its messages there. -/
theorem messages_of_distinct
    (spell : Spell entries rulings)
    (distinct : (rulings.map Ruling.key).Nodup)
    {ruling : Ruling}
    (member : ruling ∈ rulings) :
    entries.filterMap (Entry.messageAt? (.text ruling.key)) =
      ruling.verdict.messages := by
  induction spell with
  | nil =>
      cases member
  | @cons block rest first others spelled spellRest inductionHypothesis =>
      obtain ⟨isNew, distinct⟩ := List.nodup_cons.mp distinct
      rw [List.filterMap_append]
      rcases List.mem_cons.mp member with rfl | later
      · have none :
            rest.filterMap (Entry.messageAt? (.text ruling.key)) = [] := by
          refine List.filterMap_eq_nil_iff.mpr fun entry isLater => ?_
          obtain ⟨other, isOther, sameKey⟩ := spellRest.exists_of_mem isLater
          apply Entry.messageAt?_eq_none
          rw [sameKey]
          intro same
          rw [← Value.text.inj same] at isNew
          exact isNew (List.mem_map_of_mem isOther)
        rw [none, List.append_nil, spelled.messages]
      · have none :
            block.filterMap (Entry.messageAt? (.text ruling.key)) = [] := by
          refine List.filterMap_eq_nil_iff.mpr fun entry isEarlier => ?_
          apply Entry.messageAt?_eq_none
          rw [spelled.keys entry isEarlier]
          intro same
          rw [Value.text.inj same] at isNew
          exact isNew (List.mem_map_of_mem later)
        rw [none, List.nil_append]
        exact inductionHypothesis distinct later

/-- Brief rulings with keys of their own have one message under each that fails. -/
theorem exists_message
    (spell : Spell entries rulings)
    (distinct : (rulings.map Ruling.key).Nodup)
    (brief : ∀ ruling ∈ rulings, ruling.verdict.IsBrief)
    {key : String}
    (fails : failsAt key rulings = true) :
    ∃ message,
      entries.filterMap (Entry.messageAt? (.text key)) =
        [.text message] := by
  obtain ⟨ruling, member, rejects⟩ := List.any_eq_true.mp fails
  rw [Bool.and_eq_true, decide_eq_true_eq] at rejects
  obtain ⟨rfl, isRejected⟩ := rejects
  rw [spell.messages_of_distinct distinct member]
  have few := brief ruling member
  cases verdict : ruling.verdict with
  | accepted value =>
      rw [verdict] at isRejected
      cases isRejected
  | rejected message others =>
      rw [verdict] at few
      obtain rfl : others = [] := by
        simpa [Verdict.IsBrief, Verdict.texts] using few
      exact ⟨message, rfl⟩

/-- A message is recorded under a key that fails. -/
theorem failsAt_of_isError
    (spell : Spell entries rulings)
    {entry : Entry}
    (member : entry ∈ entries)
    (isError : entry.isError = true) :
    ∃ key, entry.key = .text key ∧ failsAt key rulings = true := by
  induction spell with
  | nil =>
      cases member
  | @cons block rest ruling others spelled _ inductionHypothesis =>
      rcases List.mem_append.mp member with here | later
      · have isRejected : ruling.verdict.isRejected = true := by
          rw [← spelled.any_isError]
          exact List.any_eq_true.mpr ⟨entry, here, isError⟩
        exact ⟨ruling.key, spelled.keys entry here, by simp [isRejected]⟩
      · obtain ⟨key, sameKey, fails⟩ := inductionHypothesis later
        exact ⟨key, sameKey, by simp [fails]⟩

end Ruling.Spell

/-! ## What is wrong with a date -/

/-- A value is an integer within bounds, or writes one. -/
def Value.IsIntegerIn
    (value : Value)
    (least greatest : Int) : Prop :=
  ∃ number,
    value.toInt? = some number ∧ least ≤ number ∧ number ≤ greatest

/-- What is no integer within bounds has none. -/
theorem Value.integerWithin?_eq_none_iff
    {value : Value}
    {least greatest : Int} :
    value.integerWithin? least greatest = none ↔
      ¬value.IsIntegerIn least greatest := by
  simp only [Option.eq_none_iff_forall_ne_some, ne_eq,
    integerWithin?_eq_some_iff, IsIntegerIn, not_exists]

namespace DateInputs

variable
  {field : String}
  {inputs : DateInputs}
  {earliest latest : Int}

/-- Inputs make a date if they denote one that exists, in a year within bounds. -/
structure Make
    (inputs : DateInputs)
    (earliest latest : Int)
    (date : Date) : Prop where
  denotes : inputs.Denote date
  actual : date.isActual = true
  years : earliest ≤ date.year ∧ date.year ≤ latest

/-- The date of some inputs is the one that they make. -/
theorem date?_eq_some_iff_make
    {date : Date} :
    inputs.date? earliest latest = some date ↔
      inputs.Make earliest latest date := by
  rw [date?_eq_some_iff]
  exact ⟨fun ⟨denotes, actual, years⟩ => ⟨denotes, actual, years⟩,
    fun makes => ⟨makes.denotes, makes.actual, makes.years⟩⟩

/-- Inputs that make a date can be borne. -/
theorem Make.areBearable
    {date : Date}
    (makes : inputs.Make earliest latest date)
    (memory : Memory) :
    inputs.AreBearable memory earliest latest where
  fit := makes.denotes.fitInto makes.actual memory
  answerable := by
    intro number isYear outside
    have same := isYear.symm.trans makes.denotes.year
    rw [Option.some.inj same] at outside
    exact absurd (by simpa [IsWithin] using makes.years) outside
  calm := makes.denotes.not_overflow makes.actual earliest latest

/-- A component of some inputs is wrong if it is no integer within its bounds. -/
inductive HasWrong
    (inputs : DateInputs)
    (earliest latest : Int) : String → Prop where
  | year
      (outside : ¬inputs.year.IsIntegerIn earliest latest) :
      HasWrong inputs earliest latest "year"
  | month
      (outside : ¬inputs.month.IsIntegerIn 1 12) :
      HasWrong inputs earliest latest "month"
  | day
      (outside : ¬inputs.day.IsIntegerIn 1 31) :
      HasWrong inputs earliest latest "day"

/-- Inputs without a wrong component may be those of no date that exists. -/
structure IsNoDate
    (inputs : DateInputs)
    (earliest latest : Int) : Prop where
  complete : ∀ part, ¬inputs.HasWrong earliest latest part
  missing : ∀ date, ¬inputs.Make earliest latest date

/-- The rulings on components fail under the keys of the wrong ones. -/
theorem failsAt_dateComponents_iff
    {key : String} :
    Ruling.failsAt key
        (Ruling.dateComponents field earliest latest inputs) =
        true ↔
      ∃ part,
        inputs.HasWrong earliest latest part ∧ key = field ++ "_" ++ part := by
  simp only [Ruling.dateComponents, Ruling.failsAt_cons, Ruling.failsAt_nil,
    Verdict.isRejected_integerIn, Bool.or_false, Bool.or_eq_true,
    Bool.and_eq_true, decide_eq_true_eq, Option.isNone_iff_eq_none,
    Value.integerWithin?_eq_none_iff]
  constructor
  · rintro (⟨same, outside⟩ | ⟨same, outside⟩ | ⟨same, outside⟩)
    · exact ⟨"year", .year outside, same.symm⟩
    · exact ⟨"month", .month outside, same.symm⟩
    · exact ⟨"day", .day outside, same.symm⟩
  · rintro ⟨part, wrong, rfl⟩
    cases wrong with
    | year outside =>
        exact .inl ⟨rfl, outside⟩
    | month outside =>
        exact .inr (.inl ⟨rfl, outside⟩)
    | day outside =>
        exact .inr (.inr ⟨rfl, outside⟩)

/-- The components are not all there exactly if one of them is wrong. -/
theorem components?_eq_none_iff :
    inputs.components? earliest latest = none ↔
      ∃ part, inputs.HasWrong earliest latest part := by
  rw [← Option.isNone_iff_eq_none, ← Ruling.someFails_dateComponents ""]
  constructor
  · intro fails
    obtain ⟨ruling, member, isRejected⟩ := List.any_eq_true.mp fails
    have failsThere :
        Ruling.failsAt ruling.key
            (Ruling.dateComponents "" earliest latest inputs) =
          true :=
      List.any_eq_true.mpr ⟨ruling, member, by simp [isRejected]⟩
    obtain ⟨part, wrong, _⟩ := failsAt_dateComponents_iff.mp failsThere
    exact ⟨part, wrong⟩
  · rintro ⟨part, wrong⟩
    by_contra passed
    have none :=
      Ruling.failsAt_of_not_someFails (Bool.not_eq_true _ ▸ passed)
        ("" ++ "_" ++ part)
    rw [failsAt_dateComponents_iff.mpr ⟨part, wrong, rfl⟩] at none
    cases none

/-- Components that are all there may make no date. -/
theorem IsNoDate.of_components
    {components : Int × Int × Int}
    (found : inputs.components? earliest latest = some components)
    (unmade : inputs.date? earliest latest = none) :
    inputs.IsNoDate earliest latest where
  complete := by
    intro part wrong
    rw [components?_eq_none_iff.mpr ⟨part, wrong⟩] at found
    cases found
  missing := by
    intro date makes
    rw [← date?_eq_some_iff_make, unmade] at makes
    cases makes

/-- The rulings on a date fail under what is wrong with it. -/
theorem failsAt_fullDate_iff
    {key : String} :
    Ruling.failsAt key (Ruling.fullDate field earliest latest inputs) =
        true ↔
      (∃ part,
        inputs.HasWrong earliest latest part ∧
          key = field ++ "_" ++ part) ∨
        inputs.IsNoDate earliest latest ∧ key = field := by
  unfold Ruling.fullDate
  rw [Ruling.failsAt_append, Bool.or_eq_true, failsAt_dateComponents_iff]
  refine or_congr_right ?_
  cases found : inputs.components? earliest latest with
  | none =>
      obtain ⟨part, wrong⟩ := components?_eq_none_iff.mp found
      simp only [Ruling.failsAt_nil, Bool.false_eq_true, false_iff]
      rintro ⟨noDate, _⟩
      exact noDate.complete part wrong
  | some components =>
      obtain ⟨year, month, day⟩ := components
      have isDate :
          inputs.date? earliest latest =
            Date.ofComponents? year month day := by
        rw [date?, found, Option.bind_some]
      cases isMade : Date.ofComponents? year month day with
      | none =>
          have noDate : inputs.IsNoDate earliest latest :=
            .of_components found (isDate.trans isMade)
          simp [Ruling.composed, isMade, Verdict.isRejected, noDate, eq_comm]
      | some date =>
          have makes : inputs.Make earliest latest date := by
            rw [← date?_eq_some_iff_make, isDate, isMade]
          simp only [Ruling.composed, isMade, Ruling.moment,
            Ruling.failsAt_cons, Ruling.failsAt_nil, Verdict.isRejected,
            Bool.and_false, Bool.or_false, Bool.false_eq_true, false_iff]
          rintro ⟨noDate, _⟩
          exact noDate.missing date makes

end DateInputs

/-! ## Rulings on two dates -/

namespace Ruling

variable
  {field : String}
  {earliest latest : Int}
  {start finish inputs : DateInputs}

/-- A verdict on a date is brief. -/
theorem isBrief_of_mem_fullDate
    {ruling : Ruling}
    (member : ruling ∈ fullDate field earliest latest inputs) :
    ruling.verdict.IsBrief := by
  unfold fullDate at member
  rcases List.mem_append.mp member with isComponent | isComposed
  · simp only [dateComponents, List.mem_cons, List.not_mem_nil, or_false]
      at isComponent
    rcases isComponent with rfl | rfl | rfl <;>
      exact Verdict.isBrief_integerIn ..
  · split at isComposed
    case h_1 =>
      unfold composed at isComposed
      split at isComposed
      · simp only [moment, List.mem_cons, List.not_mem_nil, or_false]
          at isComposed
        rcases isComposed with rfl | rfl | rfl <;> exact Nat.zero_le 1
      · rw [List.mem_singleton] at isComposed
        subst isComposed
        exact Nat.le_refl 1
    case h_2 =>
      cases isComposed

/-- The rulings on a date have keys of their own. -/
theorem nodup_keys_fullDate :
    ((fullDate field earliest latest inputs).map Ruling.key).Nodup := by
  have partOf (part : String) : field ≠ field ++ "_" ++ part :=
    Ne.symm (part_ne _ _)
  unfold fullDate
  split
  · unfold composed
    split <;> simp [dateComponents, moment, partOf]
  · simp [dateComponents]

/-- A verdict on two dates is brief. -/
theorem isBrief_of_mem_dateRange
    {ruling : Ruling}
    (member : ruling ∈ dateRange field earliest latest start finish) :
    ruling.verdict.IsBrief := by
  unfold dateRange at member
  rcases List.mem_append.mp member with isStart | isLater
  · exact isBrief_of_mem_fullDate isStart
  · rcases List.mem_append.mp isLater with isFinish | isRange
    · exact isBrief_of_mem_fullDate isFinish
    · split at isRange
      case h_1 =>
        rw [List.mem_singleton] at isRange
        subst isRange
        exact Verdict.isBrief_provided ..
      case h_2 =>
        cases isRange

/-- A part of a field has no key that is the field. -/
theorem ne_of_mem_fullDate
    {part : String}
    {ruling : Ruling}
    (member :
      ruling ∈ fullDate (field ++ "_" ++ part) earliest latest inputs) :
    ruling.key ≠ field :=
  (belongsTo_of_mem_fullDate member).ne_of_part

/-- The rulings on two dates have keys of their own. -/
theorem nodup_keys_dateRange :
    ((dateRange field earliest latest start finish).map
      Ruling.key).Nodup := by
  unfold dateRange
  rw [List.map_append, List.map_append]
  refine List.Nodup.append nodup_keys_fullDate
    (List.Nodup.append nodup_keys_fullDate ?_ ?_) ?_
  · split <;> simp
  · intro key isFinish isRange
    obtain ⟨ruling, member, rfl⟩ := List.mem_map.mp isFinish
    have notField := ne_of_mem_fullDate member
    split at isRange
    case h_1 =>
      exact notField (List.mem_singleton.mp isRange)
    case h_2 =>
      cases isRange
  · intro key isStart isLater
    obtain ⟨ruling, member, rfl⟩ := List.mem_map.mp isStart
    rcases List.mem_append.mp isLater with isFinish | isRange
    · obtain ⟨other, isOther, sameKey⟩ := List.mem_map.mp isFinish
      have belongs := belongsTo_of_mem_fullDate isOther
      rw [sameKey] at belongs
      exact (belongsTo_of_mem_fullDate member).not_of_apart (by decide)
        (by decide) belongs
    · have notField := ne_of_mem_fullDate member
      split at isRange
      case h_1 =>
        exact notField (List.mem_singleton.mp isRange)
      case h_2 =>
        cases isRange

end Ruling

end FormCheck
