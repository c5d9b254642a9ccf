import FormCheck.Proofs.Sorting
import FormCheck.Validator

namespace FormCheck

/-!
# Listings

A run logs the keys of its data and of its payload, sorted and written, and the
plan, written. Writing a list succeeds exactly if each member can be written.
Texts can always be sorted and written, so a mapping with textual keys always
has a listing.
-/

namespace Number

/-- The decimal text of an integer of any length. -/
def decimalText
    (number : Int) : String :=
  String.ofList (integerDigits number)

/-- An integer that is short enough has a decimal text. -/
theorem integerText_of_isWritable
    {number : Int}
    (writable : isWritable number = true) :
    integerText number = .ok (decimalText number) := by
  unfold integerText
  rw [if_pos writable]
  rfl

/-- Only a number with too many digits keeps an integer from being written. -/
theorem eq_tooManyDigits_of_integerText
    {number : Int}
    {fault : Fault}
    (failed : integerText number = .error fault) :
    fault = .tooManyDigits := by
  unfold integerText at failed
  split at failed
  · cases failed
  · cases failed
    rfl

/-- Integers of at most twelve digits are short enough. -/
theorem isWritable_of_lt
    {number : Int}
    (small : number.natAbs < 1000000000000) :
    isWritable number = true := by
  unfold isWritable
  rw [decide_eq_true_iff]
  have bounded : (10 : Nat) ^ 12 ≤ 10 ^ digitLimit :=
    Nat.pow_le_pow_right (by decide) (by decide)
  exact Nat.lt_of_lt_of_le small bounded

/-- A count up to one that is short enough is short enough. -/
theorem isWritable_of_le
    {smaller larger : Nat}
    (bounded : smaller ≤ larger)
    (writable : isWritable larger = true) :
    isWritable smaller = true := by
  unfold isWritable at writable ⊢
  rw [decide_eq_true_iff] at writable ⊢
  exact Nat.lt_of_le_of_lt bounded writable

end Number

namespace Value

/-- Whether a value has a written form. -/
def IsWritable
    (value : Value) : Prop :=
  ∃ characters, value.written = .ok characters

/-- Whether a value is a text. -/
def IsText
    (value : Value) : Prop :=
  ∃ characters, value = .text characters

/-- Some values are written exactly if each of them is. -/
theorem writtenItems_ok_iff
    {items : List Value} :
    (∃ texts, writtenItems items = .ok texts) ↔
      ∀ item ∈ items, item.IsWritable := by
  induction items with
  | nil =>
      simp [writtenItems]
  | cons item rest inductionHypothesis =>
      rw [List.forall_mem_cons, ← inductionHypothesis, IsWritable]
      simp only [writtenItems]
      cases item.written with
      | error fault =>
          simp [bind, Except.bind]
      | ok text =>
          cases writtenItems rest with
          | error fault =>
              simp [bind, Except.bind]
          | ok texts =>
              simp [bind, Except.bind, pure, Except.pure]

/-- A list is written exactly if each of its members is. -/
theorem isWritable_list_iff
    {items : List Value} :
    (list items).IsWritable ↔ ∀ item ∈ items, item.IsWritable := by
  rw [← writtenItems_ok_iff]
  unfold IsWritable written
  cases writtenItems items with
  | error fault =>
      simp [bind, Except.bind]
  | ok texts =>
      simp [bind, Except.bind, pure, Except.pure]

/-- Texts can be written. -/
theorem IsText.isWritable
    {value : Value}
    (isText : value.IsText) :
    value.IsWritable := by
  obtain ⟨characters, rfl⟩ := isText
  exact ⟨_, rfl⟩

/-- Some entries are written exactly if each key and each value is. -/
theorem writtenEntries_ok_iff
    {entries : Entries} :
    (∃ texts, writtenEntries entries = .ok texts) ↔
      ∀ entry ∈ entries, entry.1.IsWritable ∧ entry.2.IsWritable := by
  induction entries with
  | nil =>
      simp [writtenEntries]
  | cons entry rest inductionHypothesis =>
      obtain ⟨key, value⟩ := entry
      rw [List.forall_mem_cons, ← inductionHypothesis, IsWritable,
        IsWritable]
      simp only [writtenEntries]
      cases key.written with
      | error fault =>
          simp [bind, Except.bind]
      | ok keyText =>
          cases value.written with
          | error fault =>
              simp [bind, Except.bind]
          | ok valueText =>
              cases writtenEntries rest with
              | error fault =>
                  simp [bind, Except.bind]
              | ok texts =>
                  simp [bind, Except.bind, pure, Except.pure]

/-- A mapping is written exactly if each key and each value is. -/
theorem isWritable_dict_iff
    {entries : Entries} :
    (dict entries).IsWritable ↔
      ∀ entry ∈ entries, entry.1.IsWritable ∧ entry.2.IsWritable := by
  rw [← writtenEntries_ok_iff]
  unfold IsWritable written
  cases writtenEntries entries with
  | error fault =>
      simp [bind, Except.bind]
  | ok texts =>
      simp [bind, Except.bind, pure, Except.pure]

/-- A mapping with textual keys is written exactly if each value is. -/
theorem isWritable_record_iff
    {entries : List (String × Value)} :
    (record entries).IsWritable ↔
      ∀ entry ∈ entries, entry.2.IsWritable := by
  unfold record
  rw [isWritable_dict_iff, List.forall_mem_map]
  exact forall₂_congr fun entry _ => and_iff_right ⟨_, rfl⟩

/-- Integers that are short enough can be written. -/
theorem isWritable_int_iff
    {number : Int} :
    (int number).IsWritable ↔ Number.isWritable number = true := by
  unfold IsWritable
  simp only [written, Number.integerText]
  split <;> simp [*]

/-- Every two texts have an order. -/
theorem allComparable_of_isText
    {values : List Value}
    (texts : ∀ value ∈ values, value.IsText) :
    allComparable values = true := by
  induction values with
  | nil =>
      rfl
  | cons value rest inductionHypothesis =>
      rw [List.forall_mem_cons] at texts
      obtain ⟨⟨characters, rfl⟩, restTexts⟩ := texts
      unfold allComparable
      rw [inductionHypothesis restTexts, Bool.and_true, List.all_eq_true]
      intro other member
      obtain ⟨others, rfl⟩ := restTexts other member
      rfl

/-- Sorting texts rearranges them. -/
theorem sorted_of_isText
    {values : List Value}
    (texts : ∀ value ∈ values, value.IsText) :
    ∃ inOrder, sorted values = .ok inOrder ∧ inOrder.Perm values := by
  refine ⟨Sorting.sort precedes values, ?_, Sorting.sort_perm ..⟩
  unfold sorted
  rw [if_pos (allComparable_of_isText texts)]

end Value

/-- A plan can be written exactly if the arguments of each step can. -/
theorem Plan.isWritable_toValue_iff
    {plan : Plan} :
    (Plan.toValue plan).IsWritable ↔
      ∀ step ∈ plan, ∀ argument ∈ step.arguments, argument.IsWritable := by
  unfold Plan.toValue
  rw [Value.isWritable_list_iff, List.forall_mem_map]
  refine forall₂_congr fun step _ => ?_
  unfold Step.toValue
  rw [Value.isWritable_record_iff]
  simp only [List.forall_mem_cons, Value.isWritable_list_iff,
    List.forall_mem_map]
  have isText
      (characters : String) :
      (Value.text characters).IsWritable :=
    ⟨_, rfl⟩
  have isTruth : (Value.bool step.isRequired).IsWritable :=
    ⟨_, rfl⟩
  simp [isText, isTruth]

/-- A mapping with textual keys has a listing of its keys. -/
theorem Validator.keyListing_of_isText
    {entries : Entries}
    (texts : ∀ key ∈ entries.map Prod.fst, key.IsText) :
    ∃ listing, keyListing (.dict entries) = .ok listing := by
  obtain ⟨inOrder, sorted, rearranged⟩ := Value.sorted_of_isText texts
  have writable : (Value.list inOrder).IsWritable := by
    rw [Value.isWritable_list_iff]
    intro key member
    exact (texts key (rearranged.mem_iff.mp member)).isWritable
  obtain ⟨listing, written⟩ := writable
  refine ⟨listing, ?_⟩
  unfold keyListing Value.keys
  simp [bind, Except.bind, sorted, written]

end FormCheck
