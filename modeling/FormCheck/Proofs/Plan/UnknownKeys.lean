import FormCheck.Proofs.Journal
import FormCheck.Proofs.Listing

namespace FormCheck

/-!
# The warning about unknown keys

The keys of a raw step that it may not have are sorted and written for a
warning. Keys of kinds without a common order cannot be sorted, and an integer
with too many digits cannot be written, so the warning may be at fault itself.
Texts can always be listed.
-/

namespace Value

/-- A value has an order with another if it can be told whether it is less. -/
def HasOrderWith
    (first second : Value) : Prop :=
  ∃ isLess, less first second = .ok isLess

/-- Two values are found comparable exactly if they have an order. -/
theorem areComparable_iff
    {first second : Value} :
    areComparable first second = true ↔ first.HasOrderWith second := by
  unfold areComparable HasOrderWith
  split
  · exact iff_of_true rfl ⟨_, rfl⟩
  · cases less first second with
    | error fault =>
        simp [Except.isOk, Except.toBool]
    | ok isLess =>
        simp [Except.isOk, Except.toBool]

/-- Values are found comparable exactly if every two of them have an order. -/
theorem allComparable_iff
    {values : List Value} :
    allComparable values = true ↔ values.Pairwise HasOrderWith := by
  induction values with
  | nil =>
      simp [allComparable]
  | cons value rest inductionHypothesis =>
      simp [allComparable, areComparable_iff, inductionHypothesis]

/-- Texts have an order. -/
theorem IsText.hasOrderWith
    {first second : Value}
    (isText : first.IsText)
    (isTextToo : second.IsText) :
    first.HasOrderWith second := by
  obtain ⟨_, rfl⟩ := isText
  obtain ⟨_, rfl⟩ := isTextToo
  exact ⟨_, rfl⟩

mutual

/-- Only a number with too many digits keeps a value from being written. -/
theorem eq_tooManyDigits_of_written
    (value : Value)
    (fault : Fault)
    (failed : value.written = .error fault) :
    fault = .tooManyDigits := by
  cases value with
  | int number =>
      rw [written] at failed
      exact Number.eq_tooManyDigits_of_integerText failed
  | list items =>
      rw [written] at failed
      rcases Except.bind_eq_error_iff.mp failed with inside | ⟨_, _, behind⟩
      · exact eq_tooManyDigits_of_writtenItems items fault inside
      · cases behind
  | tuple items =>
      rw [written] at failed
      rcases Except.bind_eq_error_iff.mp failed with inside | ⟨_, _, behind⟩
      · exact eq_tooManyDigits_of_writtenItems items fault inside
      · split at behind <;> cases behind
  | set items =>
      rw [written] at failed
      rcases Except.bind_eq_error_iff.mp failed with inside | ⟨_, _, behind⟩
      · exact eq_tooManyDigits_of_writtenItems items fault inside
      · split at behind <;> cases behind
  | dict entries =>
      rw [written] at failed
      rcases Except.bind_eq_error_iff.mp failed with inside | ⟨_, _, behind⟩
      · exact eq_tooManyDigits_of_writtenEntries entries fault inside
      · cases behind
  | null | bool | float | text | bytes | date | dateTime | cycle =>
      rw [written] at failed
      cases failed
termination_by structural value

/-- Only a number with too many digits keeps values from being written. -/
theorem eq_tooManyDigits_of_writtenItems
    (items : List Value)
    (fault : Fault)
    (failed : writtenItems items = .error fault) :
    fault = .tooManyDigits := by
  cases items with
  | nil =>
      cases failed
  | cons item rest =>
      simp only [writtenItems] at failed
      rcases Except.bind_eq_error_iff.mp failed with here | ⟨_, _, later⟩
      · exact eq_tooManyDigits_of_written item fault here
      · rcases Except.bind_eq_error_iff.mp later with there | ⟨_, _, behind⟩
        · exact eq_tooManyDigits_of_writtenItems rest fault there
        · cases behind
termination_by structural items

/-- Only a number with too many digits keeps entries from being written. -/
theorem eq_tooManyDigits_of_writtenEntries
    (entries : List (Value × Value))
    (fault : Fault)
    (failed : writtenEntries entries = .error fault) :
    fault = .tooManyDigits := by
  cases entries with
  | nil =>
      cases failed
  | cons entry rest =>
      obtain ⟨key, value⟩ := entry
      simp only [writtenEntries] at failed
      rcases Except.bind_eq_error_iff.mp failed with inKey | ⟨_, _, later⟩
      · exact eq_tooManyDigits_of_written key fault inKey
      · rcases Except.bind_eq_error_iff.mp later with inValue | ⟨_, _, behind⟩
        · exact eq_tooManyDigits_of_written value fault inValue
        · rcases Except.bind_eq_error_iff.mp behind with there | ⟨_, _, behind⟩
          · exact eq_tooManyDigits_of_writtenEntries rest fault there
          · cases behind
termination_by structural entries

end

/-- Values are sorted exactly if every two of them have an order. -/
theorem sorted_eq_ok_iff
    {values inOrder : List Value} :
    sorted values = .ok inOrder ↔
      values.Pairwise HasOrderWith ∧
        inOrder = Sorting.sort precedes values := by
  rw [← allComparable_iff]
  unfold sorted
  split
  case isTrue comparable =>
    simp [comparable, eq_comm]
  case isFalse unordered =>
    simp [unordered]

/-- Values that are not sorted are found to be unordered. -/
theorem sorted_eq_error_iff
    {values : List Value}
    {fault : Fault} :
    sorted values = .error fault ↔
      ¬values.Pairwise HasOrderWith ∧ fault = .unordered := by
  rw [← allComparable_iff]
  unfold sorted
  split
  case isTrue comparable =>
    simp [comparable]
  case isFalse unordered =>
    simp [unordered, eq_comm]

/-- What is sorted can be written exactly if each value can. -/
theorem isWritable_sort_iff
    {values : List Value} :
    (list (Sorting.sort precedes values)).IsWritable ↔
      ∀ value ∈ values, value.IsWritable := by
  rw [isWritable_list_iff]
  exact forall_congr' fun value =>
    imp_congr_left (Sorting.sort_perm _ _).mem_iff

/-- A value that is not written has too many digits. -/
theorem written_eq_tooManyDigits_iff
    {value : Value} :
    value.written = .error .tooManyDigits ↔ ¬value.IsWritable := by
  constructor
  · rintro failed ⟨characters, written⟩
    rw [failed] at written
    cases written
  · intro notWritable
    cases ended : value.written with
    | ok characters =>
        exact absurd ⟨characters, ended⟩ notWritable
    | error fault =>
        rw [eq_tooManyDigits_of_written value fault ended]

end Value

namespace Plan

/--
Keys can be listed if every two of them have an order and each can be written.
-/
structure AreListable
    (keys : List Value) :
    Prop where
  ordered : keys.Pairwise Value.HasOrderWith
  writable : ∀ key ∈ keys, key.IsWritable

/--
Keys upset their listing with a fault: some two of them have no order, or else
one of them has too many digits.
-/
inductive Upset
    (keys : List Value) :
    Fault → Prop where
  | unordered
      (notOrdered : ¬keys.Pairwise Value.HasOrderWith) :
      Upset keys .unordered
  | unwritable
      (ordered : keys.Pairwise Value.HasOrderWith)
      (key : Value)
      (member : key ∈ keys)
      (notWritable : ¬key.IsWritable) :
      Upset keys .tooManyDigits

/-- Textual keys can be listed. -/
theorem areListable_of_isText
    {keys : List Value}
    (textual : ∀ key ∈ keys, key.IsText) :
    AreListable keys where
  ordered :=
    List.pairwise_of_forall_mem_list fun first member second memberToo =>
      (textual first member).hasOrderWith (textual second memberToo)
  writable key member :=
    (textual key member).isWritable

/-- Keys that can be listed do not upset their listing. -/
theorem AreListable.not_upset
    {keys : List Value}
    {fault : Fault}
    (listable : AreListable keys) :
    ¬Upset keys fault := by
  rintro (notOrdered | ⟨_, key, member, notWritable⟩)
  · exact notOrdered listable.ordered
  · exact notWritable (listable.writable key member)

section Warning

variable
  {entries : Entries}
  {index : Int}

/-- The warning about unknown keys is passed exactly if they can be listed. -/
theorem warnOfUnknownKeys_answers_iff
    (countable : Number.isWritable index = true) :
    (warnOfUnknownKeys entries index).ended = .ok () ↔
      AreListable (unknownKeys entries) := by
  unfold warnOfUnknownKeys
  cases unknownKeys entries with
  | nil =>
      exact iff_of_true rfl ⟨.nil, by simp⟩
  | cons key rest =>
      simp only [List.isEmpty_cons, Bool.false_eq_true, if_false]
      constructor
      · intro answered
        obtain ⟨inOrder, sorted, listed⟩ :=
          Journal.ended_bind_eq_ok_iff.mp answered
        obtain ⟨listing, written, _⟩ :=
          Journal.ended_bind_eq_ok_iff.mp listed
        obtain ⟨ordered, rfl⟩ := Value.sorted_eq_ok_iff.mp sorted
        exact ⟨ordered, Value.isWritable_sort_iff.mp ⟨listing, written⟩⟩
      · rintro ⟨ordered, writable⟩
        have sorted := Value.sorted_eq_ok_iff.mpr ⟨ordered, rfl⟩
        obtain ⟨listing, written⟩ := Value.isWritable_sort_iff.mpr writable
        refine Journal.ended_bind_eq_ok_iff.mpr ⟨_, sorted, ?_⟩
        refine Journal.ended_bind_eq_ok_iff.mpr ⟨listing, written, ?_⟩
        rw [Number.integerText_of_isWritable countable]
        exact Journal.ended_bind_eq_ok_iff.mpr ⟨_, rfl, rfl⟩

/-- The warning about unknown keys is at fault exactly if they upset it. -/
theorem warnOfUnknownKeys_stops_iff
    {fault : Fault}
    (countable : Number.isWritable index = true) :
    (warnOfUnknownKeys entries index).ended = .error fault ↔
      Upset (unknownKeys entries) fault := by
  unfold warnOfUnknownKeys
  cases unknownKeys entries with
  | nil =>
      refine iff_of_false nofun (AreListable.not_upset ⟨.nil, by simp⟩)
  | cons key rest =>
      simp only [List.isEmpty_cons, Bool.false_eq_true, if_false]
      constructor
      · intro stopped
        rcases Journal.ended_bind_eq_error_iff.mp stopped with
          unsorted | ⟨inOrder, sorted, unlisted⟩
        · obtain ⟨notOrdered, rfl⟩ := Value.sorted_eq_error_iff.mp unsorted
          exact .unordered notOrdered
        obtain ⟨ordered, rfl⟩ := Value.sorted_eq_ok_iff.mp sorted
        rcases Journal.ended_bind_eq_error_iff.mp unlisted with
          unwritten | ⟨listing, _, unwarned⟩
        · obtain rfl := Value.eq_tooManyDigits_of_written _ _ unwritten
          have notWritable :=
            Value.written_eq_tooManyDigits_iff.mp unwritten
          rw [Value.isWritable_sort_iff] at notWritable
          push Not at notWritable
          obtain ⟨key, member, tooLong⟩ := notWritable
          exact .unwritable ordered key member tooLong
        · rcases Journal.ended_bind_eq_error_iff.mp unwarned with
            unnumbered | ⟨number, _, warned⟩
          · rw [Number.integerText_of_isWritable countable] at unnumbered
            cases unnumbered
          · cases warned
      · rintro (notOrdered | ⟨ordered, key, member, notWritable⟩)
        · exact Journal.ended_bind_eq_error_iff.mpr
            (.inl (Value.sorted_eq_error_iff.mpr ⟨notOrdered, rfl⟩))
        · have sorted := Value.sorted_eq_ok_iff.mpr ⟨ordered, rfl⟩
          refine Journal.ended_bind_eq_error_iff.mpr
            (.inr ⟨_, sorted, Journal.ended_bind_eq_error_iff.mpr (.inl ?_)⟩)
          refine Value.written_eq_tooManyDigits_iff.mpr fun writable => ?_
          exact notWritable (Value.isWritable_sort_iff.mp writable key member)

end Warning

end Plan

end FormCheck
