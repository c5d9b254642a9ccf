import FormCheck.Proofs.Plan.UnknownKeys
import FormCheck.Proofs.PlanFile

namespace FormCheck

/-!
# Entries of a raw step that are null

What is null in a raw step counts as left out, so that leaving out all entries
that are null changes nothing, with one exception: a message that is null hides
the message of the alias. A step with such a message is normalised as if its
alias were left out as well.
-/

namespace Value

/-- Whether a value is null. -/
def isNull : Value → Bool
  | .null => true
  | _ => false

/-- Only the null value is found to be null. -/
theorem isNull_iff
    {value : Value} :
    value.isNull = true ↔ value = .null := by
  cases value <;> simp [isNull]

end Value

/-- Leaving out values leaves them out where their keys are looked up. -/
theorem lookup_filter_value
    {wanted : String}
    (kept : Value → Bool)
    {entries : Entries}
    (distinct : HasDistinctKeys entries) :
    lookup (Value.text wanted) (entries.filter (kept ·.2)) =
      (lookup (Value.text wanted) entries).filter kept := by
  have isExact := ExactKey.text wanted
  induction entries with
  | nil =>
      rfl
  | cons entry rest inductionHypothesis =>
      obtain ⟨present, held⟩ := entry
      obtain ⟨apart, restDistinct⟩ := List.pairwise_cons.mp distinct
      have found := inductionHypothesis restDistinct
      by_cases same : present = .text wanted
      · subst same
        have noOther : lookup (Value.text wanted) rest = none := by
          rw [lookup_eq_none_iff isExact]
          intro member
          obtain ⟨other, isOther, sameKey⟩ := List.mem_map.mp member
          simpa [sameKey] using apart other isOther
        rw [noOther, Option.filter_none] at found
        cases isKept : kept held <;>
          simp [isKept, lookup, found, Option.filter_some]
      · cases isKept : kept held <;>
          simp [isKept, lookup, isExact present, same, found]

namespace Plan

/-- The entries that are not null. -/
def withoutNulls
    (entries : Entries) : Entries :=
  entries.filter (!·.2.isNull)

/-- The entries without the alias for the message. -/
def withoutAlias
    (entries : Entries) : Entries :=
  entries.filter fun entry => !entry.1 == Value.text "requiredMsg"

/-- A message that is null hides the message of the alias. -/
structure HidesAlias
    (entries : Entries) : Prop where
  isNull : lookup (Value.text "required_msg") entries = some .null
  hasAlias : entryAt entries "requiredMsg" ≠ .null

variable
  {settings : Settings}
  {registry : Registry}
  {entries others : Entries}
  {index : Int}

/-- Only what is not null is found once nulls are left out. -/
theorem lookup_withoutNulls
    (distinct : HasDistinctKeys entries)
    (key : String) :
    lookup (Value.text key) (withoutNulls entries) =
      (lookup (Value.text key) entries).filter (!Value.isNull ·) :=
  lookup_filter_value (!Value.isNull ·) distinct

/-- Left out or null, there is nothing at a key. -/
theorem entryAt_withoutNulls
    (distinct : HasDistinctKeys entries)
    (key : String) :
    entryAt (withoutNulls entries) key = entryAt entries key := by
  unfold entryAt
  rw [lookup_withoutNulls distinct]
  cases lookup (Value.text key) entries with
  | none =>
      rfl
  | some held =>
      cases isNull : held.isNull with
      | true =>
          rw [Value.isNull_iff.mp isNull]
          rfl
      | false =>
          rw [Option.filter_some_pos (by simp [isNull])]

/-- Without the alias, the other keys hold what they held. -/
theorem lookup_withoutAlias
    {key : String}
    (isOther : key ≠ "requiredMsg")
    (entries : Entries) :
    lookup (Value.text key) (withoutAlias entries) =
      lookup (Value.text key) entries := by
  have isKept : (!Value.text key == Value.text "requiredMsg") = true := by
    simpa using isOther
  exact
    @lookup_filter _ _ _ _ (.text key)
      (fun key => !key == Value.text "requiredMsg") isKept entries

/-- Without the alias, there is nothing at the alias. -/
theorem lookup_withoutAlias_self
    (entries : Entries) :
    lookup (Value.text "requiredMsg") (withoutAlias entries) = none := by
  rw [lookup_eq_none_iff (.text "requiredMsg")]
  intro member
  obtain ⟨entry, kept, isAlias⟩ := List.mem_map.mp member
  have differs := (List.mem_filter.mp kept).2
  simp [isAlias] at differs

/-- The alias is not an unknown key. -/
theorem unknownKeys_withoutAlias
    (entries : Entries) :
    unknownKeys (withoutAlias entries) = unknownKeys entries := by
  have known :
      (stepKeys.map Value.text).contains (.text "requiredMsg") = true := by
    decide +kernel
  unfold unknownKeys withoutAlias
  rw [List.filter_map, List.filter_map, List.filter_filter]
  congr 1
  refine List.filter_congr fun entry _ => ?_
  cases isAlias : entry.1 == Value.text "requiredMsg" with
  | false =>
      simp
  | true =>
      rw [Function.comp_apply, Value.beq_text_iff.mp isAlias, known]
      rfl

/-- With textual keys, only an index that is too long spoils the warning. -/
theorem ended_warnOfUnknownKeys
    (textual : ∀ key ∈ entries.map Prod.fst, key.IsText)
    (index : Int) :
    (warnOfUnknownKeys entries index).ended =
      if (unknownKeys entries).isEmpty then
        .ok ()
      else
        (Number.integerText index).map fun _ => () := by
  have listable : AreListable (unknownKeys entries) :=
    areListable_of_isText fun key member =>
      textual key (List.mem_filter.mp member).1
  have sorted := Value.sorted_eq_ok_iff.mpr ⟨listable.ordered, rfl⟩
  obtain ⟨listing, written⟩ :=
    Value.isWritable_sort_iff.mpr listable.writable
  unfold warnOfUnknownKeys
  generalize unknownKeys entries = unknown at sorted written ⊢
  cases unknown with
  | nil =>
      rfl
  | cons key rest =>
      have isSorted :
          (liftM (Value.sorted (key :: rest)) :
            Logged (List Value)).ended = .ok _ :=
        sorted
      have isWritten :
          (liftM (Value.list _).written : Logged String).ended =
            .ok listing :=
        written
      simp only [List.isEmpty_cons, Bool.false_eq_true, if_false]
      rw [Journal.bind_of_ok isSorted, Journal.bind_of_ok isWritten]
      cases Number.integerText index <;> rfl

/-- Leaving out nulls does not change how the warning ends. -/
theorem ended_warnOfUnknownKeys_withoutNulls
    (textual : ∀ key ∈ entries.map Prod.fst, key.IsText)
    (countable :
      Number.isWritable index = true ∨
        (unknownKeys (withoutNulls entries) = [] ↔
          unknownKeys entries = [])) :
    (warnOfUnknownKeys (withoutNulls entries) index).ended =
      (warnOfUnknownKeys entries index).ended := by
  have stillTextual :
      ∀ key ∈ (withoutNulls entries).map Prod.fst, key.IsText := by
    intro key member
    obtain ⟨entry, kept, rfl⟩ := List.mem_map.mp member
    exact textual _ (List.mem_map_of_mem (List.mem_filter.mp kept).1)
  rw [ended_warnOfUnknownKeys stillTextual,
    ended_warnOfUnknownKeys textual]
  rcases countable with writable | sameEmptiness
  · rw [Number.integerText_of_isWritable writable]
    simp [Except.map]
  · simp only [List.isEmpty_iff, sameEmptiness]

/-- Nulls that hide no alias declare no message either way. -/
theorem messageAt_withoutNulls
    (distinct : HasDistinctKeys entries)
    (shown : ¬HidesAlias entries) :
    messageAt (withoutNulls entries) = messageAt entries := by
  unfold messageAt
  rw [entryAt_withoutNulls distinct, lookup_withoutNulls distinct]
  cases found : lookup (Value.text "required_msg") entries with
  | none =>
      rfl
  | some held =>
      cases isNull : held.isNull with
      | false =>
          rw [Option.filter_some_pos (by simp [isNull])]
      | true =>
          have noMessage := Value.isNull_iff.mp isNull
          subst noMessage
          by_contra differs
          exact shown ⟨found, differs⟩

/-- Without the alias that it hides, a null message may be left out. -/
theorem messageAt_withoutAlias
    (distinct : HasDistinctKeys entries)
    (hides : HidesAlias entries) :
    messageAt (withoutAlias (withoutNulls entries)) =
      messageAt entries := by
  have declared : messageAt entries = .null := by
    rw [messageAt, hides.isNull]
    rfl
  have notFound :
      lookup (Value.text "required_msg")
          (withoutAlias (withoutNulls entries)) =
        none := by
    rw [lookup_withoutAlias (by decide), lookup_withoutNulls distinct,
      hides.isNull]
    rfl
  rw [declared, messageAt, notFound, entryAt, lookup_withoutAlias_self]
  rfl

/-- What a raw step is normalised to depends on what is read from it alone. -/
theorem ended_normalizeStep_congr
    (warned :
      (warnOfUnknownKeys others index).ended =
        (warnOfUnknownKeys entries index).ended)
    (same :
      ∀ key, key ≠ "requiredMsg" → entryAt others key = entryAt entries key)
    (sameMessage :
      (messageAt others).orDefault settings.requiredMessage =
        (messageAt entries).orDefault settings.requiredMessage) :
    (normalizeStep settings registry (.dict others) index).ended =
      (normalizeStep settings registry (.dict entries) index).ended := by
  unfold normalizeStep
  simp only [Journal.ended_bind, warned, fieldAndMethod, inputsOf,
    argumentsOf, requiredOf, messageOf, sameMessage,
    same "field" (by decide), same "method" (by decide),
    same "fields" (by decide), same "args" (by decide),
    same "required" (by decide)]

/--
For a raw step with textual keys, entries that are null might as well be left
out: the step is the same, or the fault. Only a message that is null differs
from none. It hides the alias, so that the alias has to be left out with it. An
index that has too many digits to be written spoils the warning about unknown
keys, so in that case it matters whether these are all null.
-/
theorem normalizeStep_withoutNulls
    (textual : ∀ key ∈ entries.map Prod.fst, key.IsText)
    (distinct : HasDistinctKeys entries)
    (countable :
      Number.isWritable index = true ∨
        (unknownKeys (withoutNulls entries) = [] ↔
          unknownKeys entries = []))
    (settings : Settings)
    (registry : Registry) :
    (¬HidesAlias entries →
        (normalizeStep settings registry (.dict (withoutNulls entries))
            index).ended =
          (normalizeStep settings registry (.dict entries) index).ended) ∧
      (HidesAlias entries →
        (normalizeStep settings registry
            (.dict (withoutAlias (withoutNulls entries))) index).ended =
          (normalizeStep settings registry (.dict entries) index).ended) := by
  have warned := ended_warnOfUnknownKeys_withoutNulls textual countable
  constructor
  · intro shown
    have sameMessage := messageAt_withoutNulls distinct shown
    exact ended_normalizeStep_congr warned
      (fun key _ => entryAt_withoutNulls distinct key)
      (congrArg (Value.orDefault · _) sameMessage)
  · intro hides
    have sameMessage := messageAt_withoutAlias distinct hides
    have warnedToo :
        (warnOfUnknownKeys (withoutAlias (withoutNulls entries))
            index).ended =
          (warnOfUnknownKeys entries index).ended := by
      rw [← warned, warnOfUnknownKeys, unknownKeys_withoutAlias,
        ← warnOfUnknownKeys]
    refine ended_normalizeStep_congr warnedToo (fun key isOther => ?_)
      (congrArg (Value.orDefault · _) sameMessage)
    rw [entryAt, lookup_withoutAlias isOther]
    exact entryAt_withoutNulls distinct key

/-- A raw step with a message under the alias, and null as its own message. -/
def hidingStep : Entries :=
  [(.text "field", .text "a"), (.text "method", .text "validate_integer"),
    (.text "args", .null), (.text "required_msg", .null),
    (.text "requiredMsg", .text "Own")]

/-- The keys of this step are texts. -/
theorem isText_hidingStep :
    ∀ key ∈ hidingStep.map Prod.fst, key.IsText := by
  intro key member
  simp only [hidingStep, List.map_cons, List.map_nil, List.mem_cons,
    List.not_mem_nil, or_false] at member
  rcases member with rfl | rfl | rfl | rfl | rfl <;>
    exact ⟨_, rfl⟩

/-- The keys of this step are distinct. -/
theorem hasDistinctKeys_hidingStep :
    HasDistinctKeys hidingStep := by
  simp [HasDistinctKeys, hidingStep]

/-- This step is normalised as if it had no message at all. -/
theorem normalizeStep_withoutNulls_hidingStep :
    HidesAlias hidingStep ∧
      (normalizeStep {} .standard
          (.dict (withoutAlias (withoutNulls hidingStep))) 0).ended =
        (normalizeStep {} .standard (.dict hidingStep) 0).ended := by
  have hides : HidesAlias hidingStep := ⟨rfl, nofun⟩
  have first : Number.isWritable 0 = true :=
    Number.isWritable_of_lt (by decide)
  exact ⟨hides,
    (normalizeStep_withoutNulls isText_hidingStep
      hasDistinctKeys_hidingStep (.inl first) {} .standard).2 hides⟩

/-- Whether a step has the message that stands under the alias. -/
def hasHiddenMessage
    (step : Step) : Bool :=
  step.message == "Own"

/-- So leaving out nulls does change the message of some step. -/
theorem not_forall_normalizeStep_withoutNulls :
    ¬∀ (settings : Settings) (registry : Registry) (entries : Entries)
        (index : Int),
      (∀ key ∈ entries.map Prod.fst, key.IsText) →
        HasDistinctKeys entries →
          (normalizeStep settings registry (.dict (withoutNulls entries))
              index).ended =
            (normalizeStep settings registry (.dict entries)
              index).ended := by
  intro unchanged
  have without :
      (normalizeStep {} .standard (.dict (withoutNulls hidingStep))
          0).answersWith hasHiddenMessage =
        true := by
    decide +kernel
  have within :
      (normalizeStep {} .standard (.dict hidingStep) 0).answersWith
          hasHiddenMessage =
        false := by
    decide +kernel
  have same :=
    unchanged {} .standard hidingStep 0 isText_hidingStep
      hasDistinctKeys_hidingStep
  rw [Journal.answersWith, same, ← Journal.answersWith, within] at without
  cases without

end Plan

end FormCheck
