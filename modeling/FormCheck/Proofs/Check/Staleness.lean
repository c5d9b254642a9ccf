import FormCheck.Proofs.Check.Settlement

namespace FormCheck

/-!
# Checks on stale results

What a check does may depend on what earlier checks left under the keys of its
field: values that it takes for its own, errors that it takes for its own
failure. The rules below compare a check that succeeds on a fresh result with
the same check on a stale one. It reads only values that it has just stored, so
on a stale result without errors under the field it does the same. Where the
field has errors, a check of one input is cut short and adds none; a check of
several inputs may go on with values that are not its own.
-/

/-- Entries are quiet if none of them is a message. -/
def Entry.AreQuiet
    (entries : List Entry) : Prop :=
  ∀ entry ∈ entries, entry.isError = false

/-- Entries in a row are quiet if they are quiet in both parts. -/
theorem Entry.areQuiet_append_iff
    {first second : List Entry} :
    AreQuiet (first ++ second) ↔ AreQuiet first ∧ AreQuiet second :=
  List.forall_mem_append

namespace Result

/-- A result is clean for a field if no key of the field has errors. -/
def CleanFor
    (result : Result)
    (field : String) : Prop :=
  ∀ key : Value, key.BelongsTo field → result.hasErrorsAt key = false

/-- Two results show the same values under some textual keys. -/
def ShowSame
    (known : List String)
    (first second : Result) : Prop :=
  ∀ key ∈ known, first.value? (.text key) = second.value? (.text key)

/-- Quiet entries add no errors under any key. -/
theorem hasErrorsAt_extend_of_quiet
    {entries : List Entry}
    (quiet : Entry.AreQuiet entries)
    (result : Result)
    (key : Value) :
    (result.extend entries).hasErrorsAt key = result.hasErrorsAt key := by
  have noMessage : entries.filterMap (Entry.messageAt? key) = [] := by
    refine List.filterMap_eq_nil_iff.mpr fun entry member => ?_
    cases entry with
    | value ownKey stored =>
        rfl
    | error ownKey message =>
        cases quiet _ member
  simp [hasErrorsAt, errorsAt_extend, noMessage]

/-- Quiet entries leave a result clean for the same fields. -/
theorem cleanFor_extend_iff
    {entries : List Entry}
    (quiet : Entry.AreQuiet entries)
    {result : Result}
    {field : String} :
    (result.extend entries).CleanFor field ↔ result.CleanFor field := by
  unfold CleanFor
  simp only [hasErrorsAt_extend_of_quiet quiet]

/-- A result clean for a field is clean for a part of it. -/
theorem CleanFor.of_part
    {result : Result}
    {field part : String}
    (clean : result.CleanFor field) :
    result.CleanFor (field ++ "_" ++ part) :=
  fun key belongs => clean key belongs.of_part

/-- Results that show the same do so after the same entries were recorded. -/
theorem ShowSame.extend
    {known : List String}
    {first second : Result}
    (same : ShowSame known first second)
    (entries : List Entry) :
    ShowSame known (first.extend entries) (second.extend entries) := by
  intro key isKnown
  rw [value?_extend, value?_extend, same key isKnown]

/-- After the same value was stored, two results show the same under its key. -/
theorem value?_extend_of_stored
    {entries : List Entry}
    {key : String}
    {stored : Value}
    (member : Entry.value (.text key) stored ∈ entries)
    (first second : Result) :
    (first.extend entries).value? (.text key) =
      (second.extend entries).value? (.text key) := by
  have shown :
      stored ∈ entries.filterMap (Entry.valueAt? (.text key)) :=
    List.mem_filterMap.mpr ⟨_, member, by simp [Entry.valueAt?]⟩
  obtain ⟨last, isLast⟩ :=
    Option.isSome_iff_exists.mp
      (List.getLast?_isSome.mpr (List.ne_nil_of_mem shown))
  rw [value?_extend, value?_extend, isLast, Option.some_or, Option.some_or]

end Result

namespace Check

/-! ## Checks that do not look at the result -/

/-- A check is blind if it does the same on every result. -/
structure Blind
    (check : Check answer) : Prop where
  same : ∀ first second, check first = check second

namespace Blind

/-- Giving an answer is blind. -/
theorem pure
    (value : answer) :
    Blind (Pure.pure value : Check answer) :=
  ⟨fun _ _ => rfl⟩

/-- Stopping is blind. -/
theorem stop
    (fault : Fault) :
    Blind (Check.stop fault : Check answer) :=
  ⟨fun _ _ => rfl⟩

/-- A computation without a result is blind. -/
theorem lift
    (computation : Except Fault answer) :
    Blind (liftM computation : Check answer) :=
  ⟨fun _ _ => rfl⟩

/-- Storing a value is blind. -/
theorem setValue
    (key value : Value) :
    Blind (Check.setValue key value) :=
  ⟨fun _ _ => rfl⟩

/-- Recording a message is blind. -/
theorem addError
    (key message : Value) :
    Blind (Check.addError key message) :=
  ⟨fun _ _ => rfl⟩

/-- Recording a textual message is blind. -/
theorem reject
    (key : Value)
    (message : String) :
    Blind (Check.reject key message) :=
  addError key _

/-- A check in two parts is blind if both parts are. -/
theorem bind
    {leading : Check middle}
    {continuation : middle → Check answer}
    (leadingBlind : Blind leading)
    (continuationBlind : ∀ value, Blind (continuation value)) :
    Blind (leading >>= continuation) := by
  constructor
  intro first second
  change
    (leading first >>= fun value =>
      continuation value (first.extend (leading first).written)) =
    leading second >>= fun value =>
      continuation value (second.extend (leading second).written)
  rw [leadingBlind.same first second]
  congr 1
  funext value
  exact (continuationBlind value).same _ _

/-- A choice between blind checks is blind. -/
theorem ite
    {condition : Prop}
    [Decidable condition]
    {positive negative : Check answer}
    (positiveBlind : Blind positive)
    (negativeBlind : Blind negative) :
    Blind (if condition then positive else negative) := by
  split
  · exact positiveBlind
  · exact negativeBlind

end Blind

/-! ## Checks that add no message -/

/--
A check, run where `before` holds, is subdued if it adds no message and leaves
`left` of its answer and of the result, if it answers.
-/
structure Subdued
    (before : Result → Prop)
    (check : Check answer)
    (left : answer → Result → Prop) : Prop where
  quiet :
    ∀ {result},
      before result → Entry.AreQuiet (check result).written
  leaves :
    ∀ {result value},
      before result →
      (check result).ended = .ok value →
      left value (result.extend (check result).written)

namespace Subdued

variable
  {before : Result → Prop}
  {between : middle → Result → Prop}
  {left : answer → Result → Prop}

/-- An answer adds no message. -/
theorem pure
    (value : answer)
    (held : ∀ result, before result → left value result) :
    Subdued before (Pure.pure value : Check answer) left where
  quiet _ _ member := by
    cases member
  leaves := by
    intro result answered known same
    cases same
    change left value (result.extend [])
    rw [Result.extend_nil]
    exact held result known

/-- A check in two parts is subdued if both parts are. -/
theorem bind
    {leading : Check middle}
    {continuation : middle → Check answer}
    (leadingSubdued : Subdued before leading between)
    (continuationSubdued :
      ∀ value, Subdued (between value) (continuation value) left) :
    Subdued before (leading >>= continuation) left where
  quiet := by
    intro result known
    change
      Entry.AreQuiet
        (leading result >>= fun value =>
          continuation value
            (result.extend (leading result).written)).written
    rw [Journal.written_bind, Entry.areQuiet_append_iff]
    refine ⟨leadingSubdued.quiet known, ?_⟩
    cases ended : (leading result).ended with
    | error fault =>
        exact List.forall_mem_nil _
    | ok value =>
        exact (continuationSubdued value).quiet
          (leadingSubdued.leaves known ended)
  leaves := by
    intro result answered known ended
    obtain ⟨value, first, second⟩ :=
      Journal.ended_bind_eq_ok_iff.mp ended
    have known' := leadingSubdued.leaves known first
    have left' := (continuationSubdued value).leaves known' second
    change
      left answered
        (result.extend
          (leading result >>= fun value =>
            continuation value
              (result.extend (leading result).written)).written)
    rw [Journal.written_bind, first, ← Result.extend_extend]
    exact left'

/-- Nothing is added where nothing is ever run. -/
theorem vacuous
    (check : Check answer)
    (impossible : ∀ result, ¬before result) :
    Subdued before check left where
  quiet known := (impossible _ known).elim
  leaves known := (impossible _ known).elim

/-- A choice that is known to be positive is subdued if its positive side is. -/
theorem ite_true
    {condition : Prop}
    [Decidable condition]
    {positive : Check answer}
    (positiveSubdued : Subdued before positive left)
    (negative : Check answer) :
    Subdued (fun result => condition ∧ before result)
      (if condition then positive else negative) left := by
  by_cases holds : condition
  · rw [if_pos holds]
    exact ⟨fun known => positiveSubdued.quiet known.2,
      fun known => positiveSubdued.leaves known.2⟩
  · exact vacuous _ fun _ known => holds known.1

/-- Where a key is known to have errors, it is found to have some. -/
theorem hasErrors
    (key : String) :
    Subdued (fun result => result.hasErrorsAt (.text key) = true)
      (Check.hasErrors (.text key))
      fun failed result =>
        failed = true ∧ result.hasErrorsAt (.text key) = true where
  quiet _ _ member := by
    cases member
  leaves := by
    intro result failed known same
    cases same
    change _ ∧ (result.extend []).hasErrorsAt (.text key) = true
    rw [Result.extend_nil]
    exact ⟨known, known⟩

/-- What is left out where a key has errors adds no message there. -/
theorem unless_hasErrors
    {key : String}
    {value : answer}
    (stops :
      ∀ result : Result,
        result.hasErrorsAt (.text key) = true → left value result)
    (check : Check answer) :
    Subdued (fun result => result.hasErrorsAt (.text key) = true)
      (Check.hasErrors (.text key) >>= fun failed =>
        if failed = true then Pure.pure value else check)
      left :=
  (hasErrors key).bind fun _ => (Subdued.pure value stops).ite_true check

end Subdued

/-! ## Checks that repeat their success -/

/-- A check is cut short on a result if it adds no message there. -/
structure CutShort
    (check : Check answer)
    (left : answer → Result → Prop)
    (result : Result) : Prop where
  quiet : Entry.AreQuiet (check result).written
  leaves :
    ∀ value,
      (check result).ended = .ok value →
        left value (result.extend (check result).written)

/--
A check repeats its success: if it answers without a message on a fresh result,
it does the same on a stale one that shows the same values under the known keys,
unless the stale one has errors under the field. A mild check is cut short then.
-/
structure Repeats
    (field : String)
    (mild : Prop)
    (known : List String)
    (check : Check answer)
    (left : answer → Result → Prop) : Prop where
  again :
    ∀ {fresh stale written value},
      fresh.CleanFor field →
      Result.ShowSame known fresh stale →
      check fresh = ⟨written, .ok value⟩ →
      Entry.AreQuiet written →
      check stale = ⟨written, .ok value⟩ ∨
        ¬stale.CleanFor field ∧ (mild → CutShort check left stale)

namespace Repeats

variable
  {field : String}
  {mild : Prop}
  {known : List String}
  {left : answer → Result → Prop}

/-- A blind check does the same anyway. -/
theorem of_blind
    {check : Check answer}
    (blind : Blind check) :
    Repeats field mild known check left := by
  constructor
  intro fresh stale written value _ _ answered _
  exact .inl ((blind.same stale fresh).trans answered)

/-- What is known of a check that was cut short may be weakened. -/
theorem weaken
    {check : Check answer}
    {stronger : answer → Result → Prop}
    (repeats : Repeats field mild known check stronger)
    (weaker : ∀ value result, stronger value result → left value result) :
    Repeats field mild known check left := by
  constructor
  intro fresh stale written value clean same answered quiet
  refine (repeats.again clean same answered quiet).imp_right ?_
  rintro ⟨unclean, cutShort⟩
  refine ⟨unclean, fun isMild => ?_⟩
  have cut := cutShort isMild
  exact ⟨cut.quiet, fun other ended => weaker _ _ (cut.leaves other ended)⟩

/-- It may be forgotten what a check that was cut short leaves. -/
theorem forget
    {check : Check answer}
    (repeats : Repeats field mild known check left) :
    Repeats field mild known check fun _ _ => True :=
  repeats.weaken fun _ _ _ => trivial

/-- A check of a part of a field repeats its success as one of the field. -/
theorem of_part
    {part : String}
    {check : Check answer}
    (repeats : Repeats (field ++ "_" ++ part) mild known check left) :
    Repeats field mild known check left := by
  constructor
  intro fresh stale written value clean same answered quiet
  exact (repeats.again clean.of_part same answered quiet).imp_right
    fun ⟨unclean, cutShort⟩ =>
      ⟨fun staleClean => unclean staleClean.of_part, cutShort⟩

/-- What a check that settles the field under some keys has stored is known. -/
theorem showSame_of_concludes
    {leading : Check middle}
    {gained : List String}
    (stored : ∀ key ∈ gained, Concludes field (.text key) leading)
    {fresh stale : Result}
    {written : List Entry}
    {value : middle}
    (clean : fresh.CleanFor field)
    (same : Result.ShowSame known fresh stale)
    (answered : leading fresh = ⟨written, .ok value⟩)
    (quiet : Entry.AreQuiet written) :
    Result.ShowSame (gained ++ known) (fresh.extend written)
      (stale.extend written) := by
  intro key isKnown
  rcases List.mem_append.mp isKnown with isGained | isOld
  · rcases (stored key isGained).leaves trivial answered with
        impossible | ⟨_, member⟩ | ⟨ownKey, belongs, failed⟩
    · exact impossible.elim
    · exact Result.value?_extend_of_stored member fresh stale
    · rw [(Result.cleanFor_extend_iff quiet).mpr clean ownKey belongs]
        at failed
      cases failed
  · exact same.extend written key isOld

/--
A check in two parts repeats its success if both parts do, and if the second
one is subdued where the first was cut short. The second part knows the values
under all keys of the field that the first one settles.
-/
theorem bind
    {leading : Check middle}
    {continuation : middle → Check answer}
    {between : middle → Result → Prop}
    (leadingRepeats : Repeats field mild known leading between)
    (gained : List String)
    (stored : ∀ key ∈ gained, Concludes field (.text key) leading)
    (resumes :
      mild → ∀ value, Subdued (between value) (continuation value) left)
    (continuationRepeats :
      ∀ value,
        Repeats field mild (gained ++ known) (continuation value) left) :
    Repeats field mild known (leading >>= continuation) left := by
  constructor
  intro fresh stale written value clean same answered quiet
  change
    (leading fresh >>= fun value =>
      continuation value (fresh.extend (leading fresh).written)) =
      _ at answered
  obtain ⟨early, reached, late, first, second, rfl⟩ :=
    Journal.bind_eq_ok_iff.mp answered
  rw [first] at second
  rw [Entry.areQuiet_append_iff] at quiet
  rcases leadingRepeats.again clean same first quiet.1 with
      again | ⟨unclean, cutShort⟩
  · have opened :
        (leading >>= continuation) stale =
          ⟨early ++ (continuation reached (stale.extend early)).written,
            (continuation reached (stale.extend early)).ended⟩ := by
      change
        (leading stale >>= fun value =>
          continuation value (stale.extend (leading stale).written)) = _
      rw [Journal.bind_of_ok (by rw [again]), again]
    have knownThen :=
      showSame_of_concludes stored clean same first quiet.1
    have cleanThen := (Result.cleanFor_extend_iff quiet.1).mpr clean
    rcases (continuationRepeats reached).again cleanThen knownThen second
        quiet.2 with againThen | ⟨unclean, cutShort⟩
    · left
      rw [opened, againThen]
    · right
      refine ⟨fun staleClean =>
        unclean ((Result.cleanFor_extend_iff quiet.1).mpr staleClean), ?_⟩
      intro isMild
      have cut := cutShort isMild
      constructor
      · rw [opened, Entry.areQuiet_append_iff]
        exact ⟨quiet.1, cut.quiet⟩
      · intro other ended
        rw [opened] at ended ⊢
        rw [← Result.extend_extend]
        exact cut.leaves other ended
  · right
    refine ⟨unclean, fun isMild => ?_⟩
    have cut := cutShort isMild
    have leadingSubdued :
        Subdued (fun result => result = stale) leading between := by
      constructor
      · rintro result rfl
        exact cut.quiet
      · rintro result other rfl ended
        exact cut.leaves other ended
    have subdued := leadingSubdued.bind (resumes isMild)
    exact ⟨subdued.quiet rfl, fun other ended => subdued.leaves rfl ended⟩

/-- Behind a check that is never cut short, only what it stored matters. -/
theorem bind_uncut
    {leading : Check middle}
    {continuation : middle → Check answer}
    (leadingRepeats : Repeats field mild known leading fun _ _ => False)
    (gained : List String)
    (stored : ∀ key ∈ gained, Concludes field (.text key) leading)
    (continuationRepeats :
      ∀ value,
        Repeats field mild (gained ++ known) (continuation value) left) :
    Repeats field mild known (leading >>= continuation) left :=
  bind leadingRepeats gained stored
    (fun _ _ => .vacuous _ fun _ => id) continuationRepeats

/-- Behind a blind check, nothing new need be known. -/
theorem bind_blind
    {leading : Check middle}
    {continuation : middle → Check answer}
    (blind : Blind leading)
    (continuationRepeats :
      ∀ value, Repeats field mild known (continuation value) left) :
    Repeats field mild known (leading >>= continuation) left :=
  bind_uncut (of_blind blind) [] (List.forall_mem_nil _)
    continuationRepeats

/-- A check that is not mild need not be followed where it was cut short. -/
theorem bind_firm
    {leading : Check middle}
    {continuation : middle → Check answer}
    {between : middle → Result → Prop}
    (firm : ¬mild)
    (leadingRepeats : Repeats field mild known leading between)
    (gained : List String)
    (stored : ∀ key ∈ gained, Concludes field (.text key) leading)
    (continuationRepeats :
      ∀ value,
        Repeats field mild (gained ++ known) (continuation value) left) :
    Repeats field mild known (leading >>= continuation) left :=
  bind leadingRepeats gained stored
    (fun isMild => (firm isMild).elim) continuationRepeats

/-- A check that first makes the key of a part continues with that key. -/
theorem bind_partKey
    {owner part : String}
    {continuation : Value → Check answer}
    (continuationRepeats :
      Repeats field mild known
        (continuation (.text (owner ++ "_" ++ part))) left) :
    Repeats field mild known
      ((liftM (partKey (.text owner) part) : Check Value) >>=
        continuation) left := by
  rw [partKey_text, lift_ok_bind]
  exact continuationRepeats

/-- A choice repeats its success if both of its sides do. -/
theorem ite
    {condition : Prop}
    [Decidable condition]
    {positive negative : Check answer}
    (positiveRepeats : Repeats field mild known positive left)
    (negativeRepeats : Repeats field mild known negative left) :
    Repeats field mild known
      (if condition then positive else negative) left := by
  split
  · exact positiveRepeats
  · exact negativeRepeats

/-- Asking for errors is cut short where there are some. -/
theorem hasErrors
    {key : String}
    (belongs : (Value.text key).BelongsTo field) :
    Repeats field mild known (Check.hasErrors (.text key))
      fun failed result =>
        failed = true ∧ result.hasErrorsAt (.text key) = true := by
  constructor
  intro fresh stale written failed clean _ answered _
  have looked
      (result : Result) :
      Check.hasErrors (.text key) result =
        ⟨[], .ok (result.hasErrorsAt (.text key))⟩ :=
    rfl
  rw [looked, clean _ belongs] at answered
  cases staleFailed : stale.hasErrorsAt (.text key) with
  | false =>
      left
      rw [looked, staleFailed]
      exact answered
  | true =>
      right
      refine ⟨fun staleClean => ?_, fun _ => ?_⟩
      · rw [staleClean _ belongs] at staleFailed
        cases staleFailed
      · have subdued := Subdued.hasErrors key
        exact ⟨subdued.quiet staleFailed,
          fun value ended => subdued.leaves staleFailed ended⟩

/-- Asking for a value that is known has one answer. -/
theorem value
    {key : String}
    (isKnown : key ∈ known)
    {left : Value → Result → Prop} :
    Repeats field mild known (Check.value (.text key)) left := by
  constructor
  intro fresh stale written stored _ same answered _
  cases answered
  left
  change
    (⟨[], .ok (stale.value (.text key))⟩ : Journal Entry Value) =
      ⟨[], .ok (fresh.value (.text key))⟩
  rw [Result.value, Result.value, same key isKnown]

/-- Asking for the presence of a value that is known has one answer. -/
theorem hasValue
    {key : String}
    (isKnown : key ∈ known)
    {left : Bool → Result → Prop} :
    Repeats field mild known (Check.hasValue (.text key)) left := by
  constructor
  intro fresh stale written present _ same answered _
  cases answered
  left
  change
    (⟨[], .ok (stale.hasValue (.text key))⟩ : Journal Entry Bool) =
      ⟨[], .ok (fresh.hasValue (.text key))⟩
  rw [Result.hasValue, Result.hasValue, same key isKnown]

/--
A check that is left out where a key has errors repeats its success if what is
left out does.
-/
theorem unless_hasErrors
    {key : String}
    {value : answer}
    {check : Check answer}
    (belongs : (Value.text key).BelongsTo field)
    (stops :
      ∀ result : Result,
        result.hasErrorsAt (.text key) = true → left value result)
    (repeats : Repeats field mild known check left) :
    Repeats field mild known
      (Check.hasErrors (.text key) >>= fun failed =>
        if failed = true then Pure.pure value else check)
      left := by
  refine bind (hasErrors belongs) [] (List.forall_mem_nil _)
    (fun _ failed => (Subdued.pure value stops).ite_true check)
    fun failed => ?_
  exact ite (of_blind (.pure value)) repeats

end Repeats

end Check

end FormCheck
