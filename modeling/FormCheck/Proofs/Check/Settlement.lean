import FormCheck.Proofs.Check.Scope

namespace FormCheck.Check

/-!
# No check ends in silence

A check of a field that ends without a fault has either stored a value itself or
left an error under a key of the field. The checks return early in many places,
after a look at errors and values that may stem from earlier checks, so each
place has to be covered. The rules below carry along what is known while
nothing is settled yet; once something is settled it stays so, since checks
neither change nor remove what was recorded.
-/

/--
A field is settled if a value was just stored under a target key, or if some key
of the field has errors.
-/
def Settled
    (field : String)
    (target : Value)
    (written : List Entry)
    (result : Result) : Prop :=
  (∃ stored, Entry.value target stored ∈ written) ∨
    ∃ key : Value, key.BelongsTo field ∧ result.hasErrorsAt key = true

/--
A check, run where `before` holds, settles a field, unless `pending` holds of
its answer and of the result that it leaves.
-/
structure Settles
    (field : String)
    (target : Value)
    (before : Result → Prop)
    (check : Check answer)
    (pending : answer → Result → Prop) : Prop where
  leaves :
    ∀ {result written value},
      before result →
      check result = ⟨written, .ok value⟩ →
      pending value (result.extend written) ∨
        Settled field target written (result.extend written)

/-- A check settles a field whatever it is run on and whatever it answers. -/
def Concludes
    (field : String)
    (target : Value)
    (check : Check answer) : Prop :=
  Settles field target (fun _ => True) check fun _ _ => False

namespace Settles

variable
  {field : String}
  {target : Value}
  {before : Result → Prop}

/-- Nothing is claimed of a check that may leave everything pending. -/
theorem any
    (check : Check answer) :
    Settles field target before check fun _ _ => True :=
  ⟨fun _ _ => .inl trivial⟩

/-- What nothing takes away stays known beside what a check leaves pending. -/
theorem keeping
    {check : Check answer}
    {pending : answer → Result → Prop}
    (persists :
      ∀ result entries, before result → before (result.extend entries))
    (settles : Settles field target before check pending) :
    Settles field target before check fun value result =>
      before result ∧ pending value result := by
  constructor
  intro result written value held answered
  exact (settles.leaves held answered).imp_left
    fun open' => ⟨persists result written held, open'⟩

/-- What is known may be weakened, before a check and behind it. -/
theorem weaken
    {stronger : Result → Prop}
    {check : Check answer}
    {pending weaker : answer → Result → Prop}
    (settles : Settles field target before check pending)
    (known : ∀ result, stronger result → before result)
    (left : ∀ value result, pending value result → weaker value result) :
    Settles field target stronger check weaker := by
  constructor
  intro result written value held answered
  exact (settles.leaves (known result held) answered).imp_left
    (left value _)

/-- An answer is given while what was known still holds. -/
theorem pure
    (value : answer)
    {pending : answer → Result → Prop}
    (held : ∀ result, before result → pending value result) :
    Settles field target before (Pure.pure value : Check answer)
      pending := by
  constructor
  intro result written answered known same
  cases same
  exact .inl (by simpa using held result known)

/-- A fault gives no answer. -/
theorem stop
    (fault : Fault)
    {pending : answer → Result → Prop} :
    Settles field target before (Check.stop fault) pending := by
  constructor
  intro result written answered known same
  cases same

/-- Two parts settle a field if the second does where the first did not. -/
theorem bind
    {leading : Check middle}
    {continuation : middle → Check answer}
    {between : middle → Result → Prop}
    {pending : answer → Result → Prop}
    (leadingSettles : Settles field target before leading between)
    (continuationSettles :
      ∀ value,
        Settles field target (between value) (continuation value)
          pending) :
    Settles field target before (leading >>= continuation) pending := by
  constructor
  intro result written value held answered
  change
    (leading result >>= fun value =>
      continuation value (result.extend (leading result).written)) =
      _ at answered
  obtain ⟨early, reached, late, first, second, rfl⟩ :=
    Journal.bind_eq_ok_iff.mp answered
  rw [first] at second
  rw [← Result.extend_extend]
  rcases leadingSettles.leaves held first with
      known | stored | failed
  · rcases (continuationSettles reached).leaves known second with
        open' | stored | failed
    · exact .inl open'
    · obtain ⟨stored, member⟩ := stored
      exact .inr (.inl ⟨stored, List.mem_append_right early member⟩)
    · exact .inr (.inr failed)
  · obtain ⟨stored, member⟩ := stored
    exact .inr (.inl ⟨stored, List.mem_append_left late member⟩)
  · obtain ⟨key, belongs, hasErrors⟩ := failed
    exact .inr
      (.inr ⟨key, belongs, Result.hasErrorsAt_extend hasErrors late⟩)

/-- A check that first makes the key of a part continues with that key. -/
theorem bind_partKey
    {owner part : String}
    {continuation : Value → Check answer}
    {pending : answer → Result → Prop}
    (continuationSettles :
      Settles field target before
        (continuation (.text (owner ++ "_" ++ part))) pending) :
    Settles field target before
      ((liftM (partKey (.text owner) part) : Check Value) >>=
        continuation) pending := by
  rw [partKey_text, lift_ok_bind]
  exact continuationSettles

/-- A choice settles a field if each of its sides does. -/
theorem ite
    {condition : Prop}
    [Decidable condition]
    {positive negative : Check answer}
    {pending : answer → Result → Prop}
    (positiveSettles :
      condition → Settles field target before positive pending)
    (negativeSettles :
      ¬condition → Settles field target before negative pending) :
    Settles field target before
      (if condition then positive else negative) pending := by
  split
  case isTrue holds =>
    exact positiveSettles holds
  case isFalse fails =>
    exact negativeSettles fails

/-- Nothing is settled where what is known cannot be. -/
theorem vacuous
    (check : Check answer)
    {pending : answer → Result → Prop}
    (impossible : ∀ result, ¬before result) :
    Settles field target before check pending :=
  ⟨fun held _ => (impossible _ held).elim⟩

/-- Storing a value under the target settles the field. -/
theorem setValue
    {characters : String}
    (value : Value)
    {pending : Unit → Result → Prop} :
    Settles field (.text characters) before
      (Check.setValue (.text characters) value) pending := by
  constructor
  intro result written answered held same
  cases same
  exact .inr (.inl ⟨value, List.mem_singleton_self _⟩)

/-- A message under a key of the field settles it. -/
theorem addError
    {key message : Value}
    (belongs : key.BelongsTo field)
    {pending : Unit → Result → Prop} :
    Settles field target before (Check.addError key message)
      pending := by
  obtain ⟨characters, rfl, _⟩ := id belongs
  constructor
  intro result written answered held same
  cases same
  refine .inr (.inr ⟨_, belongs, ?_⟩)
  rw [Result.hasErrorsAt_text_iff]
  exact ⟨message, by simp⟩

/-- A textual message under a key of the field settles it. -/
theorem reject
    {key : Value}
    {message : String}
    (belongs : key.BelongsTo field)
    {pending : Unit → Result → Prop} :
    Settles field target before (Check.reject key message) pending :=
  addError belongs

/-- After the question for errors, either there are none or the field is settled. -/
theorem hasErrors
    {key : Value}
    (belongs : key.BelongsTo field) :
    Settles field target before (Check.hasErrors key)
      fun failed _ => failed = false := by
  obtain ⟨characters, rfl, _⟩ := id belongs
  constructor
  intro result written failed held same
  cases same
  rw [Result.extend_nil]
  cases present : result.hasErrorsAt (.text characters) with
  | false =>
      exact .inl present
  | true =>
      exact .inr (.inr ⟨_, belongs, present⟩)

/-- The answer to the question for a value is what the result shows. -/
theorem hasValue
    (characters : String) :
    Settles field target before (Check.hasValue (.text characters))
      fun present result =>
        before result ∧ present = result.hasValue (.text characters) := by
  constructor
  intro result written present held same
  cases same
  rw [Result.extend_nil]
  exact .inl ⟨held, rfl⟩

/--
A part that is settled with a target of its own settles the field, or it has
stored a value under that target.
-/
theorem of_part
    {part inner : String}
    {check : Check answer}
    (concludes :
      Concludes (field ++ "_" ++ part) (.text inner) check) :
    Settles field target before check fun _ result =>
      result.hasValue (.text inner) = true := by
  constructor
  intro result written value _ answered
  rcases concludes.leaves trivial answered with
      impossible | stored | failed
  · exact impossible.elim
  · obtain ⟨stored, member⟩ := stored
    left
    exact Result.hasValue_text_iff.mpr ⟨stored, by simp [member]⟩
  · obtain ⟨key, belongs, hasErrors⟩ := failed
    exact .inr (.inr ⟨key, belongs.of_part, hasErrors⟩)

end Settles

namespace Concludes

variable
  {field : String}
  {target : Value}

/-- A check that settles a field does so wherever it is run. -/
theorem anywhere
    {before : Result → Prop}
    {check : Check answer}
    {pending : answer → Result → Prop}
    (concludes : Concludes field target check) :
    Settles field target before check pending :=
  Settles.weaken concludes (fun _ _ => trivial) fun _ _ => False.elim

/-- A check that settles a part of a field settles the field. -/
theorem of_part
    {part : String}
    {check : Check answer}
    (concludes : Concludes (field ++ "_" ++ part) target check) :
    Concludes field target check := by
  constructor
  intro result written value _ answered
  refine (concludes.leaves trivial answered).imp_right (.imp_right ?_)
  rintro ⟨key, belongs, failed⟩
  exact ⟨key, belongs.of_part, failed⟩

/-- A check that settles a field may be continued in any way. -/
theorem first
    {leading : Check middle}
    {continuation : middle → Check answer}
    (concludes : Concludes field target leading) :
    Concludes field target (leading >>= continuation) :=
  Settles.bind concludes fun _ => Settles.vacuous _ fun _ => id

/-- A check that settles a field may follow any other. -/
theorem last
    {leading : Check middle}
    {continuation : middle → Check answer}
    (concludes :
      ∀ value, Concludes field target (continuation value)) :
    Concludes field target (leading >>= continuation) :=
  Settles.bind (Settles.any _) concludes

/-- A choice between checks that settle a field settles it. -/
theorem ite
    {condition : Prop}
    [Decidable condition]
    {positive negative : Check answer}
    (positiveConcludes : Concludes field target positive)
    (negativeConcludes : Concludes field target negative) :
    Concludes field target
      (if condition then positive else negative) :=
  Settles.ite (fun _ => positiveConcludes) fun _ => negativeConcludes

/-- A check that settles a field may be left out where a key of it has errors. -/
theorem unless_hasErrors
    {key : Value}
    {check : Check Unit}
    (belongs : key.BelongsTo field)
    (concludes : Concludes field target check) :
    Concludes field target
      (Check.hasErrors key >>= fun failed =>
        if failed = true then Pure.pure () else check) := by
  refine Settles.bind (Settles.hasErrors belongs) fun failed => ?_
  refine Settles.ite (fun isTrue => ?_) fun _ => concludes.anywhere
  refine Settles.vacuous _ fun result isFalse => ?_
  rw [isTrue] at isFalse
  cases isFalse

/--
A check that settles a field may be left out where a test fails, if failing the
test settles it.
-/
theorem when
    {test : Check Bool}
    {check : Check Unit}
    (testSettles :
      Settles field target (fun _ => True) test
        fun passed _ => passed = true)
    (concludes : Concludes field target check) :
    Concludes field target
      (test >>= fun passed =>
        if passed = true then check else Pure.pure ()) := by
  refine Settles.bind testSettles fun passed => ?_
  refine Settles.ite (fun _ => concludes.anywhere) fun isFalse => ?_
  exact Settles.vacuous _ fun result isTrue => isFalse isTrue

end Concludes

end FormCheck.Check
