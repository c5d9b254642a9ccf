import FormCheck.Proofs.Check.Decision.Date

namespace FormCheck

/-!
# Checks that fail

A check fails on a result if it stops with a fault or records a message. It does
so if its first part does. No year lies between bounds in the wrong order, so
then every check of a date fails, whether or not the bounds can be written.
-/

/-- A check fails on a result if it stops or records a message. -/
def Check.FailsOn
    (check : Check answer)
    (result : Result) : Prop :=
  (∃ fault, (check result).ended = .error fault) ∨
    ∃ entry ∈ (check result).written, entry.isError = true

namespace Check.FailsOn

variable
  {result : Result}

/-- A message fails. -/
theorem reject
    (key message : String) :
    (Check.reject (.text key) message).FailsOn result :=
  .inr ⟨_, .head _, rfl⟩

/-- A check whose first part fails fails. -/
theorem bind
    {leading : Check middle}
    (fails : leading.FailsOn result)
    (continuation : middle → Check answer) :
    (leading >>= continuation).FailsOn result := by
  change
    (∃ fault,
        (leading result >>= fun value =>
            continuation value
              (result.extend (leading result).written)).ended =
          .error fault) ∨
      ∃ entry ∈
        (leading result >>= fun value =>
          continuation value
            (result.extend (leading result).written)).written,
        entry.isError = true
  rcases fails with ⟨fault, stopped⟩ | ⟨entry, member, isError⟩
  · exact .inl ⟨fault, Journal.ended_bind_eq_error_iff.mpr (.inl stopped)⟩
  · refine .inr ⟨entry, ?_, isError⟩
    rw [Journal.written_bind]
    exact List.mem_append_left _ member

/-- A check fails if it does behind its first part. -/
theorem bind_of_ok
    {leading : Check middle}
    {written : List Entry}
    {value : middle}
    (answered : leading result = ⟨written, .ok value⟩)
    {continuation : middle → Check answer}
    (fails : (continuation value).FailsOn (result.extend written)) :
    (leading >>= continuation).FailsOn result := by
  unfold FailsOn
  rw [Check.bind_of_ok answered]
  rcases fails with stopped | ⟨entry, member, isError⟩
  · exact .inl stopped
  · exact .inr ⟨entry, List.mem_append_right _ member, isError⟩

/-- A check fails if it does behind whatever is computed first. -/
theorem bind_lift
    {computation : Except Fault middle}
    {continuation : middle → Check answer}
    (fails :
      ∀ value, computation = .ok value →
        (continuation value).FailsOn result) :
    ((liftM computation : Check middle) >>= continuation).FailsOn result := by
  cases computed : computation with
  | error fault =>
      exact bind (.inl ⟨fault, rfl⟩) _
  | ok value =>
      rw [lift_ok_bind]
      exact fails value computed

/-- Naming two bounds in a message fails. -/
theorem rejectBetween
    (key : String)
    (lower upper : Value) :
    (Check.rejectBetween (.text key) lower upper).FailsOn result := by
  unfold Check.rejectBetween
  exact bind_lift fun _ _ => bind_lift fun _ _ => reject ..

section Bounds

variable
  {least greatest : Int}
  (crossed : greatest < least)

include crossed

/-- No number lies between bounds in the wrong order. -/
theorem withinBounds
    (number : Int)
    (key : String) :
    (Check.withinBounds (.int number) (.text key) (.int least)
        (.int greatest)).FailsOn result := by
  unfold Check.withinBounds
  refine bind_lift fun precedes isLess => ?_
  rw [Value.less_int] at isLess
  cases isLess
  by_cases precedes : number < least
  · rw [if_pos (decide_eq_true precedes)]
    exact bind (rejectBetween ..) _
  · rw [if_neg (by simpa using precedes)]
    refine bind_lift fun exceeds isLess => ?_
    rw [Value.less_int] at isLess
    cases isLess
    have exceeds : greatest < number := by omega
    rw [if_pos (decide_eq_true exceeds)]
    exact bind (rejectBetween ..) _

/-- Nothing is an integer between bounds in the wrong order. -/
theorem integerRange
    (environment : Environment)
    (submitted : Value)
    (key : String) :
    (Check.integerRange environment submitted (.text key) (.int least)
        (.int greatest)).FailsOn .empty := by
  unfold Check.integerRange
  by_cases fits : submitted.FitsInto environment.memory
  case neg =>
    rw [integer_eq_stop fits]
    exact bind (.inl ⟨.outOfMemory, rfl⟩) _
  rw [integer_eq fits]
  cases submitted.toInt? with
  | none =>
      exact bind (reject ..) _
  | some number =>
      let stored := Result.empty.extend [.value (.text key) (.int number)]
      have stores :
          Check.setValue (.text key) (.int number) .empty =
            ⟨[.value (.text key) (.int number)], .ok ()⟩ :=
        rfl
      have hasNone :
          Check.hasErrors (.text key) stored = ⟨[], .ok false⟩ :=
        rfl
      have holds :
          Check.value (.text key) stored = ⟨[], .ok (.int number)⟩ := by
        have found : stored.value (.text key) = .int number := by
          simp [stored, Result.value, Result.value?, Result.empty,
            Entry.valueAt?]
        rw [← found]
        rfl
      refine bind_of_ok stores (bind_of_ok hasNone ?_)
      rw [Result.extend_nil]
      exact bind_of_ok holds (bind (withinBounds crossed ..) _)

/-- Nothing is a year between bounds in the wrong order. -/
theorem year
    {environment : Environment}
    {minimal : Int}
    (isMinimal : environment.settings.minimalYear = .int minimal)
    (isLeast : least = max Check.earliestYear minimal)
    (isGreatest : environment.lastYear = .ok (.int greatest))
    (submitted : Value)
    (key : String) :
    (Check.year environment submitted (.text key) .null .null).FailsOn
      .empty := by
  unfold Check.year
  dsimp only
  rw [isGreatest, lift_ok_bind]
  refine bind_lift fun lower isGreater => ?_
  rw [isMinimal, Value.orDefault, Value.greaterOf_int, ← isLeast] at isGreater
  cases isGreater
  exact integerRange crossed environment submitted key

/-- No components of a date are accepted where no year is. -/
theorem dateComponents
    {environment : Environment}
    {minimal : Int}
    (isMinimal : environment.settings.minimalYear = .int minimal)
    (isLeast : least = max Check.earliestYear minimal)
    (isGreatest : environment.lastYear = .ok (.int greatest))
    (inputs : DateInputs)
    (field : String) :
    (Check.dateComponents environment inputs.year inputs.month inputs.day
        (.text field)).FailsOn .empty := by
  unfold Check.dateComponents
  rw [partKey_text, lift_ok_bind]
  exact bind (year crossed isMinimal isLeast isGreatest ..) _

end Bounds

end Check.FailsOn

end FormCheck
