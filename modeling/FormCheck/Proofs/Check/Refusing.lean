import FormCheck.Proofs.Check.Passing

namespace FormCheck

/-!
# Checks that refuse

A check in several parts refuses what it is given with the message of one part:
what it stored on the way is under the keys of other parts, and the parts behind it
are left out. Where the message has a bound with too many digits to be written, a
fault is left instead of the message.
-/

/-- Entries are aside from a field if they are no messages and not under it. -/
def Entry.AreAside
    (field : String)
    (entries : List Entry) : Prop :=
  ∀ entry ∈ entries, entry.isError = false ∧ entry.key ≠ .text field

namespace Check

/-- The end of a refusal: a message and an answer, or a fault in its place. -/
def refusal
    (key message : String)
    (value : answer) : Option Fault → Journal Entry answer
  | none => ⟨[.error (.text key) (.text message)], .ok value⟩
  | some fault => ⟨[], .error fault⟩

/--
A check refuses on a result if it ends in a refusal, behind entries that are aside
from the field.
-/
structure Refuses
    (field : String)
    (check : Check answer)
    (result : Result)
    (value : answer)
    (key message : String)
    (fault : Option Fault) : Prop where
  ends :
    ∃ stored,
      Entry.AreAside field stored ∧
        check result =
          ⟨stored ++ (refusal key message value fault).written,
            (refusal key message value fault).ended⟩

/-- A check leaves one message, and nothing under the field. -/
structure LeavesMessage
    (field : String)
    (check : Check Unit)
    (result : Result)
    (key message : String) : Prop where
  answers : (check result).ended = .ok ()
  only :
    (check result).written.filter Entry.isError =
      [.error (.text key) (.text message)]
  blank : (check.after result).value? (.text field) = none

/-- A check leaves a fault, no message, and nothing under the field. -/
structure LeavesFault
    (field : String)
    (check : Check Unit)
    (result : Result)
    (fault : Fault) : Prop where
  stops : (check result).ended = .error fault
  quiet : Entry.AreQuiet (check result).written
  blank : (check.after result).value? (.text field) = none

namespace Refuses

variable
  {field key message : String}
  {result : Result}
  {fault : Option Fault}

/-- A message refuses. -/
theorem reject :
    Refuses field (Check.reject (.text key) message) result () key message
      none where
  ends := ⟨[], List.forall_mem_nil _, rfl⟩

/-- A check refuses if it does behind what passes. -/
theorem bind_of_passes
    {leading : Check middle}
    {continuation : middle → Check answer}
    {reached : middle}
    {value : answer}
    {stored : List Entry}
    (passes : leading.Passes result reached stored)
    (aside : Entry.AreAside field stored)
    (refuses :
      (continuation reached).Refuses field (result.extend stored) value key
        message fault) :
    (leading >>= continuation).Refuses field result value key message
      fault where
  ends := by
    obtain ⟨late, asideLate, ends⟩ := refuses.ends
    refine ⟨stored ++ late,
      List.forall_mem_append.mpr ⟨aside, asideLate⟩, ?_⟩
    rw [bind_of_ok passes.answers, ends, List.append_assoc]

/-- A check whose first part refuses does if the rest is left out behind it. -/
theorem bind_of_leavesOut
    {leading : Check middle}
    {continuation : middle → Check answer}
    {reached : middle}
    {value : answer}
    (refuses : leading.Refuses field result reached key message fault)
    (leavesOut :
      ∀ reachedResult : Result,
        reachedResult.hasErrorsAt (.text key) = true →
          continuation reached reachedResult = ⟨[], .ok value⟩) :
    (leading >>= continuation).Refuses field result value key message
      fault where
  ends := by
    obtain ⟨stored, aside, ends⟩ := refuses.ends
    refine ⟨stored, aside, ?_⟩
    cases fault with
    | none =>
        have complained :
            (result.extend
                (stored ++
                  [.error (.text key) (.text message)])).hasErrorsAt
                (.text key) =
              true := by
          simp [Result.hasErrorsAt, Result.errorsAt_extend,
            Entry.messageAt?]
        have left := leavesOut _ complained
        rw [bind_of_ok ends]
        unfold refusal
        dsimp only
        rw [left, List.append_nil]
    | some fault =>
        exact bind_of_error ends _

/-- A check refuses if a part does, whose errors leave out the rest. -/
theorem unless_hasErrors
    {leading : Check Unit}
    {rest : Check answer}
    {value : answer}
    (refuses : leading.Refuses field result () key message fault) :
    (leading >>= fun _ =>
        Check.hasErrors (.text key) >>= fun failed =>
          if failed = true then pure value else rest).Refuses
      field result value key message fault := by
  apply refuses.bind_of_leavesOut
  intro reachedResult failed
  have answers :
      Check.hasErrors (.text key) reachedResult = ⟨[], .ok true⟩ := by
    rw [← failed]
    rfl
  rw [bind_of_ok answers, if_pos rfl]
  rfl

/-- A check refuses if the rest does behind a part that passes. -/
theorem unless_hasErrors_of_passes
    {leading : Check Unit}
    {rest : Check answer}
    {value : answer}
    {checked : String}
    {stored : List Entry}
    (passes : leading.Passes result () stored)
    (aside : Entry.AreAside field stored)
    (clean : result.hasErrorsAt (.text checked) = false)
    (refuses :
      rest.Refuses field (result.extend stored) value key message fault) :
    (leading >>= fun _ =>
        Check.hasErrors (.text checked) >>= fun failed =>
          if failed = true then pure value else rest).Refuses
      field result value key message fault := by
  have noErrors :
      (Check.hasErrors (.text checked)).Passes (result.extend stored) false
        [] := by
    refine ⟨?_, List.forall_mem_nil _⟩
    rw [← clean, ← Result.hasErrorsAt_extend_of_quiet passes.quiet]
    rfl
  apply bind_of_passes passes aside
  apply bind_of_passes noErrors (List.forall_mem_nil _)
  rwa [if_neg Bool.false_ne_true, Result.extend_nil]

/-- A refusal leaves nothing under the field. -/
theorem value?_after
    {check : Check answer}
    {value : answer}
    (refuses : check.Refuses field result value key message fault) :
    (check.after result).value? (.text field) =
      result.value? (.text field) := by
  obtain ⟨stored, aside, ends⟩ := refuses.ends
  have noValue :
      (check result).written.filterMap (Entry.valueAt? (.text field)) =
        [] := by
    refine List.filterMap_eq_nil_iff.mpr fun entry member => ?_
    rw [ends] at member
    rcases List.mem_append.mp member with isStored | isRefusal
    · exact Entry.valueAt?_eq_none (aside entry isStored).2
    · cases fault with
      | none =>
          rw [List.mem_singleton.mp isRefusal]
          rfl
      | some fault =>
          cases isRefusal
  rw [after, Result.value?_extend, noValue]
  rfl

variable
  {check : Check Unit}

/-- A refusal without a fault leaves its message alone. -/
theorem leavesMessage
    (refuses : check.Refuses field result () key message none)
    (blank : result.value? (.text field) = none) :
    check.LeavesMessage field result key message := by
  obtain ⟨stored, aside, ends⟩ := refuses.ends
  have noMessage : stored.filter Entry.isError = [] := by
    refine List.filter_eq_nil_iff.mpr fun entry member => ?_
    rw [(aside entry member).1]
    exact Bool.false_ne_true
  exact
    { answers := by
        rw [ends]
        rfl
      only := by
        rw [ends, List.filter_append, noMessage]
        rfl
      blank := refuses.value?_after.trans blank }

/-- A refusal with a fault leaves that fault and no message. -/
theorem leavesFault
    {fault : Fault}
    (refuses : check.Refuses field result () key message (some fault))
    (blank : result.value? (.text field) = none) :
    check.LeavesFault field result fault := by
  obtain ⟨stored, aside, ends⟩ := refuses.ends
  exact
    { stops := by
        rw [ends]
        rfl
      quiet := by
        rw [ends]
        exact List.forall_mem_append.mpr
          ⟨fun entry member => (aside entry member).1,
            List.forall_mem_nil _⟩
      blank := refuses.value?_after.trans blank }

/-! ## Numbers -/

/-- The fault of a message about two bounds, if one of them cannot be written. -/
def boundsFault
    (least greatest : Int) : Option Fault :=
  if Number.isWritable least && Number.isWritable greatest then
    none
  else
    some .tooManyDigits

variable
  {least greatest : Int}

/-- A message about two bounds that can be written is no fault. -/
theorem boundsFault_of_writable
    (writable :
      Number.isWritable least = true ∧ Number.isWritable greatest = true) :
    boundsFault least greatest = none := by
  unfold boundsFault
  rw [writable.1, writable.2]
  rfl

/-- A message about two bounds is a fault if one of them cannot be written. -/
theorem boundsFault_of_unwritable
    (unwritable :
      ¬(Number.isWritable least = true ∧
        Number.isWritable greatest = true)) :
    boundsFault least greatest = some .tooManyDigits := by
  unfold boundsFault
  rw [if_neg (by rwa [Bool.and_eq_true])]

/-- An integer with too many digits has no text. -/
theorem shown_of_unwritable
    {number : Int}
    (unwritable : Number.isWritable number = false) :
    (Value.int number).shown = .error .tooManyDigits := by
  simp only [Value.shown, Value.written, Number.integerText, unwritable,
    Bool.false_eq_true, ↓reduceIte]

/-- Naming two bounds refuses. -/
theorem rejectBetween :
    (Check.rejectBetween (.text key) (.int least) (.int greatest)).Refuses
      field result () key (boundsMessage (some least) (some greatest))
      (boundsFault least greatest) where
  ends := by
    refine ⟨[], List.forall_mem_nil _, ?_⟩
    unfold Check.rejectBetween boundsFault
    cases leastWritable : Number.isWritable least with
    | false =>
        rw [shown_of_unwritable leastWritable]
        rfl
    | true =>
        rw [Value.shown_int leastWritable, lift_ok_bind]
        cases greatestWritable : Number.isWritable greatest with
        | false =>
            rw [shown_of_unwritable greatestWritable]
            rfl
        | true =>
            rw [Value.shown_int greatestWritable, lift_ok_bind]
            rfl

/-- A comparison refuses a number that does not lie within its bounds. -/
theorem withinBounds
    {number : Int}
    (outside : ¬(least ≤ number ∧ number ≤ greatest)) :
    (Check.withinBounds (.int number) (.text key) (.int least)
        (.int greatest)).Refuses
      field result false key (boundsMessage (some least) (some greatest))
      (boundsFault least greatest) := by
  have refuses :
      (do
          Check.rejectBetween (.text key) (.int least) (.int greatest)
          return false : Check Bool).Refuses
        field result false key (boundsMessage (some least) (some greatest))
        (boundsFault least greatest) :=
    rejectBetween.bind_of_leavesOut fun _ _ => rfl
  unfold Check.withinBounds
  dsimp only
  rw [Value.less_int, lift_ok_bind]
  by_cases precedes : number < least
  · rwa [if_pos (decide_eq_true precedes)]
  · rw [if_neg (by simpa using precedes), Value.less_int, lift_ok_bind,
      if_pos (decide_eq_true (by omega))]
    exact refuses

/-- An integer that does not lie within its bounds is refused. -/
theorem integerRange
    {environment : Environment}
    {number : Int}
    {submitted : Value}
    (fits : submitted.FitsInto environment.memory)
    (isRead : submitted.toInt? = some number)
    (outside : ¬(least ≤ number ∧ number ≤ greatest))
    (clean : result.hasErrorsAt (.text key) = false)
    (differs : key ≠ field) :
    (Check.integerRange environment submitted (.text key) (.int least)
        (.int greatest)).Refuses
      field result () key (boundsMessage (some least) (some greatest))
      (boundsFault least greatest) := by
  let stored := result.extend [.value (.text key) (.int number)]
  have holds :
      (Check.value (.text key)).Passes stored (.int number) [] := by
    refine ⟨?_, List.forall_mem_nil _⟩
    have found : stored.value (.text key) = .int number := by
      simp [stored, Result.value, Result.value?_extend, Entry.valueAt?]
    rw [← found]
    rfl
  unfold Check.integerRange
  rw [integer_eq fits, isRead]
  refine unless_hasErrors_of_passes (passes_setValue_iff.mpr rfl) ?_ clean ?_
  · rw [Entry.AreAside, List.forall_mem_singleton]
    exact ⟨rfl, mt Value.text.inj differs⟩
  · apply bind_of_passes holds (List.forall_mem_nil _)
    exact (withinBounds outside).bind_of_leavesOut fun _ _ => rfl

end Refuses

end Check

end FormCheck
