import FormCheck.Proofs.Check.Frame
import FormCheck.Proofs.Check.Ruling
import FormCheck.Proofs.Check.Writing

namespace FormCheck

/-!
# What a check records last

A check of several parts may end with one entry under the key of its field, and
have written only under the keys of its parts before. Then a message there is
all that there is: no value is left under the field beside it. And where the check
stops on the way, nothing is left there at all.
-/

/--
A check touches a key last if it records one entry under it at most, behind all
others, and answers then.
-/
structure Check.TouchesLast
    (key : Value)
    (check : Check answer) : Prop where
  splits :
    ∀ result,
      ∃ early late,
        (check result).written = early ++ late ∧
          (∀ entry ∈ early, entry.key ≠ key) ∧ late.length ≤ 1 ∧
            (late ≠ [] → ∃ value, (check result).ended = .ok value)

namespace Check.TouchesLast

variable
  {key : Value}

/-- An answer touches nothing. -/
theorem pure
    (value : answer) :
    TouchesLast key (Pure.pure value : Check answer) where
  splits _ :=
    ⟨[], [], rfl, List.forall_mem_nil _, Nat.zero_le 1, fun _ => ⟨_, rfl⟩⟩

/-- Recording one entry touches its key last. -/
theorem record
    (entry : Entry) :
    TouchesLast key (Check.record entry) where
  splits result := by
    unfold Check.record
    split
    · exact ⟨[], [entry], rfl, List.forall_mem_nil _, Nat.le_refl 1,
        fun _ => ⟨_, rfl⟩⟩
    · exact ⟨[], [], rfl, List.forall_mem_nil _, Nat.zero_le 1,
        fun present => absurd rfl present⟩

theorem setValue
    (stored : Value) :
    TouchesLast key (Check.setValue key stored) :=
  record _

theorem reject
    (message : String) :
    TouchesLast key (Check.reject key message) :=
  record _

/-- A check touches a key last if its first part writes only under others. -/
theorem bind
    {leading : Check middle}
    {continuation : middle → Check answer}
    (avoids : leading.Writes fun entry => entry.key ≠ key)
    (touches : ∀ value, TouchesLast key (continuation value)) :
    TouchesLast key (leading >>= continuation) where
  splits result := by
    have avoidsHere := avoids.isAllowed result
    cases led : leading result with
    | mk written ended =>
        rw [led] at avoidsHere
        cases ended with
        | error fault =>
            rw [bind_of_error led]
            exact ⟨written, [], (List.append_nil _).symm, avoidsHere,
              Nat.zero_le 1, fun present => absurd rfl present⟩
        | ok value =>
            obtain ⟨early, late, isSplit, avoidsThen, few, answers⟩ :=
              (touches value).splits (result.extend written)
            rw [bind_of_ok led]
            refine ⟨written ++ early, late, ?_, ?_, few, answers⟩
            · rw [List.append_assoc]
              exact congrArg _ isSplit
            · exact List.forall_mem_append.mpr ⟨avoidsHere, avoidsThen⟩

/-- A choice touches a key last if both of its sides do. -/
theorem ite
    {condition : Prop}
    [Decidable condition]
    {positive negative : Check answer}
    (positiveTouches : TouchesLast key positive)
    (negativeTouches : TouchesLast key negative) :
    TouchesLast key (if condition then positive else negative) := by
  split
  · exact positiveTouches
  · exact negativeTouches

/-- The check of a range touches its field last. -/
theorem dateRange
    (environment : Environment)
    (startYear startMonth startDay endYear endMonth endDay : Value)
    (field : String) :
    TouchesLast (.text field)
      (Check.dateRange environment startYear startMonth startDay endYear
        endMonth endDay (.text field)) := by
  have avoids
      (part : String)
      (year month day : Value) :
      Writes (fun entry => entry.key ≠ .text field)
        (Check.fullDate environment year month day
          (.text (field ++ "_" ++ part))) := by
    constructor
    intro result entry member isField
    have confined :
        Confined (.text (field ++ "_" ++ part))
          (Check.fullDate environment year month day
            (.text (field ++ "_" ++ part))) :=
      .fullDate ..
    have belongs :=
      Value.stemsFrom_text_iff.mp (confined.writes result entry member).1
    rw [isField] at belongs
    exact belongs.ne_of_part rfl
  unfold Check.dateRange
  rw [partKey_text, lift_ok_bind]
  refine bind (avoids "start" ..) fun _ => ?_
  rw [partKey_text, lift_ok_bind]
  refine bind (avoids "end" ..) fun _ => ?_
  refine bind (Writes.lift _) fun startTimestamp => ?_
  refine bind (Writes.lift _) fun endTimestamp => ?_
  refine bind (Writes.haveValues ..) fun present => ite ?_ (pure ())
  refine bind (Writes.look startTimestamp _) fun start => ?_
  refine bind (Writes.look endTimestamp _) fun finish => ?_
  exact bind (Writes.lift _) fun reversed => ite (reject _) (setValue _)

/-- Where the message under a key is touched last, nothing is stored there. -/
theorem values_eq_nil
    {check : Check answer}
    {field : String}
    (touches : TouchesLast (.text field) check)
    {result : Result}
    {message : Value}
    (complains :
      (check result).written.filterMap (Entry.messageAt? (.text field)) =
        [message]) :
    (check result).written.filterMap (Entry.valueAt? (.text field)) =
      [] := by
  obtain ⟨early, late, isSplit, avoids, few, _⟩ := touches.splits result
  have noMessage :
      early.filterMap (Entry.messageAt? (.text field)) = [] :=
    List.filterMap_eq_nil_iff.mpr fun entry member =>
      Entry.messageAt?_eq_none (avoids entry member)
  have noValue :
      early.filterMap (Entry.valueAt? (.text field)) = [] :=
    List.filterMap_eq_nil_iff.mpr fun entry member =>
      Entry.valueAt?_eq_none (avoids entry member)
  rw [isSplit, List.filterMap_append] at complains ⊢
  rw [noMessage, List.nil_append] at complains
  rw [noValue, List.nil_append]
  match late, few with
  | [], _ =>
      cases complains
  | [.value key stored], _ =>
      cases complains
  | [.error key text], _ =>
      rfl

/-- Where a check stops, nothing is left under the key that it touches last. -/
theorem ne_of_stopped
    {check : Check answer}
    (touches : TouchesLast key check)
    {result : Result}
    {fault : Fault}
    (stopped : (check result).ended = .error fault) :
    ∀ entry ∈ (check result).written, entry.key ≠ key := by
  obtain ⟨early, late, isSplit, avoids, _, answers⟩ := touches.splits result
  have nothing : late = [] :=
    Decidable.byContradiction fun present => by
      obtain ⟨value, answered⟩ := answers present
      rw [stopped] at answered
      cases answered
  rwa [isSplit, nothing, List.append_nil]

end Check.TouchesLast

end FormCheck
