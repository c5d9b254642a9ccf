import FormCheck.Check.Date
import FormCheck.Proofs.Check.Scope

namespace FormCheck

/-!
# What checks of dates read

The checks of dates ask about the keys of the components alone. So on a result
that shows nothing under these keys they do what they do on the empty result,
whatever the result holds elsewhere.
-/

/-- A check reads some keys if it does the same wherever these show the same. -/
structure Check.Reads
    (owned : Value → Prop)
    (check : Check answer) : Prop where
  depends :
    ∀ {first second},
      Result.AgreeOn owned first second → check first = check second

namespace Check.Reads

variable
  {owned : Value → Prop}
  {field : String}

/-! ## Parts of checks -/

/-- Giving an answer reads nothing. -/
theorem pure
    (value : answer) :
    Reads owned (Pure.pure value : Check answer) where
  depends _ := rfl

/-- Stopping reads nothing. -/
theorem stop
    (fault : Fault) :
    Reads owned (Check.stop fault : Check answer) where
  depends _ := rfl

/-- A computation without a result reads nothing. -/
theorem lift
    (computation : Except Fault answer) :
    Reads owned (liftM computation : Check answer) where
  depends _ := rfl

/-- Recording reads nothing. -/
theorem record
    (entry : Entry) :
    Reads owned (Check.record entry) where
  depends _ := rfl

theorem setValue
    (key value : Value) :
    Reads owned (Check.setValue key value) :=
  record _

theorem reject
    (key : Value)
    (message : String) :
    Reads owned (Check.reject key message) :=
  record _

/-- Asking for errors reads the key that is asked about. -/
theorem hasErrors
    {key : Value}
    (keyOwned : owned key) :
    Reads owned (Check.hasErrors key) where
  depends agree := by
    unfold Check.hasErrors Check.look
    simp only [Result.hasErrorsAt, (agree key keyOwned).2]

/-- Asking for a value reads the key that is asked about. -/
theorem value
    {key : Value}
    (keyOwned : owned key) :
    Reads owned (Check.value key) where
  depends agree := by
    unfold Check.value Check.look
    simp only [Result.value, (agree key keyOwned).1]

/-- A check in two parts reads what both of its parts do. -/
theorem bind
    {leading : Check middle}
    {continuation : middle → Check answer}
    (leadingReads : Reads owned leading)
    (continuationReads : ∀ value, Reads owned (continuation value)) :
    Reads owned (leading >>= continuation) where
  depends := by
    intro first second agree
    change
      (leading first >>= fun value =>
        continuation value (first.extend (leading first).written)) =
      leading second >>= fun value =>
        continuation value (second.extend (leading second).written)
    rw [leadingReads.depends agree]
    congr 1
    funext value
    exact (continuationReads value).depends (agree.extend _)

/-- A check that first makes the key of a part continues with that key. -/
theorem bind_partKey
    {part : String}
    {continuation : Value → Check answer}
    (continuationReads :
      Reads owned (continuation (.text (field ++ "_" ++ part)))) :
    Reads owned
      ((liftM (partKey (.text field) part) : Check Value) >>=
        continuation) := by
  rw [partKey_text, lift_ok_bind]
  exact continuationReads

/-- A choice reads what both of its sides do. -/
theorem ite
    {condition : Prop}
    [Decidable condition]
    {positive negative : Check answer}
    (positiveReads : Reads owned positive)
    (negativeReads : Reads owned negative) :
    Reads owned (if condition then positive else negative) := by
  split
  · exact positiveReads
  · exact negativeReads

/-! ## Numbers -/

theorem integer
    (environment : Environment)
    (value key : Value) :
    Reads owned (Check.integer environment value key) := by
  unfold Check.integer
  refine bind (lift _) fun read => ?_
  split
  · exact setValue ..
  · exact reject ..

theorem rejectBetween
    (key lower upper : Value) :
    Reads owned (Check.rejectBetween key lower upper) := by
  unfold Check.rejectBetween
  exact bind (lift _) fun _ => bind (lift _) fun _ => reject ..

theorem withinBounds
    (number key lower upper : Value) :
    Reads owned (Check.withinBounds number key lower upper) := by
  unfold Check.withinBounds
  split
  · exact pure true
  · refine bind (lift _) fun exceeds => ite ?_ (pure true)
    exact bind (lift _) fun _ => bind (reject ..) fun _ => pure false
  · refine bind (lift _) fun precedes => ite ?_ (pure true)
    exact bind (lift _) fun _ => bind (reject ..) fun _ => pure false
  · refine bind (lift _) fun precedes => ite ?_ ?_
    · exact bind (rejectBetween ..) fun _ => pure false
    · refine bind (lift _) fun exceeds => ite ?_ (pure true)
      exact bind (rejectBetween ..) fun _ => pure false

section Key

variable
  {key : Value}
  (keyOwned : owned key)

include keyOwned

theorem integerRange
    (environment : Environment)
    (submitted lower upper : Value) :
    Reads owned (Check.integerRange environment submitted key lower upper) := by
  unfold Check.integerRange
  refine bind (integer ..) fun _ => ?_
  refine bind (hasErrors keyOwned) fun failed => ite (pure ()) ?_
  refine bind (value keyOwned) fun number => ?_
  exact bind (withinBounds ..) fun inside => ite (setValue ..) (pure ())

theorem clampedRange
    (environment : Environment)
    (submitted lower upper : Value)
    (least greatest : Int) :
    Reads owned
      (Check.clampedRange environment submitted key lower upper least greatest) := by
  unfold Check.clampedRange
  refine bind (lift _) fun lower => bind (lift _) fun upper => ?_
  exact integerRange keyOwned ..

theorem year
    (environment : Environment)
    (submitted lower upper : Value) :
    Reads owned (Check.year environment submitted key lower upper) := by
  unfold Check.year
  have continued
      (upper : Value) :
      Reads owned (do
        let least ← (Value.int earliestYear).greaterOf
          (lower.orDefault environment.settings.minimalYear)
        Check.integerRange environment submitted key least upper) :=
    bind (lift _) fun least => integerRange keyOwned ..
  dsimp only
  split
  · exact bind (lift _) continued
  · exact bind (pure _) continued

end Key

/-! ## Dates -/

theorem anyPartFailed
    {parts : List String}
    (partsOwned :
      ∀ part ∈ parts, owned (.text (field ++ "_" ++ part))) :
    Reads owned (Check.anyPartFailed (.text field) parts) := by
  induction parts with
  | nil =>
      exact pure false
  | cons part rest inductionHypothesis =>
      rw [List.forall_mem_cons] at partsOwned
      unfold Check.anyPartFailed
      refine bind_partKey (bind (hasErrors partsOwned.1) fun failed => ?_)
      exact ite (pure true) (inductionHypothesis partsOwned.2)

theorem partInteger
    {part : String}
    (partOwned : owned (.text (field ++ "_" ++ part))) :
    Reads owned (Check.partInteger (.text field) part) := by
  unfold Check.partInteger
  refine bind_partKey (bind (value partOwned) fun stored => ?_)
  split
  · exact pure _
  · exact stop _

theorem storeMoment
    (key : Value)
    (moment : Moment)
    (components : Value) :
    Reads owned (Check.storeMoment key moment components) := by
  unfold Check.storeMoment
  refine bind (setValue ..) fun _ => bind (lift _) fun timestampKey => ?_
  refine bind (setValue ..) fun _ => bind (lift _) fun componentsKey => ?_
  exact setValue ..

theorem composeMoment
    (key : Value)
    (year month day : Int)
    (momentOf : Date → Moment)
    (components : List (String × Int)) :
    Reads owned
      (Check.composeMoment key year month day momentOf components) := by
  unfold Check.composeMoment
  dsimp only
  refine ite (bind (stop _) fun _ => ?_) ?_
  all_goals
    split
    · exact storeMoment ..
    · refine bind (lift _) fun yearText => bind (lift _) fun monthText => ?_
      exact bind (lift _) fun dayText => reject ..

theorem dateComponents
    (partsOwned :
      ∀ part ∈ ["year", "month", "day"],
        owned (.text (field ++ "_" ++ part)))
    (environment : Environment)
    (yearValue monthValue dayValue : Value) :
    Reads owned
      (Check.dateComponents environment yearValue monthValue dayValue
        (.text field)) := by
  simp only [List.forall_mem_cons] at partsOwned
  obtain ⟨yearOwned, monthOwned, dayOwned, _⟩ := partsOwned
  unfold Check.dateComponents
  refine bind_partKey (bind (year yearOwned ..) fun _ => ?_)
  refine bind_partKey (bind (clampedRange monthOwned ..) fun _ => ?_)
  exact bind_partKey (clampedRange dayOwned ..)

theorem fullDate
    (partsOwned :
      ∀ part ∈ ["year", "month", "day"],
        owned (.text (field ++ "_" ++ part)))
    (environment : Environment)
    (yearValue monthValue dayValue : Value) :
    Reads owned
      (Check.fullDate environment yearValue monthValue dayValue
        (.text field)) := by
  unfold Check.fullDate
  refine bind (dateComponents partsOwned ..) fun _ => ?_
  refine bind (anyPartFailed partsOwned) fun failed => ite (pure ()) ?_
  simp only [List.forall_mem_cons] at partsOwned
  obtain ⟨yearOwned, monthOwned, dayOwned, _⟩ := partsOwned
  refine bind (partInteger yearOwned) fun year => ?_
  refine bind (partInteger monthOwned) fun month => ?_
  refine bind (partInteger dayOwned) fun day => ?_
  exact composeMoment ..

theorem fullDateTime
    (partsOwned :
      ∀ part ∈ ["year", "month", "day", "hour", "minute", "second"],
        owned (.text (field ++ "_" ++ part)))
    (environment : Environment)
    (yearValue monthValue dayValue hourValue minuteValue secondValue :
      Value) :
    Reads owned
      (Check.fullDateTime environment yearValue monthValue dayValue
        hourValue minuteValue secondValue (.text field)) := by
  have someFailed := anyPartFailed partsOwned
  simp only [List.forall_mem_cons] at partsOwned
  obtain ⟨yearOwned, monthOwned, dayOwned, hourOwned, minuteOwned,
    secondOwned, none⟩ := partsOwned
  have dateOwned :
      ∀ part ∈ ["year", "month", "day"],
        owned (.text (field ++ "_" ++ part)) := by
    simp only [List.forall_mem_cons]
    exact ⟨yearOwned, monthOwned, dayOwned, none⟩
  unfold Check.fullDateTime
  refine bind (dateComponents dateOwned ..) fun _ => ?_
  refine bind_partKey (bind (clampedRange hourOwned ..) fun _ => ?_)
  refine bind_partKey (bind (clampedRange minuteOwned ..) fun _ => ?_)
  refine bind_partKey (bind (clampedRange secondOwned ..) fun _ => ?_)
  refine bind someFailed fun failed => ite (pure ()) ?_
  refine bind (partInteger yearOwned) fun year => ?_
  refine bind (partInteger monthOwned) fun month => ?_
  refine bind (partInteger dayOwned) fun day => ?_
  refine bind (partInteger hourOwned) fun hour => ?_
  refine bind (partInteger minuteOwned) fun minute => ?_
  refine bind (partInteger secondOwned) fun second => ?_
  exact composeMoment ..

end Check.Reads

end FormCheck
