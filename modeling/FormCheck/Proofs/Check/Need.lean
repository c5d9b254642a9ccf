import FormCheck.Proofs.Check.Demand
import FormCheck.Proofs.Check.Refusing

namespace FormCheck.Check

/-!
# What checks need on a fresh result

What a check reads may keep it from parts of its own: a year is compared with its
bounds only if nothing was said about it before. So behind some rulings a check needs
a condition if it answers on no fresh result without it. A date needs three things:
room for its components, a message about its year that can be written, and a year
that the calendar can look at.
-/

/--
A check needs a condition if it does not answer without it on a result fresh for a
field, behind some earlier rulings.
-/
structure Needs
    (field : String)
    (earlier : List Ruling)
    (condition : Prop)
    (check : Check answer) : Prop where
  holds :
    ∀ {start : Result} {entries : List Entry} {value : answer},
      start.FreshFor field →
      Ruling.Spell entries earlier →
      (check (start.extend entries)).ended = .ok value →
      condition

/-- What a check demands of any result it needs on a fresh one. -/
theorem Demands.needs
    {condition : Prop}
    {check : Check answer}
    (demands : Demands condition check)
    (field : String)
    (earlier : List Ruling) :
    Needs field earlier condition check where
  holds _ _ answered := demands.holds _ _ answered

namespace Needs

variable
  {field : String}
  {earlier gained : List Ruling}
  {condition other : Prop}

/-! ## The parts of a check -/

/-- A check in two parts needs what its first part does. -/
theorem first
    {leading : Check middle}
    (needs : Needs field earlier condition leading)
    (continuation : middle → Check answer) :
    Needs field earlier condition (leading >>= continuation) where
  holds fresh spell answered := by
    obtain ⟨_, isReached, _⟩ := Journal.ended_bind_eq_ok_iff.mp answered
    exact needs.holds fresh spell isReached

/-- A check in two parts needs what its second part does behind the first. -/
theorem behind
    {leading : Check middle}
    {continuation : middle → Check answer}
    {reached : middle}
    (rules : Rules field earlier leading reached gained)
    (needs :
      Needs field (earlier ++ gained) condition (continuation reached)) :
    Needs field earlier condition (leading >>= continuation) where
  holds fresh spell answered := by
    obtain ⟨early, ruled, spellEarly⟩ := rules.spells fresh spell
    rw [bind_of_ok ruled, Result.extend_extend] at answered
    exact needs.holds fresh (spell.append spellEarly) answered

/-- What is read on the way changes nothing about what a check needs. -/
theorem behind_silent
    {leading : Check middle}
    {continuation : middle → Check answer}
    {reached : middle}
    (rules : Rules field earlier leading reached [])
    (needs : Needs field earlier condition (continuation reached)) :
    Needs field earlier condition (leading >>= continuation) := by
  rw [← List.append_nil earlier] at needs
  exact behind rules needs

/-- A check goes on with what is computed without a result. -/
theorem bind_lift
    {computation : Except Fault middle}
    {continuation : middle → Check answer}
    {reached : middle}
    (computed : computation = .ok reached)
    (needs : Needs field earlier condition (continuation reached)) :
    Needs field earlier condition
      ((liftM computation : Check middle) >>= continuation) := by
  rwa [computed, lift_ok_bind]

/-- A check that first makes the key of a part continues with that key. -/
theorem bind_partKey
    {owner part : String}
    {continuation : Value → Check answer}
    (needs :
      Needs field earlier condition
        (continuation (.text (owner ++ "_" ++ part)))) :
    Needs field earlier condition
      ((liftM (partKey (.text owner) part) : Check Value) >>=
        continuation) :=
  bind_lift (partKey_text ..) needs

/-- A check of a part of a field needs behind other rulings what it does alone. -/
theorem of_part
    {part : String}
    {check : Check answer}
    (needs : Needs (field ++ "_" ++ part) [] condition check)
    (foreign :
      ∀ ruling ∈ earlier,
        ¬(Value.text ruling.key).BelongsTo (field ++ "_" ++ part)) :
    Needs field earlier condition check where
  holds fresh spell answered := by
    have freshThen := (fresh.of_part part).extend spell foreign
    rw [← Result.extend_nil (Result.extend _ _)] at answered
    exact needs.holds freshThen .nil answered

/-- A check needs two conditions if it needs the second under the first. -/
theorem and
    {check : Check answer}
    (needs : Needs field earlier condition check)
    (needsThen : condition → Needs field earlier other check) :
    Needs field earlier (condition ∧ other) check where
  holds fresh spell answered := by
    have met := needs.holds fresh spell answered
    exact ⟨met, (needsThen met).holds fresh spell answered⟩

/-! ## Years -/

variable
  {environment : Environment}
  {submitted : Value}

/-- An integer between two bounds has to be one of them, or the bounds be named. -/
theorem integerRange
    (fits : submitted.FitsInto environment.memory)
    (least greatest : Int) :
    Needs field []
      (submitted.IsAnswerable (some least) (some greatest))
      (Check.integerRange environment submitted (.text field) (.int least)
        (.int greatest)) where
  holds := by
    intro start entries value fresh spell answered number isInteger notWithin
    by_contra unnamed
    cases spell
    have outside : ¬(least ≤ number ∧ number ≤ greatest) := by
      simpa [IsWithin] using notWithin
    have unwritable :
        ¬(Number.isWritable least = true ∧
          Number.isWritable greatest = true) := by
      rintro ⟨leastWritable, greatestWritable⟩
      exact unnamed ⟨.some leastWritable, .some greatestWritable⟩
    have clean : (start.extend []).hasErrorsAt (.text field) = false := by
      rw [Result.extend_nil]
      exact fresh.clean _ (.self field)
    obtain ⟨stored, _, ends⟩ :=
      (Refuses.integerRange fits isInteger outside clean
        (Ruling.part_ne field "").symm).ends
    rw [Refuses.boundsFault_of_unwritable unwritable] at ends
    rw [ends] at answered
    cases answered

/-- A year has to lie between its bounds, or the bounds to be named. -/
theorem year
    {lower upper : Value}
    {earliest latest : Int}
    (years : environment.BoundsYears lower upper earliest latest)
    (fits : submitted.FitsInto environment.memory) :
    Needs field [] (submitted.IsAnswerable (some earliest) (some latest))
      (Check.year environment submitted (.text field) lower upper) := by
  obtain ⟨least, isLeast, rfl⟩ := years.lowest
  have compared :
      Needs field []
        (submitted.IsAnswerable (some (max Check.earliestYear least))
          (some latest))
        (do
          let least ← (Value.int Check.earliestYear).greaterOf
            (lower.orDefault environment.settings.minimalYear)
          Check.integerRange environment submitted (.text field) least
            (.int latest)) := by
    rw [isLeast]
    exact bind_lift (Value.greaterOf_int ..) (integerRange fits ..)
  unfold Check.year
  rcases years.highest with rfl | ⟨rfl, isLatest⟩
  · exact behind_silent (.pure _) compared
  · exact bind_lift isLatest compared

/-! ## Dates -/

variable
  {earliest latest : Int}
  (years : environment.BoundsYears .null .null earliest latest)

include years

/-- The components of a date have to fit, and the year to be answerable. -/
theorem dateComponents
    (inputs : DateInputs) :
    Needs field []
      (inputs.FitInto environment.memory ∧
        inputs.year.IsAnswerable (some earliest) (some latest))
      (Check.dateComponents environment inputs.year inputs.month inputs.day
        (.text field)) := by
  refine and ((Demands.dateComponents inputs _).needs field []) fun fit => ?_
  unfold Check.dateComponents
  refine bind_partKey (first ?_ _)
  exact of_part (year years fit.year) (List.forall_mem_nil _)

omit years in
/-- The year of a moment has to be one that the calendar can look at. -/
theorem composeMoment
    (year month day : Int)
    (momentOf : Date → Moment)
    (components : List (String × Int)) :
    Needs field earlier (year < Check.yearOverflow)
      (Check.composeMoment (.text field) year month day momentOf
        components) where
  holds _ _ answered := by
    by_contra isLarge
    unfold Check.composeMoment at answered
    rw [if_pos (Int.not_lt.mp isLarge)] at answered
    cases answered

/-- A date has to be bearable. -/
theorem fullDate
    (inputs : DateInputs) :
    Needs field [] (inputs.AreBearable environment.memory earliest latest)
      (Check.fullDate environment inputs.year inputs.month inputs.day
        (.text field)) := by
  constructor
  intro start entries value fresh spell answered
  have spoken :
      inputs.FitInto environment.memory ∧
        inputs.year.IsAnswerable (some earliest) (some latest) :=
    (first (dateComponents years inputs) _).holds fresh spell answered
  refine ⟨spoken.1, spoken.2, ?_⟩
  rintro ⟨year, month, day, found, isLarge⟩
  have distinct : ["year", "month", "day"].Nodup := by
    decide
  have needs :
      Needs field [] (year < Check.yearOverflow)
        (Check.fullDate environment inputs.year inputs.month inputs.day
          (.text field)) := by
    unfold Check.fullDate
    refine behind (Rules.dateComponents years spoken.1 spoken.2) ?_
    refine behind_silent (Rules.anyPartFailed _) ?_
    rw [List.nil_append, Ruling.any_failsAt_dateComponents, found,
      Ruling.dateComponents_of_some found]
    refine behind_silent (Rules.acceptedPart distinct (.head _)) ?_
    refine behind_silent
      (Rules.acceptedPart distinct (.tail _ (.head _))) ?_
    refine behind_silent
      (Rules.acceptedPart distinct (.tail _ (.tail _ (.head _)))) ?_
    exact composeMoment ..
  exact Int.not_lt.mpr isLarge (needs.holds fresh spell answered)

/-- Both dates of a range have to be bearable. -/
theorem dateRange
    (start finish : DateInputs) :
    Needs field []
      (start.AreBearable environment.memory earliest latest ∧
        finish.AreBearable environment.memory earliest latest)
      (Check.dateRange environment start.year start.month start.day
        finish.year finish.month finish.day (.text field)) := by
  have startNeeds :
      Needs field [] _
        (Check.fullDate environment start.year start.month start.day
          (.text (field ++ "_" ++ "start"))) :=
    of_part (fullDate years start) (List.forall_mem_nil _)
  unfold Check.dateRange
  refine and (bind_partKey (first startNeeds _)) fun startBearable => ?_
  refine bind_partKey (behind
    (.of_part (.fullDate years startBearable) (List.forall_mem_nil _)) ?_)
  refine bind_partKey (first (of_part (fullDate years finish) ?_) _)
  intro ruling member
  exact (Ruling.belongsTo_of_mem_fullDate member).not_of_apart (by decide)
    (by decide)

end Needs

end FormCheck.Check
