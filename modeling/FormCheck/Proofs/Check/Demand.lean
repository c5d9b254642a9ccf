import FormCheck.Proofs.Check.Decision.DateTime

namespace FormCheck.Check

/-!
# What checks demand

A check demands a condition if it answers on no result without it. A check in parts
demands what each of its parts does. So every check that reads an integer demands
that it fits into the memory, whatever the result shows and whatever else is wrong.
-/

/-- A check demands a condition if it never answers without it. -/
structure Demands
    (condition : Prop)
    (check : Check answer) : Prop where
  holds :
    ∀ (result : Result) (value : answer),
      (check result).ended = .ok value → condition

namespace Demands

variable
  {condition other : Prop}
  {environment : Environment}
  {submitted : Value}

/-! ## The parts of a check -/

/-- A check in two parts demands what its first part does. -/
theorem first
    {leading : Check middle}
    (demands : Demands condition leading)
    (continuation : middle → Check answer) :
    Demands condition (leading >>= continuation) := by
  constructor
  intro result value answered
  obtain ⟨reached, isReached, _⟩ :=
    Journal.ended_bind_eq_ok_iff.mp answered
  exact demands.holds result reached isReached

/-- A check in two parts demands what its second part does in any case. -/
theorem last
    {leading : Check middle}
    {continuation : middle → Check answer}
    (demands : ∀ reached, Demands condition (continuation reached)) :
    Demands condition (leading >>= continuation) := by
  constructor
  intro result value answered
  obtain ⟨reached, _, isAnswered⟩ :=
    Journal.ended_bind_eq_ok_iff.mp answered
  exact (demands reached).holds _ value isAnswered

/-- A check demands a condition and another one if it demands each. -/
theorem and
    {check : Check answer}
    (demands : Demands condition check)
    (demandsToo : Demands other check) :
    Demands (condition ∧ other) check where
  holds result value answered :=
    ⟨demands.holds result value answered,
      demandsToo.holds result value answered⟩

/-- A check that demands a condition demands what follows from it. -/
theorem imp
    {check : Check answer}
    (demands : Demands condition check)
    (implies : condition → other) :
    Demands other check where
  holds result value answered :=
    implies (demands.holds result value answered)

/-- What an integer is read from has to fit into the memory. -/
theorem readInteger
    (memory : Memory)
    (continuation : Option Int → Check answer) :
    Demands (submitted.FitsInto memory)
      ((liftM (submitted.readInteger memory) : Check (Option Int)) >>=
        continuation) := by
  constructor
  intro result value answered
  by_contra isLong
  rw [Value.readInteger_of_not_fitsInto isLong] at answered
  cases answered

/-! ## Numbers -/

theorem integer
    (key : Value) :
    Demands (submitted.FitsInto environment.memory)
      (Check.integer environment submitted key) := by
  unfold Check.integer
  exact readInteger ..

theorem integerRange
    (key lower upper : Value) :
    Demands (submitted.FitsInto environment.memory)
      (Check.integerRange environment submitted key lower upper) := by
  unfold Check.integerRange
  exact first (integer key) _

theorem numberInRange
    (key lower upper message : Value) :
    Demands (submitted.FitsInto environment.memory)
      (Check.numberInRange environment submitted key lower upper message) := by
  unfold Check.numberInRange
  exact readInteger ..

theorem clampedRange
    (key lower upper : Value)
    (least greatest : Int) :
    Demands (submitted.FitsInto environment.memory)
      (Check.clampedRange environment submitted key lower upper least
        greatest) := by
  unfold Check.clampedRange
  exact last fun lower => last fun upper => integerRange key lower upper

theorem integerOption
    (key : Value)
    (allowed : List Int) :
    Demands (submitted.FitsInto environment.memory)
      (Check.integerOption environment submitted key allowed) := by
  unfold Check.integerOption
  exact readInteger ..

/-! ## Dates -/

theorem year
    (key lower upper : Value) :
    Demands (submitted.FitsInto environment.memory)
      (Check.year environment submitted key lower upper) := by
  unfold Check.year
  dsimp only
  split
  · exact last fun upper => last fun least => integerRange key least upper
  · exact last fun upper => last fun least => integerRange key least upper

theorem dateComponents
    (inputs : DateInputs)
    (key : Value) :
    Demands (inputs.FitInto environment.memory)
      (Check.dateComponents environment inputs.year inputs.month inputs.day
        key) := by
  unfold Check.dateComponents
  refine imp (and (last fun yearKey => first (year yearKey ..) _)
    (last fun _ => last fun _ => and
      (last fun monthKey => first (clampedRange monthKey ..) _)
      (last fun _ => last fun _ => last fun dayKey =>
        clampedRange dayKey ..))) ?_
  exact fun ⟨year, month, day⟩ => ⟨year, month, day⟩

theorem fullDate
    (inputs : DateInputs)
    (key : Value) :
    Demands (inputs.FitInto environment.memory)
      (Check.fullDate environment inputs.year inputs.month inputs.day key) := by
  unfold Check.fullDate
  exact first (dateComponents inputs key) _

theorem fullDateTime
    (inputs : DateInputs)
    (time : TimeInputs)
    (key : Value) :
    Demands
      (inputs.FitInto environment.memory ∧ time.FitInto environment.memory)
      (Check.fullDateTime environment inputs.year inputs.month inputs.day
        time.hour time.minute time.second key) := by
  unfold Check.fullDateTime
  refine and (first (dateComponents inputs key) _) ?_
  refine last fun _ => ?_
  refine imp (and (last fun hourKey => first (clampedRange hourKey ..) _)
    (last fun _ => last fun _ => and
      (last fun minuteKey => first (clampedRange minuteKey ..) _)
      (last fun _ => last fun _ => last fun secondKey =>
        first (clampedRange secondKey ..) _))) ?_
  exact fun ⟨hour, minute, second⟩ => ⟨hour, minute, second⟩

theorem dateRange
    (start finish : DateInputs)
    (key : Value) :
    Demands
      (start.FitInto environment.memory ∧ finish.FitInto environment.memory)
      (Check.dateRange environment start.year start.month start.day
        finish.year finish.month finish.day key) := by
  unfold Check.dateRange
  refine and (last fun startKey => first (fullDate start startKey) _) ?_
  exact last fun _ => last fun _ => last fun endKey =>
    first (fullDate finish endKey) _

end Demands

end FormCheck.Check
