import FormCheck.Run

namespace FormCheck

/-!
# Opening computations in two parts

A computation in two parts answers exactly if both parts do, and it has written
what the two parts wrote, in order. The same holds of checks and of runs, whose
second part starts from the result that the first one left.
-/

/-- A computation that writes nothing answers in two parts if both parts do. -/
theorem Except.bind_eq_ok_iff
    {leading : Except Fault first}
    {continuation : first → Except Fault second}
    {answer : second} :
    leading >>= continuation = .ok answer ↔
      ∃ value, leading = .ok value ∧ continuation value = .ok answer := by
  cases leading with
  | error fault =>
      simp [bind, Except.bind]
  | ok value =>
      simp [bind, Except.bind]

/-- A computation that writes nothing stops with one of its two parts. -/
theorem Except.bind_eq_error_iff
    {leading : Except Fault first}
    {continuation : first → Except Fault second}
    {fault : Fault} :
    leading >>= continuation = .error fault ↔
      leading = .error fault ∨
        ∃ value, leading = .ok value ∧ continuation value = .error fault := by
  cases leading with
  | error other =>
      simp [bind, Except.bind]
  | ok value =>
      simp [bind, Except.bind]

namespace Journal

/-- A computation in two parts answers exactly if both parts do. -/
theorem bind_eq_ok_iff
    {leading : Journal entry first}
    {continuation : first → Journal entry second}
    {written : List entry}
    {answer : second} :
    leading >>= continuation = ⟨written, .ok answer⟩ ↔
      ∃ early value late,
        leading = ⟨early, .ok value⟩ ∧
          continuation value = ⟨late, .ok answer⟩ ∧
          written = early ++ late := by
  rcases leading with ⟨early, ended⟩
  cases ended with
  | error fault =>
      simp [bind, andThen]
  | ok value =>
      simp only [bind, andThen, mk.injEq, Except.ok.injEq]
      constructor
      · rintro ⟨rfl, answered⟩
        exact ⟨early, value, (continuation value).written, ⟨rfl, rfl⟩,
          by rw [← answered], rfl⟩
      · rintro ⟨early, value, late, ⟨rfl, rfl⟩, continued, rfl⟩
        simp [continued]

/-- A computation in two parts ends as its parts do, whatever they write. -/
theorem ended_bind
    (leading : Journal entry first)
    (continuation : first → Journal entry second) :
    (leading >>= continuation).ended =
      leading.ended >>= fun value => (continuation value).ended := by
  rcases leading with ⟨early, ended⟩
  cases ended <;> rfl

/-- A computation in two parts answers with what its second part answers. -/
theorem ended_bind_eq_ok_iff
    {leading : Journal entry first}
    {continuation : first → Journal entry second}
    {answer : second} :
    (leading >>= continuation).ended = .ok answer ↔
      ∃ value,
        leading.ended = .ok value ∧
          (continuation value).ended = .ok answer := by
  rcases leading with ⟨early, ended⟩
  cases ended with
  | error fault =>
      simp [bind, andThen]
  | ok value =>
      simp [bind, andThen]

/-- A computation in two parts stops if its first part does, or else its second. -/
theorem ended_bind_eq_error_iff
    {leading : Journal entry first}
    {continuation : first → Journal entry second}
    {fault : Fault} :
    (leading >>= continuation).ended = .error fault ↔
      leading.ended = .error fault ∨
        ∃ value,
          leading.ended = .ok value ∧
            (continuation value).ended = .error fault := by
  rcases leading with ⟨early, ended⟩
  cases ended with
  | error first =>
      simp [bind, andThen]
  | ok value =>
      simp [bind, andThen]

/-- What a computation in two parts writes begins with what its first part does. -/
theorem written_bind
    (leading : Journal entry first)
    (continuation : first → Journal entry second) :
    (leading >>= continuation).written =
      leading.written ++
        match leading.ended with
        | .ok value => (continuation value).written
        | .error _ => [] := by
  rcases leading with ⟨early, ended⟩
  cases ended <;> simp [bind, andThen]

/-- Whether a computation answers, and with an answer that passes a test. -/
def answersWith
    (test : answer → Bool)
    (journal : Journal entry answer) : Bool :=
  match journal.ended with
  | .ok value => test value
  | .error _ => false

/-- A computation found to answer has an answer. -/
theorem exists_of_answersWith
    {test : answer → Bool}
    {journal : Journal entry answer}
    (answers : journal.answersWith test = true) :
    ∃ value, journal.ended = .ok value ∧ test value = true := by
  unfold answersWith at answers
  split at answers
  case h_1 value ended =>
    exact ⟨value, ended, answers⟩
  case h_2 =>
    cases answers

end Journal

end FormCheck
