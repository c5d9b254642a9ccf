import FormCheck.Log

namespace FormCheck

/-!
# Journals

A computation that writes entries as it goes keeps what it wrote even when a
fault stops it. A journal holds the entries in the order of writing and the way
the computation ended.
-/

/-- What a computation wrote, and its answer or the fault that stopped it. -/
structure Journal (entry : Type) (answer : Type) where
  written : List entry
  ended : Except Fault answer

namespace Journal

/-- Write nothing and give an answer. -/
def ofAnswer (value : answer) : Journal entry answer :=
  ⟨[], .ok value⟩

/-- Write nothing and end as a plain computation ended. -/
def ofExcept (ended : Except Fault answer) : Journal entry answer :=
  ⟨[], ended⟩

/-- Write nothing and stop. -/
def stop (fault : Fault) : Journal entry answer :=
  ⟨[], .error fault⟩

/-- Write one entry. -/
def write (item : entry) : Journal entry Unit :=
  ⟨[item], .ok ()⟩

/-- Continue a computation with its answer, unless a fault stopped it. -/
def andThen (leading : Journal entry first)
    (continuation : first → Journal entry second) : Journal entry second :=
  match leading.ended with
  | .ok value =>
      let later := continuation value
      ⟨leading.written ++ later.written, later.ended⟩
  | .error fault => ⟨leading.written, .error fault⟩

/-- The same journal with each entry seen as one of another kind. -/
def mapEntries (view : entry → other) (journal : Journal entry answer) :
    Journal other answer :=
  ⟨journal.written.map view, journal.ended⟩

instance : Monad (Journal entry) where
  pure := ofAnswer
  bind := andThen

instance : MonadLift (Except Fault) (Journal entry) where
  monadLift := ofExcept

@[simp] theorem written_pure (value : answer) :
    (pure value : Journal entry answer).written = [] :=
  rfl

@[simp] theorem ended_pure (value : answer) :
    (pure value : Journal entry answer).ended = .ok value :=
  rfl

/-- After an answer, the entries of both parts follow each other. -/
theorem bind_of_ok {leading : Journal entry first} {value : first}
    (answered : leading.ended = .ok value)
    (continuation : first → Journal entry second) :
    leading >>= continuation =
      ⟨leading.written ++ (continuation value).written,
        (continuation value).ended⟩ := by
  simp [bind, andThen, answered]

/-- After a fault nothing more is written. -/
theorem bind_of_error {leading : Journal entry first} {fault : Fault}
    (stopped : leading.ended = .error fault)
    (continuation : first → Journal entry second) :
    leading >>= continuation = ⟨leading.written, .error fault⟩ := by
  simp [bind, andThen, stopped]

end Journal

/-- A computation that logs. -/
abbrev Logged := Journal Log.Record

end FormCheck
