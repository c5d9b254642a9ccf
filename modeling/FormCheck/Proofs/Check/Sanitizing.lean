import FormCheck.Proofs.Check.Passing
import FormCheck.Proofs.Check.Writing

namespace FormCheck

/-!
# Sanitizing

A check sanitizes what was submitted if, on an empty result, it records no message
and leaves a value under its field. What it leaves should be in the form that the
check wants: submitted in its turn, it is left as it is. Most checks see only one
view of what is submitted, and a value with the same view is checked just like it.
-/

/--
An entry keeps a value if it is the only one that the entry may store under the
key.
-/
def Entry.Keeps
    (key kept : Value)
    (entry : Entry) : Prop :=
  ∀ stored, entry.valueAt? key = some stored → stored = kept

namespace Entry

variable
  {field : String}
  {kept : Value}

/-- The value itself is kept. -/
theorem keeps_value
    (key kept : Value) :
    (Entry.value key kept).Keeps key kept := by
  intro stored shows
  simp only [valueAt?, Option.ite_none_right_eq_some,
    Option.some.injEq] at shows
  exact shows.2.symm

/-- A message stores nothing. -/
theorem keeps_error
    (key kept own message : Value) :
    (Entry.error own message).Keeps key kept :=
  nofun

/-- Under another key, whatever is stored keeps a value. -/
theorem keeps_of_ne
    {entry : Entry}
    (differs : entry.key ≠ .text field) :
    entry.Keeps (.text field) kept := by
  intro stored shows
  rw [valueAt?_eq_none differs] at shows
  cases shows

/-- Under the key of a part, all entries keep a value of the field. -/
theorem admits_part
    (field part : String)
    (kept : Value) :
    Admits (Keeps (.text field) kept) (.text (field ++ "_" ++ part)) := by
  have differs : Value.text (field ++ "_" ++ part) ≠ .text field :=
    fun same => Value.BelongsTo.ne_of_part (.self _) (Value.text.inj same)
  exact ⟨fun _ => keeps_of_ne differs, fun _ => keeps_of_ne differs⟩

end Entry

/-- Entries that keep the value of a field leave it or nothing new there. -/
theorem Result.value?_extend_of_keeps
    {field : String}
    {kept : Value}
    {entries : List Entry}
    (keep : ∀ entry ∈ entries, entry.Keeps (.text field) kept)
    (result : Result) :
    (result.extend entries).value? (.text field) = some kept ∨
      (result.extend entries).value? (.text field) =
        result.value? (.text field) := by
  rw [value?_extend]
  cases last :
      (entries.filterMap (Entry.valueAt? (.text field))).getLast? with
  | none =>
      exact .inr rfl
  | some stored =>
      obtain ⟨entry, member, shows⟩ :=
        List.mem_filterMap.mp (List.mem_of_getLast? last)
      rw [keep entry member stored shows]
      exact .inl rfl

namespace Check

namespace Writes

variable
  {key kept : Value}

/-- Storing the value itself keeps it. -/
theorem setValue_self :
    Writes (Entry.Keeps key kept) (Check.setValue key kept) :=
  record (Entry.keeps_value key kept)

/-- A message keeps any value. -/
theorem reject_keeps
    (own : Value)
    (message : String) :
    Writes (Entry.Keeps key kept) (Check.reject own message) :=
  record (Entry.keeps_error _ _ own _)

/-- A message is all that is written with it. -/
theorem addError_isError
    (own message : Value) :
    Writes (Entry.isError · = true) (Check.addError own message) where
  isAllowed := by
    have isMessage : Entry.isError (.error own message) = true := rfl
    exact (record isMessage).isAllowed

end Writes

/--
A check sanitizes to a value of a field if on the empty result it records no
message and leaves the value there, whether it answers or not.
-/
structure Sanitizes
    (check : Check Unit)
    (field : String)
    (stored : Value) : Prop where
  quiet : Entry.AreQuiet (check .empty).written
  stores : (check.after .empty).value? (.text field) = some stored

/-- A check that accepts a value sanitizes to it. -/
theorem Accepts.sanitizes
    {check : Check Unit}
    {field : String}
    {value : Value}
    (accepts : check.Accepts .empty field value) :
    check.Sanitizes field value where
  quiet := accepts.quiet
  stores := accepts.stores

namespace Sanitizes

variable
  {field : String}
  {stored kept : Value}
  {check : Check Unit}

/-- What a check does on the empty result is all that counts. -/
theorem of_eq
    {other : Check Unit}
    (sanitizes : check.Sanitizes field stored)
    (same : check .empty = other .empty) :
    other.Sanitizes field stored where
  quiet := same ▸ sanitizes.quiet
  stores := by
    rw [after, ← same]
    exact sanitizes.stores

/-- A check that keeps a value sanitizes to no other. -/
theorem eq_of_writes
    (sanitizes : check.Sanitizes field stored)
    (writes : check.Writes (Entry.Keeps (.text field) kept)) :
    stored = kept := by
  have left := sanitizes.stores
  rcases Result.value?_extend_of_keeps (writes.isAllowed .empty) .empty with
    same | nothing
  · exact Option.some.inj (left.symm.trans same)
  · cases left.symm.trans nothing

/-- A check that writes nothing but messages does not sanitize. -/
theorem false_of_messages
    (sanitizes : check.Sanitizes field stored)
    (writes : check.Writes (Entry.isError · = true)) :
    False := by
  have holds : (check.after .empty).hasValue (.text field) = true := by
    rw [Result.hasValue, sanitizes.stores]
    rfl
  obtain ⟨value, member⟩ := Result.hasValue_text_iff.mp holds
  cases writes.isAllowed .empty _ member

/-- What is sanitized was not refused by a first part that only refuses. -/
theorem exists_of_messages
    {leading : Check middle}
    {continuation : middle → Check Unit}
    (sanitizes : (leading >>= continuation).Sanitizes field stored)
    (writes : leading.Writes (Entry.isError · = true)) :
    ∃ value,
      leading .empty = ⟨[], .ok value⟩ ∧
        (continuation value).Sanitizes field stored := by
  have messages := writes.isAllowed .empty
  cases reached : leading .empty with
  | mk written ended =>
      rw [reached] at messages
      cases ended with
      | error fault =>
          have stops :
              Sanitizes (fun _ => ⟨written, .error fault⟩) field stored :=
            sanitizes.of_eq (bind_of_error reached _)
          exact (stops.false_of_messages ⟨fun _ => messages⟩).elim
      | ok value =>
          have answers := bind_of_ok reached continuation
          have isQuiet := sanitizes.quiet
          rw [answers, Entry.areQuiet_append_iff] at isQuiet
          have isSilent : written = [] :=
            List.eq_nil_iff_forall_not_mem.mpr fun entry member =>
              Bool.false_ne_true
                ((isQuiet.1 entry member).symm.trans (messages entry member))
          subst isSilent
          refine ⟨value, rfl, sanitizes.of_eq ?_⟩
          rw [answers, List.nil_append, Result.extend_nil]

/-- What is sanitized was computed first. -/
theorem exists_of_lift
    {computation : Except Fault middle}
    {continuation : middle → Check Unit}
    (sanitizes :
      ((liftM computation : Check middle) >>= continuation).Sanitizes field
        stored) :
    ∃ value,
      computation = .ok value ∧
        (continuation value).Sanitizes field stored := by
  obtain ⟨value, computed, continued⟩ := sanitizes.exists_of_messages (.lift _)
  cases computation with
  | ok _ =>
      cases computed
      exact ⟨value, rfl, continued⟩
  | error _ =>
      cases computed

/-- What is refused is not sanitized. -/
theorem false_of_reject
    {message : String}
    (sanitizes : (reject (.text field) message).Sanitizes field stored) :
    False :=
  sanitizes.false_of_messages (.addError_isError _ _)

/-- What is refused is not sanitized, whatever is done then. -/
theorem false_of_reject_bind
    {message : String}
    {continuation : Unit → Check Unit}
    (sanitizes :
      (reject (.text field) message >>= continuation).Sanitizes field
        stored) :
    False := by
  obtain ⟨_, written, _⟩ :=
    sanitizes.exists_of_messages (.addError_isError _ _)
  cases written

end Sanitizes

/-- Behind a value that is stored first, a check that needs no message goes on. -/
theorem setValue_unless_hasErrors
    (field : String)
    (first : Value)
    (continuation : Check Unit) :
    (do
        setValue (.text field) first
        unless ← hasErrors (.text field) do
          continuation) .empty =
      let later := continuation (Result.empty.setValue (.text field) first)
      ⟨.value (.text field) first :: later.written, later.ended⟩ := by
  have stored :
      setValue (.text field) first .empty =
        ⟨[.value (.text field) first], .ok ()⟩ :=
    rfl
  have looked :
      hasErrors (.text field)
          (Result.empty.extend [.value (.text field) first]) =
        ⟨[], .ok false⟩ :=
    rfl
  rw [bind_of_ok stored, bind_of_ok looked]
  rfl

/-- What was stored is the value of its field. -/
theorem value_setValue
    (field : String)
    (stored : Value)
    (result : Result) :
    Check.value (.text field) (result.setValue (.text field) stored) =
      ⟨[], .ok stored⟩ := by
  have holds :
      (result.setValue (.text field) stored).value (.text field) =
        stored := by
    simp [Result.setValue, Result.value, Result.value?_extend,
      Entry.valueAt?]
  rw [← congrArg (fun value => (⟨[], .ok value⟩ : Journal Entry Value)) holds]
  rfl

/-- What is done with a computed value may be done in two parts. -/
theorem lift_bind_assoc
    (computation : Except Fault found)
    (leading : found → Check middle)
    (continuation : middle → Check answer) :
    ((liftM computation : Check found) >>= leading) >>= continuation =
      (liftM computation : Check found) >>= fun value =>
        leading value >>= continuation := by
  cases computation with
  | ok value =>
      rw [lift_ok_bind, lift_ok_bind]
  | error fault =>
      rfl

/-! ## Keeping what was stored -/

/--
A check retains the value of a field if on every result that holds the value
there it stores nothing else there.
-/
structure Retains
    (field : String)
    (kept : Value)
    (check : Check answer) : Prop where
  keeps :
    ∀ result : Result,
      result.value? (.text field) = some kept →
        ∀ entry ∈ (check result).written, entry.Keeps (.text field) kept

namespace Retains

variable
  {field : String}
  {kept : Value}

/-- What only writes entries that keep a value retains it. -/
theorem of_writes
    {check : Check answer}
    (writes : check.Writes (Entry.Keeps (.text field) kept)) :
    Retains field kept check where
  keeps result _ := writes.isAllowed result

/-- A check in two parts retains a value if both parts do. -/
theorem bind
    {leading : Check middle}
    {continuation : middle → Check answer}
    (leadingRetains : Retains field kept leading)
    (continuationRetains :
      ∀ value, Retains field kept (continuation value)) :
    Retains field kept (leading >>= continuation) where
  keeps := by
    intro result holds entry member
    cases reached : leading result with
    | mk written ended =>
        have early := leadingRetains.keeps result holds
        rw [reached] at early
        cases ended with
        | error fault =>
            rw [bind_of_error reached] at member
            exact early entry member
        | ok value =>
            rw [bind_of_ok reached] at member
            have stillHolds :
                (result.extend written).value? (.text field) = some kept := by
              rcases Result.value?_extend_of_keeps early result with
                same | unchanged
              · exact same
              · rw [unchanged, holds]
            rcases List.mem_append.mp member with isEarly | isLate
            · exact early entry isEarly
            · exact (continuationRetains value).keeps _ stillHolds entry
                isLate

/-- Reading the field again gives the value that is retained. -/
theorem bind_value
    {continuation : Value → Check answer}
    (retains : Retains field kept (continuation kept)) :
    Retains field kept (Check.value (.text field) >>= continuation) where
  keeps := by
    intro result holds entry member
    have looked :
        Check.value (.text field) result = ⟨[], .ok kept⟩ := by
      change (⟨[], .ok (result.value (.text field))⟩ : Journal _ _) = _
      rw [Result.value, holds]
      rfl
    rw [bind_of_ok looked, List.nil_append, Result.extend_nil] at member
    exact retains.keeps result holds entry member

/-- A choice retains a value if both of its sides do. -/
theorem ite
    {condition : Prop}
    [Decidable condition]
    {positive negative : Check answer}
    (positiveRetains : Retains field kept positive)
    (negativeRetains : Retains field kept negative) :
    Retains field kept (if condition then positive else negative) := by
  split
  · exact positiveRetains
  · exact negativeRetains

/-- What is stored first and retained then is what is sanitized to. -/
theorem eq_of_sanitizes
    {continuation : Unit → Check Unit}
    {stored : Value}
    (retains : Retains field kept (continuation ()))
    (sanitizes :
      (setValue (.text field) kept >>= continuation).Sanitizes field
        stored) :
    stored = kept := by
  have first :
      setValue (.text field) kept .empty =
        ⟨[.value (.text field) kept], .ok ()⟩ :=
    rfl
  have holds :
      (Result.empty.extend [.value (.text field) kept]).value?
          (.text field) =
        some kept := by
    simp [Result.value?_extend, Entry.valueAt?]
  have left := sanitizes.stores
  rw [after, bind_of_ok first, ← Result.extend_extend] at left
  rcases Result.value?_extend_of_keeps (retains.keeps _ holds) _ with
    same | unchanged
  · exact Option.some.inj (left.symm.trans same)
  · rw [unchanged, holds] at left
    exact (Option.some.inj left).symm

end Retains

/-! ## Sanitizing twice -/

/--
A check is idempotent in a field if what it sanitizes to is sanitized to itself,
and the check ends in the same way both times.
-/
def Idempotent
    (field : String)
    (check : Value → Check Unit) : Prop :=
  ∀ value stored,
    (check value).Sanitizes field stored →
      (check stored).Sanitizes field stored ∧
        (check stored .empty).ended = (check value .empty).ended

namespace Idempotent

variable
  {field : String}
  {check : Value → Check Unit}

/-- A check that treats what it stores like what was submitted is idempotent. -/
theorem of_eq
    (same :
      ∀ value stored,
        (check value).Sanitizes field stored → check stored = check value) :
    Idempotent field check := by
  intro value stored sanitizes
  rw [same value stored sanitizes]
  exact ⟨sanitizes, rfl⟩

/--
A check that replaces what is submitted by a form of its text is idempotent if it
stores that form.
-/
theorem of_text
    (form : String → String)
    (isRead :
      ∀ value,
        check value =
          (liftM value.asText : Check String) >>= fun text =>
            check (.text (form text)))
    (keepsForm :
      ∀ text stored,
        (check (.text (form text))).Sanitizes field stored →
          stored = .text (form text)) :
    Idempotent field check := by
  refine of_eq fun value stored sanitizes => ?_
  rw [isRead value] at sanitizes ⊢
  obtain ⟨text, isText, sanitizesText⟩ := sanitizes.exists_of_lift
  rw [isText, lift_ok_bind, keepsForm text stored sanitizesText]

/-- A check that stops at once is idempotent, as it stores nothing. -/
theorem stop
    (fault : Fault) :
    Idempotent field fun _ => Check.stop fault :=
  of_eq fun _ _ _ => rfl

end Idempotent

end Check

end FormCheck
