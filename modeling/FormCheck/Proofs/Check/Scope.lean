import FormCheck.Capability
import FormCheck.Proofs.Journal
import FormCheck.Proofs.Result
import FormCheck.Report

namespace FormCheck

/-!
# The scope of checks

A check is called with a key that owns what it records: every entry is under
that key or under the key of a part of it, and what the check does depends on
what the result shows under such keys alone. Both hold of a check in two parts
if they hold of its parts, so every check of the library is followed through
once, from its parts to the whole.

The owner is a field as a rule. A key belongs to a field if it is the field, or
if it starts with the field and an underscore. But any value may be handed over
as the key of a check, and then its text takes the place of the field.

Messages recorded by a check are never empty. Only the message for a missing
input, which the gate of a step records, may be.
-/

namespace Report

/-- Starting with a text is having its characters in front. -/
theorem startsWith_iff
    {text leading : String} :
    startsWith text leading = true ↔
      leading.toList <+: text.toList := by
  simp [startsWith]

/-- Every text starts with itself. -/
theorem startsWith_self
    (text : String) :
    startsWith text text = true := by
  simp [startsWith_iff]

/-- A text starts with each of its beginnings. -/
theorem startsWith_append
    (leading rest : String) :
    startsWith (leading ++ rest) leading = true := by
  simp [startsWith_iff]

/-- A beginning of a beginning is a beginning. -/
theorem startsWith_trans
    {text middle leading : String}
    (outer : startsWith text middle = true)
    (inner : startsWith middle leading = true) :
    startsWith text leading = true := by
  rw [startsWith_iff] at outer inner ⊢
  exact inner.trans outer

/-- Of two beginnings of one text, one is a beginning of the other. -/
theorem startsWith_total
    {text first second : String}
    (startsFirst : startsWith text first = true)
    (startsSecond : startsWith text second = true) :
    startsWith first second = true ∨ startsWith second first = true := by
  simp only [startsWith_iff] at startsFirst startsSecond ⊢
  exact List.prefix_or_prefix_of_prefix startsSecond startsFirst

/-- A field is not derived from itself. -/
theorem not_startsWith_self
    (field : String) :
    startsWith field (field ++ "_") = false := by
  rw [← Bool.not_eq_true, startsWith_iff]
  intro starts
  have shorter := starts.length_le
  rw [String.toList_append, List.length_append] at shorter
  have long : "_".toList.length = 1 := rfl
  omega

end Report

namespace Value

/-- A key belongs to a field if it is the field or is derived from it. -/
def BelongsTo
    (key : Value)
    (field : String) : Prop :=
  ∃ characters,
    key = .text characters ∧
      (characters = field ∨
        Report.startsWith characters (field ++ "_") = true)

/-- A text belongs to a field if it is the field or is derived from it. -/
theorem belongsTo_text_iff
    {characters field : String} :
    (Value.text characters).BelongsTo field ↔
      characters = field ∨
        Report.startsWith characters (field ++ "_") = true := by
  constructor
  · rintro ⟨_, same, belongs⟩
    cases same
    exact belongs
  · exact fun belongs => ⟨characters, rfl, belongs⟩

namespace BelongsTo

/-- A field belongs to itself. -/
theorem self
    (field : String) :
    (Value.text field).BelongsTo field :=
  ⟨field, rfl, .inl rfl⟩

/-- A text that belongs to a field starts with it. -/
theorem startsWith
    {characters field : String}
    (belongs : (Value.text characters).BelongsTo field) :
    Report.startsWith characters field = true := by
  rcases belongsTo_text_iff.mp belongs with rfl | derived
  · exact Report.startsWith_self _
  · exact Report.startsWith_trans derived (Report.startsWith_append ..)

/-- What belongs to a part of a field is derived from the field. -/
theorem derived_of_part
    {key : Value}
    {field part : String}
    (belongs : key.BelongsTo (field ++ "_" ++ part)) :
    ∃ characters,
      key = .text characters ∧
        Report.startsWith characters (field ++ "_") = true := by
  obtain ⟨characters, rfl, same | derived⟩ := belongs
  · subst same
    exact ⟨_, rfl, Report.startsWith_append _ _⟩
  · refine ⟨characters, rfl, Report.startsWith_trans derived ?_⟩
    have parted :
        field ++ "_" ++ part ++ "_" = field ++ "_" ++ (part ++ "_") :=
      String.append_assoc
    rw [parted]
    exact Report.startsWith_append _ _

/-- What belongs to a part of a field belongs to the field. -/
theorem of_part
    {key : Value}
    {field part : String}
    (belongs : key.BelongsTo (field ++ "_" ++ part)) :
    key.BelongsTo field := by
  obtain ⟨characters, isText, derived⟩ := belongs.derived_of_part
  exact ⟨characters, isText, .inr derived⟩

/-- What belongs to a part of a field is not the field. -/
theorem ne_of_part
    {characters field part : String}
    (belongs : (Value.text characters).BelongsTo (field ++ "_" ++ part)) :
    characters ≠ field := by
  rintro rfl
  obtain ⟨_, same, derived⟩ := belongs.derived_of_part
  cases same
  rw [Report.not_startsWith_self] at derived
  cases derived

/-- The key of a part of a field belongs to the field. -/
theorem part
    (field part : String) :
    (Value.text (field ++ "_" ++ part)).BelongsTo field :=
  of_part (self _)

end BelongsTo

/-- A key stems from an owner if it is the owner or is derived from its text. -/
def StemsFrom
    (key owner : Value) : Prop :=
  key = owner ∨
    ∃ ownText characters,
      owner.shown = .ok ownText ∧
        key = .text characters ∧
        Report.startsWith characters (ownText ++ "_") = true

/-- An owner stems from itself. -/
theorem StemsFrom.self
    (owner : Value) :
    owner.StemsFrom owner :=
  .inl rfl

/-- What stems from a text is what belongs to it as a field. -/
theorem stemsFrom_text_iff
    {key : Value}
    {field : String} :
    key.StemsFrom (.text field) ↔ key.BelongsTo field := by
  constructor
  · rintro (rfl | ⟨ownText, characters, shown, rfl, derived⟩)
    · exact .self field
    · cases shown
      exact ⟨characters, rfl, .inr derived⟩
  · rintro ⟨characters, rfl, rfl | derived⟩
    · exact .inl rfl
    · exact .inr ⟨field, characters, rfl, rfl, derived⟩

end Value

/-- An entry concerns a field if its key belongs to it and no message is empty. -/
def Entry.Concerns
    (entry : Entry)
    (field : String) : Prop :=
  entry.key.BelongsTo field ∧
    ∀ key message, entry = .error key message → message.isTruthy = true

/-- An entry stems from an owner if its key does and no message is empty. -/
def Entry.StemsFrom
    (entry : Entry)
    (owner : Value) : Prop :=
  entry.key.StemsFrom owner ∧
    ∀ key message, entry = .error key message → message.isTruthy = true

namespace Check

/-- The key of a part of a textual field. -/
theorem partKey_text
    (field part : String) :
    partKey (.text field) part = .ok (.text (field ++ "_" ++ part)) :=
  rfl

/-- The key of a part is made from the text of its owner. -/
theorem partKey_eq_ok_iff
    {owner key : Value}
    {part : String} :
    partKey owner part = .ok key ↔
      ∃ ownText,
        owner.shown = .ok ownText ∧
          key = .text (ownText ++ "_" ++ part) := by
  unfold partKey
  cases shown : owner.shown with
  | error fault =>
      simp [bind, Except.bind]
  | ok ownText =>
      simp only [bind, Except.bind, pure, Except.pure, Except.ok.injEq,
        exists_eq_left']
      exact eq_comm

/-- What stems from the key of a part stems from the owner of the part. -/
theorem stemsFrom_of_part
    {key owner ownPart : Value}
    {part : String}
    (isPart : partKey owner part = .ok ownPart)
    (stems : key.StemsFrom ownPart) :
    key.StemsFrom owner := by
  obtain ⟨ownText, shown, rfl⟩ := partKey_eq_ok_iff.mp isPart
  obtain ⟨characters, isText, derived⟩ :=
    (Value.stemsFrom_text_iff.mp stems).derived_of_part
  exact .inr ⟨ownText, characters, shown, isText, derived⟩

/-- The key of a part stems from the owner of the part. -/
theorem stemsFrom_part
    {owner ownPart : Value}
    {part : String}
    (isPart : partKey owner part = .ok ownPart) :
    ownPart.StemsFrom owner :=
  stemsFrom_of_part isPart (.self ownPart)

/-- Continuing with a known answer is continuing at once. -/
theorem lift_ok_bind
    (value : middle)
    (continuation : middle → Check answer) :
    ((liftM (Except.ok value : Except Fault middle) : Check middle) >>=
        continuation) =
      continuation value := by
  funext result
  simp [bind, andThen, liftM, monadLift, MonadLift.monadLift,
    Journal.ofExcept, Journal.andThen]

/--
A check stays within a field if it records only entries that concern the field
and depends only on what a result shows under keys of the field.
-/
structure Within
    (field : String)
    (check : Check answer) : Prop where
  writes :
    ∀ result, ∀ entry ∈ (check result).written, entry.Concerns field
  reads :
    ∀ {first second},
      Result.AgreeOn (·.BelongsTo field) first second →
      check first = check second

/--
A check is confined to an owner if it records only entries that stem from it
and depends only on what a result shows under keys that stem from it.
-/
structure Confined
    (owner : Value)
    (check : Check answer) : Prop where
  writes :
    ∀ result, ∀ entry ∈ (check result).written, entry.StemsFrom owner
  reads :
    ∀ {first second},
      Result.AgreeOn (·.StemsFrom owner) first second →
      check first = check second

namespace Confined

/-- A check confined to a text stays within it as a field. -/
theorem within
    {field : String}
    {check : Check answer}
    (confined : Confined (.text field) check) :
    Within field check where
  writes result entry member :=
    have stems := confined.writes result entry member
    ⟨Value.stemsFrom_text_iff.mp stems.1, stems.2⟩
  reads agree :=
    confined.reads
      (agree.mono fun _ stems => Value.stemsFrom_text_iff.mp stems)

/-! ## Parts of checks -/

variable {owner : Value}

/-- Giving an answer touches nothing. -/
theorem pure
    (value : answer) :
    Confined owner (Pure.pure value : Check answer) where
  writes _ _ member := by
    cases member
  reads _ := rfl

/-- Stopping touches nothing. -/
theorem stop
    (fault : Fault) :
    Confined owner (Check.stop fault : Check answer) where
  writes _ _ member := by
    cases member
  reads _ := rfl

/-- A computation without a result touches nothing. -/
theorem lift
    (computation : Except Fault answer) :
    Confined owner (liftM computation : Check answer) where
  writes _ _ member := by
    cases member
  reads _ := rfl

/-- A check in two parts is confined to what both parts are confined to. -/
theorem bind
    {leading : Check middle}
    {continuation : middle → Check answer}
    (leadingConfined : Confined owner leading)
    (continuationConfined :
      ∀ value, Confined owner (continuation value)) :
    Confined owner (leading >>= continuation) where
  writes := by
    intro result entry member
    change
      entry ∈
        (leading result >>= fun value =>
          continuation value
            (result.extend (leading result).written)).written at member
    rw [Journal.written_bind, List.mem_append] at member
    rcases member with early | late
    · exact leadingConfined.writes result entry early
    · cases ended : (leading result).ended with
      | error fault =>
          simp [ended] at late
      | ok value =>
          simp only [ended] at late
          exact (continuationConfined value).writes _ entry late
  reads := by
    intro first second agree
    change
      (leading first >>= fun value =>
        continuation value (first.extend (leading first).written)) =
      leading second >>= fun value =>
        continuation value (second.extend (leading second).written)
    rw [leadingConfined.reads agree]
    congr 1
    funext value
    exact (continuationConfined value).reads (agree.extend _)

/-- A check that first makes the key of a part continues with that key. -/
theorem bind_partKey
    {scope : Value}
    {part : String}
    {continuation : Value → Check answer}
    (continuationConfined :
      ∀ ownPart,
        partKey owner part = .ok ownPart →
          Confined scope (continuation ownPart)) :
    Confined scope
      ((liftM (partKey owner part) : Check Value) >>= continuation) := by
  cases isPart : partKey owner part with
  | error fault =>
      exact stop fault
  | ok ownPart =>
      rw [lift_ok_bind]
      exact continuationConfined ownPart isPart

/-- A choice is confined to what both of its sides are confined to. -/
theorem ite
    {condition : Prop}
    [Decidable condition]
    {positive negative : Check answer}
    (positiveConfined : Confined owner positive)
    (negativeConfined : Confined owner negative) :
    Confined owner (if condition then positive else negative) := by
  split
  · exact positiveConfined
  · exact negativeConfined

/-- A check of a part of an owner is confined to the owner. -/
theorem of_part
    {ownPart : Value}
    {part : String}
    {check : Check answer}
    (isPart : partKey owner part = .ok ownPart)
    (confined : Confined ownPart check) :
    Confined owner check where
  writes result entry member :=
    have stems := confined.writes result entry member
    ⟨stemsFrom_of_part isPart stems.1, stems.2⟩
  reads agree :=
    confined.reads
      (agree.mono fun _ stems => stemsFrom_of_part isPart stems)

/-- Recording an entry that stems from an owner is confined to it. -/
theorem record
    {entry : Entry}
    (stems : entry.StemsFrom owner) :
    Confined owner (Check.record entry) where
  writes := by
    intro result written member
    unfold Check.record at member
    split at member
    · cases List.mem_singleton.mp member
      exact stems
    · cases member
  reads _ := rfl

/-- Storing a value under a key that stems from an owner is confined to it. -/
theorem setValue
    {key : Value}
    (stems : key.StemsFrom owner)
    (value : Value) :
    Confined owner (Check.setValue key value) :=
  record ⟨stems, fun _ _ same => nomatch same⟩

/-- Recording a message under a key that stems from an owner is confined to it. -/
theorem addError
    {key message : Value}
    (stems : key.StemsFrom owner)
    (truthy : message.isTruthy = true) :
    Confined owner (Check.addError key message) := by
  refine record ⟨stems, ?_⟩
  intro recordedKey recorded same
  cases same
  exact truthy

/-- Recording a text that is not empty is confined to the owner of its key. -/
theorem reject
    {key : Value}
    (stems : key.StemsFrom owner)
    {message : String}
    (proper : message ≠ "") :
    Confined owner (Check.reject key message) :=
  addError stems (by simpa [Value.isTruthy] using proper)

/-- Asking about a key is confined to an owner if the answer depends on it alone. -/
theorem look
    {key : Value}
    {view : Result → answer}
    (depends :
      ∀ {first second},
        Result.AgreeOn (·.StemsFrom owner) first second →
        view first = view second) :
    Confined owner (Check.look key view) where
  writes := by
    intro result entry member
    unfold Check.look at member
    split at member <;> cases member
  reads := by
    intro first second agree
    unfold Check.look
    rw [depends agree]

/-- Asking for errors under a key that stems from an owner is confined to it. -/
theorem hasErrors
    {key : Value}
    (stems : key.StemsFrom owner) :
    Confined owner (Check.hasErrors key) := by
  apply look
  intro first second agree
  simp only [Result.hasErrorsAt, (agree key stems).2]

/-- Asking if a key that stems from an owner holds a value is confined to it. -/
theorem hasValue
    {key : Value}
    (stems : key.StemsFrom owner) :
    Confined owner (Check.hasValue key) := by
  apply look
  intro first second agree
  simp only [Result.hasValue, (agree key stems).1]

/-- Asking for the value under a key that stems from an owner is confined to it. -/
theorem value
    {key : Value}
    (stems : key.StemsFrom owner) :
    Confined owner (Check.value key) := by
  apply look
  intro first second agree
  simp only [Result.value, (agree key stems).1]

end Confined

end Check

end FormCheck
