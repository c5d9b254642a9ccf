import FormCheck.Proofs.Capability
import FormCheck.Proofs.Visit

namespace FormCheck

/-!
# The keys of a step

A step that calls the library with as many inputs as its capability takes owns
its inputs and all keys that belong to its field: it records under no other key,
and what it does depends on what it finds under these keys alone. Steps whose
names do not belong to each other own no key in common. Steps whose names are no
beginnings of each other are even further apart: no text starts with names of
both.
-/

namespace Value

instance
    (characters field : String) :
    Decidable ((text characters).BelongsTo field) :=
  decidable_of_iff _ belongsTo_text_iff.symm

/-- Of two fields that a key belongs to, one belongs to the other. -/
theorem BelongsTo.comparable
    {key : Value}
    {first second : String}
    (belongs : key.BelongsTo first)
    (belongsToo : key.BelongsTo second) :
    (text first).BelongsTo second ∨ (text second).BelongsTo first := by
  -- a beginning of both that ends in an underscore is within the longer one
  have nested
      {left right : String}
      (starts : Report.startsWith (left ++ "_") (right ++ "_") = true) :
      (text left).BelongsTo right := by
    rw [belongsTo_text_iff]
    rw [Report.startsWith_iff, String.toList_append, String.toList_append]
      at starts
    rcases List.prefix_concat_iff.mp starts with same | inner
    · left
      rw [← String.toList_inj]
      exact (List.append_cancel_right same).symm
    · right
      rw [Report.startsWith_iff, String.toList_append]
      exact inner
  obtain ⟨characters, rfl, rfl | derived⟩ := belongs
  · exact .inl belongsToo
  · rcases belongsTo_text_iff.mp belongsToo with rfl | derivedToo
    · exact .inr ⟨characters, rfl, .inr derived⟩
    · rcases Report.startsWith_total derived derivedToo with inner | inner
      · exact .inl (nested inner)
      · exact .inr (nested inner)

end Value

namespace Step

/-- A step fits the library if its capability is one for fields and gets its inputs. -/
structure Fits
    (step : Step) : Prop where
  found : Registry.standard.find? step.method = some step.capability
  isOther : step.method ≠ Registry.requiredName
  arity : step.inputs.length = step.capability.inputs

/-- A key is owned by a step if it belongs to its field or is one of its inputs. -/
def Owns
    (step : Step)
    (key : Value) : Prop :=
  key.BelongsTo step.field ∨ ∃ input ∈ step.inputs, key = .text input

/-- A text is owned by a step if it belongs to its field or is an input. -/
theorem owns_text_iff
    {step : Step}
    {characters : String} :
    step.Owns (.text characters) ↔
      (characters = step.field ∨
          Report.startsWith characters (step.field ++ "_") = true) ∨
        characters ∈ step.inputs := by
  simp [Owns, Value.belongsTo_text_iff]

/-- The field of a step and its inputs. -/
def names
    (step : Step) : List String :=
  step.field :: step.inputs

/-- Steps are apart if no name of one is a beginning of a name of the other. -/
def Apart
    (first second : Step) : Prop :=
  ∀ name ∈ first.names, ∀ other ∈ second.names,
    Report.startsWith name other = false ∧
      Report.startsWith other name = false

instance
    (first second : Step) :
    Decidable (Apart first second) :=
  inferInstanceAs
    (Decidable
      (∀ name ∈ first.names, ∀ other ∈ second.names,
        Report.startsWith name other = false ∧
          Report.startsWith other name = false))

namespace Apart

/-- Being apart goes both ways. -/
theorem symm
    {first second : Step}
    (apart : Apart first second) :
    Apart second first :=
  fun name isName other isOther =>
    (apart other isOther name isName).symm

instance : Std.Symm Apart :=
  ⟨fun _ _ apart => apart.symm⟩

/-- Of steps that are apart, no name of one is a name of the other. -/
theorem not_mem_names
    {first second : Step}
    (apart : Apart first second)
    {name : String}
    (isName : name ∈ first.names) :
    name ∉ second.names := by
  intro isOther
  have differs := (apart name isName name isOther).1
  rw [Report.startsWith_self] at differs
  cases differs

end Apart

/-- Names are foreign to others if none of either belongs to one of the other. -/
def AreForeign
    (names others : List String) : Prop :=
  ∀ name ∈ names, ∀ other ∈ others,
    ¬(Value.text name).BelongsTo other ∧ ¬(Value.text other).BelongsTo name

instance
    (names others : List String) :
    Decidable (AreForeign names others) :=
  inferInstanceAs
    (Decidable
      (∀ name ∈ names, ∀ other ∈ others,
        ¬(Value.text name).BelongsTo other ∧
          ¬(Value.text other).BelongsTo name))

/-- Steps are strangers if their names are foreign to each other. -/
def Strangers
    (first second : Step) : Prop :=
  AreForeign first.names second.names

/-- Whether steps are strangers depends on their names alone. -/
theorem pairwise_strangers_of_names
    {steps : List Step}
    {names : List (List String)}
    (listed : steps.map Step.names = names)
    (foreign : names.Pairwise AreForeign) :
    steps.Pairwise Strangers := by
  rw [← listed, List.pairwise_map] at foreign
  exact foreign

/-- Being strangers goes both ways. -/
theorem Strangers.symm
    {first second : Step}
    (strangers : Strangers first second) :
    Strangers second first :=
  fun name isName other isOther =>
    (strangers other isOther name isName).symm

/-- Steps that are apart are strangers. -/
theorem Apart.strangers
    {first second : Step}
    (apart : Apart first second) :
    Strangers first second := by
  intro name isName other isOther
  obtain ⟨differs, differsToo⟩ := apart name isName other isOther
  constructor
  · intro belongs
    rw [belongs.startsWith] at differs
    cases differs
  · intro belongs
    rw [belongs.startsWith] at differsToo
    cases differsToo

/-- A key that a step owns belongs to one of its names. -/
theorem Owns.exists_name
    {step : Step}
    {key : Value}
    (owned : step.Owns key) :
    ∃ name ∈ step.names, key.BelongsTo name := by
  rcases owned with belongs | ⟨input, isInput, rfl⟩
  · exact ⟨step.field, List.mem_cons_self .., belongs⟩
  · exact ⟨input, List.mem_cons_of_mem _ isInput, .self input⟩

/-- Strangers own no key in common. -/
theorem Strangers.not_owns
    {first second : Step}
    (strangers : Strangers first second)
    {key : Value}
    (owned : first.Owns key) :
    ¬second.Owns key := by
  intro ownedToo
  obtain ⟨name, isName, belongs⟩ := owned.exists_name
  obtain ⟨other, isOther, belongsToo⟩ := ownedToo.exists_name
  obtain ⟨differs, differsToo⟩ := strangers name isName other isOther
  exact (belongs.comparable belongsToo).elim differs differsToo

/-- A fitting step hands its inputs, its field and its arguments to its check. -/
theorem Fits.call_eq_act
    {step : Step}
    (fits : step.Fits)
    (environment : Environment)
    (data : Value) :
    step.capability.call environment (step.callValues data) =
      step.capability.act environment (step.inputs.map data.submitted)
        step.key step.arguments := by
  have enough :
      (step.inputs.map data.submitted).length =
        step.capability.inputs := by
    rw [List.length_map, fits.arity]
  unfold callValues
  exact Capability.call_eq_act enough ..

/-- The capability of a fitting step stays within the field and settles it. -/
theorem Fits.orderly
    {step : Step}
    (fits : step.Fits)
    (environment : Environment)
    (data : Value) :
    Check.Orderly step.field
      (step.capability.call environment (step.callValues data)) := by
  rw [fits.call_eq_act]
  exact Registry.orderly_of_standard fits.found fits.isOther ..

/-- The capability of a fitting step repeats its success. -/
theorem Fits.repeats
    {step : Step}
    (fits : step.Fits)
    (environment : Environment)
    (data : Value) :
    Check.Repeats step.field (step.capability.inputs = 1) []
      (step.capability.call environment (step.callValues data))
      fun _ _ => True := by
  rw [fits.call_eq_act]
  exact (Registry.disciplined_of_standard fits.found fits.isOther ..).repeats

/-- The keys that a step owns are texts. -/
theorem Owns.isText
    {step : Step}
    {key : Value}
    (owned : step.Owns key) :
    ∃ characters, key = .text characters := by
  rcases owned with ⟨characters, rfl, _⟩ | ⟨input, _, rfl⟩
  · exact ⟨characters, rfl⟩
  · exact ⟨input, rfl⟩

/-- Every key that a step owns starts with one of its names. -/
theorem Owns.startsWith
    {step : Step}
    {characters : String}
    (owned : step.Owns (.text characters)) :
    ∃ name ∈ step.names, Report.startsWith characters name = true := by
  rcases owned with ⟨_, same, rfl | derived⟩ | ⟨input, isInput, same⟩
  · cases same
    exact ⟨_, List.mem_cons_self .., Report.startsWith_self _⟩
  · cases same
    exact ⟨_, List.mem_cons_self ..,
      Report.startsWith_trans derived (Report.startsWith_append _ _)⟩
  · cases same
    exact ⟨characters, List.mem_cons_of_mem _ isInput,
      Report.startsWith_self _⟩

/-- No text starts with names of two steps that are apart. -/
theorem Apart.not_startsWith
    {first second : Step}
    (apart : Apart first second)
    {name other characters : String}
    (isName : name ∈ first.names)
    (isOther : other ∈ second.names)
    (starts : Report.startsWith characters name = true) :
    Report.startsWith characters other = false := by
  obtain ⟨differs, differsToo⟩ := apart name isName other isOther
  cases startsToo : Report.startsWith characters other with
  | false =>
      rfl
  | true =>
      rcases Report.startsWith_total starts startsToo with inner | inner
      · rw [differs] at inner
        cases inner
      · rw [differsToo] at inner
        cases inner

/-- What the gate of a step records, it records under an input. -/
theorem exists_input_of_mem_gateEntries
    {step : Step}
    {data : Value}
    {entry : Entry}
    (member : entry ∈ step.gateEntries data) :
    ∃ input ∈ step.inputs, entry.key = .text input := by
  obtain ⟨input, isInput, rfl⟩ := List.mem_map.mp member
  exact ⟨input, isInput, key_gateEntry step data input⟩

/-- What is recorded by a step stems from its gate or from its capability. -/
theorem mem_act
    {environment : Environment}
    {data : Value}
    {step : Step}
    {found : Result}
    {entry : Entry}
    (member : entry ∈ (step.act environment data found).written) :
    entry ∈ step.gateEntries data ∨
      entry ∈ (step.call environment data found).written := by
  unfold act at member
  split at member
  · exact .inl member
  · exact List.mem_append.mp member

/-- A fitting step records only under keys that it owns. -/
theorem Fits.owns_of_mem_act
    {step : Step}
    (fits : step.Fits)
    {environment : Environment}
    {data : Value}
    {found : Result}
    {entry : Entry}
    (member : entry ∈ (step.act environment data found).written) :
    step.Owns entry.key := by
  rcases mem_act member with gated | called
  · exact .inr (exists_input_of_mem_gateEntries gated)
  · exact .inl
      ((fits.orderly environment data).within.writes _ entry called).1

/--
A message that a fitting step records is under an input, or it is under a key of
the field and is not empty.
-/
theorem Fits.accounts_for
    {step : Step}
    (fits : step.Fits)
    {environment : Environment}
    {data key message : Value}
    {found : Result}
    (recorded :
      Entry.error key message ∈ (step.act environment data found).written) :
    (∃ input ∈ step.inputs, key = .text input) ∨
      key.BelongsTo step.field ∧ message.isTruthy = true := by
  rcases mem_act recorded with gated | called
  · exact .inl (exists_input_of_mem_gateEntries gated)
  · have concerns :=
      (fits.orderly environment data).within.writes _ _ called
    exact .inr ⟨concerns.1, concerns.2 key message rfl⟩

/-- What a fitting step does depends on the keys that it owns. -/
theorem Fits.act_congr
    {step : Step}
    (fits : step.Fits)
    (environment : Environment)
    (data : Value)
    {first second : Result}
    (agree : Result.AgreeOn step.Owns first second) :
    step.act environment data first =
      step.act environment data second := by
  have sameGate :
      step.isHeldBack data first = step.isHeldBack data second := by
    have sameValue
        (input : String)
        (isInput : input ∈ step.inputs) :
        first.hasValue (.text input) = second.hasValue (.text input) := by
      unfold Result.hasValue
      rw [(agree _ (.inr ⟨input, isInput, rfl⟩)).1]
    unfold isHeldBack
    rw [Bool.eq_iff_iff, List.any_eq_true, List.any_eq_true]
    constructor
    · rintro ⟨input, isInput, held⟩
      exact ⟨input, isInput, sameValue input isInput ▸ held⟩
    · rintro ⟨input, isInput, held⟩
      exact ⟨input, isInput, sameValue input isInput ▸ held⟩
  have sameCall :
      step.call environment data first =
        step.call environment data second :=
    (fits.orderly environment data).within.reads
      ((agree.mono fun _ belongs => .inl belongs).extend _)
  unfold act
  rw [sameGate, sameCall]

end Step

end FormCheck
