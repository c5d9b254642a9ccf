import FormCheck.Proofs.Check.Staleness

namespace FormCheck

/-!
# What checks decide

Under each key that a check decides about it accepts a value or has messages.
Such rulings say all that matters of what the check records: a value may be
stored several times, and one that is stored on the way to a message does not
count. The rules below tell the rulings of a check in several parts from those
of its parts. They are about results that are fresh for the field of the check,
as every result is on which a step of a proper plan acts.
-/

namespace Value.BelongsTo

/-- No key belongs to two parts of a field if no name of a part begins the other. -/
theorem not_of_apart
    {key : Value}
    {field part other : String}
    (belongs : key.BelongsTo (field ++ "_" ++ part))
    (apart : Report.startsWith part other = false)
    (apartToo : Report.startsWith other part = false) :
    ¬key.BelongsTo (field ++ "_" ++ other) := by
  have cancel
      {first second : String}
      (starts :
        Report.startsWith (field ++ "_" ++ first)
            (field ++ "_" ++ second) =
          true) :
      Report.startsWith first second = true := by
    rw [Report.startsWith_iff] at starts ⊢
    simpa [List.prefix_append_right_inj] using starts
  intro belongsToo
  obtain ⟨characters, rfl, _⟩ := id belongs
  rcases Report.startsWith_total belongs.startsWith
      belongsToo.startsWith with starts | starts
  · exact Bool.false_ne_true (apart.symm.trans (cancel starts))
  · exact Bool.false_ne_true (apartToo.symm.trans (cancel starts))

end Value.BelongsTo

/-- What is decided about a key: a value is accepted, or there are messages. -/
inductive Verdict where
  | accepted (value : Value)
  | rejected (message : String) (others : List String)

namespace Verdict

/-- The messages of a verdict. -/
def messages : Verdict → List Value
  | .accepted _ => []
  | .rejected message others => (message :: others).map Value.text

/-- Whether a verdict has messages. -/
def isRejected : Verdict → Bool
  | .accepted _ => false
  | .rejected _ _ => true

/-- Accept a value under a condition, or else reject it with a message. -/
def provided
    (condition : Prop)
    [Decidable condition]
    (value : Value)
    (message : String) : Verdict :=
  if condition then .accepted value else .rejected message []

/-- A value is rejected where its condition fails. -/
@[simp] theorem isRejected_provided
    (condition : Prop)
    [Decidable condition]
    (value : Value)
    (message : String) :
    (provided condition value message).isRejected = !decide condition := by
  unfold provided
  split <;> simp [isRejected, *]

/-- A value is accepted where its condition holds. -/
theorem provided_eq_accepted_iff
    {condition : Prop}
    [Decidable condition]
    {value accepted : Value}
    {message : String} :
    provided condition value message = .accepted accepted ↔
      condition ∧ value = accepted := by
  unfold provided
  split <;> simp [*]

end Verdict

/-- A verdict about a key. -/
structure Ruling where
  key : String
  verdict : Verdict

namespace Ruling

/-- The key of a part of a field is not the field. -/
@[simp] theorem part_ne
    (field part : String) :
    field ++ "_" ++ part ≠ field := by
  intro same
  have sameLength := congrArg String.length same
  simp only [String.length_append] at sameLength
  have long : "_".length = 1 := rfl
  omega

/--
Entries spell a ruling if they are all under its key, hold just its messages,
and store a value last that it accepts.
-/
structure IsSpelledBy
    (ruling : Ruling)
    (entries : List Entry) : Prop where
  keys : ∀ entry ∈ entries, entry.key = .text ruling.key
  messages :
    entries.filterMap (Entry.messageAt? (.text ruling.key)) =
      ruling.verdict.messages
  value :
    ∀ accepted, ruling.verdict = .accepted accepted →
      (entries.filterMap (Entry.valueAt? (.text ruling.key))).getLast? =
        some accepted

/-- Entries spell some rulings if they spell one behind the other. -/
inductive Spell : List Entry → List Ruling → Prop where
  | nil : Spell [] []
  | cons
      {first rest : List Entry}
      {ruling : Ruling}
      {rulings : List Ruling}
      (spelled : ruling.IsSpelledBy first)
      (others : Spell rest rulings) :
      Spell (first ++ rest) (ruling :: rulings)

/-- The last verdict about a key, if there is one. -/
def verdictAt?
    (key : String)
    (rulings : List Ruling) : Option Verdict :=
  (rulings.filterMap fun ruling =>
    if ruling.key = key then some ruling.verdict else none).getLast?

/-- Whether some ruling has messages about a key. -/
def failsAt
    (key : String)
    (rulings : List Ruling) : Bool :=
  rulings.any fun ruling => ruling.key = key && ruling.verdict.isRejected

/-- Whether some ruling has messages. -/
def someFails
    (rulings : List Ruling) : Bool :=
  rulings.any (·.verdict.isRejected)

@[simp] theorem someFails_nil :
    someFails [] = false :=
  rfl

@[simp] theorem someFails_cons
    (ruling : Ruling)
    (rulings : List Ruling) :
    someFails (ruling :: rulings) =
      (ruling.verdict.isRejected || someFails rulings) :=
  rfl

@[simp] theorem someFails_append
    (first second : List Ruling) :
    someFails (first ++ second) =
      (someFails first || someFails second) :=
  List.any_append

@[simp] theorem failsAt_nil
    (key : String) :
    failsAt key [] = false :=
  rfl

@[simp] theorem failsAt_cons
    (key : String)
    (ruling : Ruling)
    (rulings : List Ruling) :
    failsAt key (ruling :: rulings) =
      ((ruling.key = key && ruling.verdict.isRejected) ||
        failsAt key rulings) :=
  rfl

@[simp] theorem failsAt_append
    (key : String)
    (first second : List Ruling) :
    failsAt key (first ++ second) =
      (failsAt key first || failsAt key second) :=
  List.any_append

/-- Rulings without messages have none about any key. -/
theorem failsAt_of_not_someFails
    {rulings : List Ruling}
    (passed : someFails rulings = false)
    (key : String) :
    failsAt key rulings = false := by
  unfold someFails at passed
  unfold failsAt
  rw [List.any_eq_false] at passed ⊢
  intro ruling member
  simp [passed ruling member]

/-- The verdict about a key that a later ruling is about is that of later ones. -/
theorem verdictAt?_append
    (key : String)
    (first second : List Ruling) :
    verdictAt? key (first ++ second) =
      (verdictAt? key second).or (verdictAt? key first) := by
  simp [verdictAt?, List.getLast?_append]

/-- The last ruling about a key has the verdict about it. -/
@[simp] theorem verdictAt?_concat
    (key : String)
    (verdict : Verdict)
    (rulings : List Ruling) :
    verdictAt? key (rulings ++ [⟨key, verdict⟩]) = some verdict := by
  rw [verdictAt?_append]
  simp [verdictAt?]

/-- There is no verdict about a key that no ruling is about. -/
theorem verdictAt?_eq_none
    {key : String}
    {rulings : List Ruling}
    (differs : ∀ ruling ∈ rulings, ruling.key ≠ key) :
    verdictAt? key rulings = none := by
  unfold verdictAt?
  rw [List.getLast?_eq_none_iff, List.filterMap_eq_nil_iff]
  intro ruling member
  rw [if_neg (differs ruling member)]

namespace IsSpelledBy

/-- Storing a value spells that it is accepted. -/
theorem value_entry
    (key : String)
    (stored : Value) :
    IsSpelledBy ⟨key, .accepted stored⟩ [.value (.text key) stored] where
  keys := by
    simp [Entry.key]
  messages :=
    rfl
  value := by
    rintro _ ⟨⟩
    simp [Entry.valueAt?]

/-- Messages under a key spell that it is rejected. -/
theorem error_entries
    (key message : String)
    (others : List String) :
    IsSpelledBy ⟨key, .rejected message others⟩
      ((message :: others).map fun text =>
        .error (.text key) (.text text)) where
  keys := by
    intro entry member
    obtain ⟨text, _, rfl⟩ := List.mem_map.mp member
    rfl
  messages := by
    rw [List.filterMap_map]
    simp [Function.comp_def, Entry.messageAt?, Verdict.messages]
  value := by
    rintro _ ⟨⟩

/-- A value accepted on the way to a verdict does not count. -/
theorem append_of_accepted
    {key : String}
    {stored : Value}
    {verdict : Verdict}
    {first second : List Entry}
    (spelled : IsSpelledBy ⟨key, .accepted stored⟩ first)
    (spelledThen : IsSpelledBy ⟨key, verdict⟩ second) :
    IsSpelledBy ⟨key, verdict⟩ (first ++ second) where
  keys :=
    List.forall_mem_append.mpr ⟨spelled.keys, spelledThen.keys⟩
  messages := by
    rw [List.filterMap_append, spelled.messages, spelledThen.messages]
    rfl
  value := by
    intro accepted isAccepted
    rw [List.filterMap_append, List.getLast?_append,
      spelledThen.value accepted isAccepted]
    rfl

/-- A ruling has messages exactly if an entry that spells it is one. -/
theorem any_isError
    {ruling : Ruling}
    {entries : List Entry}
    (spelled : ruling.IsSpelledBy entries) :
    entries.any Entry.isError = ruling.verdict.isRejected := by
  have isError
      (entry : Entry)
      (member : entry ∈ entries) :
      entry.isError =
        (entry.messageAt? (.text ruling.key)).isSome := by
    have sameKey := spelled.keys entry member
    cases entry with
    | value key stored =>
        rfl
    | error key message =>
        cases sameKey
        simp [Entry.isError, Entry.messageAt?]
  have shown :
      entries.any Entry.isError =
        !(entries.filterMap
          (Entry.messageAt? (.text ruling.key))).isEmpty := by
    rw [Bool.eq_iff_iff, List.any_eq_true, Bool.not_eq_true',
      List.isEmpty_eq_false_iff_exists_mem]
    simp only [List.mem_filterMap]
    constructor
    · rintro ⟨entry, member, failed⟩
      rw [isError entry member, Option.isSome_iff_exists] at failed
      obtain ⟨message, shows⟩ := failed
      exact ⟨message, entry, member, shows⟩
    · rintro ⟨message, entry, member, shows⟩
      refine ⟨entry, member, ?_⟩
      rw [isError entry member, shows]
      rfl
  rw [shown, spelled.messages]
  cases ruling.verdict <;> rfl

end IsSpelledBy

namespace Spell

variable
  {entries first second : List Entry}
  {rulings gained : List Ruling}

/-- Entries that spell one ruling. -/
theorem single
    {ruling : Ruling}
    (spelled : ruling.IsSpelledBy entries) :
    Spell entries [ruling] := by
  have listed := Spell.cons spelled .nil
  rwa [List.append_nil] at listed

/-- Entries in a row spell the rulings of both parts. -/
theorem append
    (spell : Spell first rulings)
    (spellThen : Spell second gained) :
    Spell (first ++ second) (rulings ++ gained) := by
  induction spell with
  | nil =>
      exact spellThen
  | cons spelled _ inductionHypothesis =>
      rw [List.append_assoc]
      exact .cons spelled inductionHypothesis

/-- A ruling that accepts may be left out before one about the same key. -/
theorem condense
    {key : String}
    {stored : Value}
    {verdict : Verdict}
    (spell :
      Spell entries
        (⟨key, .accepted stored⟩ :: ⟨key, verdict⟩ :: rulings)) :
    Spell entries (⟨key, verdict⟩ :: rulings) := by
  cases spell with
  | cons spelled others =>
      cases others with
      | cons spelledThen rest =>
          rw [← List.append_assoc]
          exact .cons (spelled.append_of_accepted spelledThen) rest

/-- What spells rulings is recorded under their keys. -/
theorem exists_of_mem
    (spell : Spell entries rulings)
    {entry : Entry}
    (member : entry ∈ entries) :
    ∃ ruling ∈ rulings, entry.key = .text ruling.key := by
  induction spell with
  | nil =>
      cases member
  | cons spelled _ inductionHypothesis =>
      rcases List.mem_append.mp member with here | later
      · exact ⟨_, List.mem_cons_self .., spelled.keys entry here⟩
      · obtain ⟨ruling, isOther, sameKey⟩ := inductionHypothesis later
        exact ⟨ruling, List.mem_cons_of_mem _ isOther, sameKey⟩

/-- What spells rulings has only textual messages. -/
theorem isText_of_mem
    (spell : Spell entries rulings)
    {key message : Value}
    (member : Entry.error key message ∈ entries) :
    ∃ characters, message = .text characters := by
  induction spell with
  | nil =>
      cases member
  | @cons block rest ruling rulings spelled _ inductionHypothesis =>
      rcases List.mem_append.mp member with here | later
      · obtain rfl : key = .text ruling.key := spelled.keys _ here
        have shown :
            message ∈
              block.filterMap
                (Entry.messageAt? (.text ruling.key)) :=
          List.mem_filterMap.mpr ⟨_, here, by simp [Entry.messageAt?]⟩
        rw [spelled.messages] at shown
        cases verdict : ruling.verdict with
        | accepted value =>
            simp [verdict, Verdict.messages] at shown
        | rejected text others =>
            rw [verdict] at shown
            obtain ⟨characters, _, rfl⟩ := List.mem_map.mp shown
            exact ⟨characters, rfl⟩
      · exact inductionHypothesis later

/-- There is a message exactly if some ruling has one. -/
theorem any_isError
    (spell : Spell entries rulings) :
    entries.any Entry.isError = someFails rulings := by
  induction spell with
  | nil =>
      rfl
  | cons spelled _ inductionHypothesis =>
      rw [List.any_append, someFails_cons, spelled.any_isError,
        inductionHypothesis]

/-- No entry is a message exactly if no ruling has one. -/
theorem flawless_iff
    (spell : Spell entries rulings) :
    (∀ entry ∈ entries, entry.isError = false) ↔
      someFails rulings = false := by
  rw [← spell.any_isError, List.any_eq_false]
  simp only [Bool.not_eq_true]

/-- A key has errors if it had some or if some ruling has messages about it. -/
theorem hasErrorsAt
    (spell : Spell entries rulings)
    (result : Result)
    (key : String) :
    (result.extend entries).hasErrorsAt (.text key) =
      (result.hasErrorsAt (.text key) || failsAt key rulings) := by
  have isEmpty_append
      (first second : List Value) :
      (first ++ second).isEmpty = (first.isEmpty && second.isEmpty) := by
    cases first <;> rfl
  have shown :
      (entries.filterMap
          (Entry.messageAt? (.text key))).isEmpty =
        !failsAt key rulings := by
    induction spell with
    | nil =>
        rfl
    | @cons block rest ruling rulings spelled _ inductionHypothesis =>
        rw [List.filterMap_append, isEmpty_append,
          inductionHypothesis, failsAt_cons, Bool.not_or]
        congr 1
        by_cases same : ruling.key = key
        · rw [← same, spelled.messages]
          cases ruling.verdict <;> simp [Verdict.messages, Verdict.isRejected]
        · have none :
              block.filterMap (Entry.messageAt? (.text key)) = [] := by
            refine List.filterMap_eq_nil_iff.mpr fun entry member => ?_
            apply Entry.messageAt?_eq_none
            rw [spelled.keys entry member]
            exact fun equal => same (Value.text.inj equal)
          simp [none, same]
  rw [Result.hasErrorsAt, Result.errorsAt_extend, isEmpty_append]
  change (!(_ && List.isEmpty (entries.filterMap _))) = _
  rw [shown, Bool.not_and, Bool.not_not]
  rfl

/-- What a key shows last is decided by the last ruling about it. -/
theorem getLast?_values
    (spell : Spell entries rulings)
    (key : String) :
    match verdictAt? key rulings with
    | none =>
        entries.filterMap (Entry.valueAt? (.text key)) = []
    | some (.accepted accepted) =>
        (entries.filterMap (Entry.valueAt? (.text key))).getLast? =
          some accepted
    | some (.rejected _ _) => True := by
  induction spell with
  | nil =>
      rfl
  | @cons block rest ruling rulings spelled _ inductionHypothesis =>
      rw [List.filterMap_append, ← List.singleton_append,
        verdictAt?_append]
      cases later : verdictAt? key rulings with
      | some verdict =>
          rw [later] at inductionHypothesis
          cases verdict with
          | accepted accepted =>
              change List.getLast? _ = _ at inductionHypothesis
              simp only [Option.some_or]
              rw [List.getLast?_append, inductionHypothesis]
              rfl
          | rejected message others =>
              trivial
      | none =>
          rw [later] at inductionHypothesis
          simp only [inductionHypothesis, List.append_nil, Option.none_or]
          by_cases same : ruling.key = key
          · subst same
            simp only [verdictAt?, List.filterMap_cons, List.filterMap_nil,
              ↓reduceIte, List.getLast?_singleton]
            cases verdict : ruling.verdict with
            | accepted accepted =>
                exact spelled.value accepted verdict
            | rejected message others =>
                trivial
          · simp only [verdictAt?, List.filterMap_cons, List.filterMap_nil,
              same, ↓reduceIte, List.getLast?_nil]
            refine List.filterMap_eq_nil_iff.mpr fun entry member => ?_
            apply Entry.valueAt?_eq_none
            rw [spelled.keys entry member]
            exact fun equal => same (Value.text.inj equal)

/-- A value that the last ruling about a key accepts is found there. -/
theorem value?_of_accepted
    (spell : Spell entries rulings)
    (result : Result)
    {key : String}
    {accepted : Value}
    (decided : verdictAt? key rulings = some (.accepted accepted)) :
    (result.extend entries).value? (.text key) = some accepted := by
  have shown := spell.getLast?_values key
  rw [decided] at shown
  rw [Result.value?_extend, shown]
  rfl

/-- Under a key that no ruling is about, nothing has changed. -/
theorem value?_of_none
    (spell : Spell entries rulings)
    (result : Result)
    {key : String}
    (undecided : verdictAt? key rulings = none) :
    (result.extend entries).value? (.text key) =
      result.value? (.text key) := by
  have shown := spell.getLast?_values key
  rw [undecided] at shown
  rw [Result.value?_extend, shown]
  rfl

end Spell

end Ruling

/-! ## Fresh results -/

/--
A result is fresh for a field if no key of the field has errors and no value is
stored under a key that is derived from the field.
-/
structure Result.FreshFor
    (result : Result)
    (field : String) : Prop where
  clean : result.CleanFor field
  blank :
    ∀ characters,
      Report.startsWith characters (field ++ "_") = true →
        result.value? (.text characters) = none

namespace Result.FreshFor

/-- A result fresh for a field is fresh for a part of it. -/
theorem of_part
    {result : Result}
    {field : String}
    (fresh : result.FreshFor field)
    (part : String) :
    result.FreshFor (field ++ "_" ++ part) where
  clean := fresh.clean.of_part
  blank := by
    intro characters starts
    obtain ⟨_, same, derived⟩ :=
      Value.BelongsTo.derived_of_part ⟨characters, rfl, .inr starts⟩
    cases same
    exact fresh.blank characters derived

/-- A result that shows the same at the keys of a field is as fresh for it. -/
theorem of_agreeOn
    {first second : Result}
    {field : String}
    (fresh : second.FreshFor field)
    (agree : AgreeOn (·.BelongsTo field) first second) :
    first.FreshFor field where
  clean := by
    intro key belongs
    rw [hasErrorsAt, (agree key belongs).2]
    exact fresh.clean key belongs
  blank := by
    intro characters starts
    rw [(agree _ ⟨characters, rfl, .inr starts⟩).1]
    exact fresh.blank characters starts

/-- Rulings about other keys leave a result as fresh as it was. -/
theorem extend
    {result : Result}
    {field : String}
    (fresh : result.FreshFor field)
    {entries : List Entry}
    {rulings : List Ruling}
    (spell : Ruling.Spell entries rulings)
    (foreign :
      ∀ ruling ∈ rulings, ¬(Value.text ruling.key).BelongsTo field) :
    (result.extend entries).FreshFor field := by
  apply fresh.of_agreeOn
  apply AgreeOn.of_foreign_texts
  intro entry member
  obtain ⟨ruling, isRuling, sameKey⟩ := spell.exists_of_mem member
  exact ⟨ruling.key, sameKey, foreign ruling isRuling⟩

/-- The empty result is fresh for every field. -/
theorem empty
    (field : String) :
    Result.empty.FreshFor field where
  clean _ _ := rfl
  blank _ _ := rfl

end Result.FreshFor

namespace Check

/-- An answer writes nothing. -/
@[simp] theorem pure_apply
    (value : answer)
    (result : Result) :
    (pure value : Check answer) result = ⟨[], .ok value⟩ :=
  rfl

/-- A check in two parts, once its first part is known to answer. -/
theorem bind_of_ok
    {leading : Check middle}
    {result : Result}
    {written : List Entry}
    {value : middle}
    (answered : leading result = ⟨written, .ok value⟩)
    (continuation : middle → Check answer) :
    (leading >>= continuation) result =
      ⟨written ++ (continuation value (result.extend written)).written,
        (continuation value (result.extend written)).ended⟩ := by
  change
    (leading result >>= fun value =>
      continuation value (result.extend (leading result).written)) = _
  rw [answered]
  exact Journal.bind_of_ok rfl _

/-- A check in two parts, once its first part is known to stop. -/
theorem bind_of_error
    {leading : Check middle}
    {result : Result}
    {written : List Entry}
    {fault : Fault}
    (stopped : leading result = ⟨written, .error fault⟩)
    (continuation : middle → Check answer) :
    (leading >>= continuation) result = ⟨written, .error fault⟩ := by
  change
    (leading result >>= fun value =>
      continuation value (result.extend (leading result).written)) = _
  rw [stopped]
  exact Journal.bind_of_error rfl _

/-! ## Checks that rule -/

/--
A check rules about a field: on a result fresh for the field, behind some
earlier rulings, it answers with a value, and what it records spells the later
rulings.
-/
structure Rules
    (field : String)
    (earlier : List Ruling)
    (check : Check answer)
    (value : answer)
    (later : List Ruling) : Prop where
  spells :
    ∀ {start : Result} {entries : List Entry},
      start.FreshFor field →
      Ruling.Spell entries earlier →
      ∃ written,
        check (start.extend entries) = ⟨written, .ok value⟩ ∧
          Ruling.Spell written later

namespace Rules

variable
  {field : String}
  {earlier gained later : List Ruling}

/-- An answer decides nothing. -/
theorem pure
    (value : answer) :
    Rules field earlier (Pure.pure value : Check answer) value [] :=
  ⟨fun _ _ => ⟨[], rfl, .nil⟩⟩

/-- A check in two parts decides what both parts do. -/
theorem bind
    {leading : Check middle}
    {continuation : middle → Check answer}
    {reached : middle}
    {value : answer}
    (leadingRules : Rules field earlier leading reached gained)
    (continuationRules :
      Rules field (earlier ++ gained) (continuation reached) value later) :
    Rules field earlier (leading >>= continuation) value
      (gained ++ later) := by
  constructor
  intro start entries fresh spell
  obtain ⟨early, first, spellEarly⟩ := leadingRules.spells fresh spell
  obtain ⟨late, second, spellLate⟩ :=
    continuationRules.spells fresh (spell.append spellEarly)
  rw [← Result.extend_extend] at second
  refine ⟨early ++ late, ?_, spellEarly.append spellLate⟩
  rw [bind_of_ok first, second]

/-- A check whose first part makes one ruling makes it first. -/
theorem bind_ruling
    {leading : Check middle}
    {continuation : middle → Check answer}
    {ruling : Ruling}
    {reached : middle}
    {value : answer}
    (leadingRules : Rules field earlier leading reached [ruling])
    (continuationRules :
      Rules field (earlier ++ [ruling]) (continuation reached) value
        later) :
    Rules field earlier (leading >>= continuation) value
      (ruling :: later) :=
  leadingRules.bind continuationRules

/-- A check that first decides nothing decides what it goes on to decide. -/
theorem bind_silent
    {leading : Check middle}
    {continuation : middle → Check answer}
    {reached : middle}
    {value : answer}
    (leadingRules : Rules field earlier leading reached [])
    (continuationRules :
      Rules field earlier (continuation reached) value later) :
    Rules field earlier (leading >>= continuation) value later := by
  rw [← List.append_nil earlier] at continuationRules
  exact leadingRules.bind continuationRules

/-- A check that goes on to decide nothing has decided what its first part has. -/
theorem bind_then_silent
    {leading : Check middle}
    {continuation : middle → Check answer}
    {reached : middle}
    {value : answer}
    (leadingRules : Rules field earlier leading reached gained)
    (continuationRules :
      Rules field (earlier ++ gained) (continuation reached) value []) :
    Rules field earlier (leading >>= continuation) value gained := by
  rw [← List.append_nil gained]
  exact leadingRules.bind continuationRules

/-- A check goes on with what is computed without a result. -/
theorem bind_lift
    {computation : Except Fault middle}
    {continuation : middle → Check answer}
    {reached : middle}
    {value : answer}
    (computed : computation = .ok reached)
    (continuationRules :
      Rules field earlier (continuation reached) value later) :
    Rules field earlier
      ((liftM computation : Check middle) >>= continuation) value
      later := by
  rw [computed, lift_ok_bind]
  exact continuationRules

/-- A check that first makes the key of a part continues with that key. -/
theorem bind_partKey
    {owner part : String}
    {continuation : Value → Check answer}
    {value : answer}
    (continuationRules :
      Rules field earlier (continuation (.text (owner ++ "_" ++ part)))
        value later) :
    Rules field earlier
      ((liftM (partKey (.text owner) part) : Check Value) >>=
        continuation)
      value later := by
  rw [partKey_text, lift_ok_bind]
  exact continuationRules

/-- Storing a value accepts it. -/
theorem setValue
    (key : String)
    (value : Value) :
    Rules field earlier (Check.setValue (.text key) value) ()
      [⟨key, .accepted value⟩] :=
  ⟨fun _ _ => ⟨_, rfl, .single (.value_entry ..)⟩⟩

/-- A message rejects. -/
theorem reject
    (key message : String) :
    Rules field earlier (Check.reject (.text key) message) ()
      [⟨key, .rejected message []⟩] :=
  ⟨fun _ _ => ⟨_, rfl, .single (.error_entries ..)⟩⟩

/-- Storing a value under a condition, or else rejecting it, is one verdict. -/
theorem provided
    {condition : Prop}
    [Decidable condition]
    (key : String)
    (value : Value)
    (message : String) :
    Rules field earlier
      (if condition then Check.setValue (.text key) value
        else Check.reject (.text key) message)
      () [⟨key, .provided condition value message⟩] := by
  unfold Verdict.provided
  split
  · exact setValue key value
  · exact reject key message

/-- A key of the field has errors exactly if it was rejected. -/
theorem hasErrors
    {key : String}
    (belongs : (Value.text key).BelongsTo field) :
    Rules field earlier (Check.hasErrors (.text key))
      (Ruling.failsAt key earlier) [] := by
  constructor
  intro start entries fresh spell
  refine ⟨[], ?_, .nil⟩
  change
    (⟨[], .ok ((start.extend entries).hasErrorsAt (.text key))⟩ :
      Journal Entry Bool) = _
  rw [spell.hasErrorsAt, fresh.clean _ belongs, Bool.false_or]

/-- The value under a key is the one that was accepted. -/
theorem value
    {key : String}
    {accepted : Value}
    (decided : Ruling.verdictAt? key earlier = some (.accepted accepted)) :
    Rules field earlier (Check.value (.text key)) accepted [] := by
  constructor
  intro start entries fresh spell
  refine ⟨[], ?_, .nil⟩
  change
    (⟨[], .ok ((start.extend entries).value (.text key))⟩ :
      Journal Entry Value) = _
  rw [Result.value, spell.value?_of_accepted start decided]
  rfl

/-- Under a key that was accepted there is a value. -/
theorem hasValue_of_accepted
    {key : String}
    {accepted : Value}
    (decided : Ruling.verdictAt? key earlier = some (.accepted accepted)) :
    Rules field earlier (Check.hasValue (.text key)) true [] := by
  constructor
  intro start entries fresh spell
  refine ⟨[], ?_, .nil⟩
  change
    (⟨[], .ok ((start.extend entries).hasValue (.text key))⟩ :
      Journal Entry Bool) = _
  rw [Result.hasValue, spell.value?_of_accepted start decided]
  rfl

/-- Under a derived key that was not decided about there is no value. -/
theorem hasValue_of_undecided
    {key : String}
    (derived : Report.startsWith key (field ++ "_") = true)
    (undecided : Ruling.verdictAt? key earlier = none) :
    Rules field earlier (Check.hasValue (.text key)) false [] := by
  constructor
  intro start entries fresh spell
  refine ⟨[], ?_, .nil⟩
  change
    (⟨[], .ok ((start.extend entries).hasValue (.text key))⟩ :
      Journal Entry Bool) = _
  rw [Result.hasValue, spell.value?_of_none start undecided,
    fresh.blank key derived]
  rfl

/-- A check of a part of a field rules behind rulings about other keys. -/
theorem of_part
    {part : String}
    {check : Check answer}
    {value : answer}
    (rules : Rules (field ++ "_" ++ part) [] check value later)
    (foreign :
      ∀ ruling ∈ earlier,
        ¬(Value.text ruling.key).BelongsTo (field ++ "_" ++ part)) :
    Rules field earlier check value later := by
  constructor
  intro start entries fresh spell
  have freshThen := (fresh.of_part part).extend spell foreign
  have ruled := rules.spells freshThen .nil
  rwa [Result.extend_nil] at ruled

/-- An accepted value may be left out before another verdict about its key. -/
theorem condense
    {key : String}
    {stored : Value}
    {verdict : Verdict}
    {check : Check answer}
    {value : answer}
    (rules :
      Rules field earlier check value
        (⟨key, .accepted stored⟩ :: ⟨key, verdict⟩ :: later)) :
    Rules field earlier check value (⟨key, verdict⟩ :: later) := by
  constructor
  intro start entries fresh spell
  obtain ⟨written, ended, spelled⟩ := rules.spells fresh spell
  exact ⟨written, ended, spelled.condense⟩

/-- A check is left out where a key of the field was rejected. -/
theorem unless_hasErrors_of_failed
    {key : String}
    {check : Check answer}
    {value : answer}
    (belongs : (Value.text key).BelongsTo field)
    (failed : Ruling.failsAt key earlier = true) :
    Rules field earlier
      (Check.hasErrors (.text key) >>= fun failed =>
        if failed = true then Pure.pure value else check)
      value [] := by
  refine bind_silent (hasErrors belongs) ?_
  rw [if_pos failed]
  exact pure value

/-- A check is not left out where a key of the field was not rejected. -/
theorem unless_hasErrors_of_not_failed
    {key : String}
    {check : Check answer}
    {other value : answer}
    (belongs : (Value.text key).BelongsTo field)
    (flawless : Ruling.failsAt key earlier = false)
    (rules : Rules field earlier check value later) :
    Rules field earlier
      (Check.hasErrors (.text key) >>= fun failed =>
        if failed = true then Pure.pure other else check)
      value later := by
  refine bind_silent (hasErrors belongs) ?_
  rw [if_neg (by simp [flawless])]
  exact rules

end Rules

end Check

end FormCheck
