import FormCheck.Proofs.Capability

namespace FormCheck

/-!
# Calls of capabilities one after the other

Capabilities may be called in any order on one result, by a plan or by hand. A
call changes nothing outside the keys of its field; there it adds messages
behind those that it found, and it never takes a value away. A fault that stops
a call does not undo what the call had recorded, so the same holds of calls that
end with one, and of what is called afterwards on the result that they left.
-/

namespace Result

/--
A result has grown at some keys: it shows the same as before under all others,
has lost no message and still holds a value wherever it held one.
-/
structure GrownAt
    (changed : Value → Prop)
    (before after : Result) : Prop where
  keeps : AgreeOn (fun key => ¬changed key) after before
  appends : ∀ key, before.errorsAt key <+: after.errorsAt key
  holds : ∀ key, before.hasValue key = true → after.hasValue key = true

namespace GrownAt

/-- A result to which nothing happened has grown nowhere. -/
theorem refl
    (changed : Value → Prop)
    (result : Result) :
    GrownAt changed result result where
  keeps _ _ := ⟨rfl, rfl⟩
  appends _ := List.prefix_rfl
  holds _ held := held

/-- A result that grew twice at some keys has grown there. -/
theorem trans
    {changed : Value → Prop}
    {first second third : Result}
    (grown : GrownAt changed first second)
    (grownThen : GrownAt changed second third) :
    GrownAt changed first third where
  keeps := grownThen.keeps.trans grown.keeps
  appends key := (grown.appends key).trans (grownThen.appends key)
  holds key held := grownThen.holds key (grown.holds key held)

/-- A result that has grown at some keys has grown at more of them. -/
theorem mono
    {narrow wide : Value → Prop}
    {before after : Result}
    (grown : GrownAt narrow before after)
    (within : ∀ key, narrow key → wide key) :
    GrownAt wide before after where
  keeps := grown.keeps.mono fun key outside isNarrow =>
    outside (within key isNarrow)
  appends := grown.appends
  holds := grown.holds

/-- Recording entries under some textual keys makes a result grow there. -/
theorem extend
    {changed : Value → Prop}
    (result : Result)
    {entries : List Entry}
    (textual :
      ∀ entry ∈ entries,
        ∃ characters,
          entry.key = .text characters ∧ changed (.text characters)) :
    GrownAt changed result (result.extend entries) where
  keeps := by
    apply AgreeOn.of_foreign_texts
    intro entry member
    obtain ⟨characters, isText, isChanged⟩ := textual entry member
    exact ⟨characters, isText, not_not_intro isChanged⟩
  appends key := by
    rw [errorsAt_extend]
    exact List.prefix_append ..
  holds _ held := hasValue_extend held entries

end GrownAt

end Result

/-- A check that stays within a field makes a result grow at keys of the field. -/
theorem Check.Within.grownAt
    {field : String}
    {check : Check answer}
    (within : Check.Within field check)
    (result : Result) :
    result.GrownAt (·.BelongsTo field) (check.after result) := by
  apply Result.GrownAt.extend
  intro entry member
  obtain ⟨belongs, _⟩ := within.writes result entry member
  obtain ⟨characters, isText, _⟩ := id belongs
  exact ⟨characters, isText, isText ▸ belongs⟩

/--
A call of a capability: the environment at that time, the input values, the
field and the extra arguments.
-/
structure FieldCall where
  capability : Capability
  environment : Environment
  values : List Value
  field : String
  extra : List Value

namespace FieldCall

/-- What a call does to a result. -/
def check
    (call : FieldCall) : Check Unit :=
  call.capability.call call.environment
    (call.values ++ .text call.field :: call.extra)

/--
A call is proper if its capability is one of the library, but not the check for
required inputs, and gets as many input values as it takes.
-/
def IsProper
    (call : FieldCall) : Prop :=
  (∃ name,
    Registry.standard.find? name = some call.capability ∧
      name ≠ Registry.requiredName) ∧
    call.values.length = call.capability.inputs

/-- A result after some calls, each on what the calls before it have left. -/
def afterAll
    (calls : List FieldCall)
    (result : Result) : Result :=
  calls.foldl (fun result call => call.check.after result) result

/-- A key is touched by some calls if it belongs to the field of one of them. -/
def Touches
    (calls : List FieldCall)
    (key : Value) : Prop :=
  ∃ call ∈ calls, key.BelongsTo call.field

/-- A proper call makes a result grow at keys of its field. -/
theorem grownAt_after
    {call : FieldCall}
    (proper : call.IsProper)
    (result : Result) :
    result.GrownAt (·.BelongsTo call.field) (call.check.after result) := by
  obtain ⟨⟨name, found, isOther⟩, enough⟩ := proper
  have orderly := Registry.orderly_of_standard found isOther
  unfold check
  rw [Capability.call_eq_act enough]
  have within :=
    (orderly call.environment call.values call.field call.extra).within
  exact within.grownAt result

/--
However many capabilities of the library are called on a result, and whether the
calls end with a fault or not, the result grows only at the keys of their fields.
-/
theorem grownAt_afterAll
    {calls : List FieldCall}
    (proper : ∀ call ∈ calls, call.IsProper)
    (result : Result) :
    result.GrownAt (Touches calls) (afterAll calls result) := by
  induction calls generalizing result with
  | nil =>
      exact .refl _ result
  | cons call rest inductionHypothesis =>
      rw [List.forall_mem_cons] at proper
      have here : result.GrownAt (Touches (call :: rest))
          (call.check.after result) :=
        (grownAt_after proper.1 result).mono fun key belongs =>
          ⟨call, List.mem_cons_self .., belongs⟩
      have later :
          (call.check.after result).GrownAt (Touches (call :: rest))
            (afterAll (call :: rest) result) :=
        (inductionHypothesis proper.2 _).mono
          fun key ⟨other, isRest, belongs⟩ =>
            ⟨other, List.mem_cons_of_mem _ isRest, belongs⟩
      exact here.trans later

/-- The call for a date that does not exist. -/
def impossibleDate : FieldCall where
  capability := .fullDate
  environment := .on ⟨2024, 1, 1⟩
  values := [.int 2024, .int 2, .int 30]
  field := "dates"
  extra := []

/-- The call for an age between bounds that are no numbers. -/
def unboundedAge : FieldCall where
  capability := .integerRange
  environment := .on ⟨2024, 1, 2⟩
  values := [.text "7"]
  field := "age"
  extra := [.text "low", .text "high"]

/-- An agent stays what it is, though its name starts like that of an age. -/
theorem grownAt_afterAll_agent :
    (∀ call ∈ [impossibleDate, unboundedAge], call.IsProper) ∧
      (unboundedAge.check (impossibleDate.check.after .empty)).ended.isOk =
        false ∧
      (afterAll [impossibleDate, unboundedAge]
          ⟨[.value (.text "agent") (.int 7)]⟩).value? (.text "agent") =
        some (.int 7) := by
  have proper :
      ∀ call ∈ [impossibleDate, unboundedAge], call.IsProper := by
    rw [List.forall_mem_cons, List.forall_mem_singleton]
    exact ⟨⟨⟨"validate_full_date", rfl, by decide⟩, rfl⟩,
      ⟨⟨"validate_integer_range", rfl, by decide⟩, rfl⟩⟩
  have untouched :
      ¬Touches [impossibleDate, unboundedAge] (.text "agent") := by
    simp only [Touches, List.mem_cons, List.not_mem_nil, or_false,
      exists_eq_or_imp, exists_eq_left, Value.belongsTo_text_iff]
    decide
  refine ⟨proper, by decide +kernel, ?_⟩
  exact ((grownAt_afterAll proper _).keeps _ untouched).1

/--
No proper call that returns is silent: it has itself stored a value under its
field, or the result that it leaves has errors under a key of the field.
-/
theorem settled_of_returned
    {call : FieldCall}
    (proper : call.IsProper)
    {result : Result}
    (returned : (call.check result).ended = .ok ()) :
    (∃ stored,
        Entry.value (.text call.field) stored ∈
          (call.check result).written) ∨
      ∃ characters,
        (characters = call.field ∨
            Report.startsWith characters (call.field ++ "_") = true) ∧
          (call.check.after result).hasErrorsAt (.text characters) =
            true := by
  obtain ⟨⟨name, found, isOther⟩, enough⟩ := proper
  have concludes :
      Check.Concludes call.field (.text call.field) call.check := by
    unfold check
    rw [Capability.call_eq_act enough]
    exact (Registry.orderly_of_standard found isOther ..).concludes
  have ended :
      call.check result = ⟨(call.check result).written, .ok ()⟩ := by
    rw [← returned]
  rcases concludes.leaves trivial ended with
      impossible | stored | ⟨_, ⟨characters, rfl, belongs⟩, failed⟩
  · exact impossible.elim
  · exact .inl stored
  · exact .inr ⟨characters, belongs, failed⟩

/-- The call for a date in a month that does not exist, and its semester. -/
def monthlessDate : FieldCall where
  capability := .dateInSemester
  environment := .on ⟨2024, 1, 1⟩
  values := [.int 2024, .int 13, .int 5, .text "2024A"]
  field := "observed"
  extra := []

/-- Where an earlier date stands in for the missing one, a message remains. -/
theorem settled_of_returned_monthlessDate :
    let earlier : Result :=
      ⟨[.value (.text "observed_date") (.text "earlier"),
        .value (.text "observed_date_components")
          (.record [("year", .int 2023), ("month", .int 3), ("day", .int 4)])]⟩
    monthlessDate.IsProper ∧
      (monthlessDate.check earlier).ended = .ok () ∧
      ((∃ stored,
          Entry.value (.text "observed") stored ∈
            (monthlessDate.check earlier).written) ∨
        ∃ characters,
          (characters = "observed" ∨
              Report.startsWith characters "observed_" = true) ∧
            (monthlessDate.check.after earlier).hasErrorsAt
                (.text characters) =
              true) := by
  intro earlier
  have proper : monthlessDate.IsProper :=
    ⟨⟨"validate_date_semester", rfl, by decide⟩, rfl⟩
  have answers :
      (monthlessDate.check earlier).answersWith (fun _ => true) = true := by
    decide +kernel
  obtain ⟨⟨⟩, returned, _⟩ := Journal.exists_of_answersWith answers
  exact ⟨proper, returned, settled_of_returned proper returned⟩

end FieldCall

end FormCheck
