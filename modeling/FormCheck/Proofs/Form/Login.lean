import FormCheck.Form.Login
import FormCheck.Proofs.Form.Step
import FormCheck.Proofs.Plan.UnknownKeys
import FormCheck.Proofs.ProgramNumber

namespace FormCheck.Form.Login

/-!
# What the login form accepts

Every login is answered. It passes exactly if a program number within the years
of the settings was entered between blanks, and a session code. If it fails,
there is one message under each of the two fields that is wrong.
-/

/-! ## The plan -/

/-- The plan of the login. -/
def plan
    (message : String)
    (minimal next : Int) : Plan :=
  [requiredField message "program" "validate_program_number_field"
      .programNumber [.int minimal, .int next],
    requiredField message "session" "validate_session_code_field"
      .sessionCode []]

/-- The steps of the login fit the library. -/
theorem fits_of_mem_plan
    {message : String}
    {minimal next : Int} :
    ∀ step ∈ plan message minimal next, step.Fits := by
  simp only [plan, List.forall_mem_cons]
  exact ⟨fits_requiredField rfl (by decide) rfl ..,
    fits_requiredField rfl (by decide) rfl .., List.forall_mem_nil _⟩

/-- The steps of the login are apart. -/
theorem apart_plan
    (message : String)
    (minimal next : Int) :
    (plan message minimal next).Pairwise Step.Apart := by
  have apart :
      ∀ name ∈ ["program", "program"], ∀ other ∈ ["session", "session"],
        Report.startsWith name other = false ∧
          Report.startsWith other name = false := by
    decide
  exact .cons (List.forall_mem_singleton.mpr apart)
    (List.pairwise_singleton ..)

variable
  {environment : Environment}
  {minimal future : Int}
  {data : Value}

/-- The login arranges its plan. -/
theorem arranges
    {message : String}
    (isText : environment.settings.requiredMessage = .text message)
    (minimalYear : environment.settings.minimalYear = .int minimal)
    (isRecord : data.IsRecord)
    (context : Value) :
    (validator Registry.standard).Arranges environment data context
      (plan message minimal environment.nextYear) where
  gate := rfl
  isRecord := isRecord
  stands := by
    refine ⟨rawPlan environment, rfl, ?_⟩
    unfold rawPlan
    rw [minimalYear]
    obtain ⟨settings, today, memory⟩ := environment
    cases settings
    subst isText
    rfl
  fits := fits_of_mem_plan
  spares :=
    Step.pairwise_spares fits_of_mem_plan
      ((apart_plan ..).imp Step.Apart.strangers) environment data

/-- The plan can be written if the minimal year can. -/
theorem isWritable_plan
    (message : String)
    {next : Int}
    (minimalWritable : Number.isWritable minimal = true)
    (nextWritable : Number.isWritable next = true) :
    (Plan.toValue (plan message minimal next)).IsWritable := by
  have isMinimal : (Value.int minimal).IsWritable :=
    Value.isWritable_int_iff.mpr minimalWritable
  have isNext : (Value.int next).IsWritable :=
    Value.isWritable_int_iff.mpr nextWritable
  rw [Plan.isWritable_toValue_iff]
  simp [plan, requiredField, isMinimal, isNext]

/-- Every login is answered, also one with several texts. -/
theorem answers
    (sound : environment.IsSound minimal future)
    (submission : data.IsSubmission)
    (context : Value) :
    ∃ outcome,
      ((validator Registry.standard).run environment data context).ended =
        .ok outcome := by
  obtain ⟨message, isText⟩ := sound.requiredMessage
  have arranged :=
    arranges isText sound.minimalYear submission.isRecord context
  have years :
      environment.HasYears (.int minimal)
        ((Value.int environment.nextYear).orDefault
          (.int environment.nextYear))
        _ _ :=
    sound.hasProgramYears rfl rfl
  have shows
      (field : String) :
      (data.submitted field).asText = .ok (data.entered field) :=
    Value.asText_submitted (submission.isInput_submitted field)
  have program : Check.Rules "program" [] _ _ _ :=
    Check.Rules.programNumber (shows "program") years
  have session : Check.Rules "session" [] _ _ _ :=
    Check.Rules.sessionCode (shows "session")
  apply arranged.run_answers_of_standard rfl sound.delimiter
  · exact isWritable_plan message sound.minimalWritable
      years.latestWritable
  · simp only [plan, List.forall_mem_cons]
    exact ⟨(requiredField_judges program _ _).exists_decides,
      (requiredField_judges session _ _).exists_decides,
      List.forall_mem_nil _⟩

/-! ## What is entered -/

/-- What a login enters for an input: nothing, or a text with any characters. -/
def IsEntered
    (value : Value) : Prop :=
  value = .null ∨ value.IsText

/-- A login is a mapping from names to what is entered. -/
def IsLogin
    (data : Value) : Prop :=
  ∃ entries,
    data = .record entries ∧ ∀ entry ∈ entries, IsEntered entry.2

namespace IsLogin

/-- A login has textual keys. -/
theorem isRecord
    (login : IsLogin data) :
    data.IsRecord := by
  obtain ⟨entries, rfl, _⟩ := login
  exact ⟨entries, rfl⟩

/-- What a login has under a name was entered. -/
theorem isEntered_submitted
    (login : IsLogin data)
    (name : String) :
    IsEntered (data.submitted name) := by
  obtain ⟨entries, rfl, entered⟩ := login
  rcases Value.submitted_record entries name with absent | present
  · exact .inl absent
  · exact entered _ present

/-- What was entered has a text. -/
theorem asText_submitted
    (login : IsLogin data)
    (name : String) :
    (data.submitted name).asText = .ok (data.entered name) := by
  unfold Value.entered
  rcases login.isEntered_submitted name with
    absent | ⟨_, isText⟩
  · rw [absent]
    rfl
  · rw [isText]
    rfl

/-- Where a text is left without the blanks around it, something was entered. -/
theorem isEmpty_submitted
    (login : IsLogin data)
    {name : String}
    (filled : Text.strip (data.entered name) ≠ "") :
    (data.submitted name).isEmpty = false := by
  unfold Value.entered at filled
  rcases login.isEntered_submitted name with
    absent | ⟨characters, isText⟩
  · rw [absent] at filled
    exact absurd rfl filled
  · rw [isText] at filled ⊢
    rw [← Bool.not_eq_true]
    intro blank
    apply filled
    change Text.strip characters = ""
    rw [Text.strip, List.isEmpty_iff.mp blank]

end IsLogin

/-! ## Session codes -/

/-- A text is a session code if it is one of two texts, or ten letters and digits. -/
def IsSessionCode
    (text : String) : Prop :=
  text ∈ ["tisanpwd", "wbtcorar"] ∨
    text.length = 10 ∧
      ∀ character ∈ text.toList,
        Text.isAsciiAlphanumeric character = true

/-- Session codes are accepted as they are. -/
theorem sessionCode_eq_accepted_iff
    {text : String}
    {accepted : Value} :
    Verdict.sessionCode text [.text "tisanpwd", .text "wbtcorar"] =
        .accepted accepted ↔
      IsSessionCode text ∧ .text text = accepted := by
  have isKnown :
      [Value.text "tisanpwd", .text "wbtcorar"].contains (.text text) =
          true ↔
        text ∈ ["tisanpwd", "wbtcorar"] := by
    simp [List.contains_cons]
  unfold Verdict.sessionCode IsSessionCode
  rw [← isKnown]
  split
  case isTrue known =>
    simp [known]
  case isFalse unknown =>
    rw [or_iff_right unknown]
    split
    case isTrue otherLength =>
      exact iff_of_false nofun fun isCode => otherLength isCode.1.1
    case isFalse sameLength =>
      rw [not_not] at sameLength
      have present : text.isEmpty = false := by
        rw [← Bool.not_eq_true, String.isEmpty_iff]
        rintro rfl
        cases sameLength
      unfold Verdict.alphanumeric
      rw [Verdict.provided_eq_accepted_iff, present, Bool.not_false,
        Bool.true_and, List.all_eq_true]
      exact and_congr_left' (and_iff_right sameLength).symm

/-- The verdict on a session code is brief. -/
theorem isBrief_sessionCode
    (text : String) :
    (Verdict.sessionCode text
      [.text "tisanpwd", .text "wbtcorar"]).IsBrief := by
  unfold Verdict.sessionCode
  split
  · exact Nat.zero_le 1
  · split
    · exact Nat.le_refl 1
    · exact Verdict.isBrief_provided ..

/-- A program number is not blank. -/
theorem ne_empty_of_isProgramNumber
    {text : String}
    {earliest latest : Int}
    (isNumber : IsProgramNumber text earliest latest) :
    text ≠ "" := by
  rintro rfl
  obtain ⟨year, tag, number, split, _⟩ := isNumber
  exact absurd split.symm (List.append_ne_nil_of_right_ne_nil _
    (List.cons_ne_nil _ _))

/-- A session code is not blank. -/
theorem strip_ne_empty_of_isSessionCode
    {text : String}
    (isCode : IsSessionCode text) :
    Text.strip text ≠ "" := by
  rcases isCode with isKnown | ⟨size, areCodes⟩
  · simp only [List.mem_cons, List.not_mem_nil, or_false] at isKnown
    rcases isKnown with rfl | rfl <;> decide
  · intro blank
    have isBlank : Text.stripped text.toList = [] :=
      String.ofList_injective blank
    have same : Text.stripped text.toList = text.toList :=
      Text.stripped_eq_self fun character member =>
        Text.isBlank_of_isAsciiAlphanumeric (areCodes character member)
    rw [← String.length_toList, ← same, isBlank] at size
    cases size

/-! ## What passes and what is blamed -/

/--
An environment is ready for logins if its message for required inputs is a text,
its minimal year an integer that is short enough, and its day one that exists.
-/
structure IsReady
    (environment : Environment)
    (minimal : Int) : Prop where
  requiredMessage :
    ∃ message, environment.settings.requiredMessage = .text message
  minimalYear : environment.settings.minimalYear = .int minimal
  minimalWritable : Number.isWritable minimal = true
  actual : environment.today.isActual = true

/-- The year after a day of the calendar can be written. -/
theorem IsReady.nextWritable
    (ready : IsReady environment minimal) :
    Number.isWritable environment.nextYear = true := by
  have years := (Date.isActual_iff.mp ready.actual).1
  apply Number.isWritable_of_lt
  unfold Calendar.lastYear at years
  unfold Environment.nextYear
  omega

/-- The years of programs lie between the minimal and the next year. -/
theorem IsReady.hasYears
    (ready : IsReady environment minimal) :
    environment.HasYears (.int minimal)
      ((Value.int environment.nextYear).orDefault
        (.int environment.nextYear))
      (max Check.earliestYear minimal) environment.nextYear where
  lowest := ⟨minimal, rfl, rfl⟩
  highest := .inl rfl
  earliestWritable := by
    rcases max_choice Check.earliestYear minimal with
      isEarliest | isMinimal
    · rw [isEarliest]
      exact Number.isWritable_of_lt (by decide)
    · rw [isMinimal]
      exact ready.minimalWritable
  latestWritable := ready.nextWritable

/-- What is asked of the two inputs of a login. -/
def judgements
    (data : Value)
    (earliest latest : Int) : List Judgement :=
  [⟨IsProgramNumber (Text.strip (data.entered "program")) earliest latest,
      .text (String.ofList (Check.upperText (data.entered "program")))⟩,
    ⟨IsSessionCode (data.entered "session"),
      .text (data.entered "session")⟩]

/-- The steps of the login judge once. -/
theorem judgesOnce_plan
    (ready : IsReady environment minimal)
    (login : IsLogin data)
    (message : String) :
    List.Forall₂ (Step.JudgesOnce environment data)
      (plan message minimal environment.nextYear)
      (judgements data (max Check.earliestYear minimal)
        environment.nextYear) := by
  have onProgram :=
    Ruling.onProgramNumber "program" (data.entered "program")
      (max Check.earliestYear minimal) environment.nextYear
  have program :
      (requiredField message "program" "validate_program_number_field"
          .programNumber
          [.int minimal, .int environment.nextYear]).JudgesOnce
        environment data
        ⟨IsProgramNumber (Text.strip (data.entered "program"))
            (max Check.earliestYear minimal) environment.nextYear,
          .text
            (String.ofList (Check.upperText (data.entered "program")))⟩ := by
    apply requiredField_judgesOnce
      (Check.Rules.programNumber (login.asText_submitted "program")
        ready.hasYears)
      onProgram.areBriefOn Ruling.someFails_programNumber_iff
    · intro isNumber
      exact login.isEmpty_submitted (ne_empty_of_isProgramNumber isNumber)
    · intro isNumber
      exact onProgram.verdictAt?_eq
        (Ruling.someFails_programNumber_iff.mpr isNumber)
  have session :
      (requiredField message "session" "validate_session_code_field"
          .sessionCode []).JudgesOnce
        environment data
        ⟨IsSessionCode (data.entered "session"),
          .text (data.entered "session")⟩ := by
    apply requiredField_judgesOnce
      (Check.Rules.sessionCode (login.asText_submitted "session"))
    · exact .single (isBrief_sessionCode _) (.self "session")
    · rw [Ruling.someFails_cons, Ruling.someFails_nil, Bool.or_false,
        Verdict.isRejected_eq_false_iff]
      simp only [sessionCode_eq_accepted_iff, exists_and_left,
        exists_eq', and_true]
    · intro isCode
      exact login.isEmpty_submitted (strip_ne_empty_of_isSessionCode isCode)
    · intro isCode
      rw [sessionCode_eq_accepted_iff.mpr ⟨isCode, rfl⟩]
      exact Ruling.verdictAt?_concat "session" _ []
  exact .cons program (.cons session .nil)

/--
Every login is answered. It passes exactly if a program number and a session code
were entered, and then has the former in upper case and without the blanks
around it. Otherwise there is one message for each input that is wrong.
-/
theorem outcome_of_login
    (ready : IsReady environment minimal)
    (login : IsLogin data)
    (context : Value) :
    ∃ outcome,
      ((validator Registry.standard).run environment data context).ended =
          .ok outcome ∧
        (outcome.hasPassed = true ↔
          IsProgramNumber (Text.strip (data.entered "program"))
              (max Check.earliestYear minimal) environment.nextYear ∧
            IsSessionCode (data.entered "session")) ∧
        (outcome.hasPassed = true →
          outcome =
            .passed
              (.record
                [("program",
                    .text
                      (String.ofList
                        (Check.upperText (data.entered "program")))),
                  ("session", .text (data.entered "session"))])) ∧
        (outcome.hasPassed = false →
          ∃ messages : List (String × String),
            outcome =
                .failed
                  (.record
                    (messages.map fun message =>
                      (message.1, .list [.text message.2]))) ∧
              (messages.map Prod.fst).Nodup ∧
              ∀ field,
                field ∈ messages.map Prod.fst ↔
                  field = "program" ∧
                      ¬IsProgramNumber
                        (Text.strip (data.entered "program"))
                        (max Check.earliestYear minimal)
                        environment.nextYear ∨
                    field = "session" ∧
                      ¬IsSessionCode (data.entered "session")) := by
  obtain ⟨message, isText⟩ := ready.requiredMessage
  have arranged :=
    arranges isText ready.minimalYear login.isRecord context
  have writable :=
    isWritable_plan message ready.minimalWritable ready.nextWritable
  have apart := apart_plan message minimal environment.nextYear
  have once := judgesOnce_plan ready login message
  have conditions :
      (∀ judgement ∈
          judgements data (max Check.earliestYear minimal)
            environment.nextYear,
          judgement.condition) ↔
        IsProgramNumber (Text.strip (data.entered "program"))
            (max Check.earliestYear minimal) environment.nextYear ∧
          IsSessionCode (data.entered "session") := by
    simp [judgements]
  by_cases holds :
      IsProgramNumber (Text.strip (data.entered "program"))
          (max Check.earliestYear minimal) environment.nextYear ∧
        IsSessionCode (data.entered "session")
  · refine ⟨_,
      arranged.run_passes_of_judgesOnce rfl writable apart once
        (conditions.mpr holds),
      iff_of_true rfl holds, fun _ => rfl, nofun⟩
  · rw [← conditions] at holds
    obtain ⟨messages, answered, ordered, failing⟩ :=
      arranged.run_fails_of_judgesOnce rfl writable apart once holds
    rw [conditions] at holds
    refine ⟨_, answered, iff_of_false nofun holds, nofun, fun _ => ?_⟩
    refine ⟨messages, ?_, ordered.nodup ?_, fun field => ?_⟩
    · unfold Payload.toValue Payload.ofSingles
      rw [List.map_map]
      rfl
    · exact Plan.nodup_fields (apart.imp Step.Apart.strangers)
    · rw [failing]
      simp [plan, requiredField, judgements, eq_comm]

/-- A login of an engineer, for a program of the next year. -/
def engineer : Value :=
  .record
    [("program", .text " 2026b007\t"), ("session", .text "tisanpwd")]

/-- The engineer is logged in, with the program number in upper case. -/
theorem outcome_of_login_engineer :
    let environment : Environment := .on ⟨2025, 6, 1⟩
    IsReady environment 2000 ∧
      IsLogin engineer ∧
      ((validator Registry.standard).run environment engineer
            .null).ended =
        .ok
          (.passed
            (.record
              [("program", .text "2026B007"),
                ("session", .text "tisanpwd")])) := by
  intro environment
  have ready : IsReady environment 2000 :=
    ⟨⟨_, rfl⟩, rfl, Number.isWritable_of_lt (by decide), rfl⟩
  have login : IsLogin engineer := by
    refine ⟨_, rfl, ?_⟩
    simp only [List.forall_mem_cons]
    exact ⟨.inr ⟨_, rfl⟩, .inr ⟨_, rfl⟩, List.forall_mem_nil _⟩
  have program : engineer.entered "program" = " 2026b007\t" := rfl
  have session : engineer.entered "session" = "tisanpwd" := rfl
  have isNumber :
      IsProgramNumber (Text.strip (engineer.entered "program"))
        (max Check.earliestYear 2000) environment.nextYear := by
    rw [program]
    exact ⟨['2', '0', '2', '6'], 'b', ['0', '0', '7'], by decide, by decide,
      ⟨List.all_eq_true.mp rfl, List.all_eq_true.mp rfl⟩, by decide⟩
  have isCode : IsSessionCode (engineer.entered "session") := by
    rw [session]
    exact .inl (List.mem_cons_self ..)
  obtain ⟨outcome, answered, passes, values, _⟩ :=
    outcome_of_login ready login .null
  rw [values (passes.mpr ⟨isNumber, isCode⟩), program, session] at answered
  exact ⟨ready, login, answered⟩

end FormCheck.Form.Login
