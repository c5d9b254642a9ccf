import FormCheck.Form.GuestAccount
import FormCheck.Proofs.Check.Decision.Text
import FormCheck.Proofs.Form.Step
import FormCheck.Proofs.Memory

namespace FormCheck.Form.GuestAccount

/-!
# What the guest account form lets pass

A run of the form answers exactly if each integer that the plan of the submitted
command reads fits into the memory. If it passes, the command is one of those of the
form, its clean values have the fields of the command, in order, and each of them is
what its field promises.
-/

/-! ## The plan -/

/-- The step of the command. -/
def commandField
    (message : String) : Step :=
  requiredField message "command" "validate_string_in_set" .textAmong
    [.list (commands.map Value.text)]

/-- The step of the user name. -/
def userNameField
    (message : String) : Step :=
  requiredField message "username" "validate_username" .userName [.int 8]

/-- The step of the expiry. -/
def expiryField
    (message : String) : Step :=
  requiredField message "expiredays" "validate_unix_timestamp" .timestamp
    [.int 1]

/-- The step of the account type. -/
def accountTypeField
    (message : String) : Step :=
  requiredField message typeField "validate_selection" .selection
    [.list (accountTypes.map Value.int)]

/-- The step of the number of a user or a group. -/
def accountField
    (message field : String)
    (least : Int) : Step :=
  requiredField message field "validate_number_in_range" .numberInRange
    [.int least, .int maximalAccount, .text ("Invalid " ++ field ++ ".")]

/-- The step of a name of at most fifty characters. -/
def nameField
    (message field : String) : Step :=
  requiredField message field "validate_name_field" .personName [.int 50]

/-- The step of the login shell. -/
def shellField
    (message : String) : Step :=
  requiredField message "shell" "validate_shell_field" .shell []

/-- The names of a guest account. -/
def nameFields : List String :=
  ["acctname", "passwd"]

/-- The least number of a user, zero only for one to be removed. -/
def leastUser
    (command : Value) : Int :=
  if command == .text "removeguest" then 0 else 1

/-- The plan for a command. -/
def plan
    (message : String)
    (command : Value) : Plan :=
  if command == .text "clearguest" || command == .text "createguest" then
    [commandField message]
  else if command == .text "extendguest" then
    [commandField message, userNameField message, expiryField message]
  else if command == .text "removeguest" then
    [commandField message, userNameField message,
      accountField message "uid" 0, accountTypeField message]
  else
    [commandField message, userNameField message,
      nameField message "acctname", accountField message "uid" 1,
      accountField message "gid" 1, shellField message,
      nameField message "passwd", accountTypeField message]

/-- The fields that some plan reads as integers. -/
def integerFields : List String :=
  ["expiredays", "uid", "gid"]

/-- The fields that the plan for a command reads as integers. -/
def numberFields
    (command : Value) : List String :=
  if command == .text "clearguest" || command == .text "createguest" then
    []
  else if command == .text "extendguest" then
    ["expiredays"]
  else if command == .text "removeguest" then
    ["uid"]
  else
    ["uid", "gid"]

/-- A plan reads as integers those of its fields that any plan does. -/
theorem numberFields_eq
    (message : String)
    (command : Value) :
    numberFields command =
      ((plan message command).map Step.field).filter
        integerFields.contains := by
  unfold numberFields plan
  split
  · rfl
  · split
    · rfl
    · split <;> rfl

/-- A field is read as an integer exactly if a step has it and any plan does so. -/
theorem mem_numberFields_iff
    (message : String)
    {command : Value}
    {field : String} :
    field ∈ numberFields command ↔
      (∃ step ∈ plan message command, step.field = field) ∧
        field ∈ integerFields := by
  rw [numberFields_eq message, List.mem_filter, List.mem_map,
    List.contains_iff_mem]

/-- The raw steps for a command stand for its plan, whatever text the message is. -/
theorem normalize_rawSteps_of_characters
    {settings : Settings}
    {message : String}
    (isText : Plan.characters? settings.requiredMessage = some message)
    (command : Value) :
    (Plan.normalize settings Registry.standard
        (.list (rawSteps command))).ended =
      .ok (plan message command) := by
  rcases settings with ⟨_, _, _, _, required, _, _, _, _⟩
  cases required with
  | text =>
      cases isText
      unfold rawSteps plan
      split
      · rfl
      · split
        · rfl
        · split <;> rfl
  | _ =>
      cases isText

/-- The raw steps for a command stand for its plan. -/
theorem normalize_rawSteps
    {settings : Settings}
    {message : String}
    (isText : settings.requiredMessage = .text message)
    (command : Value) :
    (Plan.normalize settings Registry.standard
        (.list (rawSteps command))).ended =
      .ok (plan message command) :=
  normalize_rawSteps_of_characters (by rw [isText]; rfl) command

/-- Every plan asks for the command. -/
theorem commandField_mem_plan
    (message : String)
    (command : Value) :
    commandField message ∈ plan message command := by
  unfold plan
  split
  · exact List.mem_cons_self ..
  · split
    · exact List.mem_cons_self ..
    · split <;> exact List.mem_cons_self ..

/-- The steps that a plan may have. -/
theorem mem_plan
    {message : String}
    {command : Value}
    {step : Step}
    (member : step ∈ plan message command) :
    step = commandField message ∨
      step = userNameField message ∨
      step = expiryField message ∨
      step = accountTypeField message ∨
      step = accountField message "uid" (leastUser command) ∨
      step = accountField message "gid" 1 ∨
      step = shellField message ∨
      ∃ field ∈ nameFields, step = nameField message field := by
  unfold plan at member
  simp only [nameFields, List.mem_cons, List.not_mem_nil, or_false,
    exists_eq_or_imp, exists_eq_left]
  split at member
  case isTrue =>
    exact .inl (List.mem_singleton.mp member)
  case isFalse =>
    split at member
    case isTrue =>
      simp only [List.mem_cons, List.not_mem_nil, or_false] at member
      tauto
    case isFalse =>
      split at member
      case isTrue removes =>
        rw [leastUser, if_pos removes]
        simp only [List.mem_cons, List.not_mem_nil, or_false] at member
        tauto
      case isFalse stays =>
        rw [leastUser, if_neg stays]
        simp only [List.mem_cons, List.not_mem_nil, or_false] at member
        tauto

/-! ## What the steps promise -/

/-- The login shells. -/
def shells : List String :=
  ["/bin/bash", "/bin/csh", "/bin/sh", "/bin/tcsh", "/bin/zsh"]

/-- What the form promises of the clean value of a field. -/
inductive IsClean (data command : Value) : String → Value → Prop where
  | command
      (text : String)
      (submitted : data.submitted "command" = .text text)
      (listed : text ∈ commands) :
      IsClean data command "command" (.text text)
  | userName
      (text : String)
      (shows : (data.submitted "username").asText = .ok text)
      (present : text ≠ "")
      (short : text.length ≤ 8)
      (letters : ∀ letter ∈ text.toList, Text.isAsciiAlphanumeric letter) :
      IsClean data command "username" (.text text)
  | expiry
      (number : Int)
      (writes : (data.submitted "expiredays").toInt? = some number)
      (least : 1 ≤ number)
      (greatest : number ≤ 253402300799) :
      IsClean data command "expiredays" (.int number)
  | accountType
      (number : Int)
      (chosen :
        (Check.selectedOptions (data.submitted typeField)).head? =
          some (.text (Number.decimalText number)))
      (least : 0 ≤ number)
      (greatest : number ≤ 10) :
      IsClean data command typeField (.int number)
  | user
      (number : Int)
      (writes : (data.submitted "uid").toInt? = some number)
      (least : leastUser command ≤ number)
      (greatest : number ≤ maximalAccount) :
      IsClean data command "uid" (.int number)
  | group
      (number : Int)
      (writes : (data.submitted "gid").toInt? = some number)
      (least : 1 ≤ number)
      (greatest : number ≤ maximalAccount) :
      IsClean data command "gid" (.int number)
  | shell
      (text : String)
      (shows : (data.submitted "shell").asText = .ok text)
      (listed : text ∈ shells) :
      IsClean data command "shell" (.text text)
  | name
      (field : String)
      (isName : field ∈ nameFields)
      (submitted text : String)
      (shows : (data.submitted field).asText = .ok submitted)
      (strips : Text.strip submitted = text)
      (present : text ≠ "")
      (stripped : Text.strip text = text)
      (short : text.length ≤ 50) :
      IsClean data command field (.text text)

/-- A clean command is the one that was submitted. -/
theorem IsClean.submitted_command
    {data command value : Value}
    {field : String}
    (isClean : IsClean data command field value)
    (isCommand : field = "command") :
    ∃ text ∈ commands, data.submitted "command" = .text text := by
  cases isClean with
  | command text submitted listed =>
      exact ⟨text, listed, submitted⟩
  | name field isName =>
      subst isCommand
      exact absurd isName (by decide)
  | _ =>
      exact absurd isCommand (by decide)

/-- The clean value of a field, from what its step accepts. -/
def cleaned
    (field : String)
    (accepted : Value) : Except Fault Value := do
  if field = typeField then
    return .int (← (← accepted.first).toInteger)
  else
    return accepted

/--
A step keeps its promise if it decides, and if it accepts a value last, unless it
rejects something, that has a clean value with what the form promises of it.
-/
def Keeps
    (environment : Environment)
    (data command : Value)
    (step : Step) : Prop :=
  ∃ rulings,
    step.Decides environment data rulings ∧
      (Ruling.someFails rulings = false →
        ∃ accepted clean,
          Ruling.verdictAt? step.field rulings =
              some (.accepted accepted) ∧
            cleaned step.field accepted = .ok clean ∧
            IsClean data command step.field clean)

section Steps

variable
  {environment : Environment}
  {data command : Value}

/-- A required step keeps what its capability promises of inputs filled in. -/
theorem keeps_of_rules
    {field : String}
    {capability : Capability}
    {arguments : List Value}
    {verdict : Verdict}
    (rules :
      Check.Rules field []
        (capability.call environment
          (data.submitted field :: .text field :: arguments))
        () [⟨field, verdict⟩])
    (promises :
      ∀ accepted, (data.submitted field).isEmpty = false →
        verdict = .accepted accepted →
          ∃ clean,
            cleaned field accepted = .ok clean ∧
              IsClean data command field clean)
    (message method : String) :
    Keeps environment data command
      (requiredField message field method capability arguments) := by
  let step := requiredField message field method capability arguments
  refine ⟨_,
    step.decides
      (List.forall_mem_singleton.mpr (Report.not_startsWith_self field))
      fun _ => rules,
    fun passed => ?_⟩
  rw [Step.someFails_rulings, Bool.or_eq_false_iff] at passed
  obtain ⟨complete, flawless⟩ := passed
  have present : (data.submitted field).isEmpty = false := by
    simpa [step, requiredField, Step.isLacking] using complete
  cases verdict with
  | rejected text others =>
      cases flawless
  | accepted accepted =>
      obtain ⟨clean, promise⟩ := promises accepted present rfl
      refine ⟨accepted, clean, ?_, promise⟩
      unfold Step.rulings
      rw [complete]
      exact Ruling.verdictAt?_concat ..

/-- The step of the command keeps its promise. -/
theorem keeps_commandField
    (submission : data.IsSubmission)
    (message : String) :
    Keeps environment data command (commandField message) := by
  have isInput := submission.isInput_submitted "command"
  obtain ⟨text, shows⟩ := isInput.exists_asText
  refine keeps_of_rules (Check.Rules.textAmong shows rfl) ?_ ..
  intro accepted _ isAccepted
  obtain ⟨listed, rfl⟩ := Verdict.provided_eq_accepted_iff.mp isAccepted
  have member : text ∈ commands := by
    simpa using listed
  exact ⟨_, rfl,
    .command text (isInput.eq_text_of_mem shows member (by decide))
      member⟩

/-- The step of the user name keeps its promise. -/
theorem keeps_userNameField
    (submission : data.IsSubmission)
    (message : String) :
    Keeps environment data command (userNameField message) := by
  obtain ⟨text, shows⟩ :=
    (submission.isInput_submitted "username").exists_asText
  have writable : Number.isWritable 8 = true :=
    Number.isWritable_of_lt (by decide)
  refine keeps_of_rules (Check.Rules.userName shows writable) ?_ ..
  intro accepted _ isAccepted
  obtain ⟨short, letters⟩ := Verdict.userName_eq_accepted_iff.mp isAccepted
  obtain ⟨proper, rfl⟩ := Verdict.provided_eq_accepted_iff.mp letters
  rw [Bool.and_eq_true, Bool.not_eq_true', List.all_eq_true] at proper
  refine ⟨_, rfl, .userName text shows ?_ ?_ proper.2⟩
  · rintro rfl
    exact absurd proper.1 (by decide)
  · omega

/-- The step of the expiry keeps its promise if the number of days fits. -/
theorem keeps_expiryField
    (fits : (data.submitted "expiredays").FitsInto environment.memory)
    (message : String) :
    Keeps environment data command (expiryField message) := by
  have lowerWritable : Number.isWritable (max 0 1) = true :=
    Number.isWritable_of_lt (by decide)
  have upperWritable :
      Number.isWritable
          (min Check.maximalTimestamp Check.maximalTimestamp) =
        true :=
    Number.isWritable_of_lt (by decide)
  refine keeps_of_rules
    (Check.Rules.clampedRange fits lowerWritable upperWritable) ?_ ..
  intro accepted _ isAccepted
  obtain ⟨number, writes, inside, rfl⟩ :=
    Verdict.integerIn_eq_accepted_iff.mp isAccepted
  have least := inside.1 _ rfl
  have greatest := inside.2 _ rfl
  rw [Check.maximalTimestamp] at greatest
  exact ⟨_, rfl, .expiry number writes (by omega) (by omega)⟩

/-- The step of the number of a user or a group keeps its promise if it fits. -/
theorem keeps_accountField
    {field : String}
    (isOther : field ≠ typeField)
    (fits : (data.submitted field).FitsInto environment.memory)
    {least : Int}
    (promises :
      ∀ number, (data.submitted field).toInt? = some number →
        least ≤ number → number ≤ maximalAccount →
          IsClean data command field (.int number))
    (message : String) :
    Keeps environment data command (accountField message field least) := by
  have present : "Invalid " ++ field ++ "." ≠ "" := by
    intro blank
    have noLength := congrArg String.length blank
    simp only [String.length_append] at noLength
    exact absurd noLength (Nat.succ_ne_zero _)
  refine keeps_of_rules
    (Check.Rules.numberInRange_of_message fits least maximalAccount present)
    ?_ ..
  intro accepted _ isAccepted
  obtain ⟨number, writes, ⟨atLeast, atMost⟩, rfl⟩ :=
    Verdict.numberIn_eq_accepted_iff.mp isAccepted
  exact ⟨_, if_neg isOther, promises number writes atLeast atMost⟩

/-- The step of the login shell keeps its promise. -/
theorem keeps_shellField
    (submission : data.IsSubmission)
    (message : String) :
    Keeps environment data command (shellField message) := by
  obtain ⟨text, shows⟩ :=
    (submission.isInput_submitted "shell").exists_asText
  refine keeps_of_rules (Check.Rules.textAmong shows rfl) ?_ ..
  intro accepted _ isAccepted
  obtain ⟨listed, rfl⟩ := Verdict.provided_eq_accepted_iff.mp isAccepted
  exact ⟨_, rfl, .shell text shows (by simpa [shells] using listed)⟩

/-- The step of a name keeps its promise. -/
theorem keeps_nameField
    (submission : data.IsSubmission)
    {field : String}
    (isName : field ∈ nameFields)
    (message : String) :
    Keeps environment data command (nameField message field) := by
  have isInput := submission.isInput_submitted field
  obtain ⟨text, shows⟩ := isInput.exists_asText
  have writable : Number.isWritable 50 = true :=
    Number.isWritable_of_lt (by decide)
  refine keeps_of_rules (Check.Rules.name shows writable) ?_ ..
  intro accepted present isAccepted
  obtain ⟨short, rfl⟩ := Verdict.provided_eq_accepted_iff.mp isAccepted
  have isOther : ∀ field ∈ nameFields, field ≠ typeField := by
    decide
  exact ⟨_, if_neg (isOther field isName),
    .name field isName text _ shows rfl
      (isInput.strip_ne_empty present shows) (Text.strip_strip text)
      (by omega)⟩

/-- The texts of the account types are decimals that can be read back. -/
theorem toInteger_of_mem_accountTypes
    {text : String}
    (listed : text ∈ accountTypes.map Number.decimalText) :
    ∃ number, Value.toInteger (.text text) = .ok number ∧
      text = Number.decimalText number ∧ 0 ≤ number ∧ number ≤ 10 := by
  have readBack :
      ∀ number ∈ accountTypes,
        Value.toInteger (.text (Number.decimalText number)) =
            .ok number ∧
          0 ≤ number ∧ number ≤ 10 := by
    decide
  obtain ⟨number, member, rfl⟩ := List.mem_map.mp listed
  obtain ⟨reads, bounds⟩ := readBack number member
  exact ⟨number, reads, rfl, bounds⟩

/-- The step of the account type keeps its promise. -/
theorem keeps_accountTypeField
    (submission : data.IsSubmission)
    (message : String) :
    Keeps environment data command (accountTypeField message) := by
  have isInput := submission.isInput_submitted typeField
  have small :
      ∀ number ∈ accountTypes, number.natAbs < 1000000000000 := by
    decide
  have allows :
      Check.allowedOptions (.list (accountTypes.map Value.int)) true =
        .ok (accountTypes.map Number.decimalText) := by
    rw [Check.allowedOptions_list]
    exact Check.shownAll_map fun number member =>
      Value.shown_int (Number.isWritable_of_lt (small number member))
  obtain ⟨options, areOptions, rules⟩ :=
    isInput.rules_selection allows environment typeField
  refine keeps_of_rules rules ?_ ..
  intro accepted present isAccepted
  obtain ⟨allowed, rfl⟩ := Verdict.selection_eq_accepted_iff.mp isAccepted
  have chosen := isInput.selectedOptions_ne_nil present
  rw [areOptions] at chosen
  cases options with
  | nil =>
      exact absurd rfl chosen
  | cons first others =>
      obtain ⟨number, reads, isDecimal, least, greatest⟩ :=
        toInteger_of_mem_accountTypes (allowed first (List.mem_cons_self ..))
      refine ⟨.int number, ?_, .accountType number ?_ least greatest⟩
      · have isFirst :
            (Value.list ((first :: others).map .text)).first =
              .ok (.text first) :=
          rfl
        unfold cleaned
        rw [if_pos rfl, isFirst]
        simp [bind, Except.bind, reads, pure, Except.pure]
      · rw [areOptions, isDecimal]
        rfl

/-- Every step of a plan keeps its promise if what the plan reads fits. -/
theorem keeps_of_mem_plan
    (submission : data.IsSubmission)
    (fit :
      ∀ field ∈ numberFields command,
        (data.submitted field).FitsInto environment.memory)
    {message : String}
    {step : Step}
    (member : step ∈ plan message command) :
    Keeps environment data command step := by
  have fitsThere
      {field : String}
      (isField : step.field = field)
      (isNumber : field ∈ integerFields) :
      (data.submitted field).FitsInto environment.memory :=
    fit field
      ((mem_numberFields_iff message).mpr ⟨⟨step, member, isField⟩, isNumber⟩)
  rcases mem_plan member with
    rfl | rfl | rfl | rfl | rfl | rfl | rfl | ⟨field, isName, rfl⟩
  · exact keeps_commandField submission message
  · exact keeps_userNameField submission message
  · exact keeps_expiryField (fitsThere rfl (by decide)) message
  · exact keeps_accountTypeField submission message
  · have userFits : (data.submitted "uid").FitsInto environment.memory :=
      fitsThere rfl (by decide)
    exact keeps_accountField (by decide) userFits .user message
  · have groupFits : (data.submitted "gid").FitsInto environment.memory :=
      fitsThere rfl (by decide)
    exact keeps_accountField (by decide) groupFits .group message
  · exact keeps_shellField submission message
  · exact keeps_nameField submission isName message

/-- What a step reads as an integer fits if the step ends without a fault. -/
theorem fitsInto_of_ended
    {message : String}
    {step : Step}
    (member : step ∈ plan message command)
    (isNumber : step.field ∈ integerFields)
    (ended : (step.act environment data .empty).ended = .ok ()) :
    (data.submitted step.field).FitsInto environment.memory := by
  rcases mem_plan member with
    rfl | rfl | rfl | rfl | rfl | rfl | rfl | ⟨field, isName, rfl⟩
  · exact absurd isNumber (by simp [commandField, requiredField, integerFields])
  · exact absurd isNumber (by simp [userNameField, requiredField, integerFields])
  · exact requiredField_fitsInto (.clampedRange ..) ended
  · exact absurd isNumber
      (by simp [accountTypeField, typeField, requiredField, integerFields])
  · exact requiredField_fitsInto (.numberInRange ..) ended
  · exact requiredField_fitsInto (.numberInRange ..) ended
  · exact absurd isNumber (by simp [shellField, requiredField, integerFields])
  · have isOther :
        ∀ field ∈ nameFields, field ∉ integerFields := by
      decide
    exact absurd isNumber (isOther field isName)

end Steps

/-! ## What passes -/

/-- The fields of the clean values for a command. -/
def cleanFields
    (command : String) : List String :=
  if command = "extendguest" then
    ["command", "username", "expiredays"]
  else if command = "removeguest" then
    ["command", "username", "uid", "accttype"]
  else if command = "addguest" then
    ["command", "username", "acctname", "uid", "gid", "shell", "passwd",
      "accttype"]
  else
    ["command"]

/-- The steps of a plan have the fields of its command. -/
theorem fields_plan
    {command : String}
    (listed : command ∈ commands)
    (message : String) :
    (plan message (.text command)).map Step.field = cleanFields command := by
  simp only [commands, List.mem_cons, List.not_mem_nil, or_false] at listed
  rcases listed with rfl | rfl | rfl | rfl | rfl <;> rfl

/-- The fields that a plan may have, in their order. -/
def allFields : List String :=
  ["command", "username", "expiredays", "acctname", "uid", "gid", "shell",
    "passwd", "accttype"]

/-- The steps of a plan have some of the fields as their names. -/
theorem names_plan_sublist
    (message : String)
    (command : Value) :
    ((plan message command).map Step.names).Sublist
      (allFields.map fun field => [field, field]) := by
  unfold plan
  split
  · exact List.isSublist_iff_sublist.mp rfl
  · split
    · exact List.isSublist_iff_sublist.mp rfl
    · split <;> exact List.isSublist_iff_sublist.mp rfl

/-- The arguments of the steps can be written. -/
theorem isWritable_arguments
    {message : String}
    {command : Value}
    {step : Step}
    (member : step ∈ plan message command) :
    ∀ argument ∈ step.arguments, argument.IsWritable := by
  have small :
      ∀ number ∈ accountTypes, number.natAbs < 1000000000000 := by
    decide
  have userSmall : (leastUser command).natAbs < 1000000000000 := by
    unfold leastUser
    split <;> decide
  have account
      (field : String)
      {least : Int}
      (leastSmall : least.natAbs < 1000000000000) :
      ∀ argument ∈ (accountField message field least).arguments,
        argument.IsWritable := by
    refine List.forall_mem_cons.mpr
      ⟨Value.isWritable_int_of_lt leastSmall, ?_⟩
    refine List.forall_mem_cons.mpr
      ⟨Value.isWritable_int_of_lt (by decide), ?_⟩
    exact List.forall_mem_singleton.mpr ⟨_, rfl⟩
  rcases mem_plan member with
    rfl | rfl | rfl | rfl | rfl | rfl | rfl | ⟨field, _, rfl⟩
  · refine List.forall_mem_singleton.mpr (Value.isWritable_list_iff.mpr ?_)
    exact List.forall_mem_map.mpr fun text _ => ⟨_, rfl⟩
  · exact List.forall_mem_singleton.mpr
      (Value.isWritable_int_of_lt (by decide))
  · exact List.forall_mem_singleton.mpr
      (Value.isWritable_int_of_lt (by decide))
  · refine List.forall_mem_singleton.mpr (Value.isWritable_list_iff.mpr ?_)
    exact List.forall_mem_map.mpr fun number isType =>
      Value.isWritable_int_of_lt (small number isType)
  · exact account "uid" userSmall
  · exact account "gid" (by decide)
  · exact List.forall_mem_nil _
  · exact List.forall_mem_singleton.mpr
      (Value.isWritable_int_of_lt (by decide))

/-- The steps of a plan fit the library. -/
theorem fits_of_mem_plan
    {message : String}
    {command : Value} :
    ∀ step ∈ plan message command, step.Fits := by
  intro step member
  rcases mem_plan member with
    rfl | rfl | rfl | rfl | rfl | rfl | rfl | ⟨field, _, rfl⟩
  all_goals exact fits_requiredField rfl (by decide) rfl ..

/-- The steps of a plan are strangers. -/
theorem strangers_plan
    (message : String)
    (command : Value) :
    (plan message command).Pairwise Step.Strangers := by
  have foreign :
      (allFields.map fun field => [field, field]).Pairwise
        Step.AreForeign := by
    decide
  exact Step.pairwise_strangers_of_names rfl
    (foreign.sublist (names_plan_sublist ..))

/-- The command that some data asks for, which is the default one if none is given. -/
def requestedCommand
    (data : Value) : Value :=
  (data.submitted "command").orElse (.text defaultCommand)

/-- The form arranges the plan of the command that the data asks for. -/
theorem arranges
    {environment : Environment}
    {data : Value}
    {message : String}
    (isText : environment.settings.requiredMessage = .text message)
    (isRecord : data.IsRecord)
    (context : Value) :
    (validator Registry.standard).Arranges environment data context
      (plan message (requestedCommand data)) where
  gate := rfl
  isRecord := isRecord
  stands := by
    refine ⟨_, ?_, normalize_rawSteps isText _⟩
    change rawPlan data = _
    unfold rawPlan
    rw [Value.get_text isRecord.isMapping]
    rfl
  fits := fits_of_mem_plan
  spares :=
    Step.pairwise_spares fits_of_mem_plan (strangers_plan ..) environment
      data

/-- Putting a value under a field of a plan replaces the one of its step. -/
theorem put_map
    {steps : Plan}
    (distinct : (steps.map Step.field).Nodup)
    {field : String}
    (isField : field ∈ steps.map Step.field)
    (value : Value)
    (values : Step → Value) :
    put field value (steps.map fun step => (step.field, values step)) =
      steps.map fun step =>
        (step.field, if step.field = field then value else values step) := by
  induction steps with
  | nil =>
      cases isField
  | cons step rest inductionHypothesis =>
      rw [List.map_cons, List.nodup_cons] at distinct
      rw [List.map_cons, List.map_cons, put]
      by_cases same : step.field = field
      · subst same
        have others :
            ∀ other ∈ rest, other.field ≠ step.field :=
          fun other member equal =>
            distinct.1 (List.mem_map.mpr ⟨other, member, equal⟩)
        rw [if_pos (beq_self_eq_true _), if_pos rfl]
        refine congrArg _ (List.map_congr_left fun other member => ?_)
        rw [if_neg (others other member)]
      · have isLater : field ∈ rest.map Step.field := by
          rcases List.mem_cons.mp isField with first | later
          · exact absurd first.symm same
          · exact later
        rw [if_neg (by simpa using same), if_neg same,
          inductionHypothesis distinct.2 isLater]

/-- The form shows the clean value of each step if it has one. -/
theorem values_eq
    {steps : Plan}
    {result : Result}
    (distinct : (steps.map Step.field).Nodup)
    {clean : Step → Value}
    (isClean :
      ∀ step ∈ steps,
        cleaned step.field (result.value step.key) = .ok (clean step)) :
    values steps result =
      .ok (steps.map fun step => (step.field, clean step)) := by
  unfold values
  dsimp only
  rw [Report.lookup_standardValues, Report.standardValues_eq_map distinct]
  -- Only the account type is rewritten, and only if the plan asks for it.
  split
  case h_1 absent =>
    have unasked : typeField ∉ steps.map Step.field := by
      simpa using absent
    refine congrArg Except.ok (List.map_congr_left fun step member => ?_)
    have isOther : step.field ≠ typeField :=
      fun same => unasked (List.mem_map.mpr ⟨step, member, same⟩)
    have isAccepted := isClean step member
    rw [cleaned, if_neg isOther] at isAccepted
    rw [Except.ok.inj isAccepted]
  case h_2 chosen present =>
    obtain ⟨isField, isChosen⟩ :
        typeField ∈ steps.map Step.field ∧
          result.value (.text typeField) = chosen := by
      simpa using present
    obtain ⟨typeStep, isTypeStep, isType⟩ := List.mem_map.mp isField
    have readsChoice
        (step : Step)
        (member : step ∈ steps)
        (same : step.field = typeField) :
        cleaned typeField chosen = .ok (clean step) := by
      have isAccepted := isClean step member
      rwa [Step.key, same, isChosen] at isAccepted
    have reads := readsChoice typeStep isTypeStep isType
    rw [cleaned, if_pos rfl] at reads
    obtain ⟨option, isFirst, continued⟩ := Except.bind_eq_ok_iff.mp reads
    obtain ⟨number, isNumber, isInt⟩ := Except.bind_eq_ok_iff.mp continued
    rw [isFirst]
    simp only [bind, Except.bind, isNumber]
    rw [put_map distinct isField]
    refine congrArg Except.ok (List.map_congr_left fun step member => ?_)
    by_cases same : step.field = typeField
    · have sameClean :=
        (readsChoice step member same).symm.trans
          (readsChoice typeStep isTypeStep isType)
      rw [if_pos same, Except.ok.inj sameClean, Except.ok.inj isInt]
    · have isAccepted := isClean step member
      rw [cleaned, if_neg same] at isAccepted
      rw [if_neg same, Except.ok.inj isAccepted]

/-- Where a plan leaves no message, its clean values are what the form promises. -/
theorem exists_values
    {environment : Environment}
    {data command : Value}
    {steps : Plan}
    (fits : ∀ step ∈ steps, step.Fits)
    (strangers : steps.Pairwise Step.Strangers)
    (keeps : ∀ step ∈ steps, Keeps environment data command step)
    (passed : (steps.own environment data).hasErrors = false) :
    ∃ clean : CleanValues,
      values steps (steps.own environment data) = .ok clean ∧
        clean.map Prod.fst = steps.map Step.field ∧
        ∀ item ∈ clean, IsClean data command item.1 item.2 := by
  have promised
      (step : Step) :
      ∃ clean, step ∈ steps →
        cleaned step.field
              ((steps.own environment data).value step.key) =
            .ok clean ∧
          IsClean data command step.field clean := by
    by_cases member : step ∈ steps
    · obtain ⟨rulings, decides, promise⟩ := keeps step member
      obtain ⟨accepted, clean, decided, isCleaned, isClean⟩ :=
        promise (Plan.someFails_eq_false passed member decides)
      have stored :
          (steps.own environment data).value step.key = accepted :=
        Plan.value_own_of_decides fits strangers member decides
          (.inl (.self step.field)) decided
      exact ⟨clean, fun _ => ⟨stored ▸ isCleaned, isClean⟩⟩
    · exact ⟨.null, fun isStep => absurd isStep member⟩
  choose clean promise using promised
  refine ⟨_,
    values_eq (Plan.nodup_fields strangers) fun step member =>
      (promise step member).1, ?_, ?_⟩
  · rw [List.map_map]
    rfl
  · exact List.forall_mem_map.mpr fun step member =>
      (promise step member).2

/-- A run of the form answers exactly if what its plan reads fits. -/
theorem answers_iff_fitInto
    {environment : Environment}
    {data : Value}
    {message : String}
    (isText : environment.settings.requiredMessage = .text message)
    (submission : data.IsSubmission)
    (context : Value) :
    (∃ outcome,
        ((validator Registry.standard).run environment data context).ended =
          .ok outcome) ↔
      ∀ field ∈ numberFields (requestedCommand data),
        (data.submitted field).FitsInto environment.memory := by
  have arranged :
      (validator Registry.standard).Arranges environment data context
        (plan message (requestedCommand data)) :=
    arranges isText submission.isRecord context
  constructor
  · rintro ⟨outcome, answered⟩ field isRead
    obtain ⟨⟨step, member, rfl⟩, isNumber⟩ :=
      (mem_numberFields_iff message).mp isRead
    have ended := (arranged.run_answers_iff.mp answered).2.1
    exact fitsInto_of_ended member isNumber (ended step member)
  · intro fit
    have keeps :
        ∀ step ∈ plan message (requestedCommand data),
          Keeps environment data (requestedCommand data) step :=
      fun _ => keeps_of_mem_plan submission fit
    have decides :
        ∀ step ∈ plan message (requestedCommand data),
          ∃ rulings, step.Decides environment data rulings := by
      intro step member
      obtain ⟨rulings, decided, _⟩ := keeps step member
      exact ⟨_, decided⟩
    have single :
        ∀ step ∈ plan message (requestedCommand data),
          step.isComposite = false := by
      intro step member
      rcases mem_plan member with
        rfl | rfl | rfl | rfl | rfl | rfl | rfl | ⟨field, _, rfl⟩
      all_goals rfl
    have keys := Plan.hasTextKeys_own arranged.fits environment data
    refine arranged.run_answers
      (Plan.isWritable_toValue_iff.mpr fun _ => isWritable_arguments)
      decides (Report.standardErrors_answers keys (.inl single)) ?_
    intro passed
    obtain ⟨clean, isShown, _⟩ :=
      exists_values arranged.fits (strangers_plan ..) keeps passed
    exact ⟨clean, isShown⟩

/--
A run of the form answers exactly if each integer that the plan of the requested
command reads fits into the memory. If it passes, the submitted command is one of
those of the form, the clean values have the fields of the command, in order, and
each of them is what the form promises.
-/
theorem answers_and_passes_clean
    {environment : Environment}
    {data : Value}
    {message : String}
    (isText : environment.settings.requiredMessage = .text message)
    (submission : data.IsSubmission)
    (context : Value) :
    ((∃ outcome,
          ((validator Registry.standard).run environment data
              context).ended =
            .ok outcome) ↔
        ∀ field ∈ numberFields (requestedCommand data),
          (data.submitted field).FitsInto environment.memory) ∧
      ∀ values,
        ((validator Registry.standard).run environment data
              context).ended =
            .ok (.passed values) →
          ∃ command ∈ commands, ∃ clean : CleanValues,
            data.submitted "command" = .text command ∧
              values = .record clean ∧
              clean.map Prod.fst = cleanFields command ∧
              ∀ item ∈ clean,
                IsClean data (.text command) item.1 item.2 := by
  have arranged :
      (validator Registry.standard).Arranges environment data context
        (plan message (requestedCommand data)) :=
    arranges isText submission.isRecord context
  have answersIff := answers_iff_fitInto isText submission context
  refine ⟨answersIff, fun values answered => ?_⟩
  have fit := answersIff.mp ⟨_, answered⟩
  obtain ⟨passed, clean, isShown, rfl⟩ := arranged.of_passed answered
  obtain ⟨found, isFound, fields, promises⟩ :=
    exists_values arranged.fits (strangers_plan ..)
      (fun _ => keeps_of_mem_plan submission fit) passed
  obtain rfl : clean = found :=
    Except.ok.inj (isShown.symm.trans isFound)
  have asks : "command" ∈ clean.map Prod.fst := by
    rw [fields]
    exact List.mem_map_of_mem (commandField_mem_plan ..)
  obtain ⟨item, isItem, isCommand⟩ := List.mem_map.mp asks
  obtain ⟨text, listed, submitted⟩ :=
    (promises item isItem).submitted_command isCommand
  have isCommandText : requestedCommand data = .text text := by
    have isTruthy : ∀ text ∈ commands, (Value.text text).isTruthy = true := by
      decide
    rw [requestedCommand, submitted, Value.orElse,
      if_pos (isTruthy text listed)]
  rw [isCommandText] at fields promises
  exact ⟨text, listed, clean, submitted, rfl,
    fields.trans (fields_plan listed message), promises⟩

/-- Data for a guest whose account is extended. -/
def extension : Value :=
  .record
    [("command", .text "extendguest"), ("username", .text "guest7"),
      ("expiredays", .text " 20 ")]

/-- Extending an account passes, with three clean values. -/
theorem answers_and_passes_clean_extension :
    let environment : Environment := .on ⟨2025, 6, 1⟩
    environment.settings.requiredMessage =
        .text "This field is required" ∧
      extension.IsSubmission ∧
      ∃ clean : CleanValues,
        ((validator Registry.standard).run environment extension
              .null).ended =
            .ok (.passed (.record clean)) ∧
          clean.map Prod.fst = ["command", "username", "expiredays"] ∧
          ∀ item ∈ clean,
            IsClean extension (.text "extendguest") item.1 item.2 := by
  intro environment
  have isText :
      environment.settings.requiredMessage =
        .text "This field is required" :=
    rfl
  have submission : extension.IsSubmission := by
    refine ⟨_, rfl, ?_⟩
    simp only [List.forall_mem_cons]
    exact ⟨.text _, .text _, .text _, List.forall_mem_nil _⟩
  have passes :
      ((validator Registry.standard).run environment extension
          .null).answersWith Outcome.hasPassed =
        true := by
    decide +kernel
  obtain ⟨found, answered, passed⟩ := Journal.exists_of_answersWith passes
  obtain ⟨_, promises⟩ := answers_and_passes_clean isText submission .null
  cases found with
  | failed errors =>
      cases passed
  | passed values =>
      obtain ⟨command, _, clean, submitted, rfl, fields, areClean⟩ :=
        promises values answered
      obtain rfl : "extendguest" = command := Value.text.inj submitted
      exact ⟨isText, submission, clean, answered, fields, areClean⟩

/-- Data for a guest who is added under a number that the memory does not hold. -/
def unboundedGuest : Value :=
  .record
    [("command", .text "addguest"), ("username", .text "guest7"),
      ("acctname", .text "Guest"), ("uid", Value.longLiteral),
      ("gid", .text "100"), ("shell", .text "/bin/bash"),
      ("passwd", .text "secret"), ("accttype", .text "3")]

/--
Not every submission of the form is answered: the number of a user that does not fit
into the memory is not refused with a message, but stops the run.
-/
theorem not_forall_isAnswered :
    ¬∀ (environment : Environment) (message : String)
        (data context : Value),
      environment.settings.requiredMessage = .text message →
        data.IsSubmission →
        ∃ outcome,
          ((validator Registry.standard).run environment data
              context).ended =
            .ok outcome := by
  intro isAnswered
  have submission : unboundedGuest.IsSubmission := by
    refine ⟨_, rfl, ?_⟩
    simp only [List.forall_mem_cons]
    exact ⟨.text _, .text _, .text _, .text _, .text _, .text _, .text _,
      .text _, List.forall_mem_nil _⟩
  have answered :=
    isAnswered (.on ⟨2025, 6, 1⟩) "This field is required" unboundedGuest
      .null rfl submission
  have isRead : "uid" ∈ numberFields (requestedCommand unboundedGuest) := by
    decide
  exact Value.not_fitsInto_longLiteral
    ((answers_iff_fitInto rfl submission .null).mp answered "uid" isRead)

end FormCheck.Form.GuestAccount
