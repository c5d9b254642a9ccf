import FormCheck.Proofs.Check.Passing
import FormCheck.Proofs.Members
import FormCheck.Proofs.Plan.UnknownKeys

namespace FormCheck

/-!
# What is accepted as a session code

A session code is one of the codes that are given, or a code of a guest, which is
any ten ASCII letters and digits. The codes may be given as any collection of
texts, and then each code is accepted as a whole. Only a text is not taken as the
collection of its characters: every part of it is accepted, however long.
-/

namespace Value

/-- Items are found in others exactly if they stand there in a row. -/
theorem occursIn_iff
    [BEq item]
    [LawfulBEq item]
    {part items : List item} :
    occursIn part items = true ↔ part <:+: items := by
  induction items with
  | nil =>
      rw [occursIn, List.isEmpty_iff, List.infix_nil]
  | cons leading rest inductionHypothesis =>
      rw [occursIn, Bool.or_eq_true, List.isPrefixOf_iff_prefix,
        inductionHypothesis, List.infix_cons_iff]

/-- A text is a part of a value that is a text and holds its characters in a row. -/
inductive HasPart : Value → String → Prop where
  | text
      {characters part : String}
      (inRow : part.toList <:+: characters.toList) :
      HasPart (.text characters) part

variable
  {value : Value}
  {members : List Value}

/-- A value with members counts as true. -/
theorem isTruthy_of_members
    (areMembers : value.members = .ok members)
    (present : members ≠ []) :
    value.isTruthy = true := by
  cases value with
  | list items | tuple items | set items =>
      cases areMembers
      simpa [isTruthy] using present
  | dict entries =>
      cases areMembers
      simpa [isTruthy] using present
  | text characters =>
      cases areMembers
      simpa [isTruthy] using present
  | bytes octets =>
      cases areMembers
      simpa [isTruthy] using present
  | null | bool | int | float | date | dateTime | cycle =>
      cases areMembers

/-- A text is among some values exactly if one of them is that text. -/
theorem contains_text_iff
    {text : String} :
    members.contains (.text text) = true ↔ .text text ∈ members := by
  rw [List.contains_iff_exists_mem_beq]
  simp only [text_beq_iff, exists_eq_right]

/-- A text holds the texts that are parts of it. -/
theorem holdsText_of_isText
    (isText : value.IsText)
    (text : String) :
    ∃ isHeld,
      value.holdsText text = .ok isHeld ∧
        (isHeld = true ↔ value.HasPart text) := by
  obtain ⟨_, rfl⟩ := isText
  refine ⟨_, rfl, occursIn_iff.trans ⟨.text, fun isPart => ?_⟩⟩
  cases isPart with
  | text inRow =>
      exact inRow

/-- A collection of texts that is no text itself holds those texts. -/
theorem holdsText_of_members
    (areMembers : value.members = .ok members)
    (present : members ≠ [])
    (areTexts : ∀ member ∈ members, member.IsText)
    (notText : ¬value.IsText)
    (text : String) :
    ∃ isHeld,
      value.holdsText text = .ok isHeld ∧
        (isHeld = true ↔ .text text ∈ members) := by
  cases value with
  | list items | tuple items | set items =>
      cases areMembers
      exact ⟨_, rfl, contains_text_iff⟩
  | dict entries =>
      cases areMembers
      refine ⟨_, rfl, ?_⟩
      rw [← not_iff_not, Bool.not_eq_true, Option.isSome_eq_false_iff,
        Option.isNone_iff_eq_none, lookup_eq_none_iff (.text text)]
  | text characters =>
      exact absurd ⟨characters, rfl⟩ notText
  | bytes octets =>
      -- The members of bytes are numbers, and there is one of them.
      cases areMembers
      obtain ⟨member, isMember⟩ := List.exists_mem_of_ne_nil _ present
      obtain ⟨octet, _, rfl⟩ := List.mem_map.mp isMember
      obtain ⟨_, isText⟩ := areTexts _ isMember
      cases isText
  | null | bool | int | float | date | dateTime | cycle =>
      cases areMembers

end Value

namespace Check

/-- A code of a guest is any ten ASCII letters and digits. -/
def IsGuestCode
    (text : String) : Prop :=
  text.length = 10 ∧
    ∀ character ∈ text.toList,
      Text.isAsciiAlphanumeric character = true

/--
The codes that an argument gives: those of the engineers where there is none, or
else the members of a collection of texts that is not empty.
-/
inductive GivesCodes : Value → List Value → Prop where
  | engineers :
      GivesCodes .null [.text "tisanpwd", .text "wbtcorar"]
  | collection
      {codes : Value}
      {members : List Value}
      (areMembers : codes.members = .ok members)
      (present : members ≠ [])
      (areTexts : ∀ member ∈ members, member.IsText) :
      GivesCodes codes members

section SessionCodes

variable
  {result : Result}
  {key field text : String}
  {entries : List Entry}
  {submitted codes : Value}
  {members : List Value}

/-- A text passes exactly if it has letters and digits only, and one at least. -/
theorem passes_alphanumeric_iff :
    (alphanumeric (.text text) (.text key)).Passes result () entries ↔
      (text ≠ "" ∧
          ∀ character ∈ text.toList,
            Text.isAsciiAlphanumeric character = true) ∧
        entries = [.value (.text key) (.text text)] := by
  have isText : (Value.text text).asText = .ok text := rfl
  have isValid :
      (!text.isEmpty && text.toList.all Text.isAsciiAlphanumeric) = true ↔
        text ≠ "" ∧
          ∀ character ∈ text.toList,
            Text.isAsciiAlphanumeric character = true := by
    rw [Bool.and_eq_true, Bool.not_eq_true', ← Bool.not_eq_true,
      String.isEmpty_iff, List.all_eq_true]
  unfold alphanumeric
  rw [isText, lift_ok_bind, ← isValid]
  split
  case isTrue valid =>
    rw [passes_setValue_iff, and_iff_right valid]
  case isFalse invalid =>
    exact iff_of_false not_passes_reject fun both => invalid both.1

/-- A text passes exactly if the codes hold it or it is the code of a guest. -/
theorem passes_sessionCode_iff
    {isHeld : Bool}
    (shows : submitted.asText = .ok text)
    (holds : (codes.orElse engineeringCodes).holdsText text = .ok isHeld) :
    (sessionCode submitted (.text key) codes).Passes result () entries ↔
      (isHeld = true ∨ IsGuestCode text) ∧
        entries = [.value (.text key) (.text text)] := by
  unfold sessionCode
  rw [shows, lift_ok_bind, holds, lift_ok_bind]
  cases isHeld with
  | true =>
      rw [if_pos rfl, passes_setValue_iff]
      exact (and_iff_right (.inl rfl)).symm
  | false =>
      rw [if_neg Bool.false_ne_true, or_iff_right Bool.false_ne_true]
      by_cases size : text.length = guestCodeLength
      · have present : text ≠ "" := by
          rintro rfl
          cases size
        rw [if_neg (not_not_intro size), passes_alphanumeric_iff,
          and_iff_right present]
        exact and_congr_left' (and_iff_right size).symm
      · rw [if_pos size]
        exact iff_of_false not_passes_reject fun both => size both.1.1

/-- A text is accepted exactly if the codes hold it or it is that of a guest. -/
theorem accepts_sessionCode_iff
    {isHeld : Bool}
    (shows : submitted.asText = .ok text)
    (holds : (codes.orElse engineeringCodes).holdsText text = .ok isHeld) :
    (sessionCode submitted (.text field) codes).Accepts result field
        (.text text) ↔
      isHeld = true ∨ IsGuestCode text := by
  have accepts :
      (sessionCode submitted (.text field) codes).Accepts result field
          (.text text) ↔
        ∃ _ : Unit,
          (isHeld = true ∨ IsGuestCode text) ∧
            Value.text text = .text text :=
    accepts_iff
      (fun _ => (passes_sessionCode_iff shows holds).trans
        (exists_const Unit).symm)
      fun _ => by simp [Result.value?_extend, Entry.valueAt?]
  rw [accepts, exists_const, and_iff_left rfl]

/-- Codes that are given as no text are held exactly if they are among these. -/
theorem GivesCodes.holdsText
    (given : GivesCodes codes members)
    (notText : ¬codes.IsText)
    (text : String) :
    ∃ isHeld,
      (codes.orElse engineeringCodes).holdsText text = .ok isHeld ∧
        (isHeld = true ↔ .text text ∈ members) := by
  cases given with
  | engineers =>
      exact ⟨_, rfl, Value.contains_text_iff⟩
  | collection areMembers present areTexts =>
      rw [Value.orElse,
        if_pos (Value.isTruthy_of_members areMembers present)]
      exact Value.holdsText_of_members areMembers present areTexts
        notText text

/-- A text that gives codes is looked through itself. -/
theorem GivesCodes.orElse_of_isText
    (given : GivesCodes codes members)
    (isText : codes.IsText) :
    codes.orElse engineeringCodes = codes := by
  cases given with
  | engineers =>
      obtain ⟨_, isText⟩ := isText
      cases isText
  | collection areMembers present areTexts =>
      rw [Value.orElse,
        if_pos (Value.isTruthy_of_members areMembers present)]

/--
A session code is accepted exactly if it is one of the given codes or the code of
a guest, where the codes are given as a collection that is no text. Of a text,
every part is accepted.
-/
theorem accepts_sessionCode_of_givesCodes
    (shows : submitted.asText = .ok text)
    (given : GivesCodes codes members)
    (result : Result)
    (field : String) :
    (¬codes.IsText →
        ((sessionCode submitted (.text field) codes).Accepts result field
            (.text text) ↔
          .text text ∈ members ∨ IsGuestCode text)) ∧
      (codes.IsText →
        ((sessionCode submitted (.text field) codes).Accepts result field
            (.text text) ↔
          codes.HasPart text ∨ IsGuestCode text)) := by
  constructor
  · intro notText
    obtain ⟨isHeld, holds, isMember⟩ := given.holdsText notText text
    rw [accepts_sessionCode_iff shows holds, isMember]
  · intro isText
    obtain ⟨isHeld, holds, isPart⟩ :=
      Value.holdsText_of_isText isText text
    rw [← given.orElse_of_isText isText] at holds
    rw [accepts_sessionCode_iff shows holds, isPart]

end SessionCodes

/-- Codes under names, as a mapping. -/
def namedCodes : Value :=
  .record [("telescope", .int 1), ("dome", .null)]

/-- A name is accepted as a code, and no part of it is; ten letters always are. -/
theorem accepts_sessionCode_of_givesCodes_named :
    GivesCodes namedCodes [.text "telescope", .text "dome"] ∧
      (sessionCode (.text "dome") (.text "session") namedCodes).Accepts
        .empty "session" (.text "dome") ∧
      ¬(sessionCode (.text "scope") (.text "session")
          namedCodes).Accepts .empty "session" (.text "scope") ∧
      (sessionCode (.int 1234567890) (.text "session") namedCodes).Accepts
        .empty "session" (.text "1234567890") := by
  have given :
      GivesCodes namedCodes [.text "telescope", .text "dome"] :=
    .collection rfl (List.cons_ne_nil _ _) (by
      simp only [List.forall_mem_cons]
      exact ⟨⟨_, rfl⟩, ⟨_, rfl⟩, List.forall_mem_nil _⟩)
  have notText : ¬namedCodes.IsText := by
    rintro ⟨_, isText⟩
    cases isText
  have isNumber :
      (Value.int 1234567890).asText = .ok "1234567890" := by
    decide +kernel
  refine ⟨given, ?_, ?_, ?_⟩
  · rw [(accepts_sessionCode_of_givesCodes rfl given .empty _).1 notText]
    exact .inl (.tail _ (.head _))
  · rw [(accepts_sessionCode_of_givesCodes rfl given .empty _).1 notText]
    rintro (isMember | ⟨size, _⟩)
    · simp at isMember
    · cases size
  · rw [(accepts_sessionCode_of_givesCodes isNumber given .empty _).1
      notText]
    exact .inr ⟨rfl, List.all_eq_true.mp rfl⟩

/-- Not each text that is accepted is one of the given codes or that of a guest. -/
theorem not_forall_accepts_sessionCode_iff :
    ¬∀ (submitted codes : Value) (text field : String)
        (members : List Value),
        submitted.asText = .ok text →
        GivesCodes codes members →
          ((sessionCode submitted (.text field) codes).Accepts .empty field
              (.text text) ↔
            .text text ∈ members ∨ IsGuestCode text) := by
  intro all
  have isHeld :
      (Value.orElse (.text "abc") engineeringCodes).holdsText "ab" =
        .ok true :=
    rfl
  have given :
      GivesCodes (.text "abc") [.text "a", .text "b", .text "c"] :=
    .collection rfl (List.cons_ne_nil _ _) (by
      simp only [List.forall_mem_cons]
      exact ⟨⟨_, rfl⟩, ⟨_, rfl⟩, ⟨_, rfl⟩,
        List.forall_mem_nil _⟩)
  have accepts :
      (sessionCode (.text "ab") (.text "s") (.text "abc")).Accepts .empty
        "s" (.text "ab") :=
    (accepts_sessionCode_iff rfl isHeld).mpr (.inl rfl)
  rcases (all _ _ _ _ _ rfl given).mp accepts with isMember | ⟨size, _⟩
  · simp at isMember
  · cases size

end Check

end FormCheck
