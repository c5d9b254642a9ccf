import FormCheck.Check.Text
import FormCheck.Proofs.Check.Decision.Number

namespace FormCheck

/-!
# Decisions on texts

A check of a text decides on the text that a submitted value shows. A value that
shows none would be a fault, so the text is given together with the value.
-/

namespace Verdict

/-- The verdict on a text of limited length. -/
def textWithin
    (text : String)
    (limit : Int) : Verdict :=
  .provided (text.length ≤ limit) (.text text)
    ("Invalid value. Must be 1-" ++ Number.decimalText limit ++
      " characters.")

/-- The verdict on a text of ASCII letters and digits. -/
def alphanumeric
    (text : String) : Verdict :=
  .provided
    ((!text.isEmpty && text.toList.all Text.isAsciiAlphanumeric) = true)
    (.text text) "Invalid value. Must be alphanumeric."

/-- The verdict on one of some texts. -/
def textAmong
    (text : String)
    (allowed : List Value) : Verdict :=
  .provided (allowed.contains (.text text) = true) (.text text)
    "Invalid value."

/-- The verdict on an email address. -/
def emailFormat
    (text : String) : Verdict :=
  .provided (Text.isEmailAddress (Text.strip text).toList = true)
    (.text (Text.strip text)) "Invalid email format."

/-- The verdict on an email address of limited length. -/
def email
    (text : String)
    (limit : Int) : Verdict :=
  if Text.isEmailAddress (Text.strip text).toList = true then
    textWithin (Text.strip text) limit
  else
    .rejected "Invalid email format." []

/-- The verdict on a user name. -/
def userName
    (text : String)
    (limit : Int) : Verdict :=
  if (textWithin text limit).isRejected then
    textWithin text limit
  else
    alphanumeric text

/-- The verdict on a session code, given the codes of the engineers. -/
def sessionCode
    (text : String)
    (codes : List Value) : Verdict :=
  if codes.contains (.text text) then
    .accepted (.text text)
  else if text.length ≠ Check.guestCodeLength then
    .rejected "Invalid session code. Must be 10 characters." []
  else
    alphanumeric text

/-- What is accepted as a user name. -/
theorem userName_eq_accepted_iff
    {text : String}
    {limit : Int}
    {accepted : Value} :
    userName text limit = .accepted accepted ↔
      text.length ≤ limit ∧ alphanumeric text = .accepted accepted := by
  unfold userName
  split
  case isTrue long =>
    have tooLong : ¬(text.length : Int) ≤ limit := by
      simpa [textWithin] using long
    constructor
    · intro isAccepted
      rw [isAccepted] at long
      cases long
    · exact fun short => absurd short.1 tooLong
  case isFalse short =>
    have isShort : (text.length : Int) ≤ limit := by
      simpa [textWithin] using short
    exact (and_iff_right isShort).symm

end Verdict

namespace Check.Rules

variable
  {field : String}
  {earlier : List Ruling}
  {submitted : Value}
  {text : String}

/-- A text of limited length is accepted. -/
theorem textLength
    (shows : submitted.asText = .ok text)
    {limit : Int}
    (writable : Number.isWritable limit = true) :
    Rules field earlier
      (Check.textLength submitted (.text field) (.int limit)) ()
      [⟨field, .textWithin text limit⟩] := by
  unfold Check.textLength Verdict.textWithin Verdict.provided
  refine bind_lift shows (bind_lift (Value.less_int ..) ?_)
  by_cases exceeds : limit < text.length
  · have tooLong : ¬(text.length : Int) ≤ limit := by omega
    simp only [exceeds, tooLong, decide_true, ↓reduceIte]
    exact bind_lift (Value.shown_int writable) (reject field _)
  · have short : (text.length : Int) ≤ limit := by omega
    simp only [exceeds, short, decide_false, Bool.false_eq_true,
      ↓reduceIte]
    exact setValue field _

/-- A name is accepted without the blanks around it. -/
theorem name
    (shows : submitted.asText = .ok text)
    {limit : Int}
    (writable : Number.isWritable limit = true) :
    Rules field earlier
      (Check.name submitted (.text field) (.int limit)) ()
      [⟨field, .textWithin (Text.strip text) limit⟩] := by
  unfold Check.name
  exact bind_lift shows (textLength rfl writable)

/-- A text of ASCII letters and digits is accepted. -/
theorem alphanumeric
    (shows : submitted.asText = .ok text) :
    Rules field earlier
      (Check.alphanumeric submitted (.text field)) ()
      [⟨field, .alphanumeric text⟩] := by
  unfold Check.alphanumeric
  exact bind_lift shows (provided field _ _)

/-- A text that is allowed is accepted. -/
theorem textAmong
    (shows : submitted.asText = .ok text)
    {allowed : Value}
    {members : List Value}
    (listed : allowed.members = .ok members) :
    Rules field earlier
      (Check.textAmong submitted (.text field) allowed) ()
      [⟨field, .textAmong text members⟩] := by
  unfold Check.textAmong
  exact bind_lift shows (bind_lift listed (provided field _ _))

/-- An email address is accepted without the blanks around it. -/
theorem emailFormat
    (shows : submitted.asText = .ok text) :
    Rules field earlier
      (Check.emailFormat submitted (.text field)) ()
      [⟨field, .emailFormat text⟩] := by
  unfold Check.emailFormat
  exact bind_lift shows (provided field _ _)

/-- An email address of limited length is accepted. -/
theorem email
    (shows : submitted.asText = .ok text)
    {limit : Int}
    (writable : Number.isWritable limit = true) :
    Rules field []
      (Check.email submitted (.text field) (.int limit) (.bool false)) ()
      [⟨field, .email text limit⟩] := by
  have self := Value.BelongsTo.self field
  have format : Rules field [] _ _ _ := emailFormat shows
  unfold Verdict.emailFormat Verdict.provided at format
  unfold Check.email Verdict.email
  by_cases isAddress :
      Text.isEmailAddress (Text.strip text).toList = true
  · simp only [isAddress, ↓reduceIte] at format ⊢
    apply condense
    refine bind_ruling format (unless_hasErrors_of_not_failed self
      (by simp [Verdict.isRejected]) ?_)
    refine bind_silent (value (Ruling.verdictAt?_concat ..)) ?_
    refine bind_ruling (textLength rfl writable) ?_
    refine bind_silent (hasErrors self) (bind_silent (pure _) ?_)
    rw [if_neg (by simp [Value.isTruthy])]
    exact pure ()
  · simp only [isAddress] at format ⊢
    exact format.bind
      (unless_hasErrors_of_failed self (by simp [Verdict.isRejected]))

/-- A user name is accepted. -/
theorem userName
    (shows : submitted.asText = .ok text)
    {limit : Int}
    (writable : Number.isWritable limit = true) :
    Rules field []
      (Check.userName submitted (.text field) (.int limit)) ()
      [⟨field, .userName text limit⟩] := by
  have self := Value.BelongsTo.self field
  have short : Rules field [] _ _ _ := textLength shows writable
  unfold Check.userName Verdict.userName
  cases verdict : Verdict.textWithin text limit with
  | accepted stored =>
      rw [verdict] at short
      apply condense
      refine bind_ruling short (unless_hasErrors_of_not_failed self
        (by simp [Verdict.isRejected]) ?_)
      exact alphanumeric shows
  | rejected message others =>
      rw [verdict] at short
      exact short.bind
        (unless_hasErrors_of_failed self (by simp [Verdict.isRejected]))

/-- A session code is accepted. -/
theorem sessionCode
    (shows : submitted.asText = .ok text) :
    Rules field earlier
      (Check.sessionCode submitted (.text field) .null) ()
      [⟨field,
        .sessionCode text [.text "tisanpwd", .text "wbtcorar"]⟩] := by
  unfold Check.sessionCode Verdict.sessionCode
  refine bind_lift shows (bind_lift rfl ?_)
  split
  · exact setValue field _
  · split
    · exact reject field _
    · exact alphanumeric rfl

end Check.Rules

end FormCheck
