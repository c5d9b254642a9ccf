import FormCheck.Proofs.Check.Sanitizing
import FormCheck.Proofs.Strip

namespace FormCheck

/-!
# Texts are sanitized once

A check of a text stores the text, in some cases without the blanks around it.
What was stored has no blanks left to be taken away, so it is stored as it is when
it is submitted again.
-/

namespace Check

variable
  {field : String}

namespace Writes

variable
  {key : Value}
  {text : String}

theorem textLength_keeps
    (limit : Value) :
    Writes (Entry.Keeps key (.text text))
      (Check.textLength (.text text) key limit) := by
  have isText : (Value.text text).asText = .ok text := rfl
  unfold Check.textLength
  rw [isText, lift_ok_bind]
  refine bind (lift _) fun exceeds => ite ?_ setValue_self
  exact bind (lift _) fun limitText => reject_keeps ..

theorem textAmong_keeps
    (allowed : Value) :
    Writes (Entry.Keeps key (.text text))
      (Check.textAmong (.text text) key allowed) := by
  have isText : (Value.text text).asText = .ok text := rfl
  unfold Check.textAmong
  rw [isText, lift_ok_bind]
  exact bind (lift _) fun members => ite setValue_self (reject_keeps ..)

theorem alphanumeric_keeps :
    Writes (Entry.Keeps key (.text text))
      (Check.alphanumeric (.text text) key) := by
  have isText : (Value.text text).asText = .ok text := rfl
  unfold Check.alphanumeric
  rw [isText, lift_ok_bind]
  exact ite setValue_self (reject_keeps ..)

theorem userName_keeps
    (limit : Value) :
    Writes (Entry.Keeps key (.text text))
      (Check.userName (.text text) key limit) := by
  unfold Check.userName
  refine bind (textLength_keeps limit) fun _ => ?_
  exact bind (look key _) fun failed => ite (pure ()) alphanumeric_keeps

theorem sessionCode_keeps
    (codes : Value) :
    Writes (Entry.Keeps key (.text text))
      (Check.sessionCode (.text text) key codes) := by
  have isText : (Value.text text).asText = .ok text := rfl
  unfold Check.sessionCode
  rw [isText, lift_ok_bind]
  refine bind (lift _) fun isKnown => ite setValue_self ?_
  exact ite (reject_keeps ..) alphanumeric_keeps

end Writes

namespace Idempotent

/-! ## Texts that are stored as they are -/

theorem textLength
    (limit : Value) :
    Idempotent field fun value =>
      Check.textLength value (.text field) limit :=
  of_text id
    (fun _ => congrArg _ (funext fun _ => (lift_ok_bind ..).symm))
    fun _ _ sanitizes => sanitizes.eq_of_writes (.textLength_keeps limit)

theorem textAmong
    (allowed : Value) :
    Idempotent field fun value =>
      Check.textAmong value (.text field) allowed :=
  of_text id
    (fun _ => congrArg _ (funext fun _ => (lift_ok_bind ..).symm))
    fun _ _ sanitizes => sanitizes.eq_of_writes (.textAmong_keeps allowed)

theorem shell
    (allowed : Value) :
    Idempotent field fun value =>
      Check.shell value (.text field) allowed :=
  textAmong _

theorem alphanumeric :
    Idempotent field fun value => Check.alphanumeric value (.text field) :=
  of_text id
    (fun _ => congrArg _ (funext fun _ => (lift_ok_bind ..).symm))
    fun _ _ sanitizes => sanitizes.eq_of_writes .alphanumeric_keeps

theorem sessionCode
    (codes : Value) :
    Idempotent field fun value =>
      Check.sessionCode value (.text field) codes :=
  of_text id
    (fun _ => congrArg _ (funext fun _ => (lift_ok_bind ..).symm))
    fun _ _ sanitizes => sanitizes.eq_of_writes (.sessionCode_keeps codes)

/-- Both parts of the check for a user name read the text of what is submitted. -/
theorem userName
    (limit : Value) :
    Idempotent field fun value =>
      Check.userName value (.text field) limit := by
  refine of_text id (fun value => ?_) fun _ _ sanitizes =>
    sanitizes.eq_of_writes (.userName_keeps limit)
  cases isText : value.asText with
  | error fault =>
      unfold Check.userName Check.textLength
      rw [isText]
      rfl
  | ok text =>
      have isSame : (Value.text text).asText = .ok text := rfl
      rw [lift_ok_bind]
      unfold Check.userName Check.textLength Check.alphanumeric
      simp only [id_eq, isText, isSame]

/-! ## Texts without the blanks around them -/

/-- A stripped text is looked at as it is. -/
theorem emailFormat_strip
    (text : String)
    (key : Value) :
    Check.emailFormat (.text (Text.strip text)) key =
      if Text.isEmailAddress (Text.strip text).toList then
        Check.setValue key (.text (Text.strip text))
      else
        Check.reject key "Invalid email format." := by
  have isText :
      (Value.text (Text.strip text)).asText = .ok (Text.strip text) :=
    rfl
  unfold Check.emailFormat
  rw [isText, lift_ok_bind, Text.strip_strip]

/-- A stripped text is checked for its length as it is. -/
theorem name_strip
    (text : String)
    (key limit : Value) :
    Check.name (.text (Text.strip text)) key limit =
      Check.textLength (.text (Text.strip text)) key limit := by
  have isText :
      (Value.text (Text.strip text)).asText = .ok (Text.strip text) :=
    rfl
  unfold Check.name
  rw [isText, lift_ok_bind, Text.strip_strip]

/-- The syntax of an email address is checked in the stripped text. -/
theorem emailFormat_eq
    (value key : Value) :
    Check.emailFormat value key =
      (liftM value.asText : Check String) >>= fun text =>
        Check.emailFormat (.text (Text.strip text)) key := by
  simp only [emailFormat_strip]
  rfl

theorem emailFormat :
    Idempotent field fun value => Check.emailFormat value (.text field) := by
  refine of_text Text.strip (fun value => ?_) fun text stored sanitizes => ?_
  · exact emailFormat_eq value _
  · rw [emailFormat_strip] at sanitizes
    exact sanitizes.eq_of_writes (.ite .setValue_self (.reject_keeps ..))

theorem name
    (limit : Value) :
    Idempotent field fun value => Check.name value (.text field) limit := by
  refine of_text Text.strip (fun value => ?_) fun text stored sanitizes => ?_
  · simp only [name_strip]
    rfl
  · rw [name_strip] at sanitizes
    exact sanitizes.eq_of_writes (.textLength_keeps limit)

/-- Behind its syntax, the stored address is what is looked at. -/
theorem email
    (limit isAlphanumeric : Value) :
    Idempotent field fun value =>
      Check.email value (.text field) limit isAlphanumeric := by
  refine of_text Text.strip (fun value => ?_) fun text stored sanitizes => ?_
  · unfold Check.email
    rw [emailFormat_eq value, lift_bind_assoc]
  · have continued
        (proceed : Bool) :
        Retains field (.text (Text.strip text)) (do
          if proceed && isAlphanumeric.isTruthy then
            Check.alphanumeric (← Check.value (.text field))
              (.text field)) :=
      .ite (.bind_value (.of_writes .alphanumeric_keeps))
        (.of_writes (.pure ()))
    unfold Check.email at sanitizes
    rw [emailFormat_strip] at sanitizes
    by_cases isAddress :
        Text.isEmailAddress (Text.strip text).toList = true
    · rw [if_pos isAddress] at sanitizes
      refine Retains.eq_of_sanitizes ?_ sanitizes
      refine .bind (.of_writes (.look ..)) fun failed =>
        .ite (.of_writes (.pure ())) ?_
      dsimp only
      split
      · exact .bind (.of_writes (.pure true)) continued
      · refine .bind_value ?_
        refine .bind (.of_writes (.textLength_keeps _)) fun _ => ?_
        refine .bind (.of_writes (.look ..)) fun failed => ?_
        exact .bind (.of_writes (.pure _)) continued
    · rw [if_neg isAddress] at sanitizes
      exact sanitizes.false_of_reject_bind.elim

end Idempotent

end Check

end FormCheck
