import FormCheck.Proofs.Check.Sanitizing
import FormCheck.Proofs.Check.YearAndTag

namespace FormCheck

/-!
# Codes are sanitized once

Tags, semesters and program numbers are stored in upper case. The stored code has
neither blanks around it nor letters to be changed, so it is stored as it is when
it is submitted again.
-/

namespace Check

/-- Characters that have the parts of a code are in upper case, without blanks. -/
theorem HasParts.upperText_eq
    {characters year number : List Char}
    {tag : Char}
    (parts : HasParts characters year tag number) :
    upperText (String.ofList characters) = characters := by
  have areCodes :
      ∀ character ∈ characters,
        Text.isAsciiDigit character = true ∨
          'A' ≤ character ∧ character ≤ 'Z' := by
    rw [parts.split, List.forall_mem_append, List.forall_mem_cons]
    exact
      ⟨fun digit member => .inl (parts.yearDigits digit member),
        .inr parts.isCapital,
        fun digit member => .inl (parts.numberDigits digit member)⟩
  rw [upperText, String.toList_ofList, Text.stripped_eq_self parts.visible,
    Text.upperCase_eq_self areCodes]

variable
  {field : String}
  {environment : Environment}
  {kept : Value}

/-- The year and the tag of a field are stored under keys of their own. -/
theorem Writes.yearAndTag_keeps
    (environment : Environment)
    (digits : List Char)
    (tag : Char)
    (lower upper : Value) :
    Writes (Entry.Keeps (.text field) kept)
      (Check.yearAndTag environment digits tag (.text field) lower
        upper) := by
  have part := Entry.admits_part field
  unfold Check.yearAndTag
  rw [partKey_text, lift_ok_bind]
  refine bind (year (part "year" kept) ..) fun _ => ?_
  refine bind (look _ _) fun failed => ite (pure false) ?_
  rw [partKey_text, lift_ok_bind]
  refine bind (semesterTag (part "tag" kept) _) fun _ => ?_
  exact bind (look _ _) fun failed => pure _

namespace Idempotent

/-! ## Tags -/

/-- A short text is stored, and then its upper case is if it is a tag. -/
theorem semesterTag_eq
    (field : String)
    {value : Value}
    {text : String}
    (isText : value.asText = .ok text)
    (short : text.length ≤ 1) :
    Check.semesterTag value (.text field) .empty =
      let capital := String.ofList (Text.upperCase text.toList)
      ⟨[.value (.text field) (.text text),
        if ["A", "B"].contains capital then
          .value (.text field) (.text capital)
        else
          .error (.text field) (.text "Invalid value.")], .ok ()⟩ := by
  have areTags :
      semesterTags.members = .ok [.text "A", .text "B"] :=
    rfl
  have isCapital
      (capital : String) :
      (Value.text capital).asText = .ok capital :=
    rfl
  have sameTags
      (capital : String) :
      [Value.text "A", Value.text "B"].contains (.text capital) =
        ["A", "B"].contains capital := by
    simp [List.contains_cons, Value.text_beq_text, beq_eq_decide]
  unfold Check.semesterTag Check.textLength
  rw [isText, lift_ok_bind, Value.less_int, lift_ok_bind,
    if_neg (by simpa using short), setValue_unless_hasErrors, lift_ok_bind]
  unfold Check.textAmong
  rw [isCapital, lift_ok_bind, areTags, lift_ok_bind, sameTags]
  dsimp only
  split <;> rfl

/-- A text that is not refused as a tag is short. -/
theorem exists_of_semesterTag
    {value stored : Value}
    (sanitizes :
      (Check.semesterTag value (.text field)).Sanitizes field stored) :
    ∃ text, value.asText = .ok text ∧ text.length ≤ 1 := by
  unfold Check.semesterTag Check.textLength at sanitizes
  rw [lift_bind_assoc] at sanitizes
  obtain ⟨text, isText, sanitizes⟩ := sanitizes.exists_of_lift
  rw [Value.less_int, lift_ok_bind] at sanitizes
  refine ⟨text, isText, ?_⟩
  by_contra long
  have isLimit : (Value.int 1).shown = .ok "1" := by
    decide +kernel
  rw [if_pos (by simpa using long), isLimit, lift_ok_bind] at sanitizes
  exact sanitizes.false_of_reject_bind

/-- A tag in upper case is stored as it is. -/
theorem accepts_semesterTag
    (field : String)
    {tag : Char}
    (isTag : tag ∈ ['A', 'B']) :
    (Check.semesterTag (.text (String.ofList [tag])) (.text field)).Accepts
      .empty field (.text (String.ofList [tag])) := by
  have isCapital : 'A' ≤ tag ∧ tag ≤ 'Z' := by
    rcases List.mem_pair.mp isTag with rfl | rfl <;> decide
  have passes :
      (Check.semesterTag (.text (String.ofList [tag])) (.text field)).Passes
        .empty ()
        ([.value (.text field) (.text (String.ofList [tag]))] ++
          [.value (.text field) (.text (String.ofList [tag]))]) :=
    (passes_semesterTag_iff isCapital rfl).mpr ⟨isTag, rfl⟩
  exact passes.accepts

/-- What is stored last is a tag in upper case, which is stored as it is. -/
theorem semesterTag :
    Idempotent field fun value => Check.semesterTag value (.text field) := by
  intro value stored sanitizes
  obtain ⟨text, isText, short⟩ := exists_of_semesterTag sanitizes
  have checked := semesterTag_eq field isText short
  dsimp only at checked sanitizes ⊢
  have quiet := sanitizes.quiet
  have stores := sanitizes.stores
  rw [after, checked] at stores
  rw [checked] at quiet ⊢
  split at stores
  case isTrue isTag =>
    have isStored :
        stored = .text (String.ofList (Text.upperCase text.toList)) := by
      simpa [Result.value?_extend, Entry.valueAt?] using stores.symm
    have isOne :
        ∃ tag ∈ ['A', 'B'],
          String.ofList (Text.upperCase text.toList) = String.ofList [tag] := by
      simpa using isTag
    obtain ⟨tag, isTag, same⟩ := isOne
    rw [isStored, same]
    have accepts := accepts_semesterTag field isTag
    exact ⟨accepts.sanitizes, accepts.answers⟩
  case isFalse isNone =>
    rw [if_neg isNone] at quiet
    cases quiet _ (List.mem_cons_of_mem _ (List.mem_singleton_self _))

/-! ## Codes that begin with a year -/

/--
A check that looks at a text in upper case is idempotent if it stores what it
looks at, and only if that has the parts of a code.
-/
theorem of_parts
    {check : Value → Check Unit}
    (isRead :
      ∀ {value other text otherText},
        value.asText = .ok text →
          other.asText = .ok otherText →
            upperText text = upperText otherText →
              check value = check other)
    (storesParts :
      ∀ {value stored},
        (check value).Sanitizes field stored →
          ∃ text year tag number,
            value.asText = .ok text ∧
              HasParts (upperText text) year tag number ∧
              stored = .text (String.ofList (upperText text))) :
    Idempotent field check := by
  refine of_eq fun value stored sanitizes => ?_
  obtain ⟨text, year, tag, number, isText, parts, rfl⟩ :=
    storesParts sanitizes
  exact isRead rfl isText parts.upperText_eq

theorem semester
    (lower upper : Value) :
    Idempotent field fun value =>
      Check.semester environment value (.text field) lower upper := by
  refine of_parts (fun isText isOther same => ?_) fun sanitizes => ?_
  · unfold Check.semester
    rw [isText, isOther, lift_ok_bind, lift_ok_bind, same]
  · unfold Check.semester at sanitizes
    obtain ⟨text, isText, sanitizes⟩ := sanitizes.exists_of_lift
    dsimp only at sanitizes
    split at sanitizes
    case h_1 digits tag found =>
      refine ⟨text, digits, tag, [], isText, hasParts_iff.mpr ⟨found, rfl⟩, ?_⟩
      apply sanitizes.eq_of_writes
      exact .bind (.yearAndTag_keeps ..) fun valid =>
        .ite .setValue_self (.pure ())
    case h_2 =>
      exact sanitizes.false_of_reject.elim

theorem programNumber
    (lower upper : Value) :
    Idempotent field fun value =>
      Check.programNumber environment value (.text field) lower upper := by
  refine of_parts (fun isText isOther same => ?_) fun sanitizes => ?_
  · unfold Check.programNumber
    rw [isText, isOther, lift_ok_bind, lift_ok_bind, same]
  · unfold Check.programNumber at sanitizes
    obtain ⟨text, isText, sanitizes⟩ := sanitizes.exists_of_lift
    dsimp only at sanitizes
    split at sanitizes
    case h_1 digits tag hundreds tens units found =>
      split at sanitizes
      case isTrue areDigits =>
        refine ⟨text, digits, tag, [hundreds, tens, units], isText,
          hasParts_iff.mpr ⟨found, areDigits⟩, ?_⟩
        apply sanitizes.eq_of_writes
        refine .bind (.yearAndTag_keeps ..) fun valid => .ite ?_ (.pure ())
        rw [partKey_text, lift_ok_bind]
        refine .bind (.clampedRange (Entry.admits_part ..) ..) fun _ => ?_
        exact .bind (.look ..) fun failed => .ite (.pure ()) .setValue_self
      case isFalse =>
        exact sanitizes.false_of_reject.elim
    case h_2 =>
      exact sanitizes.false_of_reject.elim

end Idempotent

end Check

end FormCheck
