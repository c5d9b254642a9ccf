import FormCheck.Proofs.Check.Passing
import FormCheck.Proofs.EmailAddress
import FormCheck.Proofs.Strip
import Mathlib.Computability.RegularExpressions

namespace FormCheck

/-!
# What is accepted as an email address

The shape of an email address is declared as a regular expression, which finds an
address also before a line break at the very end. What was stripped ends with no
line break, so that of a stripped text the expression finds the addresses and
nothing else, but for dots side by side. A text is stored without the blanks around
it if it is an address then, and refused with one message otherwise.
-/

namespace Text

/-- A pattern for any one of some characters. -/
def oneOf
    (listed : List Char) : RegularExpression Char :=
  listed.foldr (fun character others => .char character + others) 0

/-- A pattern that may be left out. -/
def optional
    (pattern : RegularExpression Char) : RegularExpression Char :=
  1 + pattern

/-- A pattern once or more often. -/
def oneOrMore
    (pattern : RegularExpression Char) : RegularExpression Char :=
  pattern * pattern.star

/-- The pattern of a label: up to 61 characters between the first and the last. -/
def labelPattern : RegularExpression Char :=
  oneOf lettersAndDigits *
    optional
      (optional (oneOf labelCharacters) ^ 61 * oneOf lettersAndDigits)

/-- The pattern of an address. -/
def addressPattern : RegularExpression Char :=
  oneOrMore (oneOf localCharacters) * .char '@' *
    (labelPattern * oneOrMore (.char '.' * labelPattern))

/--
A pattern finds characters if it matches them all, or all but a line break at the
very end.
-/
inductive Finds : RegularExpression Char → List Char → Prop where
  | whole
      {pattern : RegularExpression Char}
      {characters : List Char}
      (isMatch : characters ∈ pattern.matches') :
      Finds pattern characters
  | line
      {pattern : RegularExpression Char}
      {characters : List Char}
      (isMatch : characters ∈ pattern.matches') :
      Finds pattern (characters ++ ['\n'])

variable
  {characters label : List Char}

/-- One of some characters is matched exactly if it is among them. -/
theorem mem_oneOf_iff
    {listed : List Char} :
    characters ∈ (oneOf listed).matches' ↔
      ∃ character ∈ listed, characters = [character] := by
  induction listed with
  | nil =>
      exact iff_of_false id fun ⟨_, member, _⟩ => List.not_mem_nil member
  | cons leading others inductionHypothesis =>
      unfold oneOf at inductionHypothesis ⊢
      rw [List.foldr_cons, RegularExpression.matches'_add, Language.mem_add,
        inductionHypothesis, List.exists_mem_cons_iff]
      exact Iff.rfl

/-- A pattern that may be left out matches also nothing. -/
theorem mem_optional_iff
    {pattern : RegularExpression Char} :
    characters ∈ (optional pattern).matches' ↔
      characters = [] ∨ characters ∈ pattern.matches' := by
  unfold optional
  rw [RegularExpression.matches'_add, Language.mem_add]
  exact Iff.rfl

/-- Once or more often means matches one after another, and one at least. -/
theorem mem_oneOrMore_iff
    {pattern : RegularExpression Char} :
    characters ∈ (oneOrMore pattern).matches' ↔
      ∃ parts : List (List Char),
        parts ≠ [] ∧ (∀ part ∈ parts, part ∈ pattern.matches') ∧
          characters = parts.flatten := by
  unfold oneOrMore
  rw [RegularExpression.matches'_mul, RegularExpression.matches'_star,
    Language.mem_mul]
  simp only [Language.mem_kstar]
  constructor
  · rintro ⟨leading, isMatch, _, ⟨others, rfl, areMatches⟩, rfl⟩
    exact ⟨leading :: others, List.cons_ne_nil _ _,
      List.forall_mem_cons.mpr ⟨isMatch, areMatches⟩, rfl⟩
  · rintro ⟨parts, present, areMatches, rfl⟩
    cases parts with
    | nil =>
        cases present rfl
    | cons leading others =>
        rw [List.forall_mem_cons] at areMatches
        exact ⟨leading, areMatches.1, _, ⟨others, rfl, areMatches.2⟩, rfl⟩

/-- Characters in a row are matched exactly if each of them is among these. -/
theorem mem_oneOrMore_oneOf_iff
    {listed : List Char} :
    characters ∈ (oneOrMore (oneOf listed)).matches' ↔
      characters ≠ [] ∧ ∀ character ∈ characters, character ∈ listed := by
  rw [mem_oneOrMore_iff]
  simp only [mem_oneOf_iff]
  constructor
  · rintro ⟨parts, present, areSingle, rfl⟩
    constructor
    · obtain ⟨part, member⟩ := List.exists_mem_of_ne_nil _ present
      obtain ⟨character, _, rfl⟩ := areSingle part member
      exact fun areEmpty =>
        List.cons_ne_nil _ _ (List.flatten_eq_nil_iff.mp areEmpty _ member)
    · intro character member
      obtain ⟨part, isPart, inPart⟩ := List.mem_flatten.mp member
      obtain ⟨single, isListed, rfl⟩ := areSingle part isPart
      rwa [List.mem_singleton.mp inPart]
  · rintro ⟨present, areListed⟩
    refine ⟨characters.map fun character => [character], ?_, ?_, ?_⟩
    · rwa [ne_eq, List.map_eq_nil_iff]
    · rw [List.forall_mem_map]
      exact fun character member => ⟨character, areListed _ member, rfl⟩
    · rw [← List.flatMap_def, List.flatMap_singleton']

/-- So many characters or fewer are matched if each of them is among these. -/
theorem mem_optional_oneOf_pow_iff
    {listed : List Char}
    {size : Nat} :
    characters ∈ (optional (oneOf listed) ^ size).matches' ↔
      characters.length ≤ size ∧
        ∀ character ∈ characters, character ∈ listed := by
  rw [RegularExpression.matches'_pow]
  induction size generalizing characters with
  | zero =>
      rw [pow_zero, Language.mem_one, Nat.le_zero, List.length_eq_zero_iff,
        iff_self_and]
      rintro rfl
      exact List.forall_mem_nil _
  | succ size inductionHypothesis =>
      rw [pow_succ', Language.mem_mul]
      simp only [mem_optional_iff, mem_oneOf_iff, inductionHypothesis]
      constructor
      · rintro ⟨_, rfl | ⟨leading, isListed, rfl⟩, rest, ⟨short, areListed⟩,
          rfl⟩
        · exact ⟨Nat.le_succ_of_le short, areListed⟩
        · exact ⟨Nat.succ_le_succ short,
            List.forall_mem_cons.mpr ⟨isListed, areListed⟩⟩
      · rintro ⟨short, areListed⟩
        cases characters with
        | nil =>
            exact ⟨[], .inl rfl, [], ⟨Nat.zero_le _, areListed⟩, rfl⟩
        | cons leading rest =>
            rw [List.forall_mem_cons] at areListed
            exact ⟨[leading], .inr ⟨leading, areListed.1, rfl⟩, rest,
              ⟨Nat.le_of_succ_le_succ short, areListed.2⟩, rfl⟩

/-- A letter or digit alone is a label. -/
theorem isDomainLabel_singleton
    {character : Char}
    (isListed : character ∈ lettersAndDigits) :
    IsDomainLabel [character] := by
  rw [mem_lettersAndDigits_iff] at isListed
  exact
    { present := Nat.le_refl 1
      short := Nat.le_of_ble_eq_true rfl
      spelled := List.forall_mem_singleton.mpr isListed.1
      leading := mt Option.some.inj isListed.2
      trailing := mt Option.some.inj isListed.2 }

/-- A longer label has a letter or digit at either end. -/
theorem isDomainLabel_cons_append_singleton_iff
    {first last : Char}
    {middle : List Char} :
    IsDomainLabel (first :: (middle ++ [last])) ↔
      first ∈ lettersAndDigits ∧
        (middle.length ≤ 61 ∧
          ∀ character ∈ middle, character ∈ labelCharacters) ∧
        last ∈ lettersAndDigits := by
  have isLast :
      (first :: (middle ++ [last])).getLast? = some last := by
    rw [← List.cons_append, List.getLast?_concat]
  have isSpelled :
      (∀ character ∈ first :: (middle ++ [last]),
          character ∈ labelCharacters) ↔
        first ∈ labelCharacters ∧
          (∀ character ∈ middle, character ∈ labelCharacters) ∧
          last ∈ labelCharacters := by
    rw [List.forall_mem_cons, List.forall_mem_append,
      List.forall_mem_singleton]
  have size : (first :: (middle ++ [last])).length = middle.length + 2 := by
    rw [List.length_cons, List.length_append, List.length_singleton]
  rw [mem_lettersAndDigits_iff, mem_lettersAndDigits_iff]
  constructor
  · rintro ⟨_, short, spelled, leading, trailing⟩
    rw [size] at short
    obtain ⟨firstSpelled, middleSpelled, lastSpelled⟩ := isSpelled.mp spelled
    refine ⟨⟨firstSpelled, ?_⟩, ⟨by omega, middleSpelled⟩, lastSpelled, ?_⟩
    · rintro rfl
      exact leading rfl
    · rintro rfl
      exact trailing isLast
  · rintro ⟨⟨firstSpelled, notFirst⟩, ⟨short, middleSpelled⟩, lastSpelled,
      notLast⟩
    exact
      { present := by omega
        short := by omega
        spelled := isSpelled.mpr ⟨firstSpelled, middleSpelled, lastSpelled⟩
        leading := mt Option.some.inj notFirst
        trailing := by rwa [isLast, ne_eq, Option.some_inj] }

/-- The pattern of a label matches the labels. -/
theorem mem_labelPattern_iff :
    label ∈ labelPattern.matches' ↔ IsDomainLabel label := by
  unfold labelPattern
  rw [RegularExpression.matches'_mul, Language.mem_mul]
  simp only [mem_optional_iff, RegularExpression.matches'_mul,
    Language.mem_mul, mem_oneOf_iff, mem_optional_oneOf_pow_iff]
  constructor
  · rintro ⟨_, ⟨first, isFirst, rfl⟩, _, rfl | ⟨middle, spelled, _,
      ⟨last, isLast, rfl⟩, rfl⟩, rfl⟩
    · exact isDomainLabel_singleton isFirst
    · exact isDomainLabel_cons_append_singleton_iff.mpr
        ⟨isFirst, spelled, isLast⟩
  · intro isLabel
    cases label with
    | nil =>
        cases isLabel.present
    | cons first rest =>
        rcases rest.eq_nil_or_concat with rfl | ⟨middle, last, rfl⟩
        · have isFirst : first ∈ lettersAndDigits :=
            mem_lettersAndDigits_iff.mpr
              ⟨isLabel.spelled _ (.head _),
                fun isHyphen => isLabel.leading (congrArg some isHyphen)⟩
          exact ⟨_, ⟨first, isFirst, rfl⟩, [], .inl rfl, rfl⟩
        · rw [List.concat_eq_append] at isLabel ⊢
          obtain ⟨isFirst, spelled, isLast⟩ :=
            isDomainLabel_cons_append_singleton_iff.mp isLabel
          exact ⟨_, ⟨first, isFirst, rfl⟩, _,
            .inr ⟨middle, spelled, _, ⟨last, isLast, rfl⟩, rfl⟩, rfl⟩

/-- The pattern behind a dot matches labels, each behind its own dot. -/
theorem mem_oneOrMore_dotted_iff :
    characters ∈ (oneOrMore (.char '.' * labelPattern)).matches' ↔
      ∃ labels : List (List Char),
        labels ≠ [] ∧ (∀ label ∈ labels, IsDomainLabel label) ∧
          characters = (labels.map ('.' :: ·)).flatten := by
  have isDotted
      (part : List Char) :
      part ∈ (.char '.' * labelPattern : RegularExpression Char).matches' ↔
        ∃ label, IsDomainLabel label ∧ '.' :: label = part := by
    rw [RegularExpression.matches'_mul, Language.mem_mul]
    simp only [mem_labelPattern_iff]
    exact exists_eq_left
  rw [mem_oneOrMore_iff]
  simp only [isDotted]
  constructor
  · rintro ⟨parts, present, areDotted, rfl⟩
    refine ⟨parts.map List.tail, ?_, ?_, ?_⟩
    · rwa [ne_eq, List.map_eq_nil_iff]
    · rw [List.forall_mem_map]
      intro part member
      obtain ⟨label, isLabel, rfl⟩ := areDotted part member
      exact isLabel
    · have rejoin :
          ∀ part ∈ parts, (('.' :: ·) ∘ List.tail) part = part := by
        intro part member
        obtain ⟨label, _, rfl⟩ := areDotted part member
        rfl
      rw [List.map_map, List.map_congr_left rejoin, List.map_id']
  · rintro ⟨labels, present, areLabels, rfl⟩
    refine ⟨labels.map ('.' :: ·), ?_, ?_, rfl⟩
    · rwa [ne_eq, List.map_eq_nil_iff]
    · rw [List.forall_mem_map]
      exact fun label member => ⟨label, areLabels _ member, rfl⟩

/-- The pattern of an address matches what has the shape of one. -/
theorem mem_addressPattern_iff :
    characters ∈ addressPattern.matches' ↔ HasAddressShape characters := by
  unfold addressPattern
  rw [RegularExpression.matches'_mul, Language.mem_mul,
    RegularExpression.matches'_mul]
  simp only [Language.mem_mul, mem_oneOrMore_oneOf_iff,
    RegularExpression.matches'_mul, mem_labelPattern_iff,
    mem_oneOrMore_dotted_iff]
  constructor
  · rintro ⟨_, ⟨localPart, ⟨present, spelled⟩, _, rfl, rfl⟩, _,
      ⟨label, isLabel, _, ⟨labels, several, areLabels, rfl⟩, rfl⟩, rfl⟩
    rw [← intercalate_dot_cons, List.append_assoc]
    refine .joined present spelled ?_
      (List.forall_mem_cons.mpr ⟨isLabel, areLabels⟩)
    exact Nat.succ_le_succ (List.length_pos_iff.mpr several)
  · intro shaped
    cases shaped with
    | @joined localPart labels present spelled several areLabels =>
        cases labels with
        | nil =>
            cases several
        | cons label others =>
            rw [List.forall_mem_cons] at areLabels
            have severalOthers : others ≠ [] :=
              List.length_pos_iff.mp (Nat.le_of_succ_le_succ several)
            refine ⟨_, ⟨localPart, ⟨present, spelled⟩, _, rfl, rfl⟩, _,
              ⟨label, areLabels.1, _,
                ⟨others, severalOthers, areLabels.2, rfl⟩, rfl⟩, ?_⟩
            rw [intercalate_dot_cons, List.append_assoc]
            rfl

/-- Stripped characters do not end with a line break. -/
theorem stripped_ne_append_lineBreak
    (characters line : List Char) :
    stripped characters ≠ line ++ ['\n'] := by
  intro isLine
  have notBlank :=
    List.rdropWhile_last_not isBlank (characters.dropWhile isBlank)
  change
    ∀ present, ¬isBlank ((stripped characters).getLast present) = true
    at notBlank
  rw [isLine] at notBlank
  have lineBreak := notBlank (List.concat_ne_nil _ _)
  rw [List.getLast_append_singleton] at lineBreak
  exact lineBreak rfl

/-- Of stripped characters the pattern finds exactly the shape of an address. -/
theorem finds_addressPattern_stripped_iff :
    Finds addressPattern (stripped characters) ↔
      HasAddressShape (stripped characters) := by
  rw [← mem_addressPattern_iff]
  refine ⟨fun isFound => ?_, .whole⟩
  generalize ofStripped : stripped characters = searched at isFound ⊢
  cases isFound with
  | whole isMatch =>
      exact isMatch
  | line =>
      exact absurd ofStripped (stripped_ne_append_lineBreak _ _)

end Text

namespace Check

variable
  {submitted : Value}
  {text : String}

/-- An email address is stored without the blanks around it, or refused. -/
theorem emailFormat_of_asText
    (shows : submitted.asText = .ok text)
    (result : Result)
    (field : String) :
    emailFormat submitted (.text field) result =
      if Text.isEmailAddress (Text.strip text).toList then
        ⟨[.value (.text field) (.text (Text.strip text))], .ok ()⟩
      else
        ⟨[.error (.text field) (.text "Invalid email format.")],
          .ok ()⟩ := by
  unfold emailFormat
  rw [shows, lift_ok_bind]
  split
  case isTrue =>
    rfl
  case isFalse =>
    rfl

/-- A value without a text stops the check, and nothing is written. -/
theorem emailFormat_of_asText_eq_error
    {fault : Fault}
    (shown : submitted.asText = .error fault)
    (result : Result)
    (field : String) :
    emailFormat submitted (.text field) result = ⟨[], .error fault⟩ := by
  unfold emailFormat
  rw [shown]
  rfl

/-- The empty result accepts the text of a value exactly if it is an address. -/
theorem accepts_emailFormat_iff
    (shows : submitted.asText = .ok text)
    (field : String) :
    (emailFormat submitted (.text field)).Accepts .empty field
        (.text (Text.strip text)) ↔
      Text.isEmailAddress (Text.strip text).toList = true := by
  have journal := emailFormat_of_asText shows .empty field
  cases recognised : Text.isEmailAddress (Text.strip text).toList with
  | true =>
      rw [recognised, if_pos rfl] at journal
      refine iff_of_true ?_ rfl
      exact
        { answers := by rw [journal]
          quiet := by
            rw [journal]
            exact List.forall_mem_singleton.mpr rfl
          stores := by
            rw [after, journal]
            simp [Result.value?_extend, Entry.valueAt?] }
  | false =>
      rw [recognised, if_neg Bool.false_ne_true] at journal
      refine iff_of_false (fun accepted => ?_) Bool.false_ne_true
      have quiet := accepted.quiet
      rw [journal] at quiet
      cases quiet _ (List.mem_singleton_self _)

/--
The text of a value is accepted as an email address, on the empty result, exactly
if it is one without the blanks around it. Otherwise there is one message and
nothing is stored. The addresses are what the declared pattern finds where no two
dots stand side by side. They have one at sign, and only visible ASCII characters.
A value without a text stops the check with its fault, and nothing is written.
-/
theorem accepts_emailFormat_iff_isAddress
    (submitted : Value)
    (field : String) :
    match submitted.asText with
    | .ok text =>
        ((emailFormat submitted (.text field)).Accepts .empty field
              (.text (Text.strip text)) ↔
            Text.IsAddress (Text.strip text).toList) ∧
          (¬Text.IsAddress (Text.strip text).toList →
            emailFormat submitted (.text field) .empty =
              ⟨[.error (.text field) (.text "Invalid email format.")],
                .ok ()⟩) ∧
          (Text.IsAddress (Text.strip text).toList ↔
            Text.Finds Text.addressPattern (Text.strip text).toList ∧
              ¬['.', '.'] <:+: (Text.strip text).toList) ∧
          (Text.IsAddress (Text.strip text).toList →
            (Text.strip text).toList.count '@' = 1 ∧
              ∀ character ∈ (Text.strip text).toList,
                33 ≤ character.toNat ∧ character.toNat ≤ 126)
    | .error fault =>
        emailFormat submitted (.text field) .empty = ⟨[], .error fault⟩ := by
  cases shown : submitted.asText with
  | error fault =>
      exact emailFormat_of_asText_eq_error shown .empty field
  | ok text =>
      have isStripped :
          (Text.strip text).toList = Text.stripped text.toList := by
        rw [Text.strip, String.toList_ofList]
      dsimp only
      rw [← Text.isEmailAddress_iff]
      refine ⟨accepts_emailFormat_iff shown field, ?_, ?_, ?_⟩
      · intro refused
        rw [emailFormat_of_asText shown, if_neg refused]
      · rw [Text.isEmailAddress_iff, isStripped,
          Text.finds_addressPattern_stripped_iff]
        exact Iff.rfl
      · rw [Text.isEmailAddress_iff]
        exact fun isAddress =>
          ⟨isAddress.1.count_at, isAddress.1.visible⟩

/-- An address between blanks is stored without them; one with two dots is not. -/
theorem accepts_emailFormat_iff_isAddress_padded :
    (Value.text " a.b+c@x-1.mail.org\n").asText =
        .ok " a.b+c@x-1.mail.org\n" ∧
      (emailFormat (.text " a.b+c@x-1.mail.org\n")
          (.text "contact")).Accepts .empty "contact"
        (.text "a.b+c@x-1.mail.org") ∧
      emailFormat (.text "a..b@mail.org") (.text "contact") .empty =
        ⟨[.error (.text "contact") (.text "Invalid email format.")],
          .ok ()⟩ := by
  have isStripped :
      Text.strip " a.b+c@x-1.mail.org\n" = "a.b+c@x-1.mail.org" := by
    decide +kernel
  have refused :
      ¬Text.isEmailAddress (Text.strip "a..b@mail.org").toList = true := by
    decide +kernel
  obtain ⟨accepts, -⟩ :=
    accepts_emailFormat_iff_isAddress (.text " a.b+c@x-1.mail.org\n")
      "contact"
  obtain ⟨-, refuses, -⟩ :=
    accepts_emailFormat_iff_isAddress (.text "a..b@mail.org") "contact"
  rw [isStripped, ← Text.isEmailAddress_iff] at accepts
  exact ⟨rfl, accepts.mpr (by decide +kernel),
    refuses (mt Text.isEmailAddress_iff.mpr refused)⟩

end Check

end FormCheck
