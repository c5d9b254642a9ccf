import FormCheck.Proofs.Digits
import FormCheck.Text.Email
import Mathlib.Data.Bool.AllAny
import Mathlib.Data.List.TakeWhile

namespace FormCheck.Text

/-!
# Email addresses as a grammar

An email address is a local part, an at sign and a domain. The domain is at least
two labels with dots between them, and no two dots stand side by side. An address
is recognised by cutting it at the first at sign and at each dot. Neither can stand
in the parts, so that nothing else than the grammar is recognised.
-/

/-! ## The characters of an address -/

/-- The ASCII letters and digits. -/
def lettersAndDigits : List Char :=
  "ABCDEFGHIJKLMNOPQRSTUVWXYZabcdefghijklmnopqrstuvwxyz0123456789".toList

/-- The characters of a local part. -/
def localCharacters : List Char :=
  lettersAndDigits ++ ".!#$%&'*+/=?^_`\x7b|\x7d~-".toList

/-- The characters of a label. -/
def labelCharacters : List Char :=
  lettersAndDigits ++ ['-']

/-- A character is an ASCII letter or digit exactly if it is one of these. -/
theorem isAsciiAlphanumeric_iff_mem
    {character : Char} :
    isAsciiAlphanumeric character = true ↔
      character ∈ lettersAndDigits := by
  constructor
  · intro isAlphanumeric
    have isBelow : character.toNat < 123 := by
      rw [isAsciiAlphanumeric_iff] at isAlphanumeric
      omega
    revert isAlphanumeric
    apply forall_of_forall_code isBelow
    decide +kernel
  · have areAlphanumeric :
        ∀ listed ∈ lettersAndDigits,
          isAsciiAlphanumeric listed = true :=
      List.all_eq_true.mp rfl
    exact areAlphanumeric character

/-- A character may stand in a local part exactly if it is one of these. -/
theorem isLocalCharacter_iff_mem
    {character : Char} :
    isLocalCharacter character = true ↔ character ∈ localCharacters := by
  unfold isLocalCharacter localCharacters
  rw [Bool.or_eq_true, isAsciiAlphanumeric_iff_mem, List.contains_iff_mem,
    List.mem_append]

/-- A character may stand in a label exactly if it is one of these. -/
theorem isLabelCharacter_iff_mem
    {character : Char} :
    isLabelCharacter character = true ↔ character ∈ labelCharacters := by
  unfold isLabelCharacter labelCharacters
  rw [Bool.or_eq_true, isAsciiAlphanumeric_iff_mem, decide_eq_true_eq,
    List.mem_append, List.mem_singleton]

/-- The letters and digits are the characters of a label but for the hyphen. -/
theorem mem_lettersAndDigits_iff
    {character : Char} :
    character ∈ lettersAndDigits ↔
      character ∈ labelCharacters ∧ character ≠ '-' := by
  have areOther : ∀ listed ∈ lettersAndDigits, listed ≠ '-' :=
    List.all_iff_forall_prop.mp rfl
  unfold labelCharacters
  rw [List.mem_append, List.mem_singleton]
  exact
    ⟨fun member => ⟨.inl member, areOther _ member⟩,
      fun both => both.1.resolve_right both.2⟩

/-! ## The grammar of addresses -/

/--
A label is one to 63 ASCII letters, digits and hyphens, with a hyphen at neither
end.
-/
structure IsDomainLabel
    (label : List Char) : Prop where
  present : 1 ≤ label.length
  short : label.length ≤ 63
  spelled : ∀ character ∈ label, character ∈ labelCharacters
  leading : label.head? ≠ some '-'
  trailing : label.getLast? ≠ some '-'

/--
Characters have the shape of an address if they are a local part, an at sign, and
labels with dots between them.
-/
inductive HasAddressShape : List Char → Prop where
  | joined
      {localPart : List Char}
      {labels : List (List Char)}
      (present : localPart ≠ [])
      (spelled : ∀ character ∈ localPart, character ∈ localCharacters)
      (several : 2 ≤ labels.length)
      (areLabels : ∀ label ∈ labels, IsDomainLabel label) :
      HasAddressShape (localPart ++ '@' :: ['.'].intercalate labels)

/-- An address has the shape of one, and no two dots stand side by side. -/
def IsAddress
    (characters : List Char) : Prop :=
  HasAddressShape characters ∧ ¬['.', '.'] <:+: characters

variable
  {characters label : List Char}
  {labels : List (List Char)}

/-- An end of a label is a letter or digit if it is there and no hyphen. -/
theorem any_isAsciiAlphanumeric_iff
    {ending : Option Char}
    (spelled : ∀ character ∈ ending, character ∈ labelCharacters) :
    ending.any isAsciiAlphanumeric = true ↔
      ending ≠ none ∧ ending ≠ some '-' := by
  cases ending with
  | none =>
      exact iff_of_false Bool.false_ne_true fun both => both.1 rfl
  | some character =>
      rw [Option.any_some, isAsciiAlphanumeric_iff_mem,
        mem_lettersAndDigits_iff, and_iff_right (spelled _ rfl),
        and_iff_right (Option.some_ne_none _), ne_eq, ne_eq,
        Option.some_inj]

/-- What is recognised as a label is what the grammar has for one. -/
theorem isLabel_iff :
    isLabel label = true ↔ IsDomainLabel label := by
  unfold isLabel
  simp only [Bool.and_eq_true, decide_eq_true_eq, List.all_eq_true,
    isLabelCharacter_iff_mem]
  constructor
  · rintro ⟨⟨⟨short, spelled⟩, leading⟩, trailing⟩
    rw [any_isAsciiAlphanumeric_iff
      fun _ isFirst => spelled _ (List.mem_of_mem_head? isFirst)] at leading
    rw [any_isAsciiAlphanumeric_iff
      fun _ isLast => spelled _ (List.mem_of_getLast? isLast)] at trailing
    exact
      { present := List.length_pos_iff.mpr fun isEmpty =>
          leading.1 (List.head?_eq_none_iff.mpr isEmpty)
        short := short
        spelled := spelled
        leading := leading.2
        trailing := trailing.2 }
  · rintro ⟨present, short, spelled, leading, trailing⟩
    rw [any_isAsciiAlphanumeric_iff
        fun _ isFirst => spelled _ (List.mem_of_mem_head? isFirst),
      any_isAsciiAlphanumeric_iff
        fun _ isLast => spelled _ (List.mem_of_getLast? isLast)]
    have notEmpty : label ≠ [] := List.length_pos_iff.mp present
    exact ⟨⟨⟨short, spelled⟩, mt List.head?_eq_none_iff.mp notEmpty, leading⟩,
      mt List.getLast?_eq_none_iff.mp notEmpty, trailing⟩

/-- Splitting at a separator is splitting on it. -/
theorem splitAt_eq_splitOn
    (separator : Char)
    (characters : List Char) :
    splitAt separator characters = characters.splitOn separator := by
  rw [List.splitOn_eq_splitOnP]
  induction characters with
  | nil =>
      rw [List.splitOnP_nil, splitAt]
  | cons character rest inductionHypothesis =>
      rw [List.splitOnP_cons_eq_if_modifyHead, splitAt, inductionHypothesis]
      simp only [beq_iff_eq]
      congr 1
      cases parts : rest.splitOnP (· == separator) with
      | nil =>
          rw [← inductionHypothesis] at parts
          exact absurd parts (splitAt_ne_nil separator rest)
      | cons part others =>
          rfl

/-- Labels have no dots. -/
theorem IsDomainLabel.dot_not_mem
    (isLabel : IsDomainLabel label) :
    '.' ∉ label := by
  have noDot : '.' ∉ labelCharacters := by
    decide
  exact fun member => noDot (isLabel.spelled _ member)

/-- What is recognised as a domain is labels with dots between them. -/
theorem isDomain_iff :
    isDomain characters = true ↔
      ∃ labels : List (List Char),
        2 ≤ labels.length ∧ (∀ label ∈ labels, IsDomainLabel label) ∧
          characters = ['.'].intercalate labels := by
  unfold isDomain
  rw [Bool.and_eq_true, decide_eq_true_eq, List.all_eq_true,
    splitAt_eq_splitOn]
  simp only [isLabel_iff]
  constructor
  · rintro ⟨several, areLabels⟩
    exact ⟨_, several, areLabels, (List.intercalate_splitOn '.').symm⟩
  · rintro ⟨labels, several, areLabels, rfl⟩
    have present : labels ≠ [] := by
      rintro rfl
      cases several
    rw [List.splitOn_intercalate '.'
      (fun label member => (areLabels label member).dot_not_mem) present]
    exact ⟨several, areLabels⟩

/-- Two dots are found side by side exactly where they stand so. -/
theorem hasDoubleDot_iff :
    hasDoubleDot characters = true ↔ ['.', '.'] <:+: characters := by
  fun_induction hasDoubleDot characters with
  | case1 rest =>
      exact iff_of_true rfl (List.prefix_append ['.', '.'] rest).isInfix
  | case2 character rest notDouble inductionHypothesis =>
      rw [inductionHypothesis, List.infix_cons_iff, iff_or_self]
      rintro ⟨others, isDouble⟩
      cases isDouble
      cases notDouble _ rfl rfl
  | case3 =>
      simp

/-- What stands before the first at sign is looked at as the local part. -/
theorem isEmailAddress_append
    {localPart domain : List Char}
    (noSign : '@' ∉ localPart) :
    isEmailAddress (localPart ++ '@' :: domain) =
      (!localPart.isEmpty && localPart.all isLocalCharacter &&
        isDomain domain && !hasDoubleDot (localPart ++ '@' :: domain)) := by
  have passesOver :
      ∀ character ∈ localPart, decide (character ≠ '@') = true := by
    intro character member
    exact decide_eq_true (ne_of_mem_of_not_mem member noSign)
  have before :
      (localPart ++ '@' :: domain).takeWhile (· ≠ '@') = localPart := by
    rw [List.takeWhile_append_of_pos passesOver,
      List.takeWhile_cons_of_neg (by decide), List.append_nil]
  have behind :
      (localPart ++ '@' :: domain).dropWhile (· ≠ '@') =
        '@' :: domain := by
    rw [List.dropWhile_append_of_pos passesOver,
      List.dropWhile_cons_of_neg (by decide)]
  unfold isEmailAddress
  rw [before, behind]

/-- Without an at sign there is no address. -/
theorem exists_of_isEmailAddress
    (recognised : isEmailAddress characters = true) :
    ∃ localPart domain,
      '@' ∉ localPart ∧ characters = localPart ++ '@' :: domain := by
  have rejoins :
      characters.takeWhile (· ≠ '@') ++ characters.dropWhile (· ≠ '@') =
        characters :=
    List.takeWhile_append_dropWhile
  have noSign : '@' ∉ characters.takeWhile (· ≠ '@') := by
    intro member
    have isOther := List.mem_takeWhile_imp member
    cases isOther
  unfold isEmailAddress at recognised
  cases remaining : characters.dropWhile (· ≠ '@') with
  | nil =>
      rw [remaining] at recognised
      cases recognised
  | cons sign domain =>
      have isSign : sign = '@' := by
        have stops := List.head?_dropWhile_not (· ≠ '@') characters
        rw [remaining] at stops
        simpa using stops
      rw [remaining, isSign] at rejoins
      exact ⟨_, domain, noSign, rejoins.symm⟩

/-- What is recognised as an address is what the grammar has for one. -/
theorem isEmailAddress_iff :
    isEmailAddress characters = true ↔ IsAddress characters := by
  unfold IsAddress
  rw [← hasDoubleDot_iff, Bool.not_eq_true]
  constructor
  · intro recognised
    obtain ⟨localPart, domain, noSign, rfl⟩ :=
      exists_of_isEmailAddress recognised
    rw [isEmailAddress_append noSign] at recognised
    simp only [Bool.and_eq_true, Bool.not_eq_true',
      List.isEmpty_eq_false_iff, List.all_eq_true, isLocalCharacter_iff_mem,
      isDomain_iff] at recognised
    obtain ⟨⟨⟨present, spelled⟩, labels, several, areLabels, rfl⟩, single⟩ :=
      recognised
    exact ⟨.joined present spelled several areLabels, single⟩
  · rintro ⟨shaped, single⟩
    cases shaped with
    | @joined localPart labels present spelled several areLabels =>
        have noSign : '@' ∉ localPart := by
          have notListed : '@' ∉ localCharacters := by
            decide
          exact fun member => notListed (spelled _ member)
        rw [isEmailAddress_append noSign]
        simp only [Bool.and_eq_true, Bool.not_eq_true',
          List.isEmpty_eq_false_iff, List.all_eq_true,
          isLocalCharacter_iff_mem, isDomain_iff]
        exact ⟨⟨⟨present, spelled⟩, labels, several, areLabels, rfl⟩,
          single⟩

/-! ## What an address holds -/

/-- Labels with dots between them are the first and then each with its dot. -/
theorem intercalate_dot_cons
    (label : List Char)
    (labels : List (List Char)) :
    ['.'].intercalate (label :: labels) =
      label ++ (labels.map ('.' :: ·)).flatten := by
  induction labels generalizing label with
  | nil =>
      simp
  | cons next others inductionHypothesis =>
      rw [List.intercalate_cons_cons, inductionHypothesis, List.map_cons,
        List.flatten_cons, List.append_assoc]
      rfl

/-- The characters of a domain may all stand in a local part. -/
theorem mem_localCharacters_of_domain
    {character : Char}
    (areLabels : ∀ label ∈ labels, IsDomainLabel label)
    (member : character ∈ ['.'].intercalate labels) :
    character ∈ localCharacters := by
  have areListed :
      ∀ listed ∈ labelCharacters, listed ∈ localCharacters := by
    unfold labelCharacters localCharacters
    rw [List.forall_mem_append, List.forall_mem_singleton]
    exact ⟨fun _ isListed => List.mem_append_left _ isListed,
      List.mem_append_right _ (by decide)⟩
  cases labels with
  | nil =>
      cases member
  | cons first others =>
      rw [intercalate_dot_cons, List.mem_append, List.mem_flatten] at member
      rw [List.forall_mem_cons] at areLabels
      rcases member with inFirst | ⟨dotted, isDotted, inDotted⟩
      · exact areListed _ (areLabels.1.spelled _ inFirst)
      · obtain ⟨label, isLabel, rfl⟩ := List.mem_map.mp isDotted
        rcases List.mem_cons.mp inDotted with rfl | inLabel
        · decide
        · exact areListed _ ((areLabels.2 _ isLabel).spelled _ inLabel)

/-- The characters of a local part are visible ones of ASCII, and no at sign. -/
theorem visible_of_mem_localCharacters :
    ∀ character ∈ localCharacters,
      (33 ≤ character.toNat ∧ character.toNat ≤ 126) ∧ character ≠ '@' :=
  List.all_iff_forall_prop.mp rfl

/-- What has the shape of an address has only visible characters of ASCII. -/
theorem HasAddressShape.visible
    (shaped : HasAddressShape characters) :
    ∀ character ∈ characters,
      33 ≤ character.toNat ∧ character.toNat ≤ 126 := by
  cases shaped with
  | joined present spelled several areLabels =>
      intro character member
      rw [List.mem_append, List.mem_cons] at member
      rcases member with inLocalPart | rfl | inDomain
      · exact (visible_of_mem_localCharacters _ (spelled _ inLocalPart)).1
      · decide
      · exact (visible_of_mem_localCharacters _
          (mem_localCharacters_of_domain areLabels inDomain)).1

/-- What has the shape of an address has one at sign. -/
theorem HasAddressShape.count_at
    (shaped : HasAddressShape characters) :
    characters.count '@' = 1 := by
  cases shaped with
  | joined present spelled several areLabels =>
      rw [List.count_append, List.count_cons_self,
        List.count_eq_zero.mpr fun member =>
          (visible_of_mem_localCharacters _ (spelled _ member)).2 rfl,
        List.count_eq_zero.mpr fun member =>
          (visible_of_mem_localCharacters _
            (mem_localCharacters_of_domain areLabels member)).2 rfl]

end FormCheck.Text
