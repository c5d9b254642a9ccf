import FormCheck.Markup.Margin

namespace FormCheck.Markup.Quoted

/-!
# Quoted scalars

Between single quotes a quote is written twice. Between double quotes a
backslash begins an escape, which names a character, gives its code or hides a
line break. Line breaks are folded between quotes of either kind. Since a code
may be half of a surrogate pair, what stands between double quotes is read as
codes, of which the characters are made in the end.
-/

/-- The character that an escape of one letter names. -/
def namedCharacter? : Char → Option Char
  | '0' => some '\x00'
  | 'a' => some '\x07'
  | 'b' => some '\x08'
  | 't' => some '\t'
  | '\t' => some '\t'
  | 'n' => some '\n'
  | 'v' => some '\x0b'
  | 'f' => some '\x0c'
  | 'r' => some '\r'
  | 'e' => some '\x1b'
  | ' ' => some ' '
  | '"' => some '"'
  | '\\' => some '\\'
  | '/' => some '/'
  | 'N' => some '\x85'
  | '_' => some '\xa0'
  | 'L' => some '\u2028'
  | 'P' => some '\u2029'
  | _ => none

/-- The number of digits behind a letter that gives the code of a character. -/
def codeWidth? : Char → Option Nat
  | 'x' => some 2
  | 'u' => some 4
  | 'U' => some 8
  | _ => none

/-- The greatest code of a character. -/
def greatestCode : Nat := 0x10FFFF

/-- The first number that is too large even to be tried as a code. -/
def codeBound : Nat := 0x80000000

/-- The code that a number of hexadecimal digits give. -/
def code (width : Nat) (characters : List Char) : Except Fault Nat :=
  match (characters.take width).mapM hexDigit? with
  | none => refuse "an escape has too few hexadecimal digits"
  | some digits =>
      let code := digits.foldl (fun number digit => 16 * number + digit) 0
      if digits.length < width then
        refuse "an escape has too few hexadecimal digits"
      else if codeBound ≤ code then
        .error .tooLarge
      else if greatestCode < code then
        .error .nonexistent
      else
        .ok code

/-- The blank lines at the beginning of some characters. -/
def blankLines (characters : List Char) : Except Fault (Lexeme Char) :=
  let margin := Margin.read Margin.blanks 0 characters
  if margin.column = 0 && isDocumentMark (characters.drop margin.size) then
    refuse "a document mark was found inside quotes"
  else
    .ok ⟨margin.breaks, margin.size⟩

/-- The escape at the beginning of the characters behind a backslash. -/
def escape : List Char → Except Fault (Lexeme Nat)
  | [] => refuse "an escape was expected"
  | letter :: rest =>
      match namedCharacter? letter, codeWidth? letter with
      | some character, _ => .ok ⟨[character.toNat], 1⟩
      | none, some width => do
          return ⟨[← code width rest], width + 1⟩
      | none, none =>
          if isBreak letter then do
            let lines ← blankLines rest
            return ⟨lines.content.map Char.toNat, lines.size + 1⟩
          else
            refuse "an unknown escape was found"

/-- The blanks and line breaks at the beginning of some characters. -/
def gap (characters : List Char) : Except Fault (Lexeme Char) :=
  let blanks := characters.takeWhile isBlank
  match characters.drop blanks.length with
  | [] => refuse "a quote is not closed"
  | character :: rest =>
      if isBreak character then do
        let lines ← blankLines rest
        return ⟨folded character lines.content,
          blanks.length + 1 + lines.size⟩
      else
        .ok ⟨blanks, blanks.length⟩

/-- Put a lexeme in front of another one. -/
def joined (first second : Lexeme sign) : Lexeme sign :=
  ⟨first.content ++ second.content, first.size + second.size⟩

/-- The characters up to and including a closing single quote. -/
def readSingle : List Char → Except Fault (Lexeme Char)
  | [] => refuse "a quote is not closed"
  | '\'' :: '\'' :: rest => do
      return joined ⟨['\''], 2⟩ (← readSingle rest)
  | '\'' :: _ => .ok ⟨[], 1⟩
  | character :: rest =>
      if isBlank character || isBreak character then
        match gap (character :: rest) with
        | .error fault => .error fault
        | .ok ⟨content, size⟩ => do
            return joined ⟨content, size⟩ (← readSingle (rest.drop (size - 1)))
      else do
        return joined ⟨[character], 1⟩ (← readSingle rest)
termination_by characters => characters.length
decreasing_by
  all_goals simp only [List.length_drop, List.length_cons]
  all_goals omega

/-- The codes up to and including a closing double quote. -/
def readDouble : List Char → Except Fault (Lexeme Nat)
  | [] => refuse "a quote is not closed"
  | '"' :: _ => .ok ⟨[], 1⟩
  | '\\' :: rest =>
      match escape rest with
      | .error fault => .error fault
      | .ok ⟨content, size⟩ => do
          return joined ⟨content, size + 1⟩ (← readDouble (rest.drop size))
  | character :: rest =>
      if isBlank character || isBreak character then
        match gap (character :: rest) with
        | .error fault => .error fault
        | .ok ⟨content, size⟩ => do
            return joined ⟨content.map Char.toNat, size⟩
              (← readDouble (rest.drop (size - 1)))
      else do
        return joined ⟨[character.toNat], 1⟩ (← readDouble rest)
termination_by characters => characters.length
decreasing_by
  all_goals simp only [List.length_drop, List.length_cons]
  all_goals omega

/-- The code point that two halves of a surrogate pair stand for. -/
def paired? (high low : Nat) : Option Nat :=
  if 0xD800 ≤ high ∧ high < 0xDC00 ∧ 0xDC00 ≤ low ∧ low < 0xE000 then
    some (0x10000 + 0x400 * (high - 0xD800) + (low - 0xDC00))
  else
    none

/-- Some code points with the halves of surrogate pairs put together. -/
def pairing : List Nat → List Nat
  | high :: low :: rest =>
      match paired? high low with
      | some code => code :: pairing rest
      | none => high :: pairing (low :: rest)
  | codes => codes

/-- The character with a code point. Half a pair is none and has a stand-in. -/
def characterAt (code : Nat) : Char :=
  if code.isValidChar then Char.ofNat code else '\ufffd'

/-- The characters that some codes stand for. -/
def characters (codes : List Nat) : List Char :=
  (pairing codes).map characterAt

end FormCheck.Markup.Quoted
