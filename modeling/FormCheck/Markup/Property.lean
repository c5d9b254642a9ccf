import FormCheck.Markup.Margin
import FormCheck.Number.Digits
import FormCheck.Text.Digit

namespace FormCheck.Markup

/-!
# Names, tags and directives

A node may have an anchor, by whose name it can be referred to, and a tag, which
says how it is read. A tag consists of a handle and a suffix; directives in front
of a document say which tags the handles abbreviate.
-/

/-- A tag as it is written: a handle, unless it is written in full, and the rest. -/
structure WrittenTag where
  handle : Option String
  suffix : String
deriving Repr, DecidableEq

/--
A directive in front of a document: it gives the major version of the format, or
says what a handle stands for, or has no meaning.
-/
inductive Directive where
  | version (major : Nat)
  | handle (handle tagPrefix : String)
  | reserved
deriving Repr, DecidableEq

namespace Property

/-- The name of an anchor, behind its sign. -/
def anchorName (characters : List Char) : Except Fault (Lexeme Char) :=
  let name := characters.takeWhile isNameCharacter
  let rest := characters.drop name.length
  let isEnded :=
    endsWord rest || rest.head?.any ['?', ':', ',', ']', '}', '%', '@', '\x60'].contains
  if name.isEmpty then
    refuse "an anchor has no name"
  else if isEnded then
    .ok ⟨name, name.length⟩
  else
    refuse "the name of an anchor has an unknown character"

/-- Whether a character may occur in a tag. -/
def isTagCharacter (character : Char) : Bool :=
  character.isAlphanum ||
    ['-', ';', '/', '?', ':', '@', '&', '=', '+', '$', ',', '_', '.', '!', '~',
      '*', '\'', '(', ')', '[', ']'].contains character

/-- The bytes of a tag, where a percent sign stands before a byte's digits. -/
def tagBytes : List Char → Except Fault (List UInt8 × Nat)
  | '%' :: high :: low :: rest =>
      match hexDigit? high, hexDigit? low with
      | some high, some low => do
          let (bytes, size) ← tagBytes rest
          return (UInt8.ofNat (16 * high + low) :: bytes, size + 3)
      | _, _ => refuse "a tag has an incomplete escape"
  | character :: rest =>
      if character = '%' then
        refuse "a tag has an incomplete escape"
      else if isTagCharacter character then do
        let (bytes, size) ← tagBytes rest
        return (UInt8.ofNat character.toNat :: bytes, size + 1)
      else
        .ok ([], 0)
  | [] => .ok ([], 0)

/-- The text of a tag, and the number of characters that write it. -/
def tagText (characters : List Char) : Except Fault (String × Nat) := do
  let (bytes, size) ← tagBytes characters
  if bytes.isEmpty then
    refuse "a tag has no text"
  else
    match String.fromUTF8? ⟨bytes.toArray⟩ with
    | some text => .ok (text, size)
    | none => refuse "the escapes of a tag are no text"

/-- The handle of a tag, from its first sign on. -/
def tagHandle : List Char → Except Fault (String × Nat)
  | '!' :: rest =>
      if rest.head? = some ' ' then
        .ok ("!", 1)
      else
        let name := rest.takeWhile isNameCharacter
        if (rest.drop name.length).head? = some '!' then
          .ok (String.ofList ('!' :: name ++ ['!']), name.length + 2)
        else
          refuse "the handle of a tag is not closed"
  | _ => refuse "the handle of a tag was expected"

/-- Whether a second sign follows in the word that a tag is written in. -/
def hasHandle (rest : List Char) : Bool :=
  (rest.takeWhile fun character =>
    character ≠ ' ' && !isBreak character).contains '!'

/-- A tag, from its first sign on. -/
def tag (characters : List Char) : Except Fault (WrittenTag × Nat) := do
  let rest := characters.drop 1
  let (tag, size) ←
    match rest with
    | '<' :: inside => do
        let (suffix, size) ← tagText inside
        if (inside.drop size).head? = some '>' then
          pure (⟨none, suffix⟩, size + 3)
        else
          refuse "a tag is not closed"
    | _ =>
        if endsWord rest then
          pure (⟨none, "!"⟩, 1)
        else do
          let (handle, handleSize) ←
            if hasHandle rest then tagHandle characters else pure ("!", 1)
          let (suffix, size) ← tagText (characters.drop handleSize)
          pure (⟨some handle, suffix⟩, handleSize + size)
  if endsProperty (characters.drop size) then
    return (tag, size)
  else
    refuse "a tag has an unknown character"

/-- A number of a version, and the number of digits that write it. -/
def versionNumber (characters : List Char) : Except Fault (Nat × Nat) :=
  let digits := characters.takeWhile Char.isDigit
  if digits.isEmpty then
    refuse "a version was expected"
  else if Number.digitLimit < digits.length then
    .error .tooManyDigits
  else
    .ok (Text.numberOfAscii digits, digits.length)

/-- The version that a directive gives, behind its name. -/
def version (characters : List Char) : Except Fault (Directive × Nat) := do
  let spaces := characters.takeWhile (· = ' ')
  let (major, majorSize) ← versionNumber (characters.drop spaces.length)
  let rest := characters.drop (spaces.length + majorSize)
  if rest.head? ≠ some '.' then
    refuse "a version was expected"
  else
    let (_, minorSize) ← versionNumber (rest.drop 1)
    if endsProperty (rest.drop (minorSize + 1)) then
      return (.version major, spaces.length + majorSize + 1 + minorSize)
    else
      refuse "a version was expected"

/-- The handle that a directive gives a meaning, behind the directive's name. -/
def handle (characters : List Char) : Except Fault (Directive × Nat) := do
  let before := characters.takeWhile (· = ' ')
  let (handle, handleSize) ← tagHandle (characters.drop before.length)
  let rest := characters.drop (before.length + handleSize)
  let between := rest.takeWhile (· = ' ')
  if between.isEmpty then
    refuse "a space was expected behind the handle of a directive"
  else
    let rest := rest.drop between.length
    let (tagPrefix, size) ← tagText rest
    if endsProperty (rest.drop size) then
      return (.handle handle tagPrefix,
        before.length + handleSize + between.length + size)
    else
      refuse "the tag of a directive has an unknown character"

/-- A directive, behind its sign. -/
def directive (characters : List Char) : Except Fault (Directive × Nat) := do
  let name := characters.takeWhile isNameCharacter
  let rest := characters.drop name.length
  if name.isEmpty || !endsProperty rest then
    refuse "the name of a directive was expected"
  else
    let (directive, size) ←
      if name = "YAML".toList then
        version rest
      else if name = "TAG".toList then
        handle rest
      else
        pure (.reserved, (rest.takeWhile (!isBreak ·)).length)
    let remainder ← lineRemainder (rest.drop size)
    return (directive, name.length + size + remainder)

end Property

end FormCheck.Markup
