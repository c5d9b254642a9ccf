import FormCheck.Fault

namespace FormCheck.Markup

/-!
# Characters of a markup text

A markup text is made of lines. Four characters break a line; the line feed and
the next-line character are read as a line feed, the other two as themselves. A
text holds no control characters but tabs and line breaks.
-/

/-- Whether a character may occur in a text. -/
def isAllowed (character : Char) : Bool :=
  let code := character.toNat
  character = '\t' || character = '\n' || character = '\r' ||
    character = '\x85' || (0x20 ≤ code && code ≤ 0x7E) ||
    (0xA0 ≤ code && code ≤ 0xFFFD) || 0x10000 ≤ code

/-- Whether a character breaks a line. -/
def isBreak (character : Char) : Bool :=
  character = '\n' || character = '\x85' || character = '\u2028' ||
    character = '\u2029'

/-- Whether a character is a space or a tab. -/
def isBlank (character : Char) : Bool :=
  character = ' ' || character = '\t'

/-- The character that a line break is read as. -/
def readBreak (character : Char) : Char :=
  if character = '\x85' then '\n' else character

/-- The byte order mark, which takes no column. -/
def byteOrderMark : Char := '\ufeff'

/-- Whether a character is a bracket or a comma, which structure a flow. -/
def isFlowSign (character : Char) : Bool :=
  [',', '[', ']', '{', '}'].contains character

/-- Whether a character may occur in the name of an anchor or a handle. -/
def isNameCharacter (character : Char) : Bool :=
  character.isAlphanum || character = '-' || character = '_'

/-- Whether a line ends before some characters. -/
def endsLine : List Char → Bool
  | [] => true
  | character :: _ => isBreak character

/-- Whether a blank, a line break or the end of the text comes next. -/
def endsWord : List Char → Bool
  | [] => true
  | character :: _ => isBlank character || isBreak character

/-- Whether a space, a line break or the end of the text comes next. -/
def endsProperty : List Char → Bool
  | [] => true
  | character :: _ => character = ' ' || isBreak character

/-- Whether some characters start with a sign written three times. -/
def startsWithMark (sign : Char) : List Char → Bool
  | first :: second :: third :: rest =>
      first = sign && second = sign && third = sign && endsWord rest
  | _ => false

/-- Whether some characters start with the mark of a document. -/
def isDocumentMark (characters : List Char) : Bool :=
  startsWithMark '-' characters || startsWithMark '.' characters

/-- The value of a hexadecimal digit. -/
def hexDigit? (character : Char) : Option Nat :=
  if '0' ≤ character ∧ character ≤ '9' then
    some (character.toNat - 48)
  else if 'a' ≤ character ∧ character ≤ 'f' then
    some (character.toNat - 87)
  else if 'A' ≤ character ∧ character ≤ 'F' then
    some (character.toNat - 55)
  else
    none

/-- Refuse a text. -/
def refuse (problem : String) : Except Fault result :=
  .error (.unreadable problem)

/-- A part of a text: what it stands for and how many characters write it. -/
structure Lexeme (sign : Type) where
  content : List sign
  size : Nat
deriving Repr, DecidableEq

end FormCheck.Markup
