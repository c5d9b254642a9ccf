import FormCheck.Markup.Character

namespace FormCheck.Markup

/-!
# Places in a text

A cursor is a place in a text: what follows, and the line and column it is in.
Columns are counted in characters; a byte order mark takes none.
-/

/-- A place in a text. -/
structure Cursor where
  rest : List Char
  offset : Nat
  line : Nat
  column : Nat
deriving Repr, DecidableEq

namespace Cursor

/-- The beginning of a text, behind a byte order mark. -/
def start (characters : List Char) : Cursor :=
  match characters with
  | character :: rest =>
      if character = byteOrderMark then
        ⟨rest, 1, 0, 0⟩
      else
        ⟨character :: rest, 0, 0, 0⟩
  | [] => ⟨[], 0, 0, 0⟩

/-- The place behind the next character. -/
def next (cursor : Cursor) : Cursor :=
  match cursor.rest with
  | [] => cursor
  | character :: rest =>
      if isBreak character then
        ⟨rest, cursor.offset + 1, cursor.line + 1, 0⟩
      else if character = byteOrderMark then
        ⟨rest, cursor.offset + 1, cursor.line, cursor.column⟩
      else
        ⟨rest, cursor.offset + 1, cursor.line, cursor.column + 1⟩

/-- The place behind a number of characters. -/
def advance : Nat → Cursor → Cursor
  | 0, cursor => cursor
  | size + 1, cursor => advance size cursor.next

end Cursor

end FormCheck.Markup
