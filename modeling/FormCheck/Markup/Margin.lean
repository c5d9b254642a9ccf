import FormCheck.Markup.Character

namespace FormCheck.Markup

/-!
# Margins

Blank lines and the blanks in front of the next line form a margin. A single
line break inside a scalar is folded into a space; where blank lines follow it,
only their breaks count.
-/

/-- Blank lines and the blanks in front of the line that follows them. -/
structure Margin where
  breaks : List Char
  column : Nat
  widest : Nat
  size : Nat
deriving Repr, DecidableEq

namespace Margin

/--
The margin at the beginning of some characters, which stand in a given column.
What counts as blank may depend on the column.
-/
def read (isSkipped : Nat → Char → Bool) (column : Nat) : List Char → Margin
  | [] => ⟨[], column, column, 0⟩
  | character :: rest =>
      if isBreak character then
        let margin := read isSkipped 0 rest
        ⟨readBreak character :: margin.breaks, margin.column,
          max column margin.widest, margin.size + 1⟩
      else if isSkipped column character then
        let margin := read isSkipped (column + 1) rest
        { margin with size := margin.size + 1 }
      else
        ⟨[], column, column, 0⟩

/-- Spaces alone count as blank. -/
def spaces (_column : Nat) (character : Char) : Bool :=
  character = ' '

/-- Spaces and tabs count as blank. -/
def blanks (_column : Nat) (character : Char) : Bool :=
  isBlank character

/-- Spaces count as blank up to a column. -/
def spacesUpTo (limit column : Nat) (character : Char) : Bool :=
  column < limit && character = ' '

end Margin

/-- What a line break and the breaks of blank lines after it are folded into. -/
def folded (first : Char) (breaks : List Char) : List Char :=
  if readBreak first ≠ '\n' then
    readBreak first :: breaks
  else if breaks.isEmpty then
    [' ']
  else
    breaks

/-- The number of spaces and characters of a comment before the end of a line. -/
def lineRemainder (characters : List Char) : Except Fault Nat :=
  let spaces := characters.takeWhile (· = ' ')
  let rest := characters.drop spaces.length
  let comment :=
    match rest with
    | '#' :: _ => rest.takeWhile (!isBreak ·)
    | _ => []
  if endsLine (rest.drop comment.length) then
    .ok (spaces.length + comment.length)
  else
    refuse "a comment or the end of the line was expected"

/--
The number of characters before the next token, and whether a line ends among
them. Spaces, comments and line breaks stand between tokens.
-/
def spacing (inComment : Bool) : List Char → Nat × Bool
  | [] => (0, false)
  | character :: rest =>
      if isBreak character then
        let (size, _) := spacing false rest
        (size + 1, true)
      else if inComment || character = ' ' || character = '#' then
        let (size, broken) := spacing (inComment || character = '#') rest
        (size + 1, broken)
      else
        (0, false)

example :
    spacing false [' ', '#', 'c', '\n', ' ', 'a'] = (5, true) := by
  decide

end FormCheck.Markup
