import FormCheck.Markup.Margin

namespace FormCheck.Markup

/-!
# Plain scalars

A plain scalar is written without quotes. It consists of words with spaces or
line breaks between them, and it ends before a comment, a colon behind which a
word ends, or a line that is not indented far enough. Inside brackets it also
ends before a bracket, a comma or a question mark.
-/

/-- A plain scalar, and whether line breaks follow it. -/
structure PlainScalar where
  content : List Char
  size : Nat
  endsWithBreak : Bool
deriving Repr, DecidableEq

namespace PlainScalar

/-- Whether a word ends before a character. -/
def endsBefore (inFlow : Bool) (character : Char) (rest : List Char) : Bool :=
  isBlank character || isBreak character ||
    (character = ':' &&
      (endsWord rest || (inFlow && rest.head?.any isFlowSign))) ||
    (inFlow && (character = '?' || isFlowSign character))

/-- The rest of a word at the beginning of some characters. -/
def word (inFlow : Bool) : List Char → List Char
  | [] => []
  | character :: rest =>
      if endsBefore inFlow character rest then
        []
      else
        character :: word inFlow rest

/-- What stands between two words, and the column behind a line break in it. -/
structure Gap where
  content : List Char
  size : Nat
  column : Option Nat
deriving Repr, DecidableEq

/-- The gap at the beginning of some characters. -/
def gap (characters : List Char) : Gap :=
  let spaces := characters.takeWhile (· = ' ')
  match characters.drop spaces.length with
  | character :: rest =>
      if isBreak character then
        let margin := Margin.read Margin.spaces 0 rest
        ⟨folded character margin.breaks, spaces.length + 1 + margin.size,
          some margin.column⟩
      else
        ⟨spaces, spaces.length, none⟩
  | [] => ⟨spaces, spaces.length, none⟩

/-- Whether a scalar may go on behind a gap. -/
def goesOn (inFlow : Bool) (least : Nat) (gap : Gap) (rest : List Char) :
    Bool :=
  match gap.column with
  | none => !gap.content.isEmpty
  | some column =>
      !(column = 0 && isDocumentMark rest) && (inFlow || least ≤ column)

/--
The words at the beginning of some characters, of which those on later lines
stand in the given column or to the right of it.
-/
def read (inFlow : Bool) (least : Nat) (broken : Bool) :
    List Char → PlainScalar
  | [] => ⟨[], 0, broken⟩
  | character :: rest =>
      if character = '#' || endsBefore inFlow character rest then
        ⟨[], 0, broken⟩
      else
        let first := word inFlow rest
        let gap := gap (rest.drop first.length)
        let size := first.length + gap.size
        if goesOn inFlow least gap (rest.drop size) then
          let later := read inFlow least gap.column.isSome (rest.drop size)
          if later.size = 0 then
            ⟨character :: first, size + 1, later.endsWithBreak⟩
          else
            ⟨character :: first ++ gap.content ++ later.content,
              size + 1 + later.size, later.endsWithBreak⟩
        else
          ⟨character :: first, size + 1, gap.column.isSome⟩
termination_by characters => characters.length
decreasing_by
  simp only [List.length_drop, List.length_cons]
  omega

end PlainScalar

end FormCheck.Markup
