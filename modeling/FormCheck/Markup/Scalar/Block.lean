import FormCheck.Markup.Margin

namespace FormCheck.Markup

/-!
# Block scalars

A block scalar consists of the indented lines below its header. A literal one
keeps their breaks; a folded one folds the breaks between lines that do not
begin with a blank. The header may give the indentation, which else is that of
the first line, and says what becomes of the breaks at the end.
-/

/--
What becomes of the line breaks at the end of a block scalar: the break of the
last line is kept, or none, or all of them.
-/
inductive Chomping where
  | clip
  | strip
  | keep
deriving Repr, DecidableEq

/-- The header of a block scalar. -/
structure BlockHeader where
  chomping : Chomping
  indentation : Option Nat
  size : Nat
deriving Repr, DecidableEq

namespace BlockHeader

/-- The chomping that a sign stands for. -/
def chomping? : Char → Option Chomping
  | '+' => some .keep
  | '-' => some .strip
  | _ => none

/-- The indentation that a digit stands for. -/
def indentation? (character : Char) : Option Nat :=
  if character.isDigit then some (character.toNat - 48) else none

/-- The signs at the beginning of some characters, in either order. -/
def signs : List Char → BlockHeader
  | first :: rest =>
      match chomping? first, indentation? first with
      | some chomping, _ =>
          match rest.head?.bind indentation? with
          | some indentation => ⟨chomping, some indentation, 2⟩
          | none => ⟨chomping, none, 1⟩
      | none, some indentation =>
          match rest.head?.bind chomping? with
          | some chomping => ⟨chomping, some indentation, 2⟩
          | none => ⟨.clip, some indentation, 1⟩
      | none, none => ⟨.clip, none, 0⟩
  | [] => ⟨.clip, none, 0⟩

/-- The header at the beginning of some characters, with its line break. -/
def read (characters : List Char) : Except Fault BlockHeader := do
  let header := signs characters
  let rest := characters.drop header.size
  if header.indentation = some 0 then
    refuse "the indentation of a block scalar is zero"
  else if !endsProperty rest then
    refuse "the header of a block scalar has an unknown sign"
  else
    let remainder ← lineRemainder rest
    let lineBreak := if (rest.drop remainder).isEmpty then 0 else 1
    return { header with size := header.size + remainder + lineBreak }

end BlockHeader

/-- The lines of a block scalar, and the line breaks that end them. -/
structure BlockLines where
  content : List Char
  lastBreak : List Char
  trailing : List Char
  size : Nat
deriving Repr, DecidableEq

namespace BlockLines

/-- What the break between two lines of a block scalar is read as. -/
def joint (isFolded : Bool) (first lineBreak : Char) (breaks : List Char)
    (next : List Char) : List Char :=
  if isFolded && readBreak lineBreak = '\n' && !isBlank first &&
      !next.head?.any isBlank then
    if breaks.isEmpty then [' '] else []
  else
    [readBreak lineBreak]

/-- The lines that begin here, behind their indentation. -/
def read (isFolded : Bool) (indentation : Nat) : List Char → BlockLines
  | [] => ⟨[], [], [], 0⟩
  | first :: rest =>
      let line := rest.takeWhile (!isBreak ·)
      match (rest.drop line.length).head? with
      | none => ⟨first :: line, [], [], 1 + line.length⟩
      | some lineBreak =>
          let behind := rest.drop (line.length + 1)
          let margin := Margin.read (Margin.spacesUpTo indentation) 0 behind
          let next := behind.drop margin.size
          let size := 2 + line.length + margin.size
          if margin.column = indentation && !next.isEmpty then
            let later := read isFolded indentation next
            { later with
              content :=
                first :: line ++
                  joint isFolded first lineBreak margin.breaks next ++
                  margin.breaks ++ later.content
              size := size + later.size }
          else
            ⟨first :: line, [readBreak lineBreak], margin.breaks, size⟩
termination_by characters => characters.length
decreasing_by
  simp only [List.length_drop, List.length_cons]
  omega

end BlockLines

namespace Block

/-- The scalar behind its sign, whose lines stand in or right of a column. -/
def read (isFolded : Bool) (least : Nat) (characters : List Char) :
    Except Fault (Lexeme Char) := do
  let header ← BlockHeader.read characters
  let rest := characters.drop header.size
  let least := max 1 least
  let (indentation, margin) :=
    match header.indentation with
    | none =>
        let margin := Margin.read Margin.spaces 0 rest
        (max least margin.widest, margin)
    | some indentation =>
        let indentation := least + indentation - 1
        (indentation, Margin.read (Margin.spacesUpTo indentation) 0 rest)
  let rest := rest.drop margin.size
  let lines :=
    if margin.column = indentation && !rest.isEmpty then
      let lines := BlockLines.read isFolded indentation rest
      { lines with content := margin.breaks ++ lines.content }
    else
      ⟨[], [], margin.breaks, 0⟩
  let ending :=
    match header.chomping with
    | .clip => lines.lastBreak
    | .strip => []
    | .keep => lines.lastBreak ++ lines.trailing
  return ⟨lines.content ++ ending, header.size + margin.size + lines.size⟩

end Block

end FormCheck.Markup
