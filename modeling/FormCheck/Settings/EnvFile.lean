import FormCheck.Text.Blank
import FormCheck.Text.Lines

namespace FormCheck

/-!
# Environment files

An environment file assigns values to variables, one to a line. The word
`export` may precede a name, and blanks may surround the equals sign. A value
between quotes may extend over lines and has escapes; other values end before a
comment. A line that is no assignment is skipped. Last, a variable in braces
behind a dollar sign is replaced by its value, which earlier lines give before
the environment does; a default may follow its name behind a colon and a hyphen.
-/

namespace EnvFile

/-- A name, and the value assigned to it if there is one. -/
abbrev Assignment := String × Option String

/-- Whether a character ends a line. -/
def isLineEnd (character : Char) : Bool :=
  character = '\n' || character = '\r'

/-- Whether a character is blank but does not end a line. -/
def isInlineBlank (character : Char) : Bool :=
  Text.isBlank character && !isLineEnd character

/-- The character that an escape between double quotes stands for. -/
def doubleEscape? : Char → Option Char
  | '\\' => some '\\'
  | '\'' => some '\''
  | '"' => some '"'
  | 'a' => some '\x07'
  | 'b' => some '\x08'
  | 'f' => some '\x0c'
  | 'n' => some '\n'
  | 'r' => some '\r'
  | 't' => some '\t'
  | 'v' => some '\x0b'
  | _ => none

/-- The character that an escape between single quotes stands for. -/
def singleEscape? : Char → Option Char
  | '\\' => some '\\'
  | '\'' => some '\''
  | _ => none

/-- Some characters with their escapes replaced. -/
def unescaped (escape? : Char → Option Char) : List Char → List Char
  | '\\' :: letter :: rest =>
      match escape? letter with
      | some character => character :: unescaped escape? rest
      | none => '\\' :: unescaped escape? (letter :: rest)
  | character :: rest => character :: unescaped escape? rest
  | [] => []
termination_by characters => characters.length

/--
The characters before the closing quote and those behind it. A quote behind a
backslash does not close, unless that backslash itself stands behind one.
-/
def closeQuote? (quote : Char) : List Char → Option (List Char × List Char)
  | [] => none
  | '\\' :: next :: rest =>
      (closeQuote? quote rest).map fun parts =>
        ('\\' :: next :: parts.1, parts.2)
  | character :: rest =>
      if character = quote then
        some ([], rest)
      else
        (closeQuote? quote rest).map fun parts =>
          (character :: parts.1, parts.2)

/-- A value without the comment that ends it. -/
def withoutComment : List Char → List Char
  | [] => []
  | character :: rest =>
      if Text.isBlank character &&
          (rest.dropWhile Text.isBlank).head? = some '#' then
        []
      else
        character :: withoutComment rest

/-- A value between quotes, behind the first of them, and what follows it. -/
def quotedValue? (quote : Char) (escape? : Char → Option Char)
    (characters : List Char) : Option (List Char × List Char) :=
  (closeQuote? quote characters).map fun parts =>
    (unescaped escape? parts.1, parts.2)

/--
The value behind an equals sign, and what follows it. A comment may begin behind
the blanks that follow the sign, but not right behind the sign.
-/
def value? (characters : List Char) : Option (List Char × List Char) :=
  match characters.dropWhile isInlineBlank with
  | '\'' :: rest => quotedValue? '\'' singleEscape? rest
  | '"' :: rest => quotedValue? '"' doubleEscape? rest
  | _ =>
      let line := characters.takeWhile (!isLineEnd ·)
      some (Text.stripped (withoutComment line),
        characters.dropWhile (!isLineEnd ·))

/-- The characters behind the word `export` and its blanks, if it stands there. -/
def withoutExport (characters : List Char) : List Char :=
  let word := "export".toList
  if word.isPrefixOf characters then
    let rest := characters.drop word.length
    if rest.head?.any isInlineBlank then
      rest.dropWhile isInlineBlank
    else
      characters
  else
    characters

/-- What stands before an equals sign: a name, or nothing before a comment. -/
inductive Subject where
  | name (characters : List Char)
  | comment
deriving Repr, DecidableEq

/-- The name at the beginning of some characters, and what follows it. -/
def subject? : List Char → Option (Subject × List Char)
  | '#' :: rest => some (.comment, '#' :: rest)
  | '\'' :: rest =>
      let name := rest.takeWhile (· ≠ '\'')
      match rest.dropWhile (· ≠ '\'') with
      | _ :: after => if name.isEmpty then none else some (.name name, after)
      | [] => none
  | characters =>
      let isNameCharacter (character : Char) : Bool :=
        character ≠ '=' && character ≠ '#' && !Text.isBlank character
      let name := characters.takeWhile isNameCharacter
      if name.isEmpty then
        none
      else
        some (.name name, characters.dropWhile isNameCharacter)

/-- The characters behind the rest of a line that may only hold a comment. -/
def endOfLine? (characters : List Char) : Option (List Char) :=
  let rest := characters.dropWhile isInlineBlank
  let rest :=
    match rest with
    | '#' :: _ => rest.dropWhile (!isLineEnd ·)
    | _ => rest
  match rest with
  | [] => some []
  | '\r' :: '\n' :: after => some after
  | character :: after => if isLineEnd character then some after else none

/-- The characters behind the end of the line. -/
def nextLine (characters : List Char) : List Char :=
  match characters.dropWhile (!isLineEnd ·) with
  | [] => []
  | _ :: after => after

/-- The assignment at the beginning of some characters, and what follows it. -/
def assignment (characters : List Char) : Option Assignment × List Char :=
  let begun := withoutExport characters
  match subject? begun with
  | none => (none, nextLine begun)
  | some (subject, after) =>
      let after := after.dropWhile isInlineBlank
      let assigned :=
        match after with
        | '=' :: rest =>
            match value? rest with
            | some (value, after) => Except.ok (some value, after)
            | none => Except.error rest
        | _ => Except.ok (none, after)
      match assigned with
      | .error rest => (none, nextLine rest)
      | .ok (value, after) =>
          match endOfLine? after with
          | none => (none, nextLine (after.dropWhile isInlineBlank))
          | some rest =>
              match subject with
              | .comment => (none, rest)
              | .name name =>
                  (some (String.ofList name, value.map String.ofList), rest)

/-- The assignments of some characters, for at most a number of lines. -/
def assignmentsWithin : Nat → List Char → List Assignment
  | 0, _ => []
  | lines + 1, characters =>
      match characters.dropWhile Text.isBlank with
      | [] => []
      | begun =>
          let (found, rest) := assignment begun
          found.toList ++ assignmentsWithin lines rest

/-- Some characters behind the byte order mark that they may begin with. -/
def withoutByteOrderMark : List Char → List Char
  | '\ufeff' :: rest => rest
  | characters => characters

/-- The assignments of an environment file, as they are written. -/
def assignments (text : String) : List Assignment :=
  let characters := Text.withLineFeeds (withoutByteOrderMark text.toList)
  assignmentsWithin (characters.length + 1) characters

/-- The value of a variable, or nothing if it is unknown. -/
def known? (known : List Assignment) (name : String) : Option String :=
  match known.reverse.find? (·.1 = name) with
  | some (_, value) => some (value.getD "")
  | none => none

/-- A reference in braces: a name, a default, and what follows the reference. -/
def reference? (characters : List Char) :
    Option (List Char × List Char × List Char) :=
  let name := characters.takeWhile fun character =>
    character ≠ '}' && character ≠ ':'
  match characters.drop name.length with
  | '}' :: after => some (name, [], after)
  | ':' :: '-' :: rest =>
      let fallback := rest.takeWhile (· ≠ '}')
      match rest.drop fallback.length with
      | _ :: after => some (name, fallback, after)
      | [] => none
  | _ => none

/-- Some characters with the references in them replaced. -/
def replacedWithin (known : List Assignment) : Nat → List Char → List Char
  | 0, characters => characters
  | _, [] => []
  | steps + 1, '$' :: '{' :: rest =>
      match reference? rest with
      | some (name, fallback, after) =>
          let value :=
            match known? known (String.ofList name) with
            | some value => value.toList
            | none => fallback
          value ++ replacedWithin known steps after
      | none => '$' :: replacedWithin known steps ('{' :: rest)
  | steps + 1, character :: rest =>
      character :: replacedWithin known steps rest

/-- Replace the references in an assignment, given what is known before it. -/
def resolve (known : List Assignment) (assignment : Assignment) : Assignment :=
  (assignment.1,
    assignment.2.map fun value =>
      String.ofList (replacedWithin known (value.length + 1) value.toList))

/-- The assignments of an environment file with all references replaced. -/
def read (environment : List (String × String)) (text : String) :
    List Assignment :=
  let known := environment.map fun item => (item.1, some item.2)
  (assignments text).foldl
    (fun resolved assignment =>
      resolved ++ [resolve (known ++ resolved) assignment])
    []

end EnvFile

end FormCheck
