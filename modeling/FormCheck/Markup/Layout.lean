import FormCheck.Markup.Cursor
import FormCheck.Markup.Scalar.Block
import FormCheck.Markup.Scalar.Plain
import FormCheck.Markup.Scalar.Quoted
import FormCheck.Markup.Token

namespace FormCheck.Markup

/-!
# Layout

The columns in which the parts of a text stand tell where its block collections
begin and end. Outside brackets, a part that stands right of the innermost open
collection begins a new one, and a part that stands left of it ends it. A node
is a key if a colon follows it on the same line; only then is it known that a
key, and perhaps a mapping, began with that node.
-/

/--
A node that is a key if a colon follows it. The place is the number of tokens
before the node, and the text is wrong unless a required one is a key.
-/
structure Candidate where
  place : Nat
  isRequired : Bool
  start : Cursor
deriving Repr

namespace Candidate

/-- The most characters that a key may take. -/
def maximalSize : Nat := 1024

/-- Whether a colon at a place would come too late for a candidate. -/
def isStale (cursor : Cursor) (candidate : Candidate) : Bool :=
  candidate.start.line ≠ cursor.line ||
    candidate.start.offset + maximalSize < cursor.offset

end Candidate

/--
A text that is read up to a place: the tokens so far, the columns of the open block
collections, the last possible key inside the innermost open bracket and those
around each open bracket, and whether a key or an entry may begin here. What is
innermost comes first.
-/
structure Layout where
  cursor : Cursor
  tokens : Array Token
  columns : List Nat
  candidate : Option Candidate
  outer : List (Option Candidate)
  mayStartKey : Bool
deriving Repr

namespace Layout

/-- The beginning of a text. -/
def start (characters : List Char) : Layout :=
  ⟨Cursor.start characters, #[], [], none, [], true⟩

/-- Whether a bracket is open. -/
def inFlow (layout : Layout) : Bool :=
  !layout.outer.isEmpty

/-- The least column of what belongs to the innermost block collection. -/
def leastColumn (layout : Layout) : Nat :=
  (layout.columns.head?.map (· + 1)).getD 0

/-- Go on behind a number of characters. -/
def advance (size : Nat) (layout : Layout) : Layout :=
  { layout with cursor := layout.cursor.advance size }

/-- Add a token. -/
def push (token : Token) (layout : Layout) : Layout :=
  { layout with tokens := layout.tokens.push token }

/-- Add a token in front of those from a place on. -/
def insert (place : Nat) (token : Token) (layout : Layout) : Layout :=
  { layout with
    tokens := (layout.tokens.take place).push token ++ layout.tokens.drop place }

/-- Say whether a key or an entry may begin next. -/
def allowingKey (mayStartKey : Bool) (layout : Layout) : Layout :=
  { layout with mayStartKey := mayStartKey }

/-- Close the block collections right of a column, or all of them. -/
def closeBlocks (column : Option Nat) (layout : Layout) : Layout :=
  if layout.inFlow then
    layout
  else
    let isClosed (opened : Nat) : Bool := column.all (· < opened)
    let closed := layout.columns.takeWhile isClosed
    { layout with
      columns := layout.columns.drop closed.length
      tokens := closed.foldl (fun tokens _ => tokens.push .blockEnd) layout.tokens }

/-- Whether a part in a column begins a new block collection. -/
def opensBlock (column : Nat) (layout : Layout) : Bool :=
  !layout.inFlow && layout.columns.head?.all (· < column)

/-- Begin a block collection in a column, from a token on, unless one is open. -/
def openBlock (place column : Nat) (token : Token) (layout : Layout) : Layout :=
  if layout.opensBlock column then
    { layout.insert place token with columns := column :: layout.columns }
  else
    layout

/-- Begin a block collection here, unless one is open in the column. -/
def openBlockHere (token : Token) (layout : Layout) : Layout :=
  layout.openBlock layout.tokens.size layout.cursor.column token

/-- A candidate that is given up, which must not be required to be a key. -/
def givenUp : Option Candidate → Except Fault (Option Candidate)
  | some candidate =>
      if candidate.isRequired then
        refuse "a colon was expected behind a key"
      else
        .ok none
  | none => .ok none

/-- Give up the last possible key. -/
def forgetCandidate (layout : Layout) : Except Fault Layout := do
  return { layout with candidate := ← givenUp layout.candidate }

/-- Give up the possible keys for which a colon would come too late. -/
def forgetStale (layout : Layout) : Except Fault Layout := do
  let kept (candidate : Option Candidate) : Except Fault (Option Candidate) :=
    if candidate.any (·.isStale layout.cursor) then
      givenUp candidate
    else
      .ok candidate
  return { layout with
    candidate := ← kept layout.candidate
    outer := ← layout.outer.mapM kept }

/-- Note that a node that is a possible key begins here. -/
def noteCandidate (layout : Layout) : Except Fault Layout := do
  if layout.mayStartKey then
    let isRequired :=
      !layout.inFlow && layout.columns.head? = some layout.cursor.column
    let layout ← layout.forgetCandidate
    return { layout with
      candidate := some ⟨layout.tokens.size, isRequired, layout.cursor⟩ }
  else
    return layout

/-- Read a token that begins a node without sign. -/
def node (lexeme : Except Fault (Token × Nat)) (layout : Layout) :
    Except Fault Layout := do
  let layout ← layout.noteCandidate
  let (token, size) ← lexeme
  return (layout.allowingKey false |>.push token |>.advance size)

/-- Read the sign of a bracket that opens. -/
def openFlow (token : Token) (layout : Layout) : Except Fault Layout := do
  let layout ← layout.noteCandidate
  let layout : Layout :=
    { layout with
      candidate := none
      outer := layout.candidate :: layout.outer }
  return (layout.allowingKey true |>.push token |>.advance 1)

/-- Read the sign of a bracket that closes. -/
def closeFlow (token : Token) (layout : Layout) : Except Fault Layout := do
  match layout.outer with
  | [] => refuse "a bracket is closed that was not opened"
  | candidate :: outer =>
      let layout ← layout.forgetCandidate
      let layout : Layout := { layout with candidate, outer }
      return (layout.allowingKey false |>.push token |>.advance 1)

/-- Read the comma between the members of a flow. -/
def flowEntry (layout : Layout) : Except Fault Layout := do
  let layout ← layout.forgetCandidate
  return (layout.allowingKey true |>.push .flowEntry |>.advance 1)

/-- Read the dash in front of a member of a block sequence. -/
def blockEntry (layout : Layout) : Except Fault Layout := do
  if !layout.inFlow && !layout.mayStartKey then
    refuse "an entry of a sequence cannot begin here"
  else
    let layout ← (layout.openBlockHere .blockSequenceStart).forgetCandidate
    return (layout.allowingKey true |>.push .blockEntry |>.advance 1)

/-- Read the question mark in front of a key. -/
def key (layout : Layout) : Except Fault Layout := do
  if !layout.inFlow && !layout.mayStartKey then
    refuse "a key cannot begin here"
  else
    let layout ← (layout.openBlockHere .blockMappingStart).forgetCandidate
    return (layout.allowingKey (!layout.inFlow) |>.push .key |>.advance 1)

/-- Read the colon in front of a value, of which the last candidate is the key. -/
def value (layout : Layout) : Except Fault Layout := do
  match layout.candidate with
  | some candidate =>
      let layout : Layout := { layout with candidate := none }
      let layout :=
        layout.insert candidate.place .key |>.openBlock candidate.place
          candidate.start.column .blockMappingStart
      return (layout.allowingKey false |>.push .value |>.advance 1)
  | none =>
      if !layout.inFlow && !layout.mayStartKey then
        refuse "a value cannot begin here"
      else
        let layout := layout.openBlockHere .blockMappingStart
        return (layout.allowingKey (!layout.inFlow) |>.push .value |>.advance 1)

/-- Read a block scalar. -/
def blockScalar (isFolded : Bool) (layout : Layout) : Except Fault Layout := do
  let layout ← layout.forgetCandidate
  let lexeme ←
    Block.read isFolded layout.leastColumn (layout.cursor.rest.drop 1)
  return (layout.allowingKey true
    |>.push (.scalar (String.ofList lexeme.content) false)
    |>.advance (lexeme.size + 1))

/-- Read a plain scalar, behind whose last line a key may begin. -/
def plainScalar (layout : Layout) : Except Fault Layout := do
  let scalar :=
    PlainScalar.read layout.inFlow layout.leastColumn false layout.cursor.rest
  let layout ←
    layout.node
      (.ok (.scalar (String.ofList scalar.content) true, scalar.size))
  return layout.allowingKey scalar.endsWithBreak

/-- Read a directive. -/
def directive (layout : Layout) : Except Fault Layout := do
  let layout ← (layout.closeBlocks none).forgetCandidate
  let (directive, size) ← Property.directive (layout.cursor.rest.drop 1)
  return (layout.allowingKey false |>.push (.directive directive)
    |>.advance (size + 1))

/-- Read the mark of a document. -/
def documentMark (token : Token) (layout : Layout) : Except Fault Layout := do
  let layout ← (layout.closeBlocks none).forgetCandidate
  return (layout.allowingKey false |>.push token |>.advance 3)

/-- A quoted scalar, behind its first quote, as a token. -/
def quoted (characters : List sign → List Char)
    (lexeme : Except Fault (Lexeme sign)) : Except Fault (Token × Nat) := do
  let lexeme ← lexeme
  return (.scalar (String.ofList (characters lexeme.content)) false,
    lexeme.size + 1)

/-- An anchor or a reference to one, behind its sign, as a token. -/
def named (token : String → Token) (characters : List Char) :
    Except Fault (Token × Nat) := do
  let name ← Property.anchorName characters
  return (token (String.ofList name.content), name.size + 1)

/-- A tag as a token. -/
def tagged (characters : List Char) : Except Fault (Token × Nat) := do
  let (tag, size) ← Property.tag characters
  return (.tag tag, size)

/-- Read the token that begins with a character. -/
def token (character : Char) (rest : List Char) (layout : Layout) :
    Except Fault Layout :=
  match character with
  | '[' => layout.openFlow .flowSequenceStart
  | '{' => layout.openFlow .flowMappingStart
  | ']' => layout.closeFlow .flowSequenceEnd
  | '}' => layout.closeFlow .flowMappingEnd
  | ',' => layout.flowEntry
  | '-' => if endsWord rest then layout.blockEntry else layout.plainScalar
  | '?' =>
      if layout.inFlow || endsWord rest then layout.key else layout.plainScalar
  | ':' =>
      if layout.inFlow || endsWord rest then
        layout.value
      else
        layout.plainScalar
  | '*' => layout.node (named .alias rest)
  | '&' => layout.node (named .anchor rest)
  | '!' => layout.node (tagged (character :: rest))
  | '\'' => layout.node (quoted id (Quoted.readSingle rest))
  | '"' => layout.node (quoted Quoted.characters (Quoted.readDouble rest))
  | '|' | '>' =>
      if layout.inFlow then
        refuse "a block scalar cannot begin inside brackets"
      else
        layout.blockScalar (character = '>')
  | '%' | '@' | '\x60' | '\t' => refuse "no token begins with this character"
  | _ => layout.plainScalar

/-- Skip what stands before the next token, and close what it is left of. -/
def skipSpacing (layout : Layout) : Except Fault Layout := do
  let (size, isBroken) := spacing false layout.cursor.rest
  let layout := layout.advance size
  let layout :=
    if isBroken && !layout.inFlow then layout.allowingKey true else layout
  return (← layout.forgetStale).closeBlocks (some layout.cursor.column)

/-- Read the next token or the end of the text, and say whether it ended. -/
def step (layout : Layout) : Except Fault (Layout × Bool) := do
  let layout ← layout.skipSpacing
  match layout.cursor.rest with
  | [] => return (← (layout.closeBlocks none).forgetCandidate, true)
  | character :: rest =>
      let atMargin := layout.cursor.column = 0
      let next ←
        if atMargin && character = '%' then
          layout.directive
        else if atMargin && startsWithMark '-' (character :: rest) then
          layout.documentMark .documentStart
        else if atMargin && startsWithMark '.' (character :: rest) then
          layout.documentMark .documentEnd
        else
          layout.token character rest
      return (next, false)

/-- The tokens in front of which no other token can come any more. -/
def settled (layout : Layout) : List Token :=
  let places :=
    (layout.candidate :: layout.outer).filterMap fun candidate =>
      (candidate.filter (!·.isStale layout.cursor)).map Candidate.place
  layout.tokens.toList.take (places.foldl min layout.tokens.size)

/-- The tokens of a text that is read up to a place, if they are not too many. -/
def tokensWithin : Nat → Layout → Tokens
  | 0, layout =>
      ⟨layout.settled, some (.unreadable "the text has too many tokens")⟩
  | limit + 1, layout =>
      match layout.step with
      | .error fault => ⟨layout.settled, some fault⟩
      | .ok (layout, true) => ⟨layout.tokens.toList, none⟩
      | .ok (layout, false) => tokensWithin limit layout

end Layout

/-- The tokens of a text. Each takes at least one of its characters. -/
def Tokens.ofCharacters (characters : List Char) : Tokens :=
  (Layout.start characters).tokensWithin (characters.length + 1)

end FormCheck.Markup
