import FormCheck.Markup.Node
import FormCheck.Markup.Token

namespace FormCheck.Markup

/-!
# Sources of documents

A document is read from its tokens, one after the other, and what is known of
its anchors and its scalars grows on the way. What stops behind the last token
stops the reading only if another token is asked for.
-/

/-- The meanings of the handles of tags. -/
abbrev Handles := List (String × String)

/-- The meanings that handles have unless a directive gives them others. -/
def standardHandles : Handles :=
  [("!", "!"), ("!!", Tag.standardPrefix)]

/--
The tokens ahead, and what is known of the document up to them: what its anchors
belong to, the collections that may occur again by their numbers, the number of
scalars, and the number of collections around the place that is reached.
-/
structure Source where
  tokens : Tokens
  anchors : List (String × Anchored)
  shared : Array Node
  scalars : Nat
  depth : Nat
deriving Repr

/-- Reading a part of a document. -/
abbrev Reading := StateT Source (Except Fault)

namespace Reading

/-- The next token, if there is one. -/
def ahead : Reading (Option Token) := do
  let tokens := (← get).tokens
  match tokens.items, tokens.fault with
  | token :: _, _ => return some token
  | [], some fault => throw fault
  | [], none => return none

/-- Whether the next token is one of the given ones. -/
def isAhead (tokens : List Token) : Reading Bool := do
  return (← ahead).any tokens.contains

/-- Skip a number of tokens. -/
def skip (count : Nat) : Reading Unit :=
  modify fun source =>
    { source with
      tokens := { source.tokens with items := source.tokens.items.drop count } }

/-- Skip the next token if it is the given one, and say whether it was. -/
def skips (token : Token) : Reading Bool := do
  if ← isAhead [token] then
    skip 1
    return true
  else
    return false

/-- What a part reads, or the empty node in front of one of the given tokens. -/
def orEmpty (tokens : List Token) (part : Reading Node) : Reading Node := do
  if ← isAhead tokens then return .empty else part

/-- Skip a comma, which must be there. -/
def comma : Reading Unit := do
  if !(← skips .flowEntry) then
    throw (.unreadable "a comma or a closing bracket was expected")

/-- The node that an anchor refers to. -/
def referred (name : String) : Reading Node := do
  let source ← get
  match source.anchors.find? (·.1 = name) with
  | some (_, anchored) => return anchored.referred source.depth
  | none => throw (.unreadable "no node has this anchor")

/-- Say what an anchor belongs to. -/
def settle (name : String) (anchored : Anchored) : Reading Unit :=
  modify fun source =>
    { source with anchors := (name, anchored) :: source.anchors }

/-- Refuse an anchor that another node has already. -/
def demandNew (anchor : Option String) : Reading Unit := do
  let anchors := (← get).anchors
  if anchor.any fun name => anchors.any (·.1 = name) then
    throw (.unreadable "two nodes have the same anchor")

/-- A scalar with a tag, which may have an anchor. -/
def leaf (anchor : Option String) (tag : Tag) (content : String) :
    Reading Node := do
  demandNew anchor
  let source ← get
  let node : Node := .scalar tag content source.scalars
  set { source with scalars := source.scalars + 1 }
  if let some name := anchor then
    settle name (.node node)
  return node

/-- Number a collection that may occur again. -/
def share (node : Node) : Reading Node := do
  let source ← get
  set { source with shared := source.shared.push node }
  return .shared source.shared.size node

/-- What a part reads, one collection deeper. -/
def deeper (part : Reading Node) : Reading Node := do
  modify fun source => { source with depth := source.depth + 1 }
  let node ← part
  modify fun source => { source with depth := source.depth - 1 }
  return node

/-- A collection, to which its anchor refers as soon as it has begun. -/
def collection (anchor : Option String) (isMapping : Bool)
    (content : Reading Node) : Reading Node := do
  demandNew anchor
  match anchor with
  | none => deeper content
  | some name => do
      settle name (.around isMapping)
      let node ← share (← deeper content)
      settle name (.node node)
      return node

/-- Read a key, and take note of it if it is the sign of a stand-in. -/
def key (part : Reading Node) : Reading Node := do
  let node ← part
  if let .scalar .standIn _ place := node then
    modify fun source =>
      { source with
        anchors :=
          source.anchors.map fun (name, anchored) =>
            (name, anchored.asKey source.depth place) }
  return node

/-- The anchor that is ahead, if there is one. -/
def anchorName? : Reading (Option String) := do
  match ← ahead with
  | some (.anchor name) =>
      skip 1
      return some name
  | _ => return none

/-- The tag that is ahead, if there is one. -/
def writtenTag? : Reading (Option WrittenTag) := do
  match ← ahead with
  | some (.tag written) =>
      skip 1
      return some written
  | _ => return none

/-- The full name of a written tag. -/
def tagName (handles : Handles) (written : WrittenTag) : Reading String := do
  match written.handle with
  | none => return written.suffix
  | some handle =>
      match handles.find? (·.1 = handle) with
      | some (_, meaning) => return meaning ++ written.suffix
      | none => throw (.unreadable "the handle of a tag has no meaning")

/-- The anchor and the tag that are ahead, in either order. -/
def properties (handles : Handles) :
    Reading (Option String × Option String) := do
  let leading ← anchorName?
  let written ← writtenTag?
  let anchor ←
    if leading.isNone && written.isSome then anchorName? else pure leading
  return (anchor, ← written.mapM (tagName handles))

end Reading

end FormCheck.Markup
