import FormCheck.Markup.Source

namespace FormCheck.Markup

/-!
# Documents

A text holds at most one document, whose nodes are built from tokens. Directives
in front of it give meanings to the handles of its tags.
-/

/-- A document: its outermost node, and the shared nodes by their numbers. -/
structure Document where
  root : Node
  shared : List Node
deriving Repr

namespace Node

/-- The tag of a scalar with the given written tag. -/
def scalarTag (written : Option String) (content : String) (isPlain : Bool) :
    Tag :=
  match written with
  | none => if isPlain then .ofPlain content else .text
  | some "!" => .ofPlain content
  | some name => .ofName name

/-- The tag of a collection with the given written tag. -/
def collectionTag (written : Option String) (otherwise : Tag) : Tag :=
  match written with
  | none => otherwise
  | some "!" => otherwise
  | some name => .ofName name

open Reading in
mutual

/--
A node. It may be a block collection only where `isBlock` says so, and a block
sequence that is not indented only where `isValue` does.
-/
def read (handles : Handles) (isBlock isValue : Bool) : Nat → Reading Node
  | 0 => throw (.unreadable "the document is nested too deep")
  | limit + 1 => do
      if let some (.alias name) ← ahead then
        skip 1
        return ← referred name
      let (anchor, written) ← properties handles
      let sequence (items : Reading (List Node)) : Reading Node :=
        collection anchor false do
          return .sequence (collectionTag written .sequence) (← items)
      let mapping (entries : Reading (List (Node × Node))) : Reading Node :=
        collection anchor true do
          return .mapping (collectionTag written .mapping) (← entries)
      match ← ahead with
      | some (.scalar content isPlain) => do
          skip 1
          leaf anchor (scalarTag written content isPlain) content
      | some .flowSequenceStart => do
          skip 1
          sequence (flowItems handles true limit)
      | some .flowMappingStart => do
          skip 1
          mapping (flowEntries handles true limit)
      | other => do
          if isValue && other = some .blockEntry then
            sequence (looseItems handles limit)
          else if isBlock && other = some .blockSequenceStart then
            skip 1
            sequence (blockItems handles limit)
          else if isBlock && other = some .blockMappingStart then
            skip 1
            mapping (blockEntries handles limit)
          else if anchor.isSome || written.isSome then
            leaf anchor (scalarTag written "" true) ""
          else
            throw (.unreadable "a node was expected")

/-- The items of a block sequence, up to its end. -/
def blockItems (handles : Handles) : Nat → Reading (List Node)
  | 0 => throw (.unreadable "the document is nested too deep")
  | limit + 1 => do
      if ← skips .blockEntry then
        let item ←
          orEmpty [.blockEntry, .blockEnd] (read handles true false limit)
        return item :: (← blockItems handles limit)
      else if ← skips .blockEnd then
        return []
      else
        throw (.unreadable "the end of a block sequence was expected")

/-- The items of a block sequence that is not indented. -/
def looseItems (handles : Handles) : Nat → Reading (List Node)
  | 0 => throw (.unreadable "the document is nested too deep")
  | limit + 1 => do
      if ← skips .blockEntry then
        let item ←
          orEmpty [.blockEntry, .key, .value, .blockEnd]
            (read handles true false limit)
        return item :: (← looseItems handles limit)
      else
        return []

/-- The entries of a block mapping, up to its end. -/
def blockEntries (handles : Handles) : Nat → Reading (List (Node × Node))
  | 0 => throw (.unreadable "the document is nested too deep")
  | limit + 1 => do
      if ← skips .key then
        let part :=
          orEmpty [.key, .value, .blockEnd] (read handles true true limit)
        let key ← key part
        let value ← if ← skips .value then part else pure .empty
        return (key, value) :: (← blockEntries handles limit)
      else if ← skips .blockEnd then
        return []
      else
        throw (.unreadable "the end of a block mapping was expected")

/-- The items of a sequence in brackets, up to the bracket that closes it. -/
def flowItems (handles : Handles) (isFirst : Bool) :
    Nat → Reading (List Node)
  | 0 => throw (.unreadable "the document is nested too deep")
  | limit + 1 => do
      if ← skips .flowSequenceEnd then
        return []
      if !isFirst then
        comma
      if ← skips .flowSequenceEnd then
        return []
      else if ← skips .key then
        let entry : Reading Node := do
          let key ←
            key <| orEmpty [.value, .flowEntry, .flowSequenceEnd]
              (read handles false false limit)
          let value ←
            if ← skips .value then
              orEmpty [.flowEntry, .flowSequenceEnd]
                (read handles false false limit)
            else
              pure .empty
          return .mapping .mapping [(key, value)]
        return (← deeper entry) :: (← flowItems handles false limit)
      else
        let item ← read handles false false limit
        return item :: (← flowItems handles false limit)

/-- The entries of a mapping in braces, up to the brace that closes it. -/
def flowEntries (handles : Handles) (isFirst : Bool) :
    Nat → Reading (List (Node × Node))
  | 0 => throw (.unreadable "the document is nested too deep")
  | limit + 1 => do
      if ← skips .flowMappingEnd then
        return []
      if !isFirst then
        comma
      if ← skips .flowMappingEnd then
        return []
      else if ← skips .key then
        let key ←
          key <| orEmpty [.value, .flowEntry, .flowMappingEnd]
            (read handles false false limit)
        let value ←
          if ← skips .value then
            orEmpty [.flowEntry, .flowMappingEnd]
              (read handles false false limit)
          else
            pure .empty
        return (key, value) :: (← flowEntries handles false limit)
      else
        let key ← key (read handles false false limit)
        return (key, .empty) :: (← flowEntries handles false limit)

end

/-- Take note of a directive behind others, which may have given a version. -/
def noting (given : Bool × Handles) (directive : Directive) :
    Except Fault (Bool × Handles) :=
  match directive with
  | .version major =>
      if given.1 || major ≠ 1 then
        refuse "the version of the format is not the supported one"
      else
        .ok (true, given.2)
  | .handle handle tagPrefix =>
      if given.2.any (·.1 = handle) then
        refuse "a handle is given two meanings"
      else
        .ok (given.1, (handle, tagPrefix) :: given.2)
  | .reserved => .ok given

/-- The meanings that some directives give to handles. -/
def given (directives : List Directive) : Except Fault Handles := do
  return (← directives.foldlM noting (false, [])).2

/-- The directives that some tokens begin with. -/
def directives : List Token → List Directive
  | .directive directive :: rest => directive :: directives rest
  | _ => []

open Reading

/-- The meanings of handles in the document whose start is ahead. -/
def documentStart : Reading Handles := do
  let directives := directives (← get).tokens.items
  let given ← given directives
  skip directives.length
  if ← skips .documentStart then
    return given ++ standardHandles
  else
    throw (.unreadable "the start of a document was expected")

/-- Whether the end of a document or the start of another one is ahead. -/
def isPastDocument : Reading Bool := do
  match ← ahead with
  | none | some (.directive _) | some .documentStart | some .documentEnd =>
      return true
  | _ => return false

/-- The node of the document that is ahead. -/
def document (limit : Nat) : Reading Node := do
  match ← ahead with
  | some (.directive _) | some .documentStart => do
      let handles ← documentStart
      if ← isPastDocument then return .empty else read handles true false limit
  | _ => read standardHandles true false limit

/-- Skip a number of marks that end documents, or as many as there are. -/
def skipEnds : Nat → Reading Unit
  | 0 => pure ()
  | limit + 1 => do
      if ← skips .documentEnd then
        skipEnds limit

/-- The only document that is ahead, if there is one. -/
def onlyDocument? (limit : Nat) : Reading (Option Node) := do
  if (← ahead).isNone then
    return none
  else
    let node ← document limit
    skipEnds limit
    if (← ahead).isSome then
      let _ ← documentStart
      throw (.unreadable "the text holds more than one document")
    else
      return some node

end Node

/-- The only document that some tokens write, if there is one. -/
def Document.ofTokens? (tokens : Tokens) : Except Fault (Option Document) := do
  let limit := 2 * tokens.items.length + 2
  let (root, source) ← (Node.onlyDocument? limit).run ⟨tokens, [], #[], 0, 0⟩
  return root.map fun root => ⟨root, source.shared.toList⟩

end FormCheck.Markup
