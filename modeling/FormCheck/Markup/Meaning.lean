import FormCheck.Markup.Document
import FormCheck.Markup.Scalar.Value
import FormCheck.Value.Members

namespace FormCheck.Markup

/-!
# Values of documents

The value of a node is read by its tag. Of several faults in a document the
outermost is reported, and of equally deep ones the first. A mapping takes in
the entries of the mappings that are merged into it; of two entries with equal
keys the later one gives the value, and the earlier one the place. Merged
entries come before the mapping's own, so they give way to these. The value of a
node that occurs more than once is found once and then known by the number of
the node.
-/

/-- A fault, and how deep below a node it lies. -/
structure Problem where
  depth : Nat
  fault : Fault
deriving Repr, DecidableEq

/-- A part of the value of a node. -/
abbrev Meant := Except Problem

namespace Meant

/-- Stop at a node itself. -/
def stop (fault : Fault) : Meant result :=
  .error ⟨0, fault⟩

/-- A node's content that has no meaning. -/
def refuse (problem : String) : Meant result :=
  stop (.unreadable problem)

/-- What is meant by a node, seen from the node around it. -/
def inside (meant : Meant result) : Meant result :=
  meant.mapError fun problem => { problem with depth := problem.depth + 1 }

/-- The outer of two problems, and the first if they are equally deep. -/
def outer (first second : Problem) : Problem :=
  if second.depth < first.depth then second else first

/-- All results of some parts, unless one of them has a problem. -/
def all : List (Meant result) → Meant (List result)
  | [] => .ok []
  | .ok result :: rest => (all rest).map (result :: ·)
  | .error problem :: rest =>
      match all rest with
      | .ok _ => .error problem
      | .error other => .error (outer problem other)

/-- The problem of some parts is nothing if they have none. -/
@[simp] theorem all_map_ok (results : List result) :
    all (results.map Except.ok) = .ok results := by
  induction results with
  | nil =>
      rfl
  | cons result rest inductionHypothesis =>
      simp [all, inductionHypothesis, Except.map]

/-- An entry, whose key must be one that can be looked up. -/
def entry (key value : Meant Value) : Meant (Value × Value) :=
  match key with
  | .error ⟨0, fault⟩ => stop fault
  | .error _ => refuse "a collection cannot be a key"
  | .ok key =>
      if key.isHashable then
        value.map (key, ·)
      else
        refuse "a collection cannot be a key"

end Meant

namespace Node

/-- The scalar that a node is read as: its content and its place. -/
abbrev Leaf := String × Nat

mutual

/-- What a node is read as where a scalar is expected. -/
def leaf? : Node → Option Leaf
  | .scalar _ content place => some (content, place)
  | .mapping _ entries => standIn? entries
  | .shared _ node => leaf? node
  | .sequence _ _ | .cycle _ => none

/-- The scalar that stands for a mapping with the given entries. -/
def standIn? : List (Node × Node) → Option Leaf
  | [] => none
  | (key, value) :: rest =>
      if key.tag = .standIn then leaf? value else standIn? rest

end

/-- The value that a scalar has by its tag, if there is one. -/
def meaningOf (tag : Tag) (leaf : Option Leaf) : Meant Value :=
  match tag with
  | .sequence | .pairs | .mapping | .set =>
      (Meant.refuse "a collection was expected").inside
  | .unknown | .merge | .standIn =>
      Meant.refuse "a node has a tag that gives it no value"
  | tag =>
      match leaf with
      | some (content, place) =>
          (Scalar.value tag content place).mapError fun fault => ⟨0, fault⟩
      | none => Meant.refuse "a scalar was expected"

/-- The value that the scalar in a mapping gives it by its tag. -/
def standInMeaning (tag : Tag) (leaf : Option Leaf) : Meant Value :=
  if tag = .timestamp ∧ leaf.isSome then
    Meant.stop .notText
  else
    meaningOf tag leaf

/-- The values of shared nodes, by their numbers. -/
abbrev Known := Array (Meant Value)

/-- The mapping that some entries make. -/
def mappingOf (entries : Entries) : Entries :=
  entries.foldl (fun all entry => put entry.1 entry.2 all) []

/-- The entries that are merged into a mapping, and those that are its own. -/
structure Parts where
  merged : List (Meant (Value × Value))
  own : List (Meant (Value × Value))

/-- All entries of a mapping, in order. -/
def Parts.all (parts : Parts) : List (Meant (Value × Value)) :=
  parts.merged ++ parts.own

mutual

/-- The value of a node. -/
def meaning (known : Known) : Node → Meant Value
  | .scalar tag content place => meaningOf tag (some (content, place))
  | .sequence tag items =>
      match tag with
      | .sequence => (Meant.all (itemMeanings known items)).inside.map .list
      | .pairs => (Meant.all (pairMeanings known items)).inside.map .list
      | tag => meaningOf tag none
  | .mapping tag entries =>
      let content : Meant Entries := do
        return mappingOf (← Meant.all (← entryMeanings known entries).all)
      match tag with
      | .mapping => content.inside.map .dict
      | .set =>
          content.inside.map fun entries => .set (entries.map Prod.fst)
      | tag => standInMeaning tag (standIn? entries)
  | .shared number node =>
      match known[number]? with
      | some meant => meant
      | none => meaning known node
  | .cycle isMapping => .ok (.cycle isMapping)
termination_by structural node => node

/-- The values of some nodes. -/
def itemMeanings (known : Known) : List Node → List (Meant Value)
  | [] => []
  | item :: rest => meaning known item :: itemMeanings known rest
termination_by structural items => items

/-- The values of mappings with one entry, as pairs. -/
def pairMeanings (known : Known) : List Node → List (Meant Value)
  | [] => []
  | item :: rest => pairMeaning known item :: pairMeanings known rest
termination_by structural items => items

/-- The value of a mapping with one entry, as a pair. -/
def pairMeaning (known : Known) : Node → Meant Value
  | .mapping _ [(key, value)] =>
      (Meant.all [meaning known key, meaning known value]).map .tuple
  | .shared _ node => pairMeaning known node
  | _ => Meant.refuse "a mapping with one entry was expected"
termination_by structural node => node

/-- The entries of a mapping, after those that are merged into it. -/
def entryMeanings (known : Known) : List (Node × Node) → Meant Parts
  | [] => .ok ⟨[], []⟩
  | (key, value) :: rest =>
      match key.tag with
      | .merge => do
          let merged ← mergedEntries known value
          let parts ← entryMeanings known rest
          return { parts with merged := merged ++ parts.merged }
      | .standIn => do
          let parts ← entryMeanings known rest
          let key := meaningOf .text (leaf? key)
          return { parts with
            own := Meant.entry key (meaning known value) :: parts.own }
      | _ => do
          let parts ← entryMeanings known rest
          return { parts with
            own :=
              Meant.entry (meaning known key) (meaning known value) ::
                parts.own }
termination_by structural entries => entries

/-- The entries of a mapping, or of the mappings in a sequence, for merging. -/
def mergedEntries (known : Known) : Node → Meant (List (Meant (Value × Value)))
  | .mapping _ entries => do return (← entryMeanings known entries).all
  | .sequence _ items => mergedItems known items
  | .shared _ node => mergedEntries known node
  | .cycle true => .ok []
  | .scalar _ _ _ | .cycle false =>
      Meant.refuse "a mapping was expected for merging"
termination_by structural node => node

/-- The entries of some mappings, those of the last mapping first. -/
def mergedItems (known : Known) :
    List Node → Meant (List (Meant (Value × Value)))
  | [] => .ok []
  | item :: rest => do
      let first ← mergedItem known item
      return (← mergedItems known rest) ++ first
termination_by structural items => items

/-- The entries of a mapping in a sequence, for merging. -/
def mergedItem (known : Known) : Node → Meant (List (Meant (Value × Value)))
  | .mapping _ entries => do return (← entryMeanings known entries).all
  | .shared _ node => mergedItem known node
  | .cycle true => .ok []
  | .scalar _ _ _ | .sequence _ _ | .cycle false =>
      Meant.refuse "a mapping was expected for merging"
termination_by structural node => node

end

end Node

namespace Document

/-- The values of the shared nodes of a document. Each comes behind its parts. -/
def known (document : Document) : Node.Known :=
  document.shared.foldl (fun known node => known.push (node.meaning known)) #[]

/-- The value that a document writes. -/
def meaning (document : Document) : Meant Value :=
  document.root.meaning document.known

end Document

end FormCheck.Markup
