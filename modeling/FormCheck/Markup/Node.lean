import FormCheck.Markup.Tag

namespace FormCheck.Markup

/-!
# Nodes

A document is a node: a scalar, a sequence of nodes or a mapping from nodes to
nodes. A reference to an anchor is replaced by the node that has the anchor; only
inside that node itself it stays a reference to what is around it.
-/

/--
A node of a document. A scalar has the number of the scalars in front of it as its
place, and a collection that may occur again has a number by which it is known. A
cycle is a reference to the sequence or the mapping around it.
-/
inductive Node where
  | scalar (tag : Tag) (content : String) (place : Nat)
  | sequence (tag : Tag) (items : List Node)
  | mapping (tag : Tag) (entries : List (Node × Node))
  | shared (number : Nat) (node : Node)
  | cycle (isMapping : Bool)
deriving Repr

namespace Node

/-- The tag of a node. -/
def tag : Node → Tag
  | .scalar tag _ _ => tag
  | .sequence tag _ => tag
  | .mapping tag _ => tag
  | .shared _ node => node.tag
  | .cycle isMapping => if isMapping then .mapping else .sequence

/-- The node where none is written. -/
def empty : Node := .scalar .null "" 0

end Node

/--
What an anchor belongs to: a collection that has not ended yet, a node, or the sign
of a stand-in that is a key of a mapping at a depth.
-/
inductive Anchored where
  | around (isMapping : Bool)
  | node (node : Node)
  | key (depth : Nat) (content : String) (place : Nat)
deriving Repr

namespace Anchored

/--
The node that a reference at a depth stands for. Where the sign of a stand-in is
a key, it is a text from the depth of its mapping on.
-/
def referred (depth : Nat) : Anchored → Node
  | .around isMapping => .cycle isMapping
  | .node anchored => anchored
  | .key keyDepth content place =>
      .scalar (if keyDepth ≤ depth then .text else .standIn) content place

/-- What an anchor belongs to if the scalar at a place is a key at a depth. -/
def asKey (depth place : Nat) : Anchored → Anchored
  | .node (.scalar .standIn content ownPlace) =>
      if ownPlace = place then
        .key depth content place
      else
        .node (.scalar .standIn content ownPlace)
  | .key keyDepth content ownPlace =>
      .key (if ownPlace = place then min keyDepth depth else keyDepth) content
        ownPlace
  | anchored => anchored

end Anchored

end FormCheck.Markup
