import FormCheck.Markup.Property

namespace FormCheck.Markup

/-!
# Tokens

A markup text is a sequence of tokens. Besides the signs and scalars that are
written in it, tokens mark where indentation begins and ends a collection, and
which nodes are keys.
-/

/-- A token of a markup text. -/
inductive Token where
  | directive (directive : Directive)
  | documentStart
  | documentEnd
  | blockSequenceStart
  | blockMappingStart
  | blockEnd
  | flowSequenceStart
  | flowSequenceEnd
  | flowMappingStart
  | flowMappingEnd
  | blockEntry
  | flowEntry
  | key
  | value
  | alias (name : String)
  | anchor (name : String)
  | tag (written : WrittenTag)
  | scalar (content : String) (isPlain : Bool)
deriving Repr, DecidableEq

/-- The tokens that can be read from a text, and what stops behind them, if any. -/
structure Tokens where
  items : List Token
  fault : Option Fault
deriving Repr, DecidableEq

end FormCheck.Markup
