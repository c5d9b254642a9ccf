import FormCheck.Number.Numeral
import FormCheck.Value.Order

namespace FormCheck

/-!
# Members of values

The members of a text are its characters, those of bytes their numbers, and
those of a mapping its keys. A mapping keeps the place of an entry whose value
is replaced, and keys are looked up by the equality of values. A mapping inside
itself is not looked into again: no key is found in it.
-/

/-- Look a key up in a list of entries. -/
def lookup [BEq key] (wanted : key) : List (key × entry) → Option entry
  | [] => none
  | (present, value) :: rest =>
      if present == wanted then some value else lookup wanted rest

/-- Put an entry into a list: in place of the entry with the key, or last. -/
def put [BEq key] (wanted : key) (value : entry) :
    List (key × entry) → List (key × entry)
  | [] => [(wanted, value)]
  | (present, old) :: rest =>
      if present == wanted then
        (present, value) :: rest
      else
        (present, old) :: put wanted value rest

namespace Value

/-- Whether some items occur in a row in others. -/
def occursIn [BEq item] (part : List item) : List item → Bool
  | [] => part.isEmpty
  | leading :: rest =>
      part.isPrefixOf (leading :: rest) || occursIn part rest

/-- The members of a value. -/
def members : Value → Except Fault (List Value)
  | .list items | .tuple items | .set items => .ok items
  | .dict entries => .ok (entries.map Prod.fst)
  | .text characters =>
      .ok (characters.toList.map fun character =>
        .text (String.ofList [character]))
  | .bytes octets => .ok (octets.map fun octet => .int octet.toNat)
  | _ => .error .notIterable

/--
Whether a value holds a text: as a member, as a key, or, if the value is
itself a text, as a part.
-/
def holdsText (text : String) : Value → Except Fault Bool
  | .list items | .tuple items | .set items =>
      .ok (items.contains (.text text))
  | .dict entries => .ok (lookup (.text text) entries).isSome
  | .text characters => .ok (occursIn text.toList characters.toList)
  | .bytes _ => .error .notText
  | _ => .error .notIterable

/-- The value at a textual key of a mapping that must hold the key. -/
def atKey (key : String) : Value → Except Fault Value
  | .dict entries =>
      match lookup (.text key) entries with
      | some value => .ok value
      | none => .error .missingKey
  | _ => .error .notIndexable

/-- The value at the first position of a value. -/
def first : Value → Except Fault Value
  | .list (item :: _) | .tuple (item :: _) => .ok item
  | .list [] | .tuple [] => .error .emptySequence
  | .text characters =>
      match characters.toList with
      | character :: _ => .ok (.text (String.ofList [character]))
      | [] => .error .emptySequence
  | .dict entries =>
      match lookup (.int 0) entries with
      | some value => .ok value
      | none => .error .missingKey
  | _ => .error .notIndexable

/-- The value of a mapping at a key, null where there is none. -/
def get (mapping key : Value) : Except Fault Value :=
  match mapping with
  | .dict entries =>
      if key.isHashable then
        .ok ((lookup key entries).getD .null)
      else
        .error .unhashable
  | .cycle true => .ok .null
  | _ => .error .noSuchOperation

/-- The keys of a mapping. -/
def keys : Value → Except Fault (List Value)
  | .dict entries => .ok (entries.map Prod.fst)
  | _ => .error .noSuchOperation

/-- A pair of a key and its value. -/
def pair (value : Value) : Except Fault (Value × Value) :=
  match value.members with
  | .error _ => .error .notEntries
  | .ok [key, entry] =>
      if key.isHashable then .ok (key, entry) else .error .unhashable
  | .ok _ => .error .notPair

/-- The entries of a mapping, or those that a collection of pairs makes. -/
def entries : Value → Except Fault Entries
  | .dict entries => .ok entries
  | .cycle true => .ok []
  | value =>
      match value.members with
      | .error _ => .error .notEntries
      | .ok items =>
          items.foldlM
            (fun entries item => do
              let (key, entry) ← item.pair
              return put key entry entries)
            []

/-- The integer that a number is cut to, or that a numeral writes. -/
def toInteger : Value → Except Fault Int
  | .bool truth => .ok (if truth then 1 else 0)
  | .int number => .ok number
  | .float (.nan _) => .error .notNumeral
  | .float number =>
      match number.truncated? with
      | some integer => .ok integer
      | none => .error .tooLarge
  | .text characters => Number.numeral 10 characters.toList
  | _ => .error .notNumeric

/-- A mapping with textual keys. -/
def record (entries : List (String × Value)) : Value :=
  .dict (entries.map fun entry => (.text entry.1, entry.2))

end Value

end FormCheck
