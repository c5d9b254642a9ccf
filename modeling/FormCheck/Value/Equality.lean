import FormCheck.Value

namespace FormCheck

/-!
# Equality of values

Values are compared by what they mean: the integer one, the number 1.0 and the
truth value true are equal, and so are two times of day at one instant. What is
not a number is equal only to itself. Lists and tuples are equal member by
member, sets and mappings whatever the order of their members. Keys of mappings
are found by this equality.
-/

namespace Value

mutual

/-- Whether two values are equal. -/
def same : Value → Value → Bool
  | .null, .null => true
  | .text left, .text right => left = right
  | .bytes left, .bytes right => left = right
  | .date left, .date right => left = right
  | .dateTime left, .dateTime right => left.compare? right = some .eq
  | .list left, .list right => sameItems left right
  | .tuple left, .tuple right => sameItems left right
  | .set left, .set right =>
      left.length = right.length && allAmong left right
  | .dict left, .dict right =>
      left.length = right.length && entriesAmong left right
  | left, right =>
      match left.number?, right.number? with
      | some left, some right => left.same right
      | _, _ => false
termination_by structural value => value

/-- Whether two lists are equal member by member. -/
def sameItems : List Value → List Value → Bool
  | [], [] => true
  | left :: lefts, right :: rights => same left right && sameItems lefts rights
  | _, _ => false
termination_by structural items => items

/-- Whether each of some values equals one of the others. -/
def allAmong : List Value → List Value → Bool
  | [], _ => true
  | item :: rest, others =>
      others.any (fun other => same item other) && allAmong rest others
termination_by structural items => items

/-- Whether each of some entries equals one of the others. -/
def entriesAmong : List (Value × Value) → List (Value × Value) → Bool
  | [], _ => true
  | (key, value) :: rest, others =>
      others.any (fun other => same key other.1 && same value other.2) &&
        entriesAmong rest others
termination_by structural entries => entries

end

instance : BEq Value := ⟨same⟩

/-- Texts are equal as values exactly if they are equal as texts. -/
@[simp] theorem text_beq_text (left right : String) :
    (Value.text left == Value.text right) = (left == right) := by
  simp [BEq.beq, same]

end Value

end FormCheck
