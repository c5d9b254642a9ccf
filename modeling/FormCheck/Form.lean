import FormCheck.Validator

namespace FormCheck

/-!
# Raw steps of forms

Forms declare their plans as raw steps: a field, a method, and what else the
step needs, in the order in which it is written down.
-/

namespace Form

/-- A raw step. -/
def rawStep (field method : String) (others : List (String × Value)) : Value :=
  .record (("field", .text field) :: ("method", .text method) :: others)

/-- The declaration of extra arguments. -/
def arguments (values : List Value) : String × Value :=
  ("args", .list values)

/-- The declaration that inputs are required. -/
def isRequired : String × Value :=
  ("required", .bool true)

end Form

end FormCheck
