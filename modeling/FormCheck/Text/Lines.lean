namespace FormCheck.Text

/-!
# Line ends

A file may end its lines with a line feed, a carriage return or both. It is read
as if each of them were a single line feed.
-/

/-- The text with every line end written as a line feed. -/
def withLineFeeds : List Char → List Char
  | '\r' :: '\n' :: rest => '\n' :: withLineFeeds rest
  | '\r' :: rest => '\n' :: withLineFeeds rest
  | character :: rest => character :: withLineFeeds rest
  | [] => []

example : withLineFeeds ['a', '\r', '\n', '\r', 'b'] = ['a', '\n', '\n', 'b'] :=
  rfl

end FormCheck.Text
