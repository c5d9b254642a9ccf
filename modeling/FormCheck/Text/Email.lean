import FormCheck.Text.Digit
import FormCheck.Text.Split

namespace FormCheck.Text

/-!
# Email addresses

An address is a local part, an at sign and a domain. The local part has only
ASCII letters, digits and some signs. The domain has at least two labels with
dots between them, of at most 63 ASCII letters, digits and hyphens each, none
of which starts or ends with a hyphen. Two dots never stand side by side.
-/

/-- Whether a character may stand before the at sign. -/
def isLocalCharacter (character : Char) : Bool :=
  isAsciiAlphanumeric character ||
    ".!#$%&'*+/=?^_`\x7b|\x7d~-".toList.contains character

/-- Whether a character may stand in a label of a domain. -/
def isLabelCharacter (character : Char) : Bool :=
  isAsciiAlphanumeric character || character = '-'

/-- The longest label of a domain. -/
def labelLimit : Nat := 63

/-- Whether some characters are a label of a domain. -/
def isLabel (characters : List Char) : Bool :=
  characters.length ≤ labelLimit &&
    characters.all isLabelCharacter &&
    characters.head?.any isAsciiAlphanumeric &&
    characters.getLast?.any isAsciiAlphanumeric

/-- Whether some characters are a domain. -/
def isDomain (characters : List Char) : Bool :=
  let labels := splitAt '.' characters
  2 ≤ labels.length && labels.all isLabel

/-- Whether two dots stand side by side. -/
def hasDoubleDot : List Char → Bool
  | '.' :: '.' :: _ => true
  | _ :: rest => hasDoubleDot rest
  | [] => false

/-- Whether some characters are an address. -/
def isEmailAddress (characters : List Char) : Bool :=
  let localPart := characters.takeWhile (· ≠ '@')
  match characters.dropWhile (· ≠ '@') with
  | _ :: domain =>
      !localPart.isEmpty && localPart.all isLocalCharacter &&
        isDomain domain && !hasDoubleDot characters
  | [] => false

example : isEmailAddress "a.b@x-1.org".toList = true := by decide

example : isEmailAddress "a@localhost".toList = false := by decide

end FormCheck.Text
