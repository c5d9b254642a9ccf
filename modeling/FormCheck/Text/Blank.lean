namespace FormCheck.Text

/-!
# Blank characters

A submitted text is read without the blanks around it. Blank are the
characters with the Unicode property `White_Space` together with the four
information separators U+001C to U+001F.
-/

/-- Code points of the blank characters, in ascending order. -/
def blankCodes : List Nat :=
  [0x09, 0x0A, 0x0B, 0x0C, 0x0D, 0x1C, 0x1D, 0x1E, 0x1F, 0x20, 0x85, 0xA0,
   0x1680, 0x2000, 0x2001, 0x2002, 0x2003, 0x2004, 0x2005, 0x2006, 0x2007,
   0x2008, 0x2009, 0x200A, 0x2028, 0x2029, 0x202F, 0x205F, 0x3000]

/-- Whether a character is blank. -/
def isBlank (character : Char) : Bool :=
  blankCodes.contains character.toNat

/-- The characters without the blanks at either end. -/
def stripped (characters : List Char) : List Char :=
  ((characters.dropWhile isBlank).reverse.dropWhile isBlank).reverse

/-- The text without the blanks at either end. -/
def strip (text : String) : String :=
  String.ofList (stripped text.toList)

example : blankCodes.length = 29 := rfl

example : stripped [' ', 'a', ' ', 'b', '\t'] = ['a', ' ', 'b'] := by decide

end FormCheck.Text
