namespace FormCheck.Text

/-!
# Upper case

Semester tags may be typed in lower case. Besides the ASCII letters, ten
characters have upper-case forms that consist of ASCII letters only. All other
characters are left as they are: whatever their upper case, it holds a
character outside ASCII, and no text with such a character is ever accepted
where upper-casing applies.
-/

/-- The upper case of one character, as far as it is written in ASCII. -/
def upperCharacter (character : Char) : List Char :=
  match character with
  | 'ß' => ['S', 'S']
  | 'ı' => ['I']
  | 'ſ' => ['S']
  | 'ﬀ' => ['F', 'F']
  | 'ﬁ' => ['F', 'I']
  | 'ﬂ' => ['F', 'L']
  | 'ﬃ' => ['F', 'F', 'I']
  | 'ﬄ' => ['F', 'F', 'L']
  | 'ﬅ' => ['S', 'T']
  | 'ﬆ' => ['S', 'T']
  | _ => [character.toUpper]

/-- The characters in upper case. -/
def upperCase (characters : List Char) : List Char :=
  characters.flatMap upperCharacter

example : upperCase ['2', 'a', 'ſ'] = ['2', 'A', 'S'] := by decide

end FormCheck.Text
