import FormCheck.Markup.Layout
import FormCheck.Markup.Meaning
import FormCheck.Text.Lines

namespace FormCheck.Markup

/-!
# Markup texts

A markup text writes one value in indented or bracketed form. Its characters are
read as tokens, the tokens as a document, and the document as a value; a text
without a document writes no value, which is null.
-/

/-- The value that a text writes. -/
def read (text : String) : Except Fault Value := do
  let characters := Text.withLineFeeds text.toList
  if !characters.all isAllowed then
    refuse "the text has a control character"
  else
    match ← Document.ofTokens? (.ofCharacters characters) with
    | none => return .null
    | some document => document.meaning.mapError Problem.fault

end FormCheck.Markup
