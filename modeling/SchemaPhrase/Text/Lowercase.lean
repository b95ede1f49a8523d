import SchemaPhrase.Text.LowerChar
import SchemaPhrase.Text.CaseContext

/-!
# Lower case of a whole text

A text is written in lower case character by character, but for the capital sigma: at the end of a
word it becomes the final sigma. `lowerText` follows that rule, `lowerOutside` leaves quoted
literals as they are and takes every character by itself, and `lowercaseUnquoted` chooses between
the two by the number of quotes.
-/

set_option autoImplicit false

namespace SchemaPhrase.Text

/-- The capital sigma. -/
def capitalSigma : Char := '\u03A3'

/-- Whether a sigma ends a word: a letter stands before it, looked at backwards, and none after. -/
def endsWord (reversedBefore after : List Char) : Bool :=
  meetsCased reversedBefore && !meetsCased after

/-- The text after `reversedBefore` in lower case. -/
def lowerAfter (reversedBefore : List Char) : List Char → List Char
  | [] => []
  | c :: rest =>
    (if c = capitalSigma then [if endsWord reversedBefore rest then '\u03C2' else '\u03C3']
      else lowerChar c) ++ lowerAfter (c :: reversedBefore) rest

/-- The whole text in lower case. -/
def lowerText (text : List Char) : List Char :=
  lowerAfter [] text

/-- The mark that opens and closes a literal. -/
def quote : Char := '\x27'

/-- The characters outside literals in lower case; `quoted` says whether the text starts inside
one. -/
def lowerOutside (quoted : Bool) : List Char → List Char
  | [] => []
  | c :: rest =>
    if c = quote then c :: lowerOutside (!quoted) rest
    else if quoted then c :: lowerOutside quoted rest
    else lowerChar c ++ lowerOutside quoted rest

/-- Lower case outside literals. Quotes that do not pair up protect nothing, so that a keyword
after a stray one is still found. -/
def lowercaseUnquoted (text : List Char) : List Char :=
  if text.count quote % 2 = 0 then lowerOutside false text else lowerText text

end SchemaPhrase.Text
