import SchemaPhrase.Text.Blank

/-!
# Words and white space

A text is a list of characters, and its `words` are the maximal runs of characters that are not
blank. `collapse` writes the words with one space between them, `trim` drops the blanks at both
ends and `squeeze` drops every blank.
-/

set_option autoImplicit false

namespace SchemaPhrase.Text

/-- Puts `c`, which is not blank, in front of the words of the text after it: into the first word
if that text goes on with it, else as a word of its own. -/
def growWord (c : Char) : List Char → List (List Char) → List (List Char)
  | d :: _, word :: others => if isBlank d then [c] :: word :: others else (c :: word) :: others
  | _, others => [c] :: others

/-- The maximal runs of characters that are not blank, in order. -/
def words : List Char → List (List Char)
  | [] => []
  | c :: rest => if isBlank c then words rest else growWord c rest (words rest)

/-- The words with one space between neighbours. -/
def joinWords : List (List Char) → List Char
  | [] => []
  | [word] => word
  | word :: others => word ++ ' ' :: joinWords others

/-- The text with every run of blanks made one space and none left at the ends. -/
def collapse (text : List Char) : List Char :=
  joinWords (words text)

/-- The text without the blanks at its two ends. -/
def trim (text : List Char) : List Char :=
  ((text.dropWhile isBlank).reverse.dropWhile isBlank).reverse

/-- The text without any blank. -/
def squeeze (text : List Char) : List Char :=
  text.filter (!isBlank ·)

/-- `collapse` on a string. -/
def collapseWhitespace (text : String) : String :=
  String.ofList (collapse text.toList)

@[simp] theorem words_nil : words [] = [] := rfl

theorem words_blank {c : Char} (rest : List Char) (h : isBlank c = true) :
    words (c :: rest) = words rest := by
  simp [words, h]

end SchemaPhrase.Text
