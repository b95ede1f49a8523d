import SchemaPhrase.Text.Printable

/-!
# Quoted text

`quotedText` shows a text between double quotes so that every character can be seen: quotes,
backslashes and line breaks have escapes of their own, and a character that is not printable is
given by its code point.
-/

set_option autoImplicit false

namespace SchemaPhrase.Text

/-- A character between the quotes. -/
def quotedChar (c : Char) : List Char :=
  if c = '\x22' then ['\\', '\x22']
  else if c = '\\' then ['\\', '\\']
  else if c = '\n' then ['\\', 'n']
  else if c = '\r' then ['\\', 'r']
  else if c = '\t' then ['\\', 't']
  else if c = '\x00' then ['\\', '0']
  else if isPrintable c then [c]
  else '\\' :: 'u' :: '\x7b' :: Nat.toDigits 16 c.toNat ++ ['\x7d']

/-- The text between quotes. -/
def quotedText (text : String) : String :=
  String.ofList ('\x22' :: text.toList.flatMap quotedChar ++ ['\x22'])

end SchemaPhrase.Text
