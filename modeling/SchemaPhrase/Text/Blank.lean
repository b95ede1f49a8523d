import SchemaPhrase.Text.CodeRange

/-!
# Blank characters

The Unicode property White_Space, the one class that separates words here: `isBlank`.
-/

set_option autoImplicit false

namespace SchemaPhrase.Text

/-- White_Space. -/
def blankTable : List CodeRange :=
  [(0x9, 0xD), (0x20, 0x20), (0x85, 0x85), (0xA0, 0xA0), (0x1680, 0x1680), (0x2000, 0x200A),
    (0x2028, 0x2029), (0x202F, 0x202F), (0x205F, 0x205F), (0x3000, 0x3000)]

/-- A character that separates words. -/
def isBlank (c : Char) : Bool :=
  inTable blankTable c

@[simp] theorem isBlank_space : isBlank ' ' = true := by decide

end SchemaPhrase.Text
