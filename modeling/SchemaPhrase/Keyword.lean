import SchemaPhrase.Text.Words
import SchemaPhrase.Text.Search

/-!
# Keywords of a phrase

A keyword is taken out of a phrase wherever it stands: `extractKeyword` exchanges all occurrences
and collapses what is left, and leaves a phrase without the keyword exactly as it is.
-/

set_option autoImplicit false

namespace SchemaPhrase

open Text

/-- What is left of a phrase and whether the keyword was in it. -/
structure Extraction where
  rest : List Char
  found : Bool

/-- Exchanges every occurrence of `key` for `replacement`. -/
def extractKeyword (key replacement phrase : List Char) : Extraction :=
  if key.isEmpty || !occurs key phrase then ⟨phrase, false⟩
  else ⟨collapse (replaceAll key replacement phrase), true⟩

theorem extractKeyword_absent {key phrase : List Char} (replacement : List Char)
    (h : occurs key phrase = false) :
    extractKeyword key replacement phrase = ⟨phrase, false⟩ := by
  simp [extractKeyword, h]

theorem extractKeyword_present {key phrase : List Char} (replacement : List Char)
    (hk : key ≠ []) (h : occurs key phrase = true) :
    extractKeyword key replacement phrase =
      ⟨collapse (replaceAll key replacement phrase), true⟩ := by
  simp [extractKeyword, h, hk]

end SchemaPhrase
