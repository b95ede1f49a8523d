/-!
# Looking for a key in a text

Keys are found wherever they stand, inside words too. `occurs` asks whether a key is there,
`replaceAll` exchanges its occurrences from left to right, none overlapping the one before it, and
`splitAt?` cuts the text at the first.
-/

set_option autoImplicit false

namespace SchemaPhrase.Text

/-- Whether `key` stands somewhere in the text. -/
def occurs (key : List Char) : List Char → Bool
  | [] => key.isEmpty
  | c :: rest => key.isPrefixOf (c :: rest) || occurs key rest

/-- Exchanges the occurrences of `key` for `new`, once the next `skip` characters, which belong to
an occurrence already exchanged, are passed over. -/
def replaceFrom (key new : List Char) : Nat → List Char → List Char
  | _, [] => []
  | skip + 1, _ :: rest => replaceFrom key new skip rest
  | 0, c :: rest =>
    if key.isPrefixOf (c :: rest) then new ++ replaceFrom key new (key.length - 1) rest
    else c :: replaceFrom key new 0 rest

/-- The text with every occurrence of `key`, which is not empty, exchanged for `new`. -/
def replaceAll (key new text : List Char) : List Char :=
  replaceFrom key new 0 text

/-- What stands before and after the first occurrence of `key`. -/
def splitAt? (key : List Char) : List Char → Option (List Char × List Char)
  | [] => if key.isEmpty then some ([], []) else none
  | c :: rest =>
    if key.isPrefixOf (c :: rest) then some ([], (c :: rest).drop key.length)
    else (splitAt? key rest).map fun parts => (c :: parts.1, parts.2)

/-- Passing over exactly the characters that are there leaves the rest to be searched. -/
theorem replaceFrom_append (key new passed rest : List Char) :
    replaceFrom key new passed.length (passed ++ rest) = replaceFrom key new 0 rest := by
  induction passed with
  | nil => rfl
  | cons c passed ih => simpa [replaceFrom] using ih

/-- A key at the front is exchanged, and the search goes on behind it. -/
theorem replaceAll_append {key : List Char} (new rest : List Char) (h : key ≠ []) :
    replaceAll key new (key ++ rest) = new ++ replaceAll key new rest := by
  obtain ⟨c, tail, rfl⟩ := List.exists_cons_of_ne_nil h
  simp [replaceAll, replaceFrom, replaceFrom_append]

/-- The parts and the key between them are the whole text. -/
theorem eq_of_splitAt? {key text before after : List Char}
    (h : splitAt? key text = some (before, after)) : text = before ++ key ++ after := by
  induction text generalizing before with
  | nil => simp_all [splitAt?]
  | cons c rest ih =>
    unfold splitAt? at h
    split at h
    · next hp =>
      obtain ⟨t, ht⟩ := List.isPrefixOf_iff_prefix.1 hp
      simp only [Option.some.injEq, Prod.mk.injEq] at h
      simp [← h.1, ← h.2, ← ht]
    · cases hs : splitAt? key rest with
      | none => simp [hs] at h
      | some parts =>
        simp only [hs, Option.map_some, Option.some.injEq, Prod.mk.injEq] at h
        obtain ⟨rfl, rfl⟩ := h
        simp [ih hs]

end SchemaPhrase.Text
