import SchemaPhrase.Json.Reader

/-!
# Reading documents of a known shape

A text that has to hold a certain shape is checked while it is read, so that the first fault in it
decides: the text is `malformed`, or it is well written and holds something else, a `mismatch`.
`Shape.read` gives what it read as a document in one form, with records as objects and choices as
strings.
-/

set_option autoImplicit false

namespace SchemaPhrase.Json

/-- What is wrong with a text. -/
inductive Fault where
  | malformed
  | mismatch
  deriving DecidableEq, Repr

/-- What a text has to hold. -/
inductive Shape where
  | string
  /-- Null or the inner shape. -/
  | optional (inner : Shape)
  | list (item : Shape)
  /-- One of some names. -/
  | choice (names : List String)
  /-- An object with some of these fields, or the list of their values. Each field has its key,
  whether it is required, and its shape; a closed record has no other key. -/
  | record (closed : Bool) (fields : List (String × Bool × Shape))

namespace Shape

/-- A text that is not there is malformed. -/
def orMalformed {α : Type} : Option α → Except Fault α
  | some value => .ok value
  | none => .error .malformed

/-- The fault of a text in front of which something else stands than is wanted: a scalar is read
first, and of a container the opening is enough. -/
def faultOf (text : List Char) : Fault :=
  let word? : Option (List Char) :=
    match text with
    | 'n' :: rest => after? "ull".toList rest
    | 't' :: rest => after? "rue".toList rest
    | 'f' :: rest => after? "alse".toList rest
    | '\x22' :: rest => (scanString? rest).map Prod.snd
    | '[' :: rest => some rest
    | '\x7b' :: rest => some rest
    | text => (scanLiteral? text).bind fun (literal, rest) => literal.number?.map fun _ => rest
  if word?.isSome then .mismatch else .malformed

/-- A string in front of a text. -/
def readString (text : List Char) : Except Fault (String × List Char) :=
  match skipSpacing text with
  | '\x22' :: rest => orMalformed (scanString? rest)
  | text => .error (faultOf text)

/-- The text behind a character that has to stand in front. -/
def readMark (mark : Char) (text : List Char) : Except Fault (List Char) :=
  match skipSpacing text with
  | c :: rest => if c = mark then .ok rest else .error .malformed
  | [] => .error .malformed

/-- One of some names. -/
def readName (names : List String) (text : List Char) : Except Fault (String × List Char) := do
  let (name, rest) ← readString text
  if names.contains name then .ok (name, rest) else .error .mismatch

/-- A choice: a name, or an object with the name as its only key and null under it. -/
def readChoice (names : List String) (text : List Char) : Except Fault (Json × List Char) :=
  match skipSpacing text with
  | '\x22' :: _ => do
    let (name, rest) ← readName names text
    return (.string name, rest)
  | '\x7b' :: rest => do
    let (name, rest) ← readName names rest
    let rest ← readMark ':' rest
    match skipSpacing rest with
    | 'n' :: rest =>
      let rest ← orMalformed (after? "ull".toList rest)
      return (.string name, ← readMark '\x7d' rest)
    | rest => .error (faultOf rest)
  | _ => .error .malformed

/-- Whether the items of a list end here; `first` when none stands in front. -/
def readSeparator (first : Bool) (text : List Char) : Except Fault (Option (List Char)) :=
  match skipSpacing text with
  | [] => .error .malformed
  | ']' :: _ => .ok none
  | c :: rest =>
    if first then .ok (some (c :: rest))
    else if c = ',' then
      match skipSpacing rest with
      | [] => .error .malformed
      | ']' :: _ => .error .malformed
      | rest => .ok (some rest)
    else .error .malformed

mutual

/-- The shape in front of a text. Each step spends `fuel`; three times the length of the text and
the size of the shape are always enough. -/
def readWith : Nat → Shape → List Char → Except Fault (Json × List Char)
  | 0, _, _ => .error .malformed
  | _ + 1, string, text => do
    let (value, rest) ← readString text
    return (.string value, rest)
  | fuel + 1, optional inner, text =>
    match skipSpacing text with
    | 'n' :: rest => do
      return (.null, ← orMalformed (after? "ull".toList rest))
    | text => readWith fuel inner text
  | fuel + 1, list item, text =>
    match skipSpacing text with
    | '[' :: rest => do
      let (items, rest) ← readList fuel item true rest
      return (.array items, rest)
    | text => .error (faultOf text)
  | _ + 1, choice names, text => readChoice names text
  | fuel + 1, record closed fields, text =>
    match skipSpacing text with
    | '\x7b' :: rest => do
      let (found, rest) ← readEntries fuel closed fields [] true rest
      return (.object (Mapping.ofFields found), rest)
    | '[' :: rest => do
      let (found, rest) ← readTuple fuel fields true rest
      return (.object (Mapping.ofFields found), ← readMark ']' rest)
    | text => .error (faultOf text)

/-- The items of a list through the closing bracket. -/
def readList : Nat → Shape → Bool → List Char → Except Fault (List Json × List Char)
  | 0, _, _, _ => .error .malformed
  | fuel + 1, item, first, text => do
    match ← readSeparator first text with
    | none => return ([], ← readMark ']' text)
    | some rest =>
      let (value, rest) ← readWith fuel item rest
      let (values, rest) ← readList fuel item false rest
      return (value :: values, rest)

/-- The fields of a record given as a list, in their order; those at the end may be missing if they
are not required. -/
def readTuple : Nat → List (String × Bool × Shape) → Bool → List Char →
    Except Fault (List (String × Json) × List Char)
  | 0, _, _, _ => .error .malformed
  | _ + 1, [], _, text => .ok ([], text)
  | fuel + 1, (key, required, shape) :: fields, first, text => do
    match ← readSeparator first text with
    | none =>
      if required then .error .mismatch else readTuple fuel fields first text
    | some rest =>
      let (value, rest) ← readWith fuel shape rest
      let (found, rest) ← readTuple fuel fields false rest
      return ((key, value) :: found, rest)

/-- The entries of a record given as an object, through the closing brace; `found` holds those
that were read, and `first` says that none was. A key may not stand twice, and one that is not known
is passed over. -/
def readEntries : Nat → Bool → List (String × Bool × Shape) → List (String × Json) → Bool →
    List Char → Except Fault (List (String × Json) × List Char)
  | 0, _, _, _, _, _ => .error .malformed
  | fuel + 1, closed, fields, found, first, text =>
    match skipSpacing text with
    | '\x7d' :: rest =>
      if fields.all fun field => !field.2.1 || (found.map Prod.fst).contains field.1 then
        .ok (found, rest)
      else .error .mismatch
    | text => do
      let text ← if first then .ok text else readMark ',' text
      let rest ← readMark '\x22' text
      let (key, rest) ← orMalformed (scanString? rest)
      match fields.lookup key with
      | some (_, shape) =>
        if (found.map Prod.fst).contains key then .error .mismatch
        else
          let rest ← readMark ':' rest
          let (value, rest) ← readWith fuel shape rest
          readEntries fuel closed fields ((key, value) :: found) false rest
      | none =>
        if closed then .error .mismatch
        else
          let rest ← readMark ':' rest
          let rest ← orMalformed (skipFront? rest)
          readEntries fuel closed fields found false rest

end

/-- The shape in front of a text and the text behind it. -/
def read (shape : Shape) (text : List Char) : Except Fault (Json × List Char) :=
  readWith (3 * text.length + 10) shape text

end Shape

/-- Reads a text as a value: what `read` finds in front of it is made a value by `make`, and only
then anything but spacing behind it is a fault. -/
def decodeText {ε α : Type} (read : List Char → Except Fault (Json × List Char))
    (make : Json → Except ε α) (text : String) : Except (Fault ⊕ ε) α := do
  let (document, rest) ← (read text.toList).mapError Sum.inl
  let value ← (make document).mapError Sum.inr
  if (skipSpacing rest).isEmpty then .ok value else .error (.inl .malformed)

/-- Any document in front of a text. -/
def readAny (text : List Char) : Except Fault (Json × List Char) :=
  Shape.orMalformed (readFront? text)

end SchemaPhrase.Json
