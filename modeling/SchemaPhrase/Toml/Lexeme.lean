import SchemaPhrase.Json.Lexeme

/-!
# The words of a settings file

Comments, keys, strings and other scalars of the TOML notation. Each scanner takes the text in
front of which the word stands and gives its value and the text behind it. Of numbers, truth values
and dates only the notation is checked, since no setting holds one.
-/

set_option autoImplicit false

namespace SchemaPhrase.Toml

/-- A blank inside a line. -/
def isSpace (c : Char) : Bool :=
  c = ' ' || c = '\t'

/-- The text without the blanks in front. -/
def skipSpaces (text : List Char) : List Char :=
  text.dropWhile isSpace

/-- A character that may stand in a comment or a string. -/
def isVisible (c : Char) : Bool :=
  c = '\t' || (32 ≤ c.toNat && c.toNat ≠ 127)

/-- The text behind a line end that stands in front. -/
def lineEnd? : List Char → Option (List Char)
  | '\n' :: rest => some rest
  | '\r' :: '\n' :: rest => some rest
  | _ => none

/-- The text behind a comment, if one stands in front. -/
def skipComment : List Char → List Char
  | '#' :: rest => rest.dropWhile isVisible
  | text => text

/-- The text behind the end of a statement: blanks, a comment, and a line end or the end of the
text. -/
def endStatement? (text : List Char) : Option (List Char) :=
  match skipComment (skipSpaces text) with
  | [] => some []
  | text => lineEnd? text

/-- The text without the blanks, comments and line ends in front; `fuel` bounds their number. -/
def skipGaps : Nat → List Char → List Char
  | 0, text => text
  | fuel + 1, text =>
    match lineEnd? (skipComment (skipSpaces text)) with
    | some rest => skipGaps fuel rest
    | none => skipSpaces text

/-! ## Strings -/

/-- The character of a code point that a string may hold. -/
def scalarValue? (code : Nat) : Option Char :=
  if code < 0xD800 || (0xE000 ≤ code && code ≤ 0x10FFFF) then some (Char.ofNat code) else none

/-- The character that an escape with `count` hexadecimal digits stands for, and the text behind
it. -/
def scanCode? (count : Nat) (text : List Char) : Option (Char × List Char) :=
  if text.length < count then none
  else ((Json.hexValues? (text.take count)).bind scalarValue?).map fun c => (c, text.drop count)

/-- The character that a backslash and the text behind it stand for. -/
def scanEscape? : List Char → Option (Char × List Char)
  | [] => none
  | c :: rest =>
    if c = 'b' then some ('\x08', rest)
    else if c = 't' then some ('\t', rest)
    else if c = 'n' then some ('\n', rest)
    else if c = 'f' then some ('\x0c', rest)
    else if c = 'r' then some ('\r', rest)
    else if c = 'e' then some ('\x1b', rest)
    else if c = '\x22' || c = '\\' then some (c, rest)
    else if c = 'x' then scanCode? 2 rest
    else if c = 'u' then scanCode? 4 rest
    else if c = 'U' then scanCode? 8 rest
    else none

/-- The text behind a backslash that ends a line: behind every blank and line end that follows.
None if something else ends the line. -/
def foldLine? (text : List Char) : Option (List Char) :=
  (lineEnd? (skipSpaces text)).map skipBlankLines
where
  /-- The text behind blanks and line ends. -/
  skipBlankLines : List Char → List Char
    | [] => []
    | '\r' :: '\n' :: rest => skipBlankLines rest
    | c :: rest => if isSpace c || c = '\n' then skipBlankLines rest else c :: rest

/-- The text of a string on one line behind its opening mark. -/
def scanLine? (mark : Char) (escapes : Bool) : Nat → List Char → Option (List Char × List Char)
  | 0, _ => none
  | _ + 1, [] => none
  | fuel + 1, c :: rest =>
    if c = mark then some ([], rest)
    else if escapes && c = '\\' then do
      let (c, rest) ← scanEscape? rest
      let (content, rest) ← scanLine? mark escapes fuel rest
      return (c :: content, rest)
    else if isVisible c then
      (scanLine? mark escapes fuel rest).map fun (content, rest) => (c :: content, rest)
    else none

/-- The marks in front of a text. -/
def countMarks (mark : Char) (text : List Char) : Nat :=
  (text.takeWhile (· = mark)).length

/-- The text of a string over several lines behind its opening marks. Up to two marks may stand
directly in front of the three closing ones. -/
def scanLines? (mark : Char) (escapes : Bool) : Nat → List Char → Option (List Char × List Char)
  | 0, _ => none
  | _ + 1, [] => none
  | fuel + 1, c :: rest =>
    let marks := countMarks mark (c :: rest)
    if 3 ≤ marks then
      let inside := min marks 5 - 3
      some (List.replicate inside mark, (c :: rest).drop (inside + 3))
    else if escapes && c = '\\' then
      match foldLine? rest with
      | some rest => scanLines? mark escapes fuel rest
      | none => do
        let (c, rest) ← scanEscape? rest
        let (content, rest) ← scanLines? mark escapes fuel rest
        return (c :: content, rest)
    else if isVisible c || c = '\n' || (c = '\r' && rest.head? == some '\n') then
      (scanLines? mark escapes fuel rest).map fun (content, rest) => (c :: content, rest)
    else none

/-- A string behind its first mark: over several lines if two more marks follow. A line end right
behind the opening does not belong to it. -/
def scanString? (mark : Char) (escapes : Bool) (text : List Char) :
    Option (List Char × List Char) :=
  if [mark, mark].isPrefixOf text then
    let body := text.drop 2
    scanLines? mark escapes (body.length + 1) ((lineEnd? body).getD body)
  else scanLine? mark escapes (text.length + 1) text

/-! ## Keys -/

/-- A character of a key without quotes. -/
def isBareKey (c : Char) : Bool :=
  c.isAlphanum || c = '_' || c = '-'

/-- The mark of a literal string. -/
def apostrophe : Char := '\x27'

/-- One part of a key. -/
def scanKeyPart? : List Char → Option (String × List Char)
  | [] => none
  | c :: rest =>
    if c = '\x22' then
      (scanLine? c true (rest.length + 1) rest).map fun (part, rest) => (String.ofList part, rest)
    else if c = apostrophe then
      (scanLine? c false (rest.length + 1) rest).map fun (part, rest) => (String.ofList part, rest)
    else if isBareKey c then
      some (String.ofList ((c :: rest).takeWhile isBareKey), (c :: rest).dropWhile isBareKey)
    else none

/-- A key: parts with points between them, and the text behind it and the blanks after it. -/
def scanKey? : Nat → List Char → Option (List String × List Char)
  | 0, _ => none
  | fuel + 1, text => do
    let (part, rest) ← scanKeyPart? (skipSpaces text)
    match skipSpaces rest with
    | '.' :: rest =>
      let (parts, rest) ← scanKey? fuel rest
      return (part :: parts, rest)
    | rest => return ([part], rest)

/-! ## Other scalars -/

/-- Digits of a base with single underscores between them. -/
def isGroupedDigits (isDigit : Char → Bool) : List Char → Bool
  | [] => false
  | [c] => isDigit c
  | c :: '_' :: rest => isDigit c && isGroupedDigits isDigit rest
  | c :: rest => isDigit c && isGroupedDigits isDigit rest

/-- The text behind a sign, if one stands in front. -/
def skipSign : List Char → List Char
  | '+' :: rest => rest
  | '-' :: rest => rest
  | text => text

/-- Digits without a needless zero in front. -/
def isWhole (text : List Char) : Bool :=
  isGroupedDigits Char.isDigit text && (text.length = 1 || text.head? != some '0')

def isInteger : List Char → Bool
  | '0' :: 'x' :: digits => isGroupedDigits (Json.hexValue? · |>.isSome) digits
  | '0' :: 'o' :: digits => isGroupedDigits (fun c => '0' ≤ c && c ≤ '7') digits
  | '0' :: 'b' :: digits => isGroupedDigits (fun c => c = '0' || c = '1') digits
  | text => isWhole (skipSign text)

/-- The exponent of a float behind its mark, or nothing. -/
def isExponent : List Char → Bool
  | [] => true
  | c :: digits => (c = 'e' || c = 'E') && isGroupedDigits Char.isDigit (skipSign digits)

/-- A character of the digits in front of an exponent. -/
def isGroupChar (c : Char) : Bool :=
  c.isDigit || c = '_'

def isFloat (text : List Char) : Bool :=
  let size := skipSign text
  let whole := size.takeWhile isGroupChar
  let rest := size.dropWhile isGroupChar
  size == "inf".toList || size == "nan".toList ||
    (isWhole whole &&
      match rest with
      | [] => false
      | '.' :: rest =>
        isGroupedDigits Char.isDigit (rest.takeWhile isGroupChar) &&
          isExponent (rest.dropWhile isGroupChar)
      | rest => isExponent rest)

/-- The number that exactly `count` digits write, and the text behind them. -/
def scanFixed? (count : Nat) (text : List Char) : Option (Nat × List Char) :=
  if count ≤ text.length && (text.take count).all Char.isDigit then
    some (Nat.ofDigitChars 10 (text.take count) 0, text.drop count)
  else none

/-- The text behind a given character. -/
def scanMark? (mark : Char) : List Char → Option (List Char)
  | [] => none
  | c :: rest => if c = mark then some rest else none

/-- The number of days in a month. -/
def daysIn (year month : Nat) : Nat :=
  if month = 2 then
    if year % 4 = 0 && (year % 100 ≠ 0 || year % 400 = 0) then 29 else 28
  else if [4, 6, 9, 11].contains month then 30 else 31

/-- The text behind a date. -/
def scanDate? (text : List Char) : Option (List Char) := do
  let (year, rest) ← scanFixed? 4 text
  let (month, rest) ← scanFixed? 2 (← scanMark? '-' rest)
  let (day, rest) ← scanFixed? 2 (← scanMark? '-' rest)
  if 1 ≤ month ∧ month ≤ 12 ∧ 1 ≤ day ∧ day ≤ daysIn year month then some rest else none

/-- The text behind the seconds of a time, which may be missing. -/
def scanSeconds? (text : List Char) : Option (List Char) :=
  match text with
  | ':' :: rest => do
    let (seconds, rest) ← scanFixed? 2 rest
    if 60 < seconds then none
    else
      match rest with
      | '.' :: rest => (Json.scanDigits? rest).map Prod.snd
      | rest => some rest
  | rest => some rest

/-- The text behind a time of day. -/
def scanTime? (text : List Char) : Option (List Char) := do
  let (hours, rest) ← scanFixed? 2 text
  let (minutes, rest) ← scanFixed? 2 (← scanMark? ':' rest)
  if hours ≤ 23 ∧ minutes ≤ 59 then scanSeconds? rest else none

/-- Whether a text is nothing or the distance of a time zone. -/
def isOffset : List Char → Bool
  | [] => true
  | ['Z'] => true
  | ['z'] => true
  | c :: rest => (c = '+' || c = '-') &&
    match (do
      let (hours, rest) ← scanFixed? 2 rest
      let (minutes, rest) ← scanFixed? 2 (← scanMark? ':' rest)
      if hours ≤ 23 ∧ minutes ≤ 59 then some rest else none) with
    | some [] => true
    | _ => false

/-- A date, a time, or both. -/
def isMoment (text : List Char) : Bool :=
  match scanDate? text with
  | some [] => true
  | some (c :: rest) => (c = 'T' || c = 't' || c = ' ') && (scanTime? rest).any isOffset
  | none => (scanTime? text).any List.isEmpty

/-- A scalar that is no string. -/
def isScalar (text : List Char) : Bool :=
  text == "true".toList || text == "false".toList || isInteger text || isFloat text ||
    isMoment text

/-- A character of a scalar that is no string. -/
def isScalarChar (c : Char) : Bool :=
  c.isAlphanum || c = '_' || c = '+' || c = '-' || c = '.' || c = ':'

/-- The text of a scalar that is no string: a run of its characters, and a second one behind a
space if the first is a date. -/
def scalarRun (text : List Char) : List Char :=
  let run := text.takeWhile isScalarChar
  match text.drop run.length with
  | ' ' :: c :: rest =>
    if c.isDigit && (scanDate? run).any List.isEmpty then
      run ++ ' ' :: (c :: rest).takeWhile isScalarChar
    else run
  | _ => run

/-- The text behind a scalar that is no string. -/
def skipScalar? (text : List Char) : Option (List Char) :=
  let run := scalarRun text
  if isScalar run then some (text.drop run.length) else none

end SchemaPhrase.Toml
