import SchemaPhrase.Text.Blank

/-!
# The check clause

A check clause is `check`, at most one blank and an expression in parentheses. `findCheck?` gives
the first one in a text. Parentheses are matched by their order alone, without counting: the clause
ends at the next parenthesis if that one closes, else at the last place where two closing ones
follow each other with no parenthesis between them.
-/

set_option autoImplicit false

namespace SchemaPhrase.Phrase

open Text

/-- The keyword of a check clause. -/
def checkKey : List Char := "check".toList

/-- The text behind the opening of a clause, if one opens in front: the keyword, at most one blank
and an opening parenthesis. -/
def checkBody? (text : List Char) : Option (List Char) :=
  if checkKey.isPrefixOf text then
    match text.drop checkKey.length with
    | '(' :: body => some body
    | c :: '(' :: body => if isBlank c then some body else none
    | _ => none
  else none

/-- The text through the first parenthesis, if that one closes. -/
def throughFirst? : List Char → Option (List Char)
  | [] => none
  | c :: rest =>
    if c = ')' then some [c] else if c = '(' then none else (throughFirst? rest).map (c :: ·)

/-- The text through the second parenthesis of the last two neighbouring ones that both close;
`closed` says whether the parenthesis in front of the text closes. -/
def throughLastPair? (closed : Bool) : List Char → Option (List Char)
  | [] => none
  | c :: rest =>
    if c = ')' then
      match throughLastPair? true rest with
      | some through => some (c :: through)
      | none => if closed then some [c] else none
    else if c = '(' then (throughLastPair? false rest).map (c :: ·)
    else (throughLastPair? closed rest).map (c :: ·)

/-- The expression of a clause with its closing parenthesis, from the text behind the opening
one. -/
def clauseBody? (body : List Char) : Option (List Char) :=
  (throughFirst? body).or (throughLastPair? false body)

/-- The clause in front of a text. -/
def clauseAt? (text : List Char) : Option (List Char) :=
  (checkBody? text).bind fun body =>
    (clauseBody? body).map (text.take (text.length - body.length) ++ ·)

/-- The first check clause of a text. -/
def findCheck? : List Char → Option (List Char)
  | [] => none
  | c :: rest => (clauseAt? (c :: rest)).or (findCheck? rest)

end SchemaPhrase.Phrase
