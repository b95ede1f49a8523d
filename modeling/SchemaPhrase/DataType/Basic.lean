import SchemaPhrase.Json.Basic

/-!
# Data types

`DataType` is the closed set of types that a column can have. Types come in families that take the
same arguments: character types a length, exact numerics a precision and a scale, `timestamp` a
precision and a time zone. An argument that is not set is `unset`. `display` is the canonical
phrase of a type and `toMapping` its structured form.
-/

set_option autoImplicit false

namespace SchemaPhrase

inductive CharacterKind where
  | string
  | char
  | varchar
  deriving DecidableEq, Repr

/-- Types without arguments. -/
inductive PlainKind where
  | text
  | integer
  | smallint
  | bigint
  deriving DecidableEq, Repr

inductive ExactKind where
  | numeric
  | decimal
  deriving DecidableEq, Repr

/-- A type of a column. `base` is any type that is not known here, under the tag it came with. -/
inductive DataType where
  | base (tag : String)
  | character (kind : CharacterKind) (maxLength : Int64)
  | plain (kind : PlainKind)
  | exact (kind : ExactKind) (precision scale : Int64)
  | timestamp (precision : Int64) (timezone : Bool)
  deriving DecidableEq, Repr

/-- The canonical tag of a character type. -/
def CharacterKind.tag : CharacterKind → String
  | string => "string"
  | char => "char"
  | varchar => "varchar"

/-- The canonical tag of a type without arguments. -/
def PlainKind.tag : PlainKind → String
  | text => "text"
  | integer => "integer"
  | smallint => "smallint"
  | bigint => "bigint"

/-- The canonical tag of an exact numeric type. -/
def ExactKind.tag : ExactKind → String
  | numeric => "numeric"
  | decimal => "decimal"

namespace DataType

/-- The value of an argument that is not set. -/
def unset : Int64 := -1

/-- The highest precision of a timestamp. -/
def maxTimestampPrecision : Int64 := 6

/-- The tag of the type that stands for any other. -/
def baseTag : String := "base"

/-- The type that stands for any other. -/
def generic : DataType := base baseTag

/-- The canonical tag. -/
def tag : DataType → String
  | base tag => tag
  | character kind _ => kind.tag
  | plain kind => kind.tag
  | exact kind _ _ => kind.tag
  | timestamp _ _ => "timestamp"

/-- The length limit of a character type. -/
def maxLength? : DataType → Option Int64
  | character _ maxLength => some maxLength
  | _ => none

/-- The precision of an exact numeric or a timestamp. -/
def precision? : DataType → Option Int64
  | exact _ precision _ => some precision
  | timestamp precision _ => some precision
  | _ => none

/-- The scale of an exact numeric. -/
def scale? : DataType → Option Int64
  | exact _ _ scale => some scale
  | _ => none

/-- Whether a timestamp has a time zone. -/
def timezone? : DataType → Option Bool
  | timestamp _ timezone => some timezone
  | _ => none

def isBase : DataType → Bool
  | base _ => true
  | _ => false

/-- The tag and the arguments that the type has, set or not. -/
def toMapping (type : DataType) : Mapping :=
  .ofFields <| ("type", .string type.tag) ::
    (type.maxLength?.toList.map fun value => ("max_length", Json.int value)) ++
    (type.precision?.toList.map fun value => ("precision", Json.int value)) ++
    (type.scale?.toList.map fun value => ("scale", Json.int value)) ++
    (type.timezone?.toList.map fun value => ("timezone", Json.bool value))

/-- Arguments in parentheses as a canonical phrase writes them. -/
def argumentsText : List Int64 → String
  | [] => ""
  | arguments => "( " ++ ", ".intercalate (arguments.map Decimal.int64Text) ++ " )"

/-- The canonical phrase. Arguments that are not set are left out, and a scale counts only behind
a precision. -/
def display : DataType → String
  | base tag => tag
  | character kind maxLength => kind.tag ++ argumentsText (setOnes [maxLength])
  | plain kind => kind.tag
  | exact kind precision scale => kind.tag ++ argumentsText (setOnes [precision, scale])
  | timestamp precision timezone =>
    "timestamp" ++ argumentsText (setOnes [precision]) ++
      if timezone then " with time zone" else ""
where
  /-- The arguments in front of the first that is not set. -/
  setOnes (arguments : List Int64) : List Int64 :=
    arguments.takeWhile (unset < ·)

end DataType

end SchemaPhrase
