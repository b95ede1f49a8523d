import SchemaPhrase.Settings
import SchemaPhrase.Table.Error

/-!
# Failures of a command

A failure is told as a chain of texts, outermost first: what was attempted, what is wrong, and the
causes below it.
-/

set_option autoImplicit false

namespace SchemaPhrase.Cli

inductive Failure where
  /-- The settings cannot be had. -/
  | settings (cause : SettingsError)
  | dataType (cause : DataTypeError)
  | column (cause : ColumnError)
  /-- The table of a file is wrong. -/
  | table (file : String) (cause : TableError)
  /-- A file holds no document. -/
  | document (file : String)
  /-- A file cannot be read; `source` is what was read from. -/
  | unreadable (file source cause : String)
  deriving DecidableEq, Repr

namespace Failure

/-- The causes of a table error: the error itself, and the one of its column. -/
def tableCauses (cause : TableError) : List String :=
  cause.message ::
    match cause with
    | .column _ inner => [inner.message]
    | _ => []

/-- The texts of a failure. -/
def chain : Failure → List String
  | settings cause => ["Configuration error: " ++ cause.message, cause.message]
  | dataType cause => ["Invalid data type: " ++ cause.message, cause.message]
  | column cause => ["Invalid column: " ++ cause.message, cause.message]
  | table file cause =>
    ["failed to normalize " ++ file, "Invalid table: " ++ cause.message] ++ tableCauses cause
  | document file => ["failed to normalize " ++ file, "JSON error"]
  | unreadable file source cause =>
    ["failed to normalize " ++ file, "I/O error: " ++ source ++ ": " ++ cause]

/-- The failure in one text. -/
def text (failure : Failure) : String :=
  ": ".intercalate failure.chain

end Failure

end SchemaPhrase.Cli
