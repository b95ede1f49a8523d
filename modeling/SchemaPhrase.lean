import SchemaPhrase.Text.Printable
import SchemaPhrase.Text.WordChar
import SchemaPhrase.Text.Digit
import SchemaPhrase.Keyword
import SchemaPhrase.Nullability
import SchemaPhrase.Alias
import SchemaPhrase.Json.Printer
import SchemaPhrase.DataType.Parse
import SchemaPhrase.Phrase.CheckClause
import SchemaPhrase.Event
import SchemaPhrase.Table.Basic
import SchemaPhrase.Json.Shape
import SchemaPhrase.Settings.File
import SchemaPhrase.Cli.Arguments
import SchemaPhrase.Cli.Style
import SchemaPhrase.Text.Quoted
import SchemaPhrase.Main
import SchemaPhrase.Proofs.Text.Spacing
import SchemaPhrase.Proofs.Text.Occurrence
import SchemaPhrase.Proofs.Text.Casing
import SchemaPhrase.Proofs.Text.Runs
import SchemaPhrase.Proofs.Text.Folding
import SchemaPhrase.Proofs.Phrase.Clause
import SchemaPhrase.Proofs.DataType.Resolve
import SchemaPhrase.Proofs.DataType.Display
import SchemaPhrase.Proofs.Phrase.Grammar
import SchemaPhrase.Proofs.Phrase.Pieces
import SchemaPhrase.Proofs.Phrase.Completeness
import SchemaPhrase.Proofs.Traced
import SchemaPhrase.Proofs.Json.Mapping
import SchemaPhrase.Proofs.Json.Normal
import SchemaPhrase.Proofs.Constraint
import SchemaPhrase.Proofs.Column.Invariant
import SchemaPhrase.Proofs.DataType.Codec
import SchemaPhrase.Proofs.Column.RoundTrip
import SchemaPhrase.Proofs.Table.FixedPoint
import SchemaPhrase.Proofs.Decimal
import SchemaPhrase.Proofs.TypePhrase
import SchemaPhrase.Proofs.DataType.CanonicalText
import SchemaPhrase.Proofs.Column.Override
import SchemaPhrase.Proofs.Column.Update
import SchemaPhrase.Proofs.Phrase.Passes
import SchemaPhrase.Proofs.Phrase.Verbatim
import SchemaPhrase.Proofs.Phrase.ClauseOrder
import SchemaPhrase.Proofs.Column.Construction
import SchemaPhrase.Proofs.Policy
import SchemaPhrase.Proofs.DataType.Spelling
import SchemaPhrase.Proofs.Column.TypeOnly
import SchemaPhrase.Proofs.Table.Derivation
import SchemaPhrase.Proofs.Table.Stages
import SchemaPhrase.Proofs.Text.Respaced
import SchemaPhrase.Proofs.DataType.Refusal
import SchemaPhrase.Proofs.Column.FromPhrase
import SchemaPhrase.Proofs.Phrase.Letters
import SchemaPhrase.Proofs.Phrase.MarkerSpacing
import SchemaPhrase.Proofs.Phrase.CheckPattern
import SchemaPhrase.Proofs.Phrase.ClauseExtent
import SchemaPhrase.Proofs.TypePhrase.Grammar
import SchemaPhrase.Proofs.TypePhrase.Captures
import SchemaPhrase.Proofs.Phrase.LetterCase
import SchemaPhrase.Proofs.DataType.ErrorSet
import SchemaPhrase.Proofs.Column.Lookups
import SchemaPhrase.Proofs.Column.Composition
import SchemaPhrase.Proofs.Column.Events
import SchemaPhrase.Proofs.Table.Events
import SchemaPhrase.Proofs.Decimal.Spelling
import SchemaPhrase.Proofs.DataType.Arguments
import SchemaPhrase.Proofs.Text.Segments
import SchemaPhrase.Proofs.Phrase.NormalSpacing
