import TextSchema.Cardinality
import TextSchema.Decimal.Binary64
import TextSchema.Decimal.Integer
import TextSchema.Decimal.Shortest
import TextSchema.Error
import TextSchema.Field
import TextSchema.Field.Format
import TextSchema.Field.TypeName
import TextSchema.FieldType
import TextSchema.FieldType.Choice
import TextSchema.FieldType.Enumeration
import TextSchema.FieldType.Inspect
import TextSchema.FieldType.Repeated
import TextSchema.FieldType.Variant
import TextSchema.Logged
import TextSchema.OrderedTable
import TextSchema.Pattern.Acceptor
import TextSchema.Pattern.Bracket
import TextSchema.Pattern.CharSet
import TextSchema.Pattern.Escape
import TextSchema.Pattern.Expr
import TextSchema.Pattern.Lowering
import TextSchema.Pattern.Property
import TextSchema.Pattern.Reader
import TextSchema.Pattern.Search
import TextSchema.Pattern.Syntax
import TextSchema.Schema
import TextSchema.Schema.ByteScan
import TextSchema.Schema.Segment
import TextSchema.Text.Age
import TextSchema.Text.BinaryProperty
import TextSchema.Text.Blank
import TextSchema.Text.CaseRun
import TextSchema.Text.CaseVariants
import TextSchema.Text.Category
import TextSchema.Text.Digit
import TextSchema.Text.LetterCase
import TextSchema.Text.Pieces
import TextSchema.Text.Printable
import TextSchema.Text.Quoted
import TextSchema.Text.RangeTable
import TextSchema.Text.Script
import TextSchema.Text.Word
import TextSchema.TypeTable
import TextSchema.TypeTable.Missing
import TextSchema.Value
import TextSchema.Value.Inspect
import TextSchema.Value.Json
import TextSchema.Proofs.Decimal.IntegerText
import TextSchema.Proofs.Field.FieldCodec
import TextSchema.Proofs.Field.FormatCodec
import TextSchema.Proofs.Field.FormatFidelity
import TextSchema.Proofs.Field.TypeNameCodec
import TextSchema.Proofs.FieldType.ChoiceDecoding
import TextSchema.Proofs.FieldType.EnumerationDecoding
import TextSchema.Proofs.FieldType.EscapedSeparator
import TextSchema.Proofs.FieldType.GroupCounts
import TextSchema.Proofs.FieldType.ListDecoding
import TextSchema.Proofs.FieldType.ListPattern
import TextSchema.Proofs.FieldType.NestedLists
import TextSchema.Proofs.FieldType.NestedVariants
import TextSchema.Proofs.FieldType.NumberDecoding
import TextSchema.Proofs.FieldType.VariantCoverage
import TextSchema.Proofs.FieldType.VariantDispatch
import TextSchema.Proofs.OrderedTable
import TextSchema.Proofs.Outcome
import TextSchema.Proofs.Pattern.Alternatives
import TextSchema.Proofs.Pattern.Anchoring
import TextSchema.Proofs.Pattern.Assembly
import TextSchema.Proofs.Pattern.CharSets
import TextSchema.Proofs.Pattern.Denotation
import TextSchema.Proofs.Pattern.Edits
import TextSchema.Proofs.Pattern.Exploration
import TextSchema.Proofs.Pattern.FirstPath
import TextSchema.Proofs.Pattern.Fuel
import TextSchema.Proofs.Pattern.Language
import TextSchema.Proofs.Pattern.Lowers
import TextSchema.Proofs.Pattern.Numbering
import TextSchema.Proofs.Pattern.Parts
import TextSchema.Proofs.Pattern.Preference
import TextSchema.Proofs.Pattern.PropertyClasses
import TextSchema.Proofs.Pattern.Renumbering
import TextSchema.Proofs.Pattern.Splicing
import TextSchema.Proofs.Pattern.Takes
import TextSchema.Proofs.Pattern.WholeText
import TextSchema.Proofs.Schema.FieldKeys
import TextSchema.Proofs.Schema.FieldScan
import TextSchema.Proofs.Schema.LeastCut
import TextSchema.Proofs.Schema.Refusal
import TextSchema.Proofs.Schema.Rendering
import TextSchema.Proofs.Schema.Tiling
import TextSchema.Proofs.Schema.UntypedSchema
import TextSchema.Proofs.Text.Codes
import TextSchema.Proofs.Text.Pieces
import TextSchema.Proofs.Text.SmallLetters
import TextSchema.Proofs.TypeTable.Changes
import TextSchema.Proofs.TypeTable.InTurn
import TextSchema.Proofs.TypeTable.Lacking
import TextSchema.Proofs.Value.JsonText
