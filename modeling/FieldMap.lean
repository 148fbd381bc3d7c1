import FieldMap.Calendar
import FieldMap.ClassTable
import FieldMap.Error
import FieldMap.FileTree
import FieldMap.Json.Basic
import FieldMap.Json.Merge
import FieldMap.Json.Parser
import FieldMap.Json.Printer
import FieldMap.Json.Record
import FieldMap.Json.Token
import FieldMap.Model.Basic
import FieldMap.Model.FieldClass
import FieldMap.Model.FieldType
import FieldMap.Model.ModelField
import FieldMap.Model.Ref
import FieldMap.Model.Relation
import FieldMap.Number.Binary64
import FieldMap.Number.Decimal
import FieldMap.Number.Layout
import FieldMap.Number.Shortest
import FieldMap.Serializer.Arguments
import FieldMap.Serializer.Builder
import FieldMap.Serializer.Document
import FieldMap.Serializer.Field
import FieldMap.Serializer.Mapping
import FieldMap.Serializer.SerializerClass
import FieldMap.Serializer.Style
import FieldMap.Settings.Basic
import FieldMap.Settings.Environment
import FieldMap.Settings.Load
import FieldMap.Text.Blank
import FieldMap.Text.Case
import FieldMap.Text.CaseTable
import FieldMap.Text.PrintTable
import FieldMap.Text.Quoted
import FieldMap.Text.Replace
import FieldMap.Text.Words
import FieldMap.Toml.Moment
import FieldMap.Toml.MomentTable
import FieldMap.Toml.Parser
import FieldMap.Toml.Table
import FieldMap.Toml.Value
import FieldMap.Uuid
import FieldMap.Validator.Basic
import FieldMap.Validator.Grammar
import FieldMap.Validator.Unique
import FieldMap.Value
import FieldMap.Proofs.Admissible
import FieldMap.Proofs.NotEditable
import FieldMap.Proofs.Acceptance
import FieldMap.Proofs.Label
import FieldMap.Proofs.Selecting
import FieldMap.Proofs.Members
import FieldMap.Proofs.Merge
import FieldMap.Proofs.Uniqueness
import FieldMap.Proofs.Reading
import FieldMap.Proofs.Tables
import FieldMap.Proofs.Loading
import FieldMap.Proofs.Registering
import FieldMap.Proofs.ViewNames
import FieldMap.Proofs.Layers
import FieldMap.Proofs.Equality
import FieldMap.Proofs.UniqueColumn
import FieldMap.Proofs.CarryingOver
import FieldMap.Proofs.DefaultNames
import FieldMap.Proofs.Filling
import FieldMap.Proofs.Nesting
import FieldMap.Proofs.Excluding
import FieldMap.Proofs.CamelCase
import FieldMap.Proofs.PrimaryKeyAlias
import FieldMap.Proofs.StandardFields
import FieldMap.Proofs.Removing
import FieldMap.Proofs.Documents
import FieldMap.Proofs.Forms
import FieldMap.Proofs.Links
import FieldMap.Proofs.MailAddresses
import FieldMap.Proofs.ModelLabels
import FieldMap.Proofs.Targets
import FieldMap.Proofs.Declaring
import FieldMap.Proofs.Rounding
import FieldMap.Proofs.ValueBounds
import FieldMap.Proofs.CompoundErrors
import FieldMap.Proofs.WholeNumbers
import FieldMap.Proofs.ShortestDecimals
import FieldMap.Proofs.WrittenNumbers
import FieldMap.Proofs.NumberTokens
import FieldMap.Proofs.Limits
