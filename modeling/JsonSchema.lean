import JsonSchema.Text.Bytes
import JsonSchema.Text.Quoted
import JsonSchema.Number.Basic
import JsonSchema.Unicode.Age
import JsonSchema.Unicode.Boundary
import JsonSchema.Unicode.CaseFolding
import JsonSchema.Unicode.Direction
import JsonSchema.Unicode.Normal
import JsonSchema.Unicode.Property
import JsonSchema.Unicode.Script
import JsonSchema.Path
import JsonSchema.Json.Basic
import JsonSchema.Json.Equality
import JsonSchema.Json.Printer
import JsonSchema.Json.Reader
import JsonSchema.Pattern.Basic
import JsonSchema.Domain.Name
import JsonSchema.Format.Basic
import JsonSchema.ValueType
import JsonSchema.Violation
import JsonSchema.Defect
import JsonSchema.Schema.Basic
import JsonSchema.Schema.Built
import JsonSchema.Schema.Check
import JsonSchema.Schema.Compile
import JsonSchema.FileSystem
import JsonSchema.Source
import JsonSchema.Validation
import JsonSchema.Registry.Error
import JsonSchema.Registry.Basic
import JsonSchema.Registry.Session
import JsonSchema.Proofs.Runs
import JsonSchema.Proofs.Parts
import JsonSchema.Proofs.Defects
import JsonSchema.Proofs.Report
import JsonSchema.Proofs.Depth
import JsonSchema.Proofs.Equality
import JsonSchema.Proofs.Violations
import JsonSchema.Proofs.Valid
import JsonSchema.Proofs.Accepts
import JsonSchema.Proofs.Documents
import JsonSchema.Proofs.ByteOrder
import JsonSchema.Proofs.Ledger
import JsonSchema.Proofs.Rules
import JsonSchema.Proofs.Clauses
import JsonSchema.Proofs.Keywords
import JsonSchema.Proofs.Located
import JsonSchema.Proofs.Plain
import JsonSchema.Proofs.Sketch
import JsonSchema.Proofs.Alike
import JsonSchema.Proofs.Interchange
import JsonSchema.Proofs.PropertyTree
import JsonSchema.Proofs.Described
import JsonSchema.Proofs.Unread
import JsonSchema.Proofs.Directory
import JsonSchema.Proofs.Repeats
import JsonSchema.Proofs.Rounding
import JsonSchema.Proofs.Decimals
import JsonSchema.Proofs.Integers
import JsonSchema.Proofs.Counts
import JsonSchema.Proofs.WholeNumbers
import JsonSchema.Proofs.Durations
import JsonSchema.Proofs.MailAddresses
import JsonSchema.Proofs.SmallQuotients
import JsonSchema.Proofs.Enclosed
import JsonSchema.Proofs.PathTexts
import JsonSchema.Proofs.Collected
import JsonSchema.Proofs.TextDocuments
import JsonSchema.Proofs.Sources
