import RecordRules.Builtin
import RecordRules.Builtin.Objection
import RecordRules.Calendar.Agreement
import RecordRules.Calendar.Date
import RecordRules.Calendar.Fields
import RecordRules.Calendar.Format
import RecordRules.Calendar.Item
import RecordRules.Calendar.Specifier
import RecordRules.Calendar.Token
import RecordRules.Check
import RecordRules.Config
import RecordRules.Config.Document
import RecordRules.CustomMessages
import RecordRules.Datum
import RecordRules.Directive
import RecordRules.Email
import RecordRules.Event
import RecordRules.Fault
import RecordRules.Json.Reader
import RecordRules.Json.Writer
import RecordRules.Keyed
import RecordRules.Message
import RecordRules.Number.Decimal
import RecordRules.Number.Double
import RecordRules.Number.Shortest
import RecordRules.Pattern.Bracket
import RecordRules.Pattern.Delimited
import RecordRules.Pattern.Escape
import RecordRules.Pattern.Flags
import RecordRules.Pattern.Footprint
import RecordRules.Pattern.Reader
import RecordRules.Pattern.Regex
import RecordRules.Proofs.Builtin
import RecordRules.Proofs.Directive
import RecordRules.Proofs.Keyed
import RecordRules.Proofs.Text.Trimmed
import RecordRules.Record.Path
import RecordRules.Record.Shape
import RecordRules.Registry
import RecordRules.Registry.Pool
import RecordRules.Requirement
import RecordRules.Run
import RecordRules.Specs
import RecordRules.Text.Blank
import RecordRules.Text.Digits
import RecordRules.Text.Letters
import RecordRules.Text.Quoted
import RecordRules.Text.Split
import RecordRules.Unicode.Age
import RecordRules.Unicode.CaseFolding
import RecordRules.Unicode.Category
import RecordRules.Unicode.CharSet
import RecordRules.Unicode.GraphemeBreak
import RecordRules.Unicode.Lookup
import RecordRules.Unicode.Property
import RecordRules.Unicode.Script
import RecordRules.Unicode.ScriptExtension
import RecordRules.Unicode.SentenceBreak
import RecordRules.Unicode.WordBreak
import RecordRules.Upload
import RecordRules.Upload.FileTree
import RecordRules.Validator
import RecordRules.Value
import RecordRules.Value.Numeric
import RecordRules.Yaml.Block
import RecordRules.Yaml.Cursor
import RecordRules.Yaml.Document
import RecordRules.Yaml.Flow
import RecordRules.Yaml.Node
import RecordRules.Yaml.Property
import RecordRules.Yaml.Scalar
import RecordRules.Proofs.Registry.Sound
import RecordRules.Proofs.Run
import RecordRules.Proofs.Validation.Requirement
import RecordRules.Proofs.Validation.Verdict
import RecordRules.Proofs.Registry.History
import RecordRules.Proofs.Validation.Transparency
import RecordRules.Proofs.Registry.Identity
import RecordRules.Proofs.Validation.Alternatives
import RecordRules.Proofs.Validation.Refusal
import RecordRules.Proofs.Validation.Observation
import RecordRules.Proofs.Builtin.Objection
import RecordRules.Proofs.Validation.Acceptance
import RecordRules.Proofs.Validation.Wording
import RecordRules.Proofs.Validation.Presence
import RecordRules.Proofs.Text.Letters
import RecordRules.Proofs.CustomMessages
import RecordRules.Proofs.Validation.Letters
import RecordRules.Proofs.Validation.Stop
import RecordRules.Proofs.Validation.Translation
import RecordRules.Proofs.Validation.Configuration
import RecordRules.Proofs.Validation.Separation
import RecordRules.Proofs.Record.Path
import RecordRules.Proofs.Config
import RecordRules.Proofs.Registry.Announcement
import RecordRules.Proofs.Validation.Trace
import RecordRules.Proofs.Text.Words
import RecordRules.Proofs.Email
import RecordRules.Proofs.Email.Pattern
import RecordRules.Proofs.Calendar.Format
import RecordRules.Proofs.Calendar.Fields
import RecordRules.Proofs.Text.Cut
import RecordRules.Proofs.Text.Digits
import RecordRules.Proofs.Calendar.Date
import RecordRules.Proofs.Calendar.Day
import RecordRules.Proofs.Calendar.Agreement
import RecordRules.Proofs.Calendar.Rendering
import RecordRules.Proofs.Calendar.Moment
import RecordRules.Proofs.Number.Rank
import RecordRules.Proofs.Number.Nearest
import RecordRules.Proofs.Number.Numeral
import RecordRules.Proofs.Number.Grammar
import RecordRules.Proofs.Builtin.Bound
import RecordRules.Proofs.Validation.Decision
import RecordRules.Proofs.Pattern.Delimited
import RecordRules.Proofs.Number.Whole
import RecordRules.Proofs.Builtin.Integer
import RecordRules.Proofs.Builtin.Parameter
import RecordRules.Proofs.Validation.Compilation
import RecordRules.Proofs.Specs
import RecordRules.Proofs.Builtin.Upload
