import EnvelopeRules.Check
import EnvelopeRules.Condition
import EnvelopeRules.Document.Entry
import EnvelopeRules.Document.Error
import EnvelopeRules.Document.Load
import EnvelopeRules.Document.Raw
import EnvelopeRules.Engine
import EnvelopeRules.Envelope.Basic
import EnvelopeRules.Envelope.Field
import EnvelopeRules.Envelope.OfTable
import EnvelopeRules.EvalError
import EnvelopeRules.Log.Directive
import EnvelopeRules.Log.Event
import EnvelopeRules.Log.Filter
import EnvelopeRules.Log.Trace
import EnvelopeRules.Lookup
import EnvelopeRules.Main
import EnvelopeRules.Net.Address
import EnvelopeRules.Number.Binary64
import EnvelopeRules.Proofs.Check.Events
import EnvelopeRules.Proofs.Check.Verdict
import EnvelopeRules.Proofs.Document.Fitting
import EnvelopeRules.Proofs.Document.Loaded
import EnvelopeRules.Proofs.Document.Refusal
import EnvelopeRules.Proofs.Document.Skipping
import EnvelopeRules.Proofs.Document.Uncached
import EnvelopeRules.Proofs.Document.Verifying
import EnvelopeRules.Proofs.Engine.CaptureRange
import EnvelopeRules.Proofs.Engine.Extension
import EnvelopeRules.Proofs.Engine.Failures
import EnvelopeRules.Proofs.Engine.History
import EnvelopeRules.Proofs.Engine.Negative
import EnvelopeRules.Proofs.Engine.Rulebook
import EnvelopeRules.Proofs.Engine.SingleCall
import EnvelopeRules.Proofs.Engine.TimeLimit
import EnvelopeRules.Proofs.Envelope.Accepting
import EnvelopeRules.Proofs.Envelope.Parties
import EnvelopeRules.Proofs.Envelope.Reading
import EnvelopeRules.Proofs.Net.Spelling
import EnvelopeRules.Proofs.Regex.Groups
import EnvelopeRules.Proofs.Result
import EnvelopeRules.Proofs.Rule.Asking
import EnvelopeRules.Proofs.Rule.Constants
import EnvelopeRules.Proofs.Rule.Deciding
import EnvelopeRules.Proofs.Rule.FirstMatch
import EnvelopeRules.Proofs.Rule.Naming
import EnvelopeRules.Proofs.Store.Answering
import EnvelopeRules.Proofs.Store.Entries
import EnvelopeRules.Proofs.Store.Expiry
import EnvelopeRules.Proofs.Store.FirstOccurrence
import EnvelopeRules.Proofs.Store.Members
import EnvelopeRules.Proofs.Store.Overlapping
import EnvelopeRules.Proofs.Store.Registering
import EnvelopeRules.Proofs.Store.Remembering
import EnvelopeRules.Proofs.Store.Retention
import EnvelopeRules.Proofs.Store.Staleness
import EnvelopeRules.Proofs.Store.Traceless
import EnvelopeRules.Proofs.Table
import EnvelopeRules.Proofs.Template.Concatenation
import EnvelopeRules.Proofs.Template.Cut
import EnvelopeRules.Proofs.Template.Grammar
import EnvelopeRules.Proofs.Template.Printing
import EnvelopeRules.Proofs.Template.Rendering
import EnvelopeRules.Proofs.Template.Substitution
import EnvelopeRules.Proofs.Text.Bytes
import EnvelopeRules.Proofs.Text.Numerals
import EnvelopeRules.Regex.Basic
import EnvelopeRules.Regex.ByteRank
import EnvelopeRules.Regex.Meaning
import EnvelopeRules.Regex.Opening
import EnvelopeRules.Regex.Pattern
import EnvelopeRules.Regex.Program
import EnvelopeRules.Regex.Reader
import EnvelopeRules.Regex.Search
import EnvelopeRules.Regex.Size
import EnvelopeRules.Regex.Spelling
import EnvelopeRules.Regex.Tree
import EnvelopeRules.Regex.Trie
import EnvelopeRules.Rule
import EnvelopeRules.Rule.Clauses
import EnvelopeRules.Settings.Basic
import EnvelopeRules.Settings.Layers
import EnvelopeRules.Settings.OfTable
import EnvelopeRules.Store.Basic
import EnvelopeRules.Store.Cache
import EnvelopeRules.Store.Error
import EnvelopeRules.Store.Memory
import EnvelopeRules.Store.Query
import EnvelopeRules.Store.Registry
import EnvelopeRules.Table
import EnvelopeRules.Template.Basic
import EnvelopeRules.Template.Segment
import EnvelopeRules.Text.CharData
import EnvelopeRules.Text.CharKind
import EnvelopeRules.Text.CharSet
import EnvelopeRules.Text.Decimal
import EnvelopeRules.Text.Lowercase
import EnvelopeRules.Text.Quoted
import EnvelopeRules.Toml.Document
import EnvelopeRules.Toml.Printer
import EnvelopeRules.Toml.Scalar
import EnvelopeRules.Toml.Value
import EnvelopeRules.Unicode.Age
import EnvelopeRules.Unicode.Category
import EnvelopeRules.Unicode.Classes
import EnvelopeRules.Unicode.Folding
import EnvelopeRules.Unicode.Property
import EnvelopeRules.Unicode.Script
import EnvelopeRules.Unicode.Segmentation
