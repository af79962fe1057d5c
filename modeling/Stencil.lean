import Stencil.Batch
import Stencil.Command
import Stencil.CommandLine
import Stencil.Disk
import Stencil.Engine
import Stencil.Entries
import Stencil.Evaluate
import Stencil.Fault
import Stencil.Filter
import Stencil.Glob
import Stencil.Json
import Stencil.Log
import Stencil.Main
import Stencil.Message
import Stencil.Message.Layout
import Stencil.Node
import Stencil.Numeral.Floating
import Stencil.Numeral.Integer
import Stencil.Numeral.Shortest
import Stencil.Numeral.Spelling
import Stencil.Options
import Stencil.Param
import Stencil.Parse
import Stencil.Parse.Chain
import Stencil.Parse.Fault
import Stencil.Parse.State
import Stencil.Parse.Wrap
import Stencil.Path
import Stencil.Proofs.Alternation
import Stencil.Proofs.Batches
import Stencil.Proofs.Boundaries
import Stencil.Proofs.BuiltinChains
import Stencil.Proofs.Compilation
import Stencil.Proofs.Completion
import Stencil.Proofs.Concatenation
import Stencil.Proofs.Copies
import Stencil.Proofs.CorrectPrefix
import Stencil.Proofs.Cursor
import Stencil.Proofs.Descent
import Stencil.Proofs.Directories
import Stencil.Proofs.Encoding
import Stencil.Proofs.Escapes
import Stencil.Proofs.Evaluation
import Stencil.Proofs.Files
import Stencil.Proofs.Fragments
import Stencil.Proofs.Grammar
import Stencil.Proofs.GrammarExact
import Stencil.Proofs.Indices
import Stencil.Proofs.Invocations
import Stencil.Proofs.Locality
import Stencil.Proofs.Lockstep
import Stencil.Proofs.Mentions
import Stencil.Proofs.Modes
import Stencil.Proofs.NormalForm
import Stencil.Proofs.Numerals
import Stencil.Proofs.Outputs
import Stencil.Proofs.Parameters
import Stencil.Proofs.Places
import Stencil.Proofs.PlainData
import Stencil.Proofs.PrivateAttributes
import Stencil.Proofs.PublicEquality
import Stencil.Proofs.Reaching
import Stencil.Proofs.Reading
import Stencil.Proofs.Reconfiguration
import Stencil.Proofs.Refusals
import Stencil.Proofs.Relations
import Stencil.Proofs.Renaming
import Stencil.Proofs.Selection
import Stencil.Proofs.Sources
import Stencil.Proofs.Tokenize
import Stencil.Proofs.Transitions
import Stencil.Proofs.Unresolved
import Stencil.Proofs.WholeClusters
import Stencil.Proofs.Wrapping
import Stencil.Settings
import Stencil.Symbols
import Stencil.TemplateError
import Stencil.Text.Blank
import Stencil.Text.Case
import Stencil.Text.CaseMap
import Stencil.Text.Cluster
import Stencil.Text.DecimalDigit
import Stencil.Text.GraphemeBreak
import Stencil.Text.Letter
import Stencil.Text.Printable
import Stencil.Text.Quoted
import Stencil.Text.Ranges
import Stencil.Text.Utf8
import Stencil.Token
import Stencil.Validation
import Stencil.Value
import Stencil.Value.Attribute
