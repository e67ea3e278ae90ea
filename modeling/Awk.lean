import Awk.Arena
import Awk.ArrayParam
import Awk.Builtin
import Awk.CommandLine
import Awk.Error
import Awk.Evaluation
import Awk.Evaluation.Builtin
import Awk.Evaluation.Call
import Awk.Evaluation.Expression
import Awk.Evaluation.Statement
import Awk.Evaluation.Target
import Awk.Format
import Awk.Format.Directive
import Awk.Format.Layout
import Awk.Grammar
import Awk.Grammar.Cursor
import Awk.Grammar.Expression
import Awk.Grammar.Statement
import Awk.Host
import Awk.Host.Simulated
import Awk.Host.Slots
import Awk.Input
import Awk.Location
import Awk.Machine
import Awk.Main
import Awk.Number.Decimal
import Awk.Number.Double
import Awk.Number.Numeral
import Awk.Number.Shortest
import Awk.Program
import Awk.Proofs.Access
import Awk.Proofs.ArrayNumbers
import Awk.Proofs.Computation
import Awk.Proofs.Decoding
import Awk.Proofs.Jumps
import Awk.Proofs.Permits
import Awk.Proofs.Reading
import Awk.Proofs.Respects
import Awk.Proofs.Scoping
import Awk.Proofs.Signals
import Awk.Proofs.Spans
import Awk.Proofs.Watch
import Awk.Random
import Awk.Reader
import Awk.Record
import Awk.Regex
import Awk.Regex.Atom
import Awk.Regex.Automaton
import Awk.Regex.Braces
import Awk.Regex.Bracket
import Awk.Regex.Class
import Awk.Regex.Flags
import Awk.Regex.Footprint
import Awk.Regex.Look
import Awk.Regex.Node
import Awk.Regex.Pattern
import Awk.Regex.Program
import Awk.Regex.Property
import Awk.Regex.Search
import Awk.Run
import Awk.Scanner
import Awk.Scope
import Awk.Session
import Awk.Special
import Awk.Substitution
import Awk.Text.Age
import Awk.Text.Break
import Awk.Text.ByteRange
import Awk.Text.Case
import Awk.Text.CaseRuns
import Awk.Text.Category
import Awk.Text.CategoryRuns
import Awk.Text.CharSet
import Awk.Text.Class
import Awk.Text.Derived
import Awk.Text.Escape
import Awk.Text.Property
import Awk.Text.Quoted
import Awk.Text.Script
import Awk.Text.ScriptRanges
import Awk.Text.ScriptSharing
import Awk.Text.Split
import Awk.Text.Substring
import Awk.Text.Utf8
import Awk.Token
import Awk.Value
import Awk.Value.Basic
import Awk.World
import Awk.Proofs.CallDepth
import Awk.Proofs.Operands
import Awk.Proofs.Encoding
import Awk.Proofs.LongerText
import Awk.Proofs.WholeReading
import Awk.Proofs.ArrayMarks
import Awk.Proofs.SoundRuns
import Awk.Proofs.ArrayUse
import Awk.Proofs.References
import Awk.Proofs.Spelling
import Awk.Proofs.Precedence
import Awk.Proofs.Subterms
import Awk.Proofs.WholeRuns
import Awk.Proofs.WellFormed
import Awk.Proofs.Driver
import Awk.Proofs.DeadBranches
import Awk.Proofs.RecordCounts
import Awk.Proofs.Report
import Awk.Proofs.Cancellation
import Awk.Proofs.Policies
import Awk.Proofs.PatternSize
import Awk.Proofs.Separators
import Awk.Proofs.CounterLimits
import Awk.Proofs.Arguments
import Awk.Proofs.Silence
import Awk.Proofs.SplitRecords
import Awk.Proofs.Forwarding
import Awk.Proofs.Paragraphs
import Awk.Proofs.Ranges
import Awk.Proofs.Descent
import Awk.Proofs.StatementDescent
import Awk.Proofs.ProgramDescent
import Awk.Proofs.CursorMoves
import Awk.Proofs.ParsingEnds
import Awk.Proofs.Redirection
import Awk.Proofs.Splitting
import Awk.Proofs.LiteralSearch
import Awk.Proofs.FieldRoundTrip
import Awk.Proofs.ByteOrder
import Awk.Proofs.Comparison
import Awk.Proofs.Numerals
import Awk.Proofs.NumericTexts
import Awk.Proofs.WholeDoubles
import Awk.Proofs.PresetValues
import Awk.Proofs.Sorting
import Awk.Proofs.Replacement
import Awk.Proofs.Literals
import Awk.Proofs.FormatItems
import Awk.Proofs.DoubleValues
import Awk.Proofs.IntegerLayout
import Awk.Proofs.ExactSums
import Awk.Proofs.WholeSums
import Awk.Proofs.Positions
import Awk.Proofs.RegexLiterals
import Awk.Proofs.TokenPlaces
import Awk.Proofs.Stops
import Awk.Proofs.ErrorPlaces
import Awk.Proofs.Getline
import Awk.Proofs.StandardInput
import Awk.Proofs.StrayBraces
import Awk.Proofs.TokenNeighbours
import Awk.Proofs.HelperSlots
