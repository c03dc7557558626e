import PatternLexer.Builtin
import PatternLexer.CharClass
import PatternLexer.CommandLine.Command
import PatternLexer.CommandLine.Listing
import PatternLexer.CommandLine.Options
import PatternLexer.Cursor
import PatternLexer.Env
import PatternLexer.Main
import PatternLexer.Pattern.Basic
import PatternLexer.Pattern.Error
import PatternLexer.Pattern.Match
import PatternLexer.Place
import PatternLexer.Proofs.CommandLine.Descriptions
import PatternLexer.Proofs.CommandLine.Listings
import PatternLexer.Proofs.CommandLine.Preparation
import PatternLexer.Proofs.CommandLine.Reports
import PatternLexer.Proofs.Cursor.Advance
import PatternLexer.Proofs.Cursor.Brackets
import PatternLexer.Proofs.Cursor.Bytes
import PatternLexer.Proofs.Cursor.Lookahead
import PatternLexer.Proofs.Cursor.Operations
import PatternLexer.Proofs.Env.Comments
import PatternLexer.Proofs.Env.Items
import PatternLexer.Proofs.Env.Joining
import PatternLexer.Proofs.Env.LineEnds
import PatternLexer.Proofs.Env.Names
import PatternLexer.Proofs.Env.Parse
import PatternLexer.Proofs.Env.RoundTrip
import PatternLexer.Proofs.Env.Scan
import PatternLexer.Proofs.Env.Trailing
import PatternLexer.Proofs.Pattern.Atomicity
import PatternLexer.Proofs.Pattern.Concatenation
import PatternLexer.Proofs.Pattern.Consumption
import PatternLexer.Proofs.Pattern.Descent
import PatternLexer.Proofs.Pattern.DocumentOrder
import PatternLexer.Proofs.Pattern.Everywhere
import PatternLexer.Proofs.Pattern.Lookup
import PatternLexer.Proofs.Pattern.Nesting
import PatternLexer.Proofs.Pattern.Paths
import PatternLexer.Proofs.Pattern.Peeked
import PatternLexer.Proofs.Pattern.Promises
import PatternLexer.Proofs.Pattern.Reading
import PatternLexer.Proofs.Pattern.References
import PatternLexer.Proofs.Pattern.Remainder
import PatternLexer.Proofs.Pattern.Segment
import PatternLexer.Proofs.Pattern.Separation
import PatternLexer.Proofs.Pattern.Spans
import PatternLexer.Proofs.Pattern.Trials
import PatternLexer.Proofs.Registry.Acceptance
import PatternLexer.Proofs.Registry.Acyclicity
import PatternLexer.Proofs.Registry.Canonical
import PatternLexer.Proofs.Registry.Coherence
import PatternLexer.Proofs.Registry.Compilation
import PatternLexer.Proofs.Registry.History
import PatternLexer.Proofs.Registry.Inlining
import PatternLexer.Proofs.Registry.Iterations
import PatternLexer.Proofs.Registry.Permutation
import PatternLexer.Proofs.Registry.Rejection
import PatternLexer.Proofs.Registry.Snapshots
import PatternLexer.Proofs.Registry.Stability
import PatternLexer.Proofs.Text.Delimiting
import PatternLexer.Proofs.Tokenizer.Choice
import PatternLexer.Proofs.Tokenizer.Coverage
import PatternLexer.Proofs.Tokenizer.Emission
import PatternLexer.Proofs.Tokenizer.Failures
import PatternLexer.Proofs.Tokenizer.Locality
import PatternLexer.Proofs.Tokenizer.Policies
import PatternLexer.Proofs.Tokenizer.Priority
import PatternLexer.Proofs.Tokenizer.Registrations
import PatternLexer.Proofs.Tokenizer.Steps
import PatternLexer.Proofs.Tokenizer.Tiling
import PatternLexer.Proofs.Tokenizer.Trials
import PatternLexer.Proofs.Tokenizer.Visits
import PatternLexer.Proofs.Tokenizer.WholeInput
import PatternLexer.Registry.Basic
import PatternLexer.Registry.Compile
import PatternLexer.Registry.Define
import PatternLexer.Registry.Error
import PatternLexer.Text.Blank
import PatternLexer.Text.Lines
import PatternLexer.Text.Order
import PatternLexer.Text.Printable
import PatternLexer.Text.Quoted
import PatternLexer.Text.Run
import PatternLexer.Text.Size
import PatternLexer.Token
import PatternLexer.Tokenizer.Basic
import PatternLexer.Tokenizer.Error
import PatternLexer.Tokenizer.Outcome
import PatternLexer.Tokenizer.Reaction
import PatternLexer.Tokenizer.Run
import PatternLexer.Tokenizer.Visit
