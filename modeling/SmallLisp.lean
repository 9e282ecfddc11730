import SmallLisp.Text.CodePoints
import SmallLisp.Text.Blank
import SmallLisp.Text.Decimal
import SmallLisp.Text.Letter
import SmallLisp.Text.Lines
import SmallLisp.Text.Printable
import SmallLisp.Text.Quoted
import SmallLisp.Text.Uppercase
import SmallLisp.Text.Utf8
import SmallLisp.Scope.Path
import SmallLisp.Scope.Store
import SmallLisp.Value.Basic
import SmallLisp.Value.Distinct
import SmallLisp.Value.Frozen
import SmallLisp.Value.Inspect
import SmallLisp.Value.List
import SmallLisp.Value.Render
import SmallLisp.Fault
import SmallLisp.Token.Basic
import SmallLisp.Token.Lexer
import SmallLisp.Reader.Literal
import SmallLisp.Reader.Expr
import SmallLisp.Reader.Stream
import SmallLisp.Eval.World
import SmallLisp.Eval.Builtin
import SmallLisp.Eval.Callable
import SmallLisp.Eval.Evaluate
import SmallLisp.Session
import SmallLisp.Settings
import SmallLisp.CommandLine.Options
import SmallLisp.CommandLine.Run
import SmallLisp.Main
import SmallLisp.Proofs.Value.List
import SmallLisp.Proofs.Reader.Literal
import SmallLisp.Proofs.Reader.Scan
import SmallLisp.Proofs.Reader.Reads
import SmallLisp.Proofs.Reader.RoundTrip
import SmallLisp.Proofs.Scope.Sound
import SmallLisp.Proofs.Eval.Shape
import SmallLisp.Proofs.Eval.Outcome
import SmallLisp.Proofs.Eval.Builtin
import SmallLisp.Proofs.Eval.Frame
import SmallLisp.Proofs.Eval.Trace
import SmallLisp.Proofs.Eval.Sound
import SmallLisp.Proofs.Session.History
import SmallLisp.Proofs.Session.Invariants
import SmallLisp.Proofs.Reader.Pieces
import SmallLisp.Proofs.Eval.Together
import SmallLisp.Proofs.Session.Pieces
import SmallLisp.Proofs.Eval.Faults
import SmallLisp.Proofs.Eval.Rules
import SmallLisp.Proofs.Reader.Grammar
import SmallLisp.Proofs.Reader.Layout
import SmallLisp.Proofs.Reader.Refusals
import SmallLisp.Proofs.Reader.Canonical
import SmallLisp.Proofs.Scope.Rename
import SmallLisp.Proofs.Eval.Rename
import SmallLisp.Proofs.Eval.Uniform
import SmallLisp.Proofs.Reader.Room
import SmallLisp.Proofs.Eval.Depth
import SmallLisp.Proofs.Eval.Shadowing
import SmallLisp.Proofs.Scope.Compose
import SmallLisp.Proofs.Session.Transcript
import SmallLisp.Proofs.Session.Definitions
import SmallLisp.Proofs.Text.Encoding
import SmallLisp.Proofs.Text.Decoding
import SmallLisp.Proofs.Text.Spelling
import SmallLisp.Proofs.CommandLine.Items
import SmallLisp.Proofs.CommandLine.Sources
import SmallLisp.Proofs.CommandLine.Contract
import SmallLisp.Proofs.Eval.Capture
import SmallLisp.Proofs.Eval.Arguments
import SmallLisp.Proofs.Eval.Arithmetic
import SmallLisp.Proofs.Value.Identity
import SmallLisp.Proofs.Eval.NoValue
import SmallLisp.Proofs.Reader.Progress
import SmallLisp.Proofs.Eval.Verdict
import SmallLisp.Proofs.Session.Factorial
import SmallLisp.Proofs.CommandLine.Flags
import SmallLisp.Proofs.Eval.Binding
import SmallLisp.Proofs.Scope.Lookup
import SmallLisp.Proofs.Value.Walks
