import Scriptlet.Main
import Scriptlet.Session
import Scriptlet.Proofs.Number.Numeral
import Scriptlet.Proofs.Number.Text
import Scriptlet.Proofs.Number.Remainder
import Scriptlet.Proofs.Grammar.Productions
import Scriptlet.Proofs.Grammar.Progress
import Scriptlet.Proofs.Grammar.Fixpoint
import Scriptlet.Proofs.Grammar.Semicolons
import Scriptlet.Proofs.Grammar.Spans
import Scriptlet.Proofs.Grammar.Everywhere
import Scriptlet.Proofs.Lexing.Accepted
import Scriptlet.Proofs.Lexing.Cover
import Scriptlet.Proofs.Lexing.Spaced
import Scriptlet.Proofs.Lexing.Composition
import Scriptlet.Proofs.Printing.Source
import Scriptlet.Proofs.Printing.Opening
import Scriptlet.Proofs.Printing.Operand
import Scriptlet.Proofs.Printing.Arguments
import Scriptlet.Proofs.Printing.RoundTrip
import Scriptlet.Proofs.Printing.CallText
import Scriptlet.Proofs.Evaluation.Effect
import Scriptlet.Proofs.Evaluation.Environments
import Scriptlet.Proofs.Evaluation.Moment
import Scriptlet.Proofs.Evaluation.Coverage
import Scriptlet.Proofs.Evaluation.Reachable
import Scriptlet.Proofs.Evaluation.Code
import Scriptlet.Proofs.Evaluation.Depth
import Scriptlet.Proofs.Evaluation.Frames
import Scriptlet.Proofs.Evaluation.StaticTypes
import Scriptlet.Proofs.Evaluation.Equality
import Scriptlet.Proofs.Evaluation.Mirror
import Scriptlet.Proofs.Evaluation.Termination
import Scriptlet.Proofs.Evaluation.Limit
import Scriptlet.Proofs.Evaluation.Callers
import Scriptlet.Proofs.Evaluation.Jumps
import Scriptlet.Proofs.Evaluation.Likeness
import Scriptlet.Proofs.Evaluation.Pairing
import Scriptlet.Proofs.Evaluation.Lockstep
import Scriptlet.Proofs.Evaluation.Escape
import Scriptlet.Proofs.Evaluation.Layout
import Scriptlet.Proofs.Evaluation.Void
import Scriptlet.Proofs.Evaluation.Returns
import Scriptlet.Proofs.Evaluation.Batch
import Scriptlet.Proofs.Evaluation.WrittenCall
import Scriptlet.Proofs.Evaluation.Growth
import Scriptlet.Proofs.Evaluation.Scoping
import Scriptlet.Proofs.Evaluation.Hosting
import Scriptlet.Proofs.Evaluation.Parts
import Scriptlet.Proofs.Evaluation.Chronicle
import Scriptlet.Proofs.Evaluation.Transcript
import Scriptlet.Proofs.Evaluation.Handler
import Scriptlet.Proofs.Number.Saturation
import Scriptlet.Proofs.Grammar.Nesting
import Scriptlet.Proofs.Lexing.Quoting
import Scriptlet.Proofs.Grammar.Located
import Scriptlet.Proofs.Grammar.Descent
import Scriptlet.Proofs.Grammar.Fork
import Scriptlet.Proofs.Grammar.Parting
import Scriptlet.Proofs.Grammar.Expected
import Scriptlet.Proofs.Lexing.RuleOrder
import Scriptlet.Proofs.Evaluation.Ordering
import Scriptlet.Proofs.Number.Rounding
import Scriptlet.Proofs.Number.Integers
import Scriptlet.Proofs.Evaluation.TypedCalls
import Scriptlet.Proofs.Grammar.Nodes
import Scriptlet.Proofs.Evaluation.Pointing
import Scriptlet.Proofs.Evaluation.Provenance
import Scriptlet.Proofs.Number.CorrectRounding
import Scriptlet.Proofs.Number.PlainText
import Scriptlet.Proofs.Number.Spelling
import Scriptlet.Proofs.Number.Shortest
import Scriptlet.Proofs.Evaluation.NumberText
import Scriptlet.Proofs.Lexing.Positions
import Scriptlet.Proofs.Evaluation.DeMorgan
import Scriptlet.Proofs.Lexing.Numerals
import Scriptlet.Proofs.Grammar.Faults
import Scriptlet.Proofs.Evaluation.NumberTokens
import Scriptlet.Proofs.Grammar.Cursor
import Scriptlet.Proofs.Grammar.Tracking
import Scriptlet.Proofs.Grammar.Forward
