import Calculator.Binary64.Arithmetic
import Calculator.Binary64.Basic
import Calculator.Binary64.Display
import Calculator.Binary64.Rounding
import Calculator.Binary64.Shortest
import Calculator.Command.Arguments
import Calculator.Command.Listing
import Calculator.Command.Run
import Calculator.Expr.Basic
import Calculator.Expr.Document
import Calculator.Expr.Error
import Calculator.Expr.Evaluation
import Calculator.Expr.Grammar
import Calculator.Expr.Parser
import Calculator.Expr.Printer
import Calculator.Interpretation
import Calculator.Json.Basic
import Calculator.Json.Integer
import Calculator.Json.Numeral
import Calculator.Json.Reader
import Calculator.Json.Writer
import Calculator.Log
import Calculator.Main
import Calculator.Markup.Colour
import Calculator.Markup.Emoji
import Calculator.Markup.EmojiNames
import Calculator.Markup.Literal
import Calculator.Markup.Reader
import Calculator.Markup.Style
import Calculator.Markup.Styled
import Calculator.Markup.Tag
import Calculator.Numeral
import Calculator.Proofs.Binary64.Display
import Calculator.Proofs.Binary64.Faults
import Calculator.Proofs.Binary64.Integer
import Calculator.Proofs.Binary64.Order
import Calculator.Proofs.Binary64.Power
import Calculator.Proofs.Binary64.Quotient
import Calculator.Proofs.Binary64.Rounding
import Calculator.Proofs.Binary64.Value
import Calculator.Proofs.Command.Agreement
import Calculator.Proofs.Command.Arguments
import Calculator.Proofs.Command.Listing
import Calculator.Proofs.Command.Loop
import Calculator.Proofs.Command.Run
import Calculator.Proofs.Command.Safety
import Calculator.Proofs.Command.Tracing
import Calculator.Proofs.Command.Wording
import Calculator.Proofs.Expr.Acceptance
import Calculator.Proofs.Expr.Composition
import Calculator.Proofs.Expr.Course
import Calculator.Proofs.Expr.Decoding
import Calculator.Proofs.Expr.DeepBeginning
import Calculator.Proofs.Expr.Depth
import Calculator.Proofs.Expr.Document
import Calculator.Proofs.Expr.Eating
import Calculator.Proofs.Expr.Faultless
import Calculator.Proofs.Expr.Grammar
import Calculator.Proofs.Expr.History
import Calculator.Proofs.Expr.Literal
import Calculator.Proofs.Expr.Lockstep
import Calculator.Proofs.Expr.Lookahead
import Calculator.Proofs.Expr.Nesting
import Calculator.Proofs.Expr.Progress
import Calculator.Proofs.Expr.Reductions
import Calculator.Proofs.Expr.Refusal
import Calculator.Proofs.Expr.Replay
import Calculator.Proofs.Expr.Rereading
import Calculator.Proofs.Expr.Respelling
import Calculator.Proofs.Expr.Restart
import Calculator.Proofs.Expr.Retyping
import Calculator.Proofs.Expr.RoundTrip
import Calculator.Proofs.Expr.Spelling
import Calculator.Proofs.Expr.Strictness
import Calculator.Proofs.Expr.Viability
import Calculator.Proofs.Expr.Walk
import Calculator.Proofs.Json.Container
import Calculator.Proofs.Json.RoundTrip
import Calculator.Proofs.Json.Scalar
import Calculator.Proofs.Json.String
import Calculator.Proofs.Markup.Unstyled
import Calculator.Proofs.Numeral
import Calculator.Proofs.Numeral.Chunks
import Calculator.Proofs.Service.Agreement
import Calculator.Proofs.Service.Request
import Calculator.Proofs.Table.Cell
import Calculator.Proofs.Table.Drawing
import Calculator.Proofs.Text.Lines
import Calculator.Proofs.Text.Plain
import Calculator.Proofs.Text.Width
import Calculator.Proofs.Token.Calls
import Calculator.Proofs.Token.Concatenation
import Calculator.Proofs.Token.Continuation
import Calculator.Proofs.Token.Position
import Calculator.Proofs.Token.Rendering
import Calculator.Proofs.Token.Step
import Calculator.Proofs.Token.Stream
import Calculator.Service.Address
import Calculator.Service.Body
import Calculator.Service.Host
import Calculator.Service.Response
import Calculator.Settings
import Calculator.Switch
import Calculator.Table
import Calculator.Table.Cell
import Calculator.Text.Blank
import Calculator.Text.Charset
import Calculator.Text.Digit
import Calculator.Text.Encoding
import Calculator.Text.Letter
import Calculator.Text.Lowercase
import Calculator.Text.Printable
import Calculator.Text.Quoted
import Calculator.Text.Range
import Calculator.Text.Surrogate
import Calculator.Text.Width
import Calculator.Token.Basic
import Calculator.Token.Cursor
import Calculator.Token.Rendering
