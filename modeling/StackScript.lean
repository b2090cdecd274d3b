import StackScript.Text.Blank
import StackScript.Text.Style
import StackScript.Text.Newline
import StackScript.Text.Utf8
import StackScript.Text.DecimalDigit
import StackScript.Text.Printable
import StackScript.Text.Quoted
import StackScript.Token
import StackScript.Scanner
import StackScript.Line
import StackScript.Message
import StackScript.ScriptError
import StackScript.Reporter
import StackScript.Numeral
import StackScript.Variables
import StackScript.Operator
import StackScript.Machine.Basic
import StackScript.Machine.Run
import StackScript.Interpreter
import StackScript.Prompt
import StackScript.CommandLine.Arguments
import StackScript.CommandLine.Usage
import StackScript.CommandLine.Run
import StackScript.Main
import StackScript.Proofs.Numeral
import StackScript.Proofs.Lexeme
import StackScript.Proofs.Reading
import StackScript.Proofs.Tokenization
import StackScript.Proofs.Cursor
import StackScript.Proofs.Evaluation
import StackScript.Proofs.Lines
import StackScript.Proofs.Values
import StackScript.Proofs.Frame
import StackScript.Proofs.Output
import StackScript.Proofs.Joining
import StackScript.Proofs.OperandForm
import StackScript.Proofs.Abort
import StackScript.Proofs.Leftovers
import StackScript.Proofs.Spelling
import StackScript.Proofs.Statements
import StackScript.Proofs.Numbering
import StackScript.Proofs.Names
import StackScript.Proofs.Turns
import StackScript.Proofs.Messages
import StackScript.Proofs.Completion
import StackScript.Proofs.Display
import StackScript.Proofs.Infix
import StackScript.Proofs.Brackets
import StackScript.Proofs.Faults
import StackScript.Proofs.Canonical
import StackScript.Proofs.Conversion
import StackScript.Proofs.SingleLine
import StackScript.Proofs.Sums
import StackScript.Proofs.Storage
import StackScript.Proofs.Wording
import StackScript.Proofs.Comparisons
import StackScript.Proofs.Separators
import StackScript.Proofs.Uses
import StackScript.Proofs.Boundaries
import StackScript.Proofs.Sources
import StackScript.Proofs.Substitution
