import StackScript.Message

/-!
What can go wrong while a line is evaluated, and how it is worded.
-/

namespace StackScript

inductive ScriptError where
  | unknownIdentifier (name : String)
  | missingOperand (operator side : String)
  | typeMismatch (operator expected got : String)
  | unknownOperator (operator : String)
deriving DecidableEq, Repr

namespace ScriptError

def message : ScriptError → Message
  | unknownIdentifier name => [.words "unknown identifier '", .expr name, .words "'"]
  | missingOperand operator side =>
    [.words "'", .expr operator, .words "' needs a ", .expr side, .words " operand"]
  | typeMismatch operator expected got =>
    [.words "'", .expr operator, .words "' expected ", .expr expected, .words ", got '", .expr got,
      .words "'"]
  | unknownOperator operator => [.words "unknown operator '", .expr operator, .words "'"]

def subject : ScriptError → String
  | unknownIdentifier name => name
  | missingOperand operator _ => operator
  | typeMismatch operator _ _ => operator
  | unknownOperator operator => operator

end ScriptError

/-- An error and the number of the line it occurred on. -/
structure Fault where
  error : ScriptError
  line : Int
deriving DecidableEq, Repr

end StackScript
