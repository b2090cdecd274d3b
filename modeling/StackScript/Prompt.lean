import StackScript.Interpreter

/-!
The prompt reads commands, a line each. A line is code unless it asks for help or ends the conversation.
-/

namespace StackScript

open Text

namespace Prompt

def intro : String :=
  "pfx interpreter :: Python backend\nType '?' or 'help' for more information."

def mark : String := "> "

def helpText : String :=
  "Welcome to the pfx interpreter!\n\n" ++
    "Statements are evaluated right to left, so operators can trail their operands: \n" ++
    "'x = 3 4 +' stores 7 in 'x', and 'print x' prints it. Strings, integers, and \n" ++
    "true/false are supported, along with + == != > < >= <= && ||.\n\n" ++
    "Variables are kept until the interpreter exits. Type 'exit' or Ctrl-D to quit."

def endOfInput : String := "EOF"

end Prompt

inductive Command where
  | blank
  | help
  | leave (argument : String)
  /-- Leaves at the end of the input. -/
  | hangUp (argument : String)
  | code (text : String)
deriving DecidableEq, Repr

namespace Command

/-- Letters, digits and underscores, ASCII ones only, make up the first word of a command. -/
def isWordChar (c : Char) : Bool :=
  c.isAlphanum || c == '_'

def ofWord (line : List Char) : Command :=
  let argument := trim (String.ofList (line.dropWhile isWordChar))
  let word := String.ofList (line.takeWhile isWordChar)
  if word = "help" then help
  else if word = "exit" then leave argument
  else if word = Prompt.endOfInput then hangUp argument
  else code (String.ofList line)

/-- The command on a line. A question mark asks for help, and what follows an exclamation mark is code together with it. -/
def ofLine (line : String) : Command :=
  match trimChars line.toList with
  | [] => blank
  | '?' :: _ => help
  | '!' :: rest => code (String.ofList ('!' :: rest))
  | line => ofWord line

end Command

/-- How a command was taken: as one that is done, as nothing, as the end of the conversation, or as an end that is refused. -/
inductive Verdict where
  | done
  | blank
  | ended
  | refused
deriving DecidableEq, Repr

structure Reply where
  interpreter : Interpreter
  verdict : Verdict
  out : String := ""
  err : String := ""
deriving DecidableEq, Repr

namespace Interpreter

/-- Ends the conversation, unless there is an argument, which is warned about. -/
def replyToLeave (interpreter : Interpreter) (argument : String) : Reply :=
  if argument = "" then { interpreter, verdict := .ended }
  else
    let warning : Diagnostic :=
      { message := [.words "unrecognized token: '", .expr argument, .words "'"]
        subject := argument }
    { interpreter, verdict := .refused, err := interpreter.reporter.warningText warning }

def replyTo (interpreter : Interpreter) : Command → Reply
  | .blank => { interpreter, verdict := .blank }
  | .help => { interpreter, verdict := .done, out := Prompt.helpText ++ "\n" }
  | .leave argument => interpreter.replyToLeave argument
  | .hangUp argument => { interpreter.replyToLeave argument with out := "\n" }
  | .code text =>
    let (next, response) := interpreter.feed text
    { interpreter := next, verdict := .done, out := response.out, err := response.err }

def reply (interpreter : Interpreter) (line : String) : Reply :=
  interpreter.replyTo (Command.ofLine line)

def converse (interpreter : Interpreter) : List String → List Reply
  | [] => [interpreter.reply Prompt.endOfInput]
  | line :: rest =>
    let reply := interpreter.reply line
    if reply.verdict = .ended then [reply] else reply :: reply.interpreter.converse rest

end Interpreter

end StackScript
