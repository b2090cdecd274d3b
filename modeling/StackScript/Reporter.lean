import StackScript.ScriptError

/-!
The reporter words what went wrong, one line of text each, and decides whether the program ends because of it.
-/

namespace StackScript

open Text

structure Diagnostic where
  message : Message
  /-- The offending expression, empty if there is none. -/
  subject : String := ""
  line : Option Int := none
  /-- The fault lies with the interpreter and not with the script. -/
  internal : Bool := false
deriving DecidableEq, Repr

namespace Diagnostic

/-- A diagnostic with the words of a template; its subject is the first expression, used or not. -/
def ofTemplate (template : String) (exprs : List String) (line : Option Int) (internal : Bool) :
    Except TemplateError Diagnostic := do
  return { message := ← Template.fill template exprs, subject := exprs.headD "", line, internal }

end Diagnostic

def ScriptError.diagnostic (error : ScriptError) (line : Option Int) : Diagnostic :=
  { message := error.message, subject := error.subject, line }

def Fault.diagnostic (fault : Fault) : Diagnostic :=
  fault.error.diagnostic fault.line

inductive ExitCode where
  | unset
  | status (code : Int)
  | text (message : String)
deriving DecidableEq, Repr

/-- The status that a program ends with; a text in place of a code counts as failure. -/
def ExitCode.toStatus : ExitCode → Int
  | unset => 0
  | status code => code
  | text _ => 1

inductive Interruption where
  | keyboard
  | exit (code : ExitCode)
  | failure (diagnostic : Diagnostic)
  | unexpected (kind message : String)
deriving DecidableEq, Repr

/-- Work that words a message with a template that cannot be filled fails unexpectedly. -/
def TemplateError.interruption (error : TemplateError) : Interruption :=
  .unexpected error.kind error.message

inductive Settled where
  | finished
  | suppressed
  | exit (code : ExitCode)
deriving DecidableEq, Repr

def Settled.toStatus : Settled → Int
  | finished | suppressed => 0
  | exit code => code.toStatus

/-- The path that stands for what is typed in. -/
def Reporter.inputPath : String := "<in>"

structure Reporter where
  path : String := Reporter.inputPath
  fatal : Bool := true
  style : Style := .plain
deriving DecidableEq, Repr

namespace Reporter

def place (reporter : Reporter) (line : Option Int) : String :=
  match line with
  | none => reporter.style.bold (reporter.path ++ ": ")
  | some number => reporter.style.bold (reporter.path ++ ":" ++ toString number ++ ": ")

def warningText (reporter : Reporter) (diagnostic : Diagnostic) : String :=
  reporter.place diagnostic.line ++ reporter.style.boldColour .magenta "warning: " ++
    diagnostic.message.render reporter.style ++ "\n"

def errorText (reporter : Reporter) (diagnostic : Diagnostic) : String :=
  reporter.place diagnostic.line ++
    (if diagnostic.internal then reporter.style.boldColour .red "[internal] " else "") ++
    reporter.style.boldColour .red "error: " ++ diagnostic.message.render reporter.style ++ "\n"

/-- Reports an error; a fatal reporter then ends the program with status 1. -/
def raise (reporter : Reporter) (diagnostic : Diagnostic) : String × Option ExitCode :=
  (reporter.errorText diagnostic, if reporter.fatal then some (.status 1) else none)

def keyboardInterrupt : Diagnostic :=
  { message := [.words "keyboard interrupt"] }

def unknownError (kind message : String) : Diagnostic :=
  { message := [.words "unknown error: '", .expr kind, .words ": ", .expr message, .words "'"]
    subject := kind
    internal := true }

def settleError (reporter : Reporter) (diagnostic : Diagnostic) : String × Settled :=
  match reporter.raise diagnostic with
  | (text, none) => (text, .suppressed)
  | (text, some code) => (text, .exit code)

/-- Settles how a piece of work ended: what is written about it, and whether the program goes on. -/
def settle (reporter : Reporter) (ending : Option Interruption) : String × Settled :=
  match ending with
  | none => ("", .finished)
  | some (.exit code) => ("", .exit code)
  | some .keyboard => reporter.settleError keyboardInterrupt
  | some (.failure diagnostic) => reporter.settleError diagnostic
  | some (.unexpected kind message) => reporter.settleError (unknownError kind message)

end Reporter

end StackScript
