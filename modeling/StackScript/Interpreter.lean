import StackScript.Machine.Run
import StackScript.Reporter
import StackScript.Text.Newline
import StackScript.Text.Utf8

/-!
The interpreter is fed texts one after the other. It numbers their lines as if they were one text, keeps its variables from one to the next, and answers each with what was printed and what went wrong.
-/

namespace StackScript

open Text

structure Interpreter where
  reporter : Reporter := {}
  /-- Show each text and its tokens before they are evaluated. -/
  debug : Bool := false
  machine : Machine := {}
  lineCount : Nat := 0
  /-- The text of the file that was opened, if one was. -/
  source : Option String := none
deriving DecidableEq, Repr

structure Response where
  fault : Option Fault := none
  out : String := ""
  err : String := ""
deriving DecidableEq, Repr

inductive OpenError where
  | unreadable (path : String)
  | reserved
  | nulInPath
  | undecodable (fault : Utf8.Fault)
deriving DecidableEq, Repr

namespace OpenError

def interruption : OpenError → Interruption
  | unreadable path =>
    .failure
      { message := [.words "'", .expr path, .words "' could not be opened"], subject := path }
  | reserved =>
    .failure { message := [.words ("'" ++ Reporter.inputPath ++ "' is a reserved filename")] }
  | nulInPath => .unexpected "ValueError" "embedded null byte"
  | undecodable fault => .unexpected "UnicodeDecodeError" fault.message

end OpenError

namespace Interpreter

def decodeSource (octets : List UInt8) : Except OpenError String :=
  match Utf8.decode octets with
  | .ok text => .ok (withNewlines text)
  | .error fault => .error (.undecodable fault)

/-- The text of the file at a path; `files` gives the octets of the files that can be read. -/
def readSource (files : String → Option (List UInt8)) (path : String) : Except OpenError String :=
  if path.toList.contains '\x00' then .error .nulInPath
  else
    match files path with
    | none => .error (.unreadable path)
    | some octets => decodeSource octets

/-- An interpreter for a path. An interactive one outlives errors, and only it may have the path of the input, which is no file. -/
def openPath (files : String → Option (List UInt8)) (reporter : Reporter) (path : String)
    (interactive debug : Bool) : Except OpenError Interpreter :=
  let reporter := { reporter with path, fatal := reporter.fatal && !interactive }
  if path = Reporter.inputPath then
    if interactive then .ok { reporter, debug } else .error .reserved
  else do
    let text ← readSource files path
    return { reporter, debug, source := some text }

def atPrompt (reporter : Reporter) (debug : Bool) : Interpreter :=
  { reporter := { reporter with path := Reporter.inputPath, fatal := false }, debug }

/-- Evaluates lines, shows what was printed, and reports the error that ended the run. -/
def execute (interpreter : Interpreter) (program : List Line) : Interpreter × Response :=
  let ending := interpreter.machine.run program
  let listing := if interpreter.debug then Line.listings program else ""
  let report :=
    match ending.error with
    | none => ""
    | some fault => interpreter.reporter.errorText fault.diagnostic
  ({ interpreter with machine := { ending.machine with printed := [] } },
    { fault := ending.error
      out := ending.machine.output interpreter.reporter.style
      err := listing ++ report })

/-- Evaluates a text whose lines follow those fed before. -/
def feed (interpreter : Interpreter) (text : String) : Interpreter × Response :=
  let program := Line.ofText (interpreter.lineCount + 1) text
  let counted :=
    { interpreter with lineCount := interpreter.lineCount + text.toList.count '\n' + 1 }
  let (next, response) := counted.execute program
  let echo := if interpreter.debug then Line.echo text else ""
  (next, { response with err := echo ++ response.err })

def runSource (interpreter : Interpreter) : Option (Interpreter × Response) :=
  interpreter.source.map interpreter.feed

/-- The code that a text leaves the program with: a fatal reporter ends it after an error. -/
def exitCode? (interpreter : Interpreter) (response : Response) : Option ExitCode :=
  if response.fault.isSome && interpreter.reporter.fatal then some (.status 1) else none

end Interpreter

end StackScript
