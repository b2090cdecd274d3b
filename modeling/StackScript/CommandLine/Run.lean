import StackScript.CommandLine.Usage
import StackScript.Prompt

/-!
A whole run of the program: its arguments, the files it can read and what is typed in decide what it writes and the status it ends with.
-/

namespace StackScript.CommandLine

open Text

structure Completion where
  status : Int := 0
  out : String := ""
  err : String := ""
deriving DecidableEq, Repr

/-- Runs the file at a path; the first error ends the program with status 1. -/
def runFile (files : String → Option (List UInt8)) (style : Style) (path : String)
    (debug : Bool) : Completion :=
  let reporter : Reporter := { path, style }
  match Interpreter.openPath files reporter path false debug with
  | .error error =>
    let (err, settled) := reporter.settle (some error.interruption)
    { status := settled.toStatus, err }
  | .ok interpreter =>
    match interpreter.runSource with
    | none => {}
    | some (next, response) =>
      { status := ((next.exitCode? response).map ExitCode.toStatus).getD 0
        out := response.out
        err := response.err }

def runPrompt (style : Style) (debug : Bool) (input : String) : Completion :=
  let replies := (Interpreter.atPrompt { style } debug).converse (inputLines input)
  { out := Prompt.intro ++ "\n" ++ String.join (replies.map fun reply => Prompt.mark ++ reply.out)
    err := String.join (replies.map (·.err)) }

/-- Does what the arguments ask for. -/
def runRequest (files : String → Option (List UInt8)) (style : Style) (input : String)
    (request : Request) : Completion :=
  match request.file, request.repl with
  | some path, false => runFile files style path request.debug
  | _, _ => runPrompt style request.debug input

def run (files : String → Option (List UInt8)) (style : Style) (input : String)
    (arguments : List String) : Completion :=
  match Request.ofArguments arguments with
  | .error .help => { out := helpText }
  | .error (.usage error) => { status := 2, err := error.report }
  | .ok request => runRequest files style input request

end StackScript.CommandLine
