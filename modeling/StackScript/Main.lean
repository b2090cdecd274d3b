import StackScript.CommandLine.Run

/-!
The command line of the interpreter.
-/

namespace StackScript.CommandLine

open Text

def printReply (reply : Reply) : IO Unit := do
  IO.print reply.out
  IO.eprint reply.err

partial def converse (interpreter : Interpreter) : IO Unit := do
  IO.print Prompt.mark
  (← IO.getStdout).flush
  -- nothing is read at the end of the input
  let read ← (← IO.getStdin).getLine
  let reply := interpreter.reply ((inputLines read).headD Prompt.endOfInput)
  printReply reply
  if reply.verdict ≠ .ended then converse reply.interpreter

def readFile? (path : String) : IO (Option (List UInt8)) := do
  try
    return some (← IO.FS.readBinFile path).toList
  catch _ =>
    return none

def complete (completion : Completion) : IO UInt32 := do
  IO.print completion.out
  IO.eprint completion.err
  return completion.status.toNat.toUInt32

end StackScript.CommandLine

open StackScript StackScript.CommandLine in
def main (arguments : List String) : IO UInt32 := do
  let style : Text.Style := if ← (← IO.getStdout).isTty then .ansi else .plain
  match Request.ofArguments arguments with
  | .ok { file := some path, repl := false, debug, .. } =>
    let octets? ← readFile? path
    complete (runFile (fun _ => octets?) style path debug)
  | .ok request =>
    IO.println Prompt.intro
    converse (Interpreter.atPrompt { style } request.debug)
    return 0
  | .error _ => complete (run (fun _ => none) style "" arguments)
