import StackScript.CommandLine.Arguments

/-!
What the program says about its own use.
-/

namespace StackScript.CommandLine

open Text

def usageLine : String :=
  "usage: pfx [-h] [-r] [-d] [file]\n"

def helpText : String :=
  usageLine ++
    "\npositional arguments:\n" ++
    "  file         file to interpret and run (if empty, goes to command-line mode)\n" ++
    "\noptions:\n" ++
    "  -h, --help   show this help message and exit\n" ++
    "  -r, --repl   run in command-line mode\n" ++
    "  -d, --debug  echo source and tokens to stderr\n"

namespace UsageError

def message : UsageError → String
  | ambiguous argument candidates =>
    "ambiguous option: " ++ argument ++ " could match " ++
      ", ".intercalate (candidates.map Flag.long)
  | unexpectedValue flag value =>
    "argument " ++ flag.shortName ++ "/" ++ flag.long ++ ": ignored explicit argument " ++
      quoted value
  | unrecognized arguments => "unrecognized arguments: " ++ " ".intercalate arguments

def report (error : UsageError) : String :=
  usageLine ++ "pfx: error: " ++ error.message ++ "\n"

end UsageError

end StackScript.CommandLine
