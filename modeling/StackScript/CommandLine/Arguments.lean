import StackScript.Text.DecimalDigit
import StackScript.Text.Quoted

/-!
The arguments of the program: flags, and a file. Flags have a short name, which can be bundled behind one dash, and a long name, of which the beginning suffices. After two dashes alone there are no more flags.
-/

namespace StackScript.CommandLine

open Text

inductive Flag where
  | help
  | repl
  | debug
deriving DecidableEq, Repr

namespace Flag

def all : List Flag := [help, repl, debug]

def short : Flag → Char
  | help => 'h'
  | repl => 'r'
  | debug => 'd'

def long : Flag → String
  | help => "--help"
  | repl => "--repl"
  | debug => "--debug"

def shortName (flag : Flag) : String :=
  String.ofList ['-', flag.short]

def ofShort? (c : Char) : Option Flag :=
  all.find? (·.short == c)

def ofName? (name : String) : Option Flag :=
  all.find? fun flag => flag.shortName == name || flag.long == name

def withLongPrefix (start : List Char) : List Flag :=
  all.filter fun flag => start.isPrefixOf flag.long.toList

end Flag

inductive UsageError where
  | ambiguous (argument : String) (candidates : List Flag)
  | unexpectedValue (flag : Flag) (value : String)
  | unrecognized (arguments : List String)
deriving DecidableEq, Repr

/-- What an argument is, taken alone. The value of a flag is what follows its name. -/
inductive Word where
  | separator
  | operand
  | unknown
  | longFlag (flag : Flag) (value : Option (List Char))
  | shortFlag (flag : Flag) (value : Option (List Char))
deriving DecidableEq, Repr

namespace Word

/-- Negative numbers are operands, with a decimal point or without one, and with a newline at the end or without one. -/
def isNegativeNumber (argument : List Char) : Bool :=
  match argument with
  | '-' :: rest =>
    let body := if rest.getLast? = some '\n' then rest.dropLast else rest
    match body.dropWhile isDecimalDigit with
    | [] => !body.isEmpty
    | '.' :: decimals => !decimals.isEmpty && decimals.all isDecimalDigit
    | _ => false
  | _ => false

def splitValue (argument : List Char) : List Char × Option (List Char) :=
  match argument.dropWhile (· != '=') with
  | [] => (argument, none)
  | _ :: value => (argument.takeWhile (· != '='), some value)

def notFlag (argument : List Char) : Word :=
  if isNegativeNumber argument ∨ argument.contains ' ' then operand else unknown

def ofLong (argument : List Char) : Except UsageError Word :=
  let (name, value) := splitValue argument
  match Flag.withLongPrefix name with
  | [] => .ok (notFlag argument)
  | [flag] => .ok (longFlag flag value)
  | flags => .error (.ambiguous (String.ofList argument) flags)

def ofShort (argument : List Char) (c : Char) (rest : List Char) : Word :=
  match Flag.ofShort? c with
  | some flag => shortFlag flag (some rest)
  | none => notFlag argument

def ofWholeName? (argument : List Char) : Option Word :=
  let (name, value) := splitValue argument
  match Flag.ofName? (String.ofList argument), Flag.ofName? (String.ofList name) with
  | some flag, _ => some (longFlag flag none)
  | none, some flag =>
    if flag.long = String.ofList name then some (longFlag flag value)
    else some (shortFlag flag value)
  | none, none => none

def ofArgument (argument : List Char) : Except UsageError Word :=
  match ofWholeName? argument with
  | some word => .ok word
  | none =>
    match argument with
    | '-' :: '-' :: _ => ofLong argument
    | '-' :: c :: rest => .ok (ofShort argument c rest)
    | _ => .ok operand

/-- Takes all arguments for what they are, up to the first separator; after it all are operands. -/
def ofArguments : List String → Except UsageError (List (Word × String))
  | [] => .ok []
  | argument :: rest =>
    if argument = "--" then .ok ((separator, argument) :: rest.map ((operand, ·)))
    else do
      let word ← ofArgument argument.toList
      return (word, argument) :: (← ofArguments rest)

end Word

/-- What the arguments ask for, as far as they have been read. -/
structure Request where
  file : Option String := none
  /-- The place of the file is taken, be it by a separator with nothing after it. -/
  fileSettled : Bool := false
  repl : Bool := false
  debug : Bool := false
  extras : List String := []
deriving DecidableEq, Repr

/-- Why reading the arguments ends before there is a request. -/
inductive Refusal where
  | help
  | usage (error : UsageError)
deriving DecidableEq, Repr

namespace Request

def set (request : Request) : Flag → Except Refusal Request
  | .help => .error .help
  | .repl => .ok { request with repl := true }
  | .debug => .ok { request with debug := true }

/-- Sets flags in order; help ends it. -/
def setAll (request : Request) (flags : List Flag) : Except Refusal Request :=
  flags.foldlM set request

/-- The flags of a bundle, all of which must be known before one of them counts. -/
def bundle (flag : Flag) : List Char → Except UsageError (List Flag)
  | [] => .ok [flag]
  | c :: rest =>
    match Flag.ofShort? c with
    | some next => do return flag :: (← bundle next rest)
    | none => .error (.unexpectedValue flag (String.ofList (c :: rest)))

/-- The flags that a word sets. What stands behind a short one are flags too, also if it is given as its value. -/
def flags : Word → Except UsageError (List Flag)
  | .longFlag flag none | .shortFlag flag none => .ok [flag]
  | .longFlag flag (some value) => .error (.unexpectedValue flag (String.ofList value))
  | .shortFlag flag (some []) => .error (.unexpectedValue flag "")
  | .shortFlag flag (some value) => bundle flag value
  | .separator | .operand | .unknown => .ok []

def addExtra (request : Request) (argument : String) : Request :=
  { request with extras := request.extras ++ [argument] }

def settleFile (request : Request) (file : Option String) : Request :=
  { request with file, fileSettled := true }

/-- Reads classified arguments. The first operand is the file, and a separator right before or after it goes with it. -/
def read (request : Request) : List (Word × String) → Except Refusal Request
  | [] => .ok request
  | (.operand, argument) :: rest =>
    if request.fileSettled then (request.addExtra argument).read rest
    else
      match rest with
      | (.separator, _) :: rest => (request.settleFile (some argument)).read rest
      | rest => (request.settleFile (some argument)).read rest
  | (.separator, argument) :: rest =>
    if request.fileSettled then (request.addExtra argument).read rest
    else
      match rest with
      | (.operand, file) :: rest => (request.settleFile (some file)).read rest
      | rest => (request.settleFile none).read rest
  | (.unknown, argument) :: rest => (request.addExtra argument).read rest
  | (word, _) :: rest =>
    match flags word with
    | .error error => .error (.usage error)
    | .ok flags => do (← request.setAll flags).read rest

def ofArguments (arguments : List String) : Except Refusal Request :=
  match Word.ofArguments arguments with
  | .error error => .error (.usage error)
  | .ok words => do
    let request ← read {} words
    if request.extras = [] then return request
    else .error (.usage (.unrecognized request.extras))

end Request

end StackScript.CommandLine
