import StackScript.Line
import StackScript.Operator
import StackScript.Text.Style
import StackScript.Variables

/-!
The machine: a stack of values and a table of variables, and what a single token does to them. An operator takes its right operand from the stack if the line has put one there, and else both operands from the tokens to its left.
-/

namespace StackScript

structure Machine where
  /-- Values not yet used, the top first. -/
  stack : List Token := []
  vars : Variables := {}
  /-- The last run was stopped by an error. -/
  aborted : Bool := false
  /-- Values printed, the latest first. -/
  printed : List Token := []
deriving DecidableEq, Repr

namespace Machine

def push (machine : Machine) (value : Token) : Machine :=
  { machine with stack := value :: machine.stack }

/-- Takes the top of the stack if the stack is higher than `base`. -/
def popAbove (machine : Machine) (base : Nat) : Option Token × Machine :=
  match machine.stack with
  | [] => (none, machine)
  | value :: rest =>
    if base < machine.stack.length then (some value, { machine with stack := rest })
    else (none, machine)

def valueOf (machine : Machine) (token : Token) : Except ScriptError Token :=
  if token.kind = .identifier then
    match machine.vars.find? token.text with
    | some value => .ok value
    | none => .error (.unknownIdentifier token.text)
  else .ok token

/-- An operand next to an operator, as a value or, if `named`, as it is written. -/
def operand (machine : Machine) (neighbor? : Option Token) (operator side : String)
    (named : Bool) : Except ScriptError Token :=
  match neighbor? with
  | none => .error (.missingOperand operator side)
  | some token => if named then .ok token else machine.valueOf token

def store (machine : Machine) (target value : Token) : Except ScriptError Machine :=
  if target.kind = .identifier then do
    OperandClass.literal.check Operator.assign.symbol value
    return { machine with vars := machine.vars.assign target.text value }
  else .error (.typeMismatch Operator.assign.symbol "Identifier" target.text)

def apply (machine : Machine) (operator : Operator) (left right : Token) :
    Except ScriptError Machine :=
  match operator with
  | .assign => machine.store left right
  | .binary operator => do return machine.push (← operator.apply left right)

/-- Finds the operands of an operator and applies it. With a right operand from the stack only the left one is next to the operator, else both are. `before` holds the tokens to its left, nearest first. Also gives the number of tokens used. -/
def perform (machine : Machine) (operator : Operator) (right? : Option Token)
    (before : List Token) : Except ScriptError (Nat × Machine) :=
  let named := operator = .assign
  match right? with
  | some right => do
    let left ← machine.operand before[0]? operator.symbol "left" named
    return (1, ← machine.apply operator left right)
  | none => do
    let right ← machine.operand before[0]? operator.symbol "right" named
    let left ← machine.operand before[1]? operator.symbol "left" named
    return (2, ← machine.apply operator left right)

/-- Evaluates the operator with the symbol given. A right operand taken from the stack is lost if the operator fails. -/
def operate (machine : Machine) (symbol : String) (before : List Token) (base : Nat) :
    Except ScriptError Nat × Machine :=
  match Operator.ofSymbol? symbol with
  | none => (.error (.unknownOperator symbol), machine)
  | some operator =>
    let (right?, popped) := machine.popAbove base
    match popped.perform operator right? before with
    | .error error => (.error error, popped)
    | .ok (used, machine) => (.ok used, machine)

def printName : String := "print"

/-- Prints the top of the stack, or an empty string if there is none. -/
def print (machine : Machine) : Machine :=
  match machine.popAbove 0 with
  | (value?, machine) =>
    { machine with printed := value?.getD ⟨.string, ""⟩ :: machine.printed }

def visit (machine : Machine) (token : Token) : Except ScriptError Machine :=
  if token.text = printName then .ok machine.print
  else do return machine.push (← machine.valueOf token)

end Machine

def Token.display (style : Text.Style) (token : Token) : String :=
  match token.kind with
  | .number => canonicalText token.text
  | .boolean => style.bold token.text
  | _ => token.text

theorem Token.display_eq (style : Text.Style) (token : Token) :
    token.display style =
      if token.kind = .number then canonicalText token.text
      else if token.kind = .boolean then style.bold token.text
      else token.text := by
  obtain ⟨kind, text⟩ := token
  cases kind <;> rfl

/-- What the machine has printed, one line for each value. -/
def Machine.output (style : Text.Style) (machine : Machine) : String :=
  String.join (machine.printed.reverse.map fun token => token.display style ++ "\n")

end StackScript
