import StackScript.Machine.Basic

/-!
Runs of the machine over lines. A line is evaluated from right to left, lines are evaluated in order, and the first error ends the run.
-/

namespace StackScript

/-- How an evaluation ended: the machine it left, and the error that cut it short, if one did. -/
structure Ending (ε : Type) where
  machine : Machine
  error : Option ε := none
deriving DecidableEq, Repr

namespace Machine

/-- Evaluates the tokens of a line from right to left, leaving out the first `skip` ones, which an operator has used. `base` is the height of the stack when the line began. -/
def evaluate (base : Nat) : Nat → List Token → Machine → Ending ScriptError
  | _, [], machine => { machine }
  | skip + 1, _ :: before, machine => evaluate base skip before machine
  | 0, token :: before, machine =>
    match token.kind with
    | .number | .string | .boolean => evaluate base 0 before (machine.push token)
    | .identifier =>
      match machine.visit token with
      | .ok machine => evaluate base 0 before machine
      | .error error => { machine, error }
    | .operator =>
      match machine.operate token.text before base with
      | (.ok used, machine) => evaluate base used before machine
      | (.error error, machine) => { machine, error }
    | .symbol => evaluate base 0 before machine

def evaluateLine (machine : Machine) (line : Line) : Ending Fault :=
  let ending := evaluate machine.stack.length 0 line.tokens.reverse machine
  { machine := ending.machine, error := ending.error.map (⟨·, line.number⟩) }

/-- Evaluates lines in order up to the first one with an error. -/
def evaluateLines : List Line → Machine → Ending Fault
  | [], machine => { machine }
  | line :: rest, machine =>
    let ending := machine.evaluateLine line
    match ending.error with
    | none => evaluateLines rest ending.machine
    | some _ => ending

/-- Puts the machine in order after an error. Variables stay. -/
def abort (machine : Machine) : Machine :=
  { machine with stack := [], aborted := true }

def run (machine : Machine) (program : List Line) : Ending Fault :=
  let ending := evaluateLines program { machine with aborted := false }
  match ending.error with
  | none => ending
  | some _ => { ending with machine := ending.machine.abort }

end Machine

end StackScript
