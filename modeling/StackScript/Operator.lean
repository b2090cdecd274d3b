import StackScript.Numeral
import StackScript.Token

/-!
Operators and what they make of two operands. An operator asks for operands of certain kinds, the left one first, and fails with the first that does not fit.
-/

namespace StackScript

inductive Comparison where
  | greater
  | less
  | greaterEqual
  | lessEqual
deriving DecidableEq, Repr

namespace Comparison

def symbol : Comparison → String
  | greater => ">"
  | less => "<"
  | greaterEqual => ">="
  | lessEqual => "<="

def holds (comparison : Comparison) (a b : Int) : Bool :=
  match comparison with
  | greater => decide (b < a)
  | less => decide (a < b)
  | greaterEqual => decide (b ≤ a)
  | lessEqual => decide (a ≤ b)

end Comparison

inductive BinaryOperator where
  | add
  | equal
  | notEqual
  | compare (comparison : Comparison)
  | and
  | or
deriving DecidableEq, Repr

/-- The kinds that an operand may have, and their name in messages. -/
structure OperandClass where
  kinds : List TokenKind
  name : String
deriving DecidableEq, Repr

namespace OperandClass

def number : OperandClass := ⟨[.number], "Number"⟩

def boolean : OperandClass := ⟨[.boolean], "Boolean"⟩

def numberOrString : OperandClass := ⟨[.number, .string], "Number or String"⟩

def literal : OperandClass := ⟨TokenKind.literals, "Number, String or Boolean"⟩

def check (required : OperandClass) (operator : String) (operand : Token) :
    Except ScriptError Unit :=
  if operand.kind ∈ required.kinds then .ok ()
  else .error (.typeMismatch operator required.name operand.text)

end OperandClass

namespace BinaryOperator

def symbol : BinaryOperator → String
  | add => "+"
  | equal => "=="
  | notEqual => "!="
  | compare comparison => comparison.symbol
  | and => "&&"
  | or => "||"

def ofSymbol? : String → Option BinaryOperator
  | "+" => some add
  | "==" => some equal
  | "!=" => some notEqual
  | ">" => some (compare .greater)
  | "<" => some (compare .less)
  | ">=" => some (compare .greaterEqual)
  | "<=" => some (compare .lessEqual)
  | "&&" => some and
  | "||" => some or
  | _ => none

@[simp]
theorem ofSymbol?_symbol (operator : BinaryOperator) :
    ofSymbol? operator.symbol = some operator := by
  cases operator with
  | compare comparison => cases comparison <;> rfl
  | _ => rfl

def operands : BinaryOperator → OperandClass
  | add => .numberOrString
  | equal | notEqual => .literal
  | compare _ => .number
  | and | or => .boolean

/-- Joins the texts if one operand is a string, else adds the integers. -/
def addTokens (left right : Token) : Except ScriptError Token :=
  if left.kind = .string ∨ right.kind = .string then .ok ⟨.string, left.text ++ right.text⟩
  else do
    let a ← readInt add.symbol left.text
    let b ← readInt add.symbol right.text
    return ⟨.number, ← writeInt add.symbol (a + b)⟩

/-- The result for operands of the right kinds. Equality is of texts, so a padded number differs from the same number without padding. -/
def combine (operator : BinaryOperator) (left right : Token) : Except ScriptError Token :=
  match operator with
  | add => addTokens left right
  | equal => .ok (.ofBool (left.text == right.text))
  | notEqual => .ok (.ofBool (left.text != right.text))
  | compare comparison => do
    let a ← readInt comparison.symbol left.text
    let b ← readInt comparison.symbol right.text
    return .ofBool (comparison.holds a b)
  | and => .ok (.ofBool (left.isTrue && right.isTrue))
  | or => .ok (.ofBool (left.isTrue || right.isTrue))

def apply (operator : BinaryOperator) (left right : Token) : Except ScriptError Token := do
  operator.operands.check operator.symbol left
  operator.operands.check operator.symbol right
  operator.combine left right

end BinaryOperator

inductive Operator where
  | assign
  | binary (operator : BinaryOperator)
deriving DecidableEq, Repr

namespace Operator

def symbol : Operator → String
  | assign => "="
  | binary operator => operator.symbol

def ofSymbol? (symbol : String) : Option Operator :=
  if symbol = "=" then some assign else (BinaryOperator.ofSymbol? symbol).map binary

@[simp]
theorem ofSymbol?_symbol (operator : Operator) : ofSymbol? operator.symbol = some operator := by
  cases operator with
  | assign => rfl
  | binary operator =>
    cases operator with
    | compare comparison => cases comparison <;> rfl
    | _ => rfl

end Operator

end StackScript
