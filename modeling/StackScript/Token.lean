/-!
Tokens: what a statement is made of, and what values are. A number and a truth value keep the text they were written with.
-/

namespace StackScript

inductive TokenKind where
  | identifier
  | number
  | string
  | boolean
  | operator
  | symbol
deriving DecidableEq, Repr

namespace TokenKind

def name : TokenKind → String
  | identifier => "Identifier"
  | number => "Number"
  | string => "String"
  | boolean => "Boolean"
  | operator => "Operator"
  | symbol => "Symbol"

/-- The kinds of a value: what a variable can hold. -/
def literals : List TokenKind :=
  [number, string, boolean]

end TokenKind

structure Token where
  kind : TokenKind
  text : String
deriving DecidableEq, Repr

namespace Token

def ofBool (b : Bool) : Token :=
  ⟨.boolean, if b then "true" else "false"⟩

/-- Only the text `true` counts as true. -/
def isTrue (token : Token) : Bool :=
  token.text == "true"

def listing (token : Token) : String :=
  token.kind.name ++ "('" ++ token.text ++ "')"

end Token

end StackScript
