import StackScript.Text.DecimalDigit
import StackScript.Text.Style

/-!
Messages: fixed words with expressions put in between, which stay recognisable so that they can be shown in bold. A template gives the words as one text in which a pair of braces marks the place of an expression.
-/

namespace StackScript

open Text

inductive Piece where
  | words (text : String)
  | expr (text : String)
deriving DecidableEq, Repr

def Piece.render (style : Style) : Piece → String
  | words text => text
  | expr text => style.bold text

abbrev Message := List Piece

namespace Message

def render (style : Style) (message : Message) : String :=
  String.join (message.map (Piece.render style))

def text (message : Message) : String :=
  message.render .plain

end Message

inductive TemplateError where
  | noExpression (index : Nat)
  | indexTooLarge
  | unmatchedOpen
  | unmatchedClose
  | unclosedField
  | unknownField (name : String)
deriving DecidableEq, Repr

namespace TemplateError

def kind : TemplateError → String
  | noExpression _ => "IndexError"
  | unknownField _ => "KeyError"
  | indexTooLarge | unmatchedOpen | unmatchedClose | unclosedField => "ValueError"

def message : TemplateError → String
  | noExpression index =>
    "Replacement index " ++ toString index ++ " out of range for positional args tuple"
  | indexTooLarge => "Too many decimal digits in format string"
  | unmatchedOpen => "Single '\x7b' encountered in format string"
  | unmatchedClose => "Single '\x7d' encountered in format string"
  | unclosedField => "expected '\x7d' before end of string"
  | unknownField name => "'" ++ name ++ "'"

end TemplateError

namespace Template

/-- The largest index that a field can hold, 2^63 - 1. -/
def maxIndex : Nat := 9223372036854775807

def expr (exprs : List String) (index : Nat) : Except TemplateError Piece :=
  match exprs[index]? with
  | some expr => .ok (.expr expr)
  | none => .error (.noExpression index)

/-- The expression a field asks for: the next one in turn if the field is empty, else the one with the index it holds. Any other field is taken for a name that nothing has, so one that also asks for a conversion, a format, an attribute or an item of its expression is not read as such. -/
def field (exprs : List String) (next : Nat) (name : List Char) : Except TemplateError Piece :=
  if name = [] then expr exprs next
  else
    match decimal? name with
    | some index => if maxIndex < index then .error .indexTooLarge else expr exprs index
    | none => .error (.unknownField (String.ofList name))

/-- Reads a template from left to right; the first fault met is the one reported. Two equal braces in a row stand for one. `words` is the text since the last field, `name` the text of the field that is open, both latest first, and `next` counts the fields without a number. It goes on counting after a field with one: that a template must not have fields of both sorts is not checked, nor are braces within a field paired. The templates of the program have only empty fields. -/
def fillFrom (exprs : List String) (next : Nat) (words : List Char) :
    Option (List Char) → List Char → Except TemplateError Message
  | none, [] => .ok [.words (String.ofList words.reverse)]
  | none, '\x7b' :: '\x7b' :: rest => fillFrom exprs next ('\x7b' :: words) none rest
  | none, ['\x7b'] => .error .unmatchedOpen
  | none, '\x7b' :: rest => fillFrom exprs next words (some []) rest
  | none, '\x7d' :: '\x7d' :: rest => fillFrom exprs next ('\x7d' :: words) none rest
  | none, '\x7d' :: _ => .error .unmatchedClose
  | none, c :: rest => fillFrom exprs next (c :: words) none rest
  | some _, [] => .error .unclosedField
  | some name, '\x7d' :: rest => do
    let piece ← field exprs next name.reverse
    let message ← fillFrom exprs (if name = [] then next + 1 else next) [] none rest
    return .words (String.ofList words.reverse) :: piece :: message
  | some name, c :: rest => fillFrom exprs next words (some (c :: name)) rest

def fill (template : String) (exprs : List String) : Except TemplateError Message :=
  fillFrom exprs 0 [] none template.toList

end Template

end StackScript
