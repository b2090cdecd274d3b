import StackScript.Text.Blank
import StackScript.Token

/-!
The scanner cuts one statement into tokens. It reads a character at a time and may look at the one after it. No text is malformed: what cannot be a number, a string, a bracket or an operator is part of an identifier.
-/

namespace StackScript

inductive Mode where
  | default
  | string
  | number
deriving DecidableEq, Repr

/-- A token in progress: what it is so far. In the default mode an empty text means that there is none. -/
structure ScanState where
  mode : Mode := .default
  text : String := ""
deriving DecidableEq, Repr

/-- Where reading goes on after a character: with the next one, with the one after that, or nowhere. -/
inductive Move where
  | next
  | skip
  | stop
deriving DecidableEq, Repr

structure Step where
  state : ScanState
  tokens : List Token
  move : Move
deriving DecidableEq, Repr

namespace Scanner

def isBracket (c : Char) : Bool :=
  ['(', ')', '[', ']', '\x7b', '\x7d'].contains c

def isOperatorChar (c : Char) : Bool :=
  ['=', '+', '-', '*', '/', '^', '!', '>', '<', '&', '|'].contains c

def isOperatorPair (c d : Char) : Bool :=
  d == '=' || (c == '&' && d == '&') || (c == '|' && d == '|')

/-- Two slashes open a comment, also within a string. -/
def opensComment (c : Char) (ahead : Option Char) : Bool :=
  c == '/' && ahead == some '/'

end Scanner

namespace ScanState

open Scanner Text

def start : ScanState := {}

/-- The token that the text in progress makes when it ends here, if it makes one. A string may be empty. -/
def finish (state : ScanState) : Option Token :=
  match state.mode with
  | .string => some ⟨.string, state.text⟩
  | .number => if state.text = "" then none else some ⟨.number, state.text⟩
  | .default =>
    if state.text = "" then none
    else if state.text = "true" ∨ state.text = "false" then some ⟨.boolean, state.text⟩
    else some ⟨.identifier, state.text⟩

def close (state : ScanState) (tokens : List Token) (move : Move) : Step :=
  ⟨start, state.finish.toList ++ tokens, move⟩

def extend (state : ScanState) (c : Char) : Step :=
  ⟨{ state with text := state.text.push c }, [], .next⟩

def stepString (state : ScanState) (c : Char) (ahead : Option Char) : Step :=
  if c = '"' then state.close [] .next
  else if opensComment c ahead then state.close [] .stop
  else state.extend c

def stepOperator (state : ScanState) (c : Char) (ahead : Option Char) : Step :=
  match ahead with
  | some d =>
    if isOperatorPair c d then state.close [⟨.operator, String.ofList [c, d]⟩] .skip
    else state.close [⟨.operator, String.singleton c⟩] .next
  | none => state.close [⟨.operator, String.singleton c⟩] .next

/-- A minus sign belongs to the number after it only where no token is in progress. -/
def opensNegative (state : ScanState) (c : Char) (ahead : Option Char) : Bool :=
  c == '-' && ahead.any Char.isDigit && state.text == ""

def stepOutside (state : ScanState) (c : Char) (ahead : Option Char) : Step :=
  if c = '"' then ⟨⟨.string, ""⟩, state.finish.toList, .next⟩
  else if c = '#' ∨ opensComment c ahead then state.close [] .stop
  else if isBlank c then state.close [] .next
  else if isBracket c then state.close [⟨.symbol, String.singleton c⟩] .next
  else if state.opensNegative c ahead then ⟨⟨.number, String.singleton c⟩, [], .next⟩
  else if isOperatorChar c then state.stepOperator c ahead
  else if c.isDigit then
    if state.text = "" then ⟨⟨.number, String.singleton c⟩, [], .next⟩ else state.extend c
  else if state.mode = .number then
    ⟨⟨.default, String.singleton c⟩, state.finish.toList, .next⟩
  else state.extend c

/-- Reads one character; `ahead` is the character after it, `none` at the end of the statement. -/
def step (state : ScanState) (c : Char) (ahead : Option Char) : Step :=
  if state.mode = .string then state.stepString c ahead else state.stepOutside c ahead

theorem step_none_move_ne_skip (state : ScanState) (c : Char) :
    (state.step c none).move ≠ .skip := by
  unfold step stepString stepOutside
  repeat' split
  all_goals nofun

/-- Reads the rest of a statement; `done` holds the tokens made so far, latest first. -/
def read (state : ScanState) (done : List Token) : List Char → List Token
  | [] => done.reverse ++ state.finish.toList
  | c :: rest =>
    let step := state.step c rest.head?
    let done := step.tokens.reverse ++ done
    match step.move, rest with
    | .skip, _ :: rest => step.state.read done rest
    | .skip, [] => done.reverse ++ step.state.finish.toList
    | .next, rest => step.state.read done rest
    | .stop, _ => done.reverse ++ step.state.finish.toList

theorem read_eq_append (state : ScanState) (done : List Token) :
    ∀ l : List Char, state.read done l = done.reverse ++ state.read [] l
  | [] => by simp [read]
  | [c] => by
    unfold read
    cases hmove : (state.step c [].head?).move <;> simp only [hmove, read] <;> simp
  | c :: d :: rest => by
    unfold read
    cases hmove : (state.step c (d :: rest).head?).move with
    | skip =>
      simp only [hmove]
      rw [read_eq_append _ (_ ++ done) rest, read_eq_append _ (_ ++ []) rest]
      simp
    | next =>
      simp only [hmove]
      rw [read_eq_append _ (_ ++ done) (d :: rest), read_eq_append _ (_ ++ []) (d :: rest)]
      simp
    | stop =>
      simp only [hmove]
      simp

end ScanState

namespace Scanner

open Text

def isVoid (l : List Char) : Bool :=
  match l.dropWhile isBlank with
  | [] => true
  | c :: rest => opensComment c rest.head?

/-- The tokens of a statement. Carriage returns do not count. -/
def tokens (statement : List Char) : List Token :=
  let l := statement.filter (· != '\r')
  if isVoid l then [] else ScanState.start.read [] l

end Scanner

def tokenize (statement : String) : List Token :=
  Scanner.tokens statement.toList

end StackScript
