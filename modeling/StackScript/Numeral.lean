import StackScript.ScriptError

/-!
Numerals: decimal integers as they are written, with an optional sign and any zero padding. Arithmetic reads and writes numerals of at most `Numeral.maxDigits` digits; the shortest form of a numeral needs no arithmetic and has no limit.
-/

namespace StackScript

structure Numeral where
  negative : Bool
  digits : List Char
deriving DecidableEq, Repr

namespace Numeral

/-- The most digits that a numeral may have to be read or written as an integer. -/
def maxDigits : Nat := 4300

/-- The least number that has more digits than that. -/
def bound : Nat := Nat.pow 10 maxDigits

def isDigits (l : List Char) : Bool :=
  !l.isEmpty && l.all Char.isDigit

def ofChars? : List Char → Option Numeral
  | '-' :: digits => if isDigits digits then some ⟨true, digits⟩ else none
  | digits => if isDigits digits then some ⟨false, digits⟩ else none

/-- Reads a minus sign, if there is one, and ASCII digits, at least one, and nothing else. -/
def ofText? (text : String) : Option Numeral :=
  ofChars? text.toList

def value (numeral : Numeral) : Int :=
  let magnitude : Int := Nat.ofDigitChars 10 numeral.digits 0
  if numeral.negative then -magnitude else magnitude

def canonical (numeral : Numeral) : String :=
  match numeral.digits.dropWhile (· == '0') with
  | [] => "0"
  | digits => String.ofList (if numeral.negative then '-' :: digits else digits)

end Numeral

def isNumeral (text : String) : Bool :=
  (Numeral.ofText? text).isSome

/-- Drops the zero padding of a numeral and leaves any other text as it is. -/
def canonicalText (text : String) : String :=
  match Numeral.ofText? text with
  | some numeral => numeral.canonical
  | none => text

def readInt (operator text : String) : Except ScriptError Int :=
  match Numeral.ofText? text with
  | some numeral =>
    if numeral.digits.length ≤ Numeral.maxDigits then .ok numeral.value
    else .error (.typeMismatch operator "Number" text)
  | none => .error (.typeMismatch operator "Number" text)

def writeInt (operator : String) (value : Int) : Except ScriptError String :=
  if value.natAbs < Numeral.bound then .ok (toString value)
  else .error (.typeMismatch operator "Number" "<integer too long>")

end StackScript
