import StackScript.Text.Printable

/-!
Texts between quotes, on one line: what does not print is written with a backslash. The quotes are single ones, but double ones for a text that has single ones and no double ones.
-/

namespace StackScript.Text

def hexPadded (width n : Nat) : List Char :=
  let digits := Nat.toDigits 16 n
  List.replicate (width - digits.length) '0' ++ digits

def escapeCode (n : Nat) : List Char :=
  if n < 0x100 then '\\' :: 'x' :: hexPadded 2 n
  else if n < 0x10000 then '\\' :: 'u' :: hexPadded 4 n
  else '\\' :: 'U' :: hexPadded 8 n

/-- A character as it is written between the quotes given. -/
def escapeChar (quote c : Char) : List Char :=
  if c = quote ∨ c = '\\' then ['\\', c]
  else if c = '\n' then ['\\', 'n']
  else if c = '\r' then ['\\', 'r']
  else if c = '\t' then ['\\', 't']
  else if isPrintable c then [c]
  else escapeCode c.toNat

def quoteFor (l : List Char) : Char :=
  if l.contains '\x27' && !l.contains '\x22' then '\x22' else '\x27'

def quoted (text : String) : String :=
  let l := text.toList
  let quote := quoteFor l
  String.ofList ((quote :: l.flatMap (escapeChar quote)) ++ [quote])

end StackScript.Text
