import StackScript.Scanner

/-!
Lines: statements that hold a token, each with the number of the physical line it stands on. Newlines end physical lines, semicolons separate the statements of one.
-/

namespace StackScript

structure Line where
  number : Int
  tokens : List Token
  /-- The statement as it was written, without the blanks around it. -/
  source : String := ""
deriving DecidableEq, Repr

namespace Line

open Text

def ofStatement (number : Int) (statement : List Char) : Option Line :=
  match Scanner.tokens statement with
  | [] => none
  | tokens => some ⟨number, tokens, String.ofList (trimChars statement)⟩

def ofPhysical (number : Int) (physical : List Char) : List Line :=
  (physical.splitOn ';').filterMap (ofStatement number)

/-- The lines of a text whose first physical line has the number given. Statements without tokens leave no line, but keep their place in the numbering. -/
def ofText (first : Int) (text : String) : List Line :=
  (text.toList.splitOn '\n').zipIdx.flatMap fun (physical, i) => ofPhysical (first + i) physical

/-- The token `offset` places to the right of the index, or to the left if negative. -/
def neighbor? (line : Line) (index offset : Int) : Option Token :=
  if index + offset < 0 then none else line.tokens[(index + offset).toNat]?

/-- The tokens to the left of the index, nearest first. -/
def before (line : Line) (index : Nat) : List Token :=
  (line.tokens.take index).reverse

theorem before_getElem? (line : Line) {index : Nat} (h : index ≤ line.tokens.length) (k : Nat) :
    (line.before index)[k]? = line.neighbor? index (-(k + 1 : Int)) := by
  unfold before neighbor?
  by_cases hk : k < index
  · have hneg : ¬ ((index : Int) + -(k + 1 : Int) < 0) := by omega
    have hpos : ((index : Int) + -(k + 1 : Int)).toNat = index - 1 - k := by omega
    rw [if_neg hneg, hpos, List.getElem?_reverse (by simp; omega), List.getElem?_take]
    simp only [List.length_take, Nat.min_eq_left h]
    rw [if_pos (by omega)]
  · rw [if_pos (by omega), List.getElem?_eq_none]
    simp
    omega

def listing (line : Line) : String :=
  toString line.number ++ ": [" ++ ", ".intercalate (line.tokens.map Token.listing) ++ "]"

def echo (text : String) : String :=
  "--- Code ---\n" ++ text ++ "\n------------\n\n"

def listings (lines : List Line) : String :=
  "--- Tokens ---\n" ++ "\n".intercalate (lines.map listing) ++ "\n--------------\n\n"

end Line

end StackScript
