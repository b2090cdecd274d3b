import StackScript.Proofs.Canonical
import StackScript.Proofs.SingleLine

/-!
# Sums of numbers

A number is read and written with a limit on its digits: padding counts, the sign does not. Two
numbers have a sum if both can be read and the sum can be written; it is then the exact one. Of the
faults the left operand's comes first and that of the sum last. A print of a sum shows all of this,
wherever the operator is written.
-/

namespace StackScript

open Numeral

/-! ### The sum of two numbers -/

/-- Both numbers can be read and their sum can be written. -/
structure Addable (left right : String) (sum : Int) : Prop where
  left : digitCount left ≤ maxDigits
  right : digitCount right ≤ maxDigits
  sum : sum.natAbs < bound

/-- What has too many digits: an operand, the left one first, or else the sum. -/
def tooLong (left right : String) : String :=
  if maxDigits < digitCount left then left
  else if maxDigits < digitCount right then right
  else "<integer too long>"

variable {left right : String} {a b : Int}

theorem addTokens_of_addable (hleft : integer? left = some a) (hright : integer? right = some b)
    (h : Addable left right (a + b)) :
    BinaryOperator.addTokens ⟨.number, left⟩ ⟨.number, right⟩ =
      .ok ⟨.number, toString (a + b)⟩ := by
  have hwrite : writeInt BinaryOperator.add.symbol (a + b) = .ok (toString (a + b)) :=
    writeInt_eq_ok_iff.mpr ⟨h.sum, rfl⟩
  simp [BinaryOperator.addTokens, readInt_of_integer? hleft, readInt_of_integer? hright,
    Nat.not_lt.mpr h.left, Nat.not_lt.mpr h.right, hwrite, bind, Except.bind, pure, Except.pure]

theorem addTokens_of_not_addable (hleft : integer? left = some a) (hright : integer? right = some b)
    (h : ¬ Addable left right (a + b)) :
    BinaryOperator.addTokens ⟨.number, left⟩ ⟨.number, right⟩ =
      .error (.typeMismatch BinaryOperator.add.symbol "Number" (tooLong left right)) := by
  simp only [BinaryOperator.addTokens, readInt_of_integer? hleft, readInt_of_integer? hright,
    reduceCtorEq, or_self, if_false]
  unfold tooLong
  by_cases hlong : maxDigits < digitCount left
  · rw [if_pos hlong, if_pos hlong]
    rfl
  · by_cases hlong' : maxDigits < digitCount right
    · rw [if_neg hlong, if_neg hlong, if_pos hlong', if_pos hlong']
      rfl
    · have hsum : ¬ (a + b).natAbs < bound := fun hsum =>
        h ⟨Nat.not_lt.mp hlong, Nat.not_lt.mp hlong', hsum⟩
      have hwrite : writeInt BinaryOperator.add.symbol (a + b) =
          .error (.typeMismatch BinaryOperator.add.symbol "Number" "<integer too long>") :=
        writeInt_eq_error_iff.mpr ⟨rfl, Nat.not_lt.mp hsum⟩
      rw [if_neg hlong, if_neg hlong, if_neg hlong', if_neg hlong']
      simp only [bind, Except.bind, hwrite]

theorem chainValue_numbers (machine : Machine) (left right : String) :
    machine.chainValue [⟨⟨.number, left⟩, .add⟩] ⟨.number, right⟩ =
      BinaryOperator.addTokens ⟨.number, left⟩ ⟨.number, right⟩ := by
  rw [Machine.chainValue_cons, Machine.chainValue_nil]
  rfl

/-! ### Printing a sum -/

/-- A line that prints the sum of two numbers, with the operator between them or after them. -/
inductive PrintsSum (left right : String) : String → List Token → Prop
  | between : PrintsSum left right ("print " ++ left ++ " + " ++ right)
      ([⟨.identifier, Machine.printName⟩] ++
        Link.written [⟨⟨.number, left⟩, .add⟩] ⟨.number, right⟩)
  | after : PrintsSum left right ("print " ++ left ++ " " ++ right ++ " +")
      ([⟨.identifier, Machine.printName⟩] ++
        [⟨.number, left⟩, ⟨.number, right⟩, (Operator.binary .add).token])

variable {text : String} {tokens : List Token}

theorem PrintsSum.spell (h : PrintsSum left right text tokens) :
    text.toList = Line.spell tokens := by
  cases h <;> simp [Line.spell, Link.written, Link.tokens, Token.lexeme, Operator.token,
    Operator.symbol, BinaryOperator.symbol, Machine.printName]

theorem PrintsSum.onLine (h : PrintsSum left right text tokens) (hleft : isNumeral left = true)
    (hright : isNumeral right = true) : ∀ token ∈ tokens, token.OnLine := by
  have hplus : (Operator.binary .add).token.OnLine := Token.onLine_operator (c := '+') (by decide)
  have hleft := Token.onLine_number hleft
  have hright := Token.onLine_number hright
  cases h <;> simp [Link.written, Link.tokens, Token.onLine_print, hplus, hleft, hright]

theorem PrintsSum.evaluateLine (h : PrintsSum left right text tokens) (machine : Machine)
    (number : Int) (source : String) :
    machine.evaluateLine ⟨number, tokens, source⟩ =
      machine.conclude number (fun value => { machine with printed := value :: machine.printed })
        (BinaryOperator.addTokens ⟨.number, left⟩ ⟨.number, right⟩) := by
  rw [← chainValue_numbers machine]
  have hlast : (⟨.number, right⟩ : Token).IsOperand := Or.inl (by simp [TokenKind.literals])
  cases h with
  | between => exact Machine.evaluateLine_print hlast number source
  | after => exact Machine.evaluateLine_print_trailing ⟨_, .add⟩ _ number source

namespace Interpreter

variable {interpreter : Interpreter}

/-- **Sums are exact or rejected.** Whatever was fed before, the print of a sum shows the sum itself if both numbers can be read and their sum can be written. Otherwise it shows nothing, leaves the variables as they are and reports what is too long: the left number, or else the right one, or else the sum. -/
theorem feed_sum (hreachable : interpreter.Reachable) (hleft : integer? left = some a)
    (hright : integer? right = some b)
    (htext : text = "print " ++ left ++ " " ++ right ++ " +" ∨
      text = "print " ++ left ++ " + " ++ right) :
    ((interpreter.feed text).2.fault = none ∧
        (interpreter.feed text).2.out = toString (a + b) ++ "\n" ↔
      Addable left right (a + b)) ∧
      (¬ Addable left right (a + b) →
        (interpreter.feed text).2.out = "" ∧
        (interpreter.feed text).1.machine.vars = interpreter.machine.vars ∧
        (interpreter.feed text).2.fault =
          some ⟨.typeMismatch "+" "Number" (tooLong left right), interpreter.lineCount + 1⟩) := by
  obtain ⟨tokens, hprints⟩ : ∃ tokens, PrintsSum left right text tokens := by
    rcases htext with rfl | rfl
    · exact ⟨_, .after⟩
    · exact ⟨_, .between⟩
  have honLine := hprints.onLine (isNumeral_iff_integer?.mpr ⟨a, hleft⟩)
    (isNumeral_iff_integer?.mpr ⟨b, hright⟩)
  have hne : tokens ≠ [] := by cases hprints <;> simp
  have hprogram := program_of_spell interpreter hprints.spell hne honLine
  obtain ⟨hsum, hfault, hvars⟩ :=
    feed_print hreachable hprogram (hprints.evaluateLine (interpreter.machine.marked false) _ _)
  by_cases haddable : Addable left right (a + b)
  · obtain ⟨hnone, hout⟩ := hsum _ (addTokens_of_addable hleft hright haddable)
    have hdisplay : (⟨.number, toString (a + b)⟩ : Token).display interpreter.reporter.style =
        toString (a + b) := canonicalText_eq_toString (integer?_toString _)
    rw [hdisplay] at hout
    exact ⟨iff_of_true ⟨hnone, hout⟩ haddable, fun hnot => absurd haddable hnot⟩
  · obtain ⟨hsome, hout⟩ := hfault _ (addTokens_of_not_addable hleft hright haddable)
    refine ⟨iff_of_false (fun h => ?_) haddable, fun _ => ⟨hout, hvars, hsome⟩⟩
    rw [hsome] at h
    cases h.1

/-- The sum of -007 and 9 is printed; the largest number that can be read has no sum with 9. -/
theorem feed_sum_carry :
    let interpreter := atPrompt {} false
    let largest : Int := bound - 1
    interpreter.Reachable ∧ integer? "-007" = some (-7) ∧ integer? "9" = some 9 ∧
      integer? (toString largest) = some largest ∧ digitCount (toString largest) ≤ maxDigits ∧
      (interpreter.feed ("print " ++ "-007" ++ " + " ++ "9")).2.fault = none ∧
      (interpreter.feed ("print " ++ "-007" ++ " + " ++ "9")).2.out = "2" ++ "\n" ∧
      (interpreter.feed ("print " ++ toString largest ++ " " ++ "9" ++ " +")).2.out = "" ∧
      (interpreter.feed ("print " ++ toString largest ++ " " ++ "9" ++ " +")).2.fault =
        some ⟨.typeMismatch "+" "Number" "<integer too long>", 1⟩ := by
  intro interpreter largest
  have hreachable : interpreter.Reachable := reachable_atPrompt _ _
  have hpadded : integer? "-007" = some (-7) := by decide
  have hnine : integer? "9" = some 9 := by decide
  have hlargest : integer? (toString largest) = some largest := integer?_toString largest
  have hreads : digitCount (toString largest) ≤ maxDigits := by
    have hpos : 0 < bound := lt_bound_iff.mpr (by decide)
    rw [digitCount_toString_le_iff]
    omega
  have haddable : Addable "-007" "9" (-7 + 9) :=
    ⟨by decide, by decide, digitCount_toString_le_iff.mp (by decide)⟩
  have hnot : ¬ Addable (toString largest) "9" (largest + 9) := fun h => by
    have hsum := h.sum
    omega
  have hlong : tooLong (toString largest) "9" = "<integer too long>" := by
    rw [tooLong, if_neg (Nat.not_lt.mpr hreads), if_neg (by decide)]
  obtain ⟨hnone, hout⟩ := (feed_sum hreachable hpadded hnine (Or.inr rfl)).1.mpr haddable
  obtain ⟨hempty, -, hfault⟩ := (feed_sum hreachable hlargest hnine (Or.inl rfl)).2 hnot
  rw [hlong] at hfault
  exact ⟨hreachable, hpadded, hnine, hlargest, hreads, hnone, hout, hempty, hfault⟩

end Interpreter

end StackScript
