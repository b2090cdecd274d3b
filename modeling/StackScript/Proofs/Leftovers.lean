import StackScript.Proofs.Frame

/-!
# What earlier lines left on the stack

A line that has a value of its own for each of its prints does the same whatever lies on the stack
when it begins, and leaves that where it was, below the values it leaves itself. This holds also
when an error cuts the line short, even by an operator that has already taken a value.
-/

namespace StackScript

namespace Machine

/-- The machine with the values given below its own. -/
def above (machine : Machine) (stack : List Token) : Machine :=
  { machine with stack := machine.stack ++ stack }

/-- Evaluated on an empty stack, the line never comes to a print that finds no value. -/
def PrintsItsOwn (machine : Machine) (line : Line) : Prop :=
  ∀ q, Point.Reaches 0 (Point.start { machine with stack := [] } line) q →
    q.Prints → q.machine.stack ≠ []

theorem isFrame_above (stack : List Token) : IsFrame (above · stack) where
  vars _ := rfl
  push _ _ := rfl
  assign _ _ := rfl

theorem popAbove_above (machine : Machine) (stack : List Token) :
    (machine.above stack).popAbove stack.length =
      Prod.map id (above · stack) (machine.popAbove 0) := by
  rw [popAbove_eq, popAbove_eq]
  cases hown : machine.stack with
  | nil => simp [above, hown]
  | cons value rest =>
      have hheight : stack.length < (value :: rest ++ stack).length := by
        simp only [List.length_append, List.length_cons]
        omega
      simp only [above, hown, if_pos hheight, List.length_cons, Nat.zero_lt_succ, if_true]
      rfl

theorem print_above {machine : Machine} (hown : machine.stack ≠ []) (stack : List Token) :
    (machine.above stack).print = machine.print.above stack := by
  obtain ⟨value, rest, hstack⟩ := List.exists_cons_of_ne_nil hown
  simp only [print_eq, above, hstack, List.cons_append, List.head?_cons, List.tail_cons]

theorem printsItsOwn_of_no_print (machine : Machine) {line : Line}
    (hline : ∀ token ∈ line.tokens, token.kind = .identifier → token.text ≠ printName) :
    machine.PrintsItsOwn line := by
  intro q hreaches hprints
  have hsubset := hreaches.before_suffix.subset
  cases hprints with
  | @intro _ token before hkind hname =>
      have htoken : token ∈ line.tokens := List.mem_reverse.mp (hsubset List.mem_cons_self)
      exact absurd hname (hline token htoken hkind)

/-- **Leftovers are framed.** A line that prints only values of its own, as any line without a print does, has the same error, output and variables on every stack as on the empty one, and ends with the values it leaves there on top of that stack. -/
theorem evaluateLine_above (machine : Machine) (line : Line) :
    ((∀ token ∈ line.tokens, token.kind = .identifier → token.text ≠ printName) →
        machine.PrintsItsOwn line) ∧
      (machine.PrintsItsOwn line → ∀ stack,
        { machine with stack := stack }.evaluateLine line =
          { machine := ({ machine with stack := [] }.evaluateLine line).machine.above stack
            error := ({ machine with stack := [] }.evaluateLine line).error }) := by
  refine ⟨printsItsOwn_of_no_print machine, fun hprints stack => ?_⟩
  have hstart : { machine with stack := stack } = { machine with stack := [] }.above stack := rfl
  rw [hstart]
  apply (isFrame_above stack).evaluateLine
  intro q hreaches
  exact ⟨popAbove_above q.machine stack, fun hq => print_above (hprints q hreaches hq) stack⟩

/-- After `9`, the line `+ 2` fails for want of a left operand: its own value is gone by then, the 9 is still there. -/
theorem evaluateLine_above_failing :
    let line : Line := ⟨1, [⟨.operator, "+"⟩, ⟨.number, "2"⟩], "+ 2"⟩
    ({} : Machine).PrintsItsOwn line ∧
      { stack := [⟨.number, "9"⟩] : Machine }.evaluateLine line =
        { machine := { stack := [⟨.number, "9"⟩] }
          error := some ⟨.missingOperand "+" "left", 1⟩ } := by
  intro line
  have hline : ∀ token ∈ line.tokens, token.kind = .identifier → token.text ≠ printName := by
    decide
  have hprints := (evaluateLine_above {} line).1 hline
  have hframed := (evaluateLine_above {} line).2 hprints [⟨.number, "9"⟩]
  have hempty : ({} : Machine).evaluateLine line =
      { machine := {}, error := some ⟨.missingOperand "+" "left", 1⟩ } := by
    decide
  refine ⟨hprints, hframed.trans ?_⟩
  rw [hempty]
  rfl

end Machine

end StackScript
