import StackScript.Proofs.Frame
import StackScript.Proofs.Session

/-!
# What was printed before

The machine adds to what it has printed and never reads it. With other values printed before, every
evaluation goes as it does without them and ends with them behind what it has printed itself, so the
output of a run is what was put out before, followed by what the run puts out on its own.
-/

namespace StackScript

namespace Machine

/-- The machine as it is when it has printed the values given before its own. -/
def printedAfter (machine : Machine) (earlier : List Token) : Machine :=
  { machine with printed := machine.printed ++ earlier }

variable {machine : Machine} {earlier : List Token}

theorem output_printedAfter (style : Text.Style) :
    (machine.printedAfter earlier).output style =
      { printed := earlier : Machine }.output style ++ machine.output style := by
  simp only [output, printedAfter, List.reverse_append, List.map_append, String.join_append]

theorem print_printedAfter :
    (machine.printedAfter earlier).print = machine.print.printedAfter earlier := by
  simp only [print_eq, printedAfter, List.cons_append]

theorem isFrame_printedAfter (earlier : List Token) : IsFrame (printedAfter · earlier) where
  vars _ := rfl
  push _ _ := rfl
  assign _ _ := rfl

theorem evaluateLine_printedAfter (line : Line) :
    (machine.printedAfter earlier).evaluateLine line =
      { machine.evaluateLine line with
        machine := (machine.evaluateLine line).machine.printedAfter earlier } := by
  apply (isFrame_printedAfter earlier).evaluateLine
  intro q _
  constructor
  · exact popAbove_frame (printedAfter · earlier) (fun _ => rfl) (fun _ _ => rfl) q.machine _
  · intro _
    exact print_printedAfter

theorem evaluateLines_printedAfter (program : List Line) :
    evaluateLines program (machine.printedAfter earlier) =
      { evaluateLines program machine with
        machine := (evaluateLines program machine).machine.printedAfter earlier } := by
  induction program generalizing machine with
  | nil => rfl
  | cons line rest ih =>
      rw [evaluateLines_cons, evaluateLines_cons, evaluateLine_printedAfter]
      cases herror : (machine.evaluateLine line).error with
      | none => exact ih
      | some fault => rfl

theorem run_printedAfter (program : List Line) :
    (machine.printedAfter earlier).run program =
      { machine.run program with
        machine := (machine.run program).machine.printedAfter earlier } := by
  have hready : { machine.printedAfter earlier with aborted := false } =
      { machine with aborted := false }.printedAfter earlier := rfl
  simp only [run, hready, evaluateLines_printedAfter]
  obtain ⟨next, error⟩ := evaluateLines program { machine with aborted := false }
  cases error <;> rfl

end Machine

end StackScript
