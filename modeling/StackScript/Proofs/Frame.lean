import StackScript.Proofs.Evaluation

/-!
# What evaluation goes on above

An operator reads the variables and takes what lies above the height at which its line began; a
value that is pushed lands on top. Whatever else a machine carries, such as values further down,
values printed before or the mark of an aborted run, is a frame: evaluation neither reads it nor
changes it, and so does the same with it as without it. A print is the one thing that can see a
frame, as it takes the top of the stack wherever that lies.
-/

namespace StackScript

/-- The next turn is that of a print. -/
inductive Point.Prints : Point → Prop
  | intro {machine : Machine} {token : Token} {before : List Token} :
      token.kind = .identifier → token.text = Machine.printName →
      Point.Prints ⟨machine, 0, token :: before⟩

namespace Machine

/-- A frame leaves the variables as they are, and it does not matter whether it is put around a machine before or after a value is pushed or stored. -/
structure IsFrame (frame : Machine → Machine) : Prop where
  vars : ∀ machine, (frame machine).vars = machine.vars
  push : ∀ machine value, (frame machine).push value = frame (machine.push value)
  assign : ∀ machine vars, { frame machine with vars := vars } = frame { machine with vars := vars }

/-- The frame is out of sight at a point: the same value is taken off the stack with it as without it, by an operator or by the print that comes next. -/
structure OutOfSight (frame : Machine → Machine) (base base' : Nat) (point : Point) : Prop where
  popAbove : (frame point.machine).popAbove base' =
    Prod.map id frame (point.machine.popAbove base)
  print : point.Prints → (frame point.machine).print = frame point.machine.print

namespace IsFrame

variable {frame : Machine → Machine} {base base' skip : Nat} {machine : Machine}
  {token : Token} {before : List Token}

theorem valueOf (h : IsFrame frame) : (frame machine).valueOf token = machine.valueOf token := by
  unfold Machine.valueOf
  rw [h.vars]

theorem operand (h : IsFrame frame) (neighbor? : Option Token) (operator side : String)
    (named : Bool) :
    (frame machine).operand neighbor? operator side named =
      machine.operand neighbor? operator side named := by
  unfold Machine.operand
  simp only [h.valueOf]

theorem apply (h : IsFrame frame) (operator : Operator) (left right : Token) :
    (frame machine).apply operator left right =
      (machine.apply operator left right).map frame := by
  cases operator with
  | assign =>
      simp only [Machine.apply, store, h.vars, h.assign]
      split
      · cases OperandClass.literal.check Operator.assign.symbol right <;> rfl
      · rfl
  | binary operator =>
      simp only [Machine.apply, h.push]
      cases operator.apply left right <;> rfl

theorem perform (h : IsFrame frame) (operator : Operator) (right? : Option Token) :
    (frame machine).perform operator right? before =
      (machine.perform operator right? before).map (Prod.map id frame) := by
  cases right? with
  | some right =>
      simp only [Machine.perform, h.operand, h.apply, bind, Except.bind]
      cases machine.operand before[0]? operator.symbol "left" (decide (operator = .assign)) with
      | error error => rfl
      | ok left =>
          simp only
          cases machine.apply operator left right <;> rfl
  | none =>
      simp only [Machine.perform, h.operand, h.apply, bind, Except.bind]
      cases machine.operand before[0]? operator.symbol "right" (decide (operator = .assign)) with
      | error error => rfl
      | ok right =>
          simp only
          cases machine.operand before[1]? operator.symbol "left" (decide (operator = .assign)) with
          | error error => rfl
          | ok left =>
              simp only
              cases machine.apply operator left right <;> rfl

theorem operate (h : IsFrame frame)
    (hpop : (frame machine).popAbove base' = Prod.map id frame (machine.popAbove base))
    (symbol : String) :
    (frame machine).operate symbol before base' =
      Prod.map id frame (machine.operate symbol before base) := by
  unfold Machine.operate
  cases Operator.ofSymbol? symbol with
  | none => rfl
  | some operator =>
      simp only [hpop, Prod.map_fst, Prod.map_snd, id, h.perform]
      cases (machine.popAbove base).2.perform operator (machine.popAbove base).1 before <;> rfl

theorem visit (h : IsFrame frame)
    (hprint : token.text = printName → (frame machine).print = frame machine.print) :
    (frame machine).visit token = (machine.visit token).map frame := by
  unfold Machine.visit
  by_cases hname : token.text = printName
  · rw [if_pos hname, if_pos hname, hprint hname]
    rfl
  · rw [if_neg hname, if_neg hname, h.valueOf]
    simp only [h.push]
    cases machine.valueOf token <;> rfl

theorem takeTurn (h : IsFrame frame)
    (hsight : OutOfSight frame base base' ⟨machine, 0, token :: before⟩) :
    Machine.takeTurn base' (frame machine) token before =
      Prod.map id frame (Machine.takeTurn base machine token before) := by
  unfold Machine.takeTurn
  cases hkind : token.kind with
  | number | string | boolean =>
      simp only [h.push]
      rfl
  | identifier =>
      simp only [h.visit fun hname => hsight.print (.intro hkind hname)]
      cases machine.visit token <;> rfl
  | operator => exact h.operate hsight.popAbove token.text
  | symbol => rfl

/-- An evaluation that never has the frame in sight goes with it as it goes without it. -/
theorem evaluate (h : IsFrame frame)
    (hsight : ∀ q, Point.Reaches base ⟨machine, skip, before⟩ q → OutOfSight frame base base' q) :
    Machine.evaluate base' skip before (frame machine) =
      { Machine.evaluate base skip before machine with
        machine := frame (Machine.evaluate base skip before machine).machine } := by
  induction before generalizing skip machine with
  | nil => cases skip <;> rfl
  | cons token before ih =>
      cases skip with
      | succ skip => exact ih fun q hreaches => hsight q (.head .skip hreaches)
      | zero =>
          rw [evaluate_cons, evaluate_cons, h.takeTurn (hsight _ .refl)]
          match hturn : Machine.takeTurn base machine token before with
          | (.ok used, next) =>
              have hstep := takeTurn_eq_ok_iff.mp hturn
              exact ih fun q hreaches => hsight q (.head (.turn hstep) hreaches)
          | (.error error, next) => rfl

theorem evaluateLine (h : IsFrame frame) {line : Line}
    (hsight : ∀ q, Point.Reaches machine.stack.length (Point.start machine line) q →
      OutOfSight frame machine.stack.length (frame machine).stack.length q) :
    (frame machine).evaluateLine line =
      { machine.evaluateLine line with
        machine := frame (machine.evaluateLine line).machine } := by
  unfold Machine.evaluateLine
  rw [h.evaluate hsight]

end IsFrame

/-! ### Frames that leave the stack as it is -/

theorem popAbove_eq (machine : Machine) (base : Nat) :
    machine.popAbove base =
      if base < machine.stack.length then
        (machine.stack.head?, { machine with stack := machine.stack.tail })
      else (none, machine) := by
  by_cases hlt : base < machine.stack.length
  · obtain ⟨right, rest, hstack⟩ := exists_top hlt
    rw [popAbove_of_lt hstack hlt, if_pos hlt, hstack]
    rfl
  · rw [popAbove_of_le (Nat.not_lt.mp hlt), if_neg hlt]

theorem popAbove_frame (frame : Machine → Machine)
    (hstack : ∀ machine, (frame machine).stack = machine.stack)
    (hput : ∀ machine stack, { frame machine with stack := stack } =
      frame { machine with stack := stack })
    (machine : Machine) (base : Nat) :
    (frame machine).popAbove base = Prod.map id frame (machine.popAbove base) := by
  rw [popAbove_eq, popAbove_eq, hstack, hput]
  split <;> rfl

/-- The machine with the mark that tells whether its last run was aborted. -/
def marked (aborted : Bool) (machine : Machine) : Machine :=
  { machine with aborted := aborted }

theorem isFrame_marked (aborted : Bool) : IsFrame (marked aborted) where
  vars _ := rfl
  push _ _ := rfl
  assign _ _ := rfl

/-- No evaluation depends on whether the run before it was aborted. -/
theorem evaluateLine_marked (aborted : Bool) (machine : Machine) (line : Line) :
    (machine.marked aborted).evaluateLine line =
      { machine.evaluateLine line with
        machine := (machine.evaluateLine line).machine.marked aborted } := by
  apply (isFrame_marked aborted).evaluateLine
  intro q _
  constructor
  · exact popAbove_frame (marked aborted) (fun _ => rfl) (fun _ _ => rfl) q.machine _
  · intro _
    simp only [print_eq, marked]

end Machine

end StackScript
