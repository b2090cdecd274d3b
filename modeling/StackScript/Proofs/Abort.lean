import StackScript.Proofs.Frame
import StackScript.Proofs.Joining

/-!
# Runs that an error stops

The first line that fails ends a run. The lines before it have been evaluated for good: what they
printed and stored stays, and so does what the failing line itself did up to then. The lines after
it are as if they had not been there. All that the next run finds of an aborted one are the
variables and a mark that it does not look at, so it goes as on a new interpreter with the same
variables.
-/

namespace StackScript

namespace Machine

/-- `Passes machine program last`: one after the other the lines are evaluated without an error, and `last` is the machine after them. -/
inductive Passes : Machine → List Line → Machine → Prop
  | nil {machine : Machine} : Passes machine [] machine
  | cons {machine next last : Machine} {line : Line} {rest : List Line} :
      machine.evaluateLine line = { machine := next } → Passes next rest last →
      Passes machine (line :: rest) last

variable {machine reached : Machine} {program before after : List Line} {line : Line} {fault : Fault}

theorem Passes.evaluateLines_eq (h : machine.Passes program reached) :
    evaluateLines program machine = { machine := reached } := by
  induction h with
  | nil => rfl
  | cons hline _ ih => rw [evaluateLines_cons, hline, ih]

theorem Passes.marked (h : machine.Passes program reached) (aborted : Bool) :
    (machine.marked aborted).Passes program (reached.marked aborted) := by
  induction h with
  | nil => exact .nil
  | cons hline _ ih =>
      refine .cons ?_ ih
      rw [evaluateLine_marked, hline]

theorem Passes.run_eq (h : machine.Passes program reached) :
    machine.run program = { machine := reached.marked false } := by
  have hpasses := (h.marked false).evaluateLines_eq
  unfold run
  change evaluateLines program { machine with aborted := false } = _ at hpasses
  rw [hpasses]

theorem line_of_fault (h : (machine.evaluateLine line).error = some fault) :
    fault.line = line.number := by
  obtain ⟨error, -, rfl⟩ := Option.map_eq_some_iff.mp h
  rfl

theorem Passes.run_of_fault (h : machine.Passes before reached)
    (hfault : (reached.evaluateLine line).error = some fault) (after : List Line) :
    machine.run (before ++ line :: after) =
      { machine := (reached.evaluateLine line).machine.abort, error := some fault } := by
  have hbefore := (h.marked false).evaluateLines_eq
  have hfailing : (reached.marked false).evaluateLine line =
      { machine := (reached.evaluateLine line).machine.marked false, error := some fault } := by
    rw [evaluateLine_marked]
    exact congrArg (Ending.mk _) hfault
  unfold run
  change evaluateLines before { machine with aborted := false } = _ at hbefore
  rw [evaluateLines_append, hbefore]
  simp only [evaluateLines_cons, hfailing]
  rfl

/-- An error occurs on `line`, in a run that has evaluated `before` without one. -/
def FailsOn (machine : Machine) (before : List Line) (line : Line) (fault : Fault) : Prop :=
  ∃ reached, machine.Passes before reached ∧ (reached.evaluateLine line).error = some fault

theorem FailsOn.marked (h : machine.FailsOn before line fault) (aborted : Bool) :
    (machine.marked aborted).FailsOn before line fault := by
  obtain ⟨reached, hpasses, hfault⟩ := h
  refine ⟨reached.marked aborted, hpasses.marked aborted, ?_⟩
  rw [evaluateLine_marked]
  exact hfault

theorem FailsOn.line_eq (h : machine.FailsOn before line fault) : fault.line = line.number := by
  obtain ⟨reached, -, hfault⟩ := h
  exact line_of_fault hfault

theorem exists_failsOn_of_evaluateLines (h : (evaluateLines program machine).error = some fault) :
    ∃ before line after, program = before ++ line :: after ∧
      machine.FailsOn before line fault := by
  induction program generalizing machine with
  | nil => cases h
  | cons line rest ih =>
      rw [evaluateLines_cons] at h
      cases hline : (machine.evaluateLine line).error with
      | none =>
          rw [hline] at h
          obtain ⟨before, failing, after, rfl, reached, hpasses, hfault⟩ := ih h
          have hnext : machine.evaluateLine line =
              { machine := (machine.evaluateLine line).machine } := by
            rw [← hline]
          exact ⟨line :: before, failing, after, rfl, reached, .cons hnext hpasses, hfault⟩
      | some other =>
          rw [hline] at h
          exact ⟨[], line, rest, rfl, machine, .nil, h⟩

/-- A run that an error stops has come to a line on which it occurs. -/
theorem exists_failsOn (h : (machine.run program).error = some fault) :
    ∃ before line after, program = before ++ line :: after ∧
      machine.FailsOn before line fault := by
  rw [run_error] at h
  have herror : (evaluateLines program (machine.marked false)).error = some fault := h
  obtain ⟨before, line, after, hprogram, hfails⟩ := exists_failsOn_of_evaluateLines herror
  exact ⟨before, line, after, hprogram, hfails.marked machine.aborted⟩

end Machine

namespace Interpreter

/-- The interpreter with a new machine that holds these variables and nothing else. -/
def renewed (interpreter : Interpreter) (vars : Variables) : Interpreter :=
  { interpreter with machine := { vars := vars } }

/-- Executes programs one after the other, whether or not one of them is stopped by an error, and gives the interpreter after each and the response to it. -/
def executeEach (interpreter : Interpreter) : List (List Line) → List (Interpreter × Response)
  | [] => []
  | program :: rest =>
    interpreter.execute program :: (interpreter.execute program).1.executeEach rest

variable {interpreter : Interpreter}

theorem executeEach_marked (interpreter : Interpreter) (aborted : Bool)
    (programs : List (List Line)) :
    { interpreter with machine := interpreter.machine.marked aborted }.executeEach programs =
      interpreter.executeEach programs := by
  cases programs with
  | nil => rfl
  | cons program rest => rfl

/-- **Abort and recovery.** An error ends a run at the line it occurs on, and what has been printed and stored by then stays; it is reported once, and all that the next runs find of it are the variables. A run without an error reports nothing. -/
theorem execute_upto_fault (hdebug : interpreter.debug = false) :
    (∀ before failing reached fault, interpreter.machine.Passes before reached →
      (reached.evaluateLine failing).error = some fault →
        (∀ after, interpreter.execute (before ++ failing :: after) =
          ({ interpreter with
              machine :=
                { stack := []
                  vars := (reached.evaluateLine failing).machine.vars
                  aborted := true } },
            { fault := some fault
              out := (reached.evaluateLine failing).machine.output interpreter.reporter.style
              err := interpreter.reporter.errorText
                (fault.error.diagnostic (some failing.number)) })) ∧
          fault.line = failing.number ∧
          ∀ after programs,
            (interpreter.execute (before ++ failing :: after)).1.executeEach programs =
              (interpreter.renewed (reached.evaluateLine failing).machine.vars).executeEach
                programs) ∧
      ∀ program reached, interpreter.machine.Passes program reached →
        interpreter.execute program =
          ({ interpreter with
              machine := { stack := reached.stack, vars := reached.vars, aborted := false } },
            { fault := none, out := reached.output interpreter.reporter.style, err := "" }) := by
  constructor
  · intro before failing reached fault hbefore hfault
    have hline := Machine.line_of_fault hfault
    refine ⟨fun after => ?_, hline, fun after programs => ?_⟩
    · rw [execute_eq hdebug, hbefore.run_of_fault hfault after, ← hline]
      rfl
    · rw [execute_eq hdebug, hbefore.run_of_fault hfault after]
      exact executeEach_marked (interpreter.renewed _) true programs
  · intro program reached hpasses
    rw [execute_eq hdebug, hpasses.run_eq]
    rfl

/-- The line `q 7 print 5` prints its 5 and pushes its 7 before it fails, and leaves only the 1 of `x = 1` behind. -/
theorem execute_upto_fault_unknown :
    let interpreter := atPrompt {} false
    let first : Line := ⟨1, [⟨.identifier, "x"⟩, ⟨.operator, "="⟩, ⟨.number, "1"⟩], "x = 1"⟩
    let failing : Line := ⟨2, [⟨.identifier, "q"⟩, ⟨.number, "7"⟩, ⟨.identifier, "print"⟩,
      ⟨.number, "5"⟩], "q 7 print 5"⟩
    let reached : Machine := { vars.entries := [("x", ⟨.number, "1"⟩)] }
    interpreter.debug = false ∧ interpreter.machine.Passes [first] reached ∧
      (reached.evaluateLine failing).error = some ⟨.unknownIdentifier "q", 2⟩ ∧
      interpreter.execute [first, failing, first] =
        ({ interpreter with machine := { vars := reached.vars, aborted := true } },
          { fault := some ⟨.unknownIdentifier "q", 2⟩
            out := "5\n"
            err := "<in>:2: error: unknown identifier 'q'\n" }) ∧
      (interpreter.execute [first, failing, first]).1.executeEach [[failing], [first]] =
        (interpreter.renewed reached.vars).executeEach [[failing], [first]] ∧
      (interpreter.execute [first]).1.machine.aborted = false := by
  intro interpreter first failing reached
  have hdebug : interpreter.debug = false := rfl
  have hpasses : interpreter.machine.Passes [first] reached := .cons (by decide +kernel) .nil
  have hfailed : reached.evaluateLine failing =
      { machine := { reached with
          stack := [⟨.number, "7"⟩], printed := [⟨.number, "5"⟩] }
        error := some ⟨.unknownIdentifier "q", 2⟩ } := by
    decide +kernel
  have hfault : (reached.evaluateLine failing).error = some ⟨.unknownIdentifier "q", 2⟩ :=
    congrArg Ending.error hfailed
  obtain ⟨hstopped, hpassed⟩ := execute_upto_fault hdebug
  obtain ⟨hexecute, -, hlater⟩ := hstopped [first] failing reached _ hpasses hfault
  rw [hfailed] at hexecute hlater
  refine ⟨hdebug, hpasses, hfault, (hexecute [first]).trans ?_,
    hlater [first] [[failing], [first]], ?_⟩
  · decide +kernel
  · rw [hpassed [first] reached hpasses]

end Interpreter

end StackScript
