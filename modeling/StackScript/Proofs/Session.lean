import StackScript.Interpreter
import StackScript.Proofs.Evaluation

/-!
# Sessions

An interpreter is opened and then fed texts, one after the other, whether or not one of them is
stopped by an error. What an interpreter has at the start and every text keeps, it has for good.
-/

namespace StackScript

namespace Machine

/-- A run over the program comes to the point, in a line that began with the stack at height `base`. -/
def Visits (machine : Machine) (program : List Line) (base : Nat) (point : Point) : Prop :=
  ∃ done line rest started, program = done ++ line :: rest ∧
    evaluateLines done { machine with aborted := false } = { machine := started } ∧
    base = started.stack.length ∧ Point.Reaches base (Point.start started line) point

theorem evaluateLines_cons (line : Line) (rest : List Line) (machine : Machine) :
    evaluateLines (line :: rest) machine =
      match (machine.evaluateLine line).error with
      | none => evaluateLines rest (machine.evaluateLine line).machine
      | some _ => machine.evaluateLine line := rfl

theorem evaluateLines_preserves {motive : Machine → Prop} {program : List Line}
    (hline : ∀ line ∈ program, ∀ machine, motive machine →
      motive (machine.evaluateLine line).machine) {machine : Machine} (hstart : motive machine) :
    motive (evaluateLines program machine).machine := by
  induction program generalizing machine with
  | nil => exact hstart
  | cons line rest ih =>
      obtain ⟨hfirst, hrest⟩ := List.forall_mem_cons.mp hline
      rw [evaluateLines_cons]
      cases (machine.evaluateLine line).error with
      | none => exact ih hrest (hfirst machine hstart)
      | some fault => exact hfirst machine hstart

theorem run_machine (machine : Machine) (program : List Line) :
    (machine.run program).machine =
      match (evaluateLines program { machine with aborted := false }).error with
      | none => (evaluateLines program { machine with aborted := false }).machine
      | some _ => (evaluateLines program { machine with aborted := false }).machine.abort := by
  simp only [run]
  cases herror : (evaluateLines program { machine with aborted := false }).error <;> rfl

theorem run_error (machine : Machine) (program : List Line) :
    (machine.run program).error =
      (evaluateLines program { machine with aborted := false }).error := by
  simp only [run]
  cases herror : (evaluateLines program { machine with aborted := false }).error with
  | none => exact herror
  | some fault => rfl

end Machine

namespace Interpreter

def program (interpreter : Interpreter) (text : String) : List Line :=
  Line.ofText (interpreter.lineCount + 1) text

/-- An interpreter as it is after it was opened and fed any number of texts. -/
inductive Reachable : Interpreter → Prop
  | opened {files : String → Option (List UInt8)} {reporter : Reporter} {path : String}
      {interactive debug : Bool} {interpreter : Interpreter} :
      openPath files reporter path interactive debug = .ok interpreter → Reachable interpreter
  | fed {interpreter : Interpreter} (text : String) :
      Reachable interpreter → Reachable (interpreter.feed text).1

theorem feed_machine (interpreter : Interpreter) (text : String) :
    (interpreter.feed text).1.machine =
      { (interpreter.machine.run (interpreter.program text)).machine with printed := [] } := rfl

theorem execute_eq {interpreter : Interpreter} (hdebug : interpreter.debug = false)
    (program : List Line) :
    interpreter.execute program =
      ({ interpreter with
          machine := { (interpreter.machine.run program).machine with printed := [] } },
        { fault := (interpreter.machine.run program).error
          out := (interpreter.machine.run program).machine.output interpreter.reporter.style
          err := match (interpreter.machine.run program).error with
            | none => ""
            | some fault => interpreter.reporter.errorText fault.diagnostic }) := by
  cases herror : (interpreter.machine.run program).error <;> simp [execute, hdebug, herror]

theorem exists_source_of_openPath {files : String → Option (List UInt8)} {reporter : Reporter}
    {path : String} {interactive debug : Bool} {interpreter : Interpreter}
    (h : openPath files reporter path interactive debug = .ok interpreter) :
    ∃ source, interpreter =
      { reporter := { reporter with path, fatal := reporter.fatal && !interactive }
        debug
        source } := by
  unfold openPath at h
  split at h
  · split at h
    · cases h
      exact ⟨none, rfl⟩
    · cases h
  · obtain ⟨text, -, hsome⟩ := bind_eq_ok_iff.mp h
    cases hsome
    exact ⟨some text, rfl⟩

theorem machine_of_openPath {files : String → Option (List UInt8)} {reporter : Reporter}
    {path : String} {interactive debug : Bool} {interpreter : Interpreter}
    (h : openPath files reporter path interactive debug = .ok interpreter) :
    interpreter.machine = {} ∧ interpreter.lineCount = 0 := by
  obtain ⟨source, rfl⟩ := exists_source_of_openPath h
  exact ⟨rfl, rfl⟩

theorem settings_of_openPath {files : String → Option (List UInt8)} {reporter : Reporter}
    {path : String} {interactive debug : Bool} {interpreter : Interpreter}
    (h : openPath files reporter path interactive debug = .ok interpreter) :
    interpreter.reporter = { reporter with path, fatal := reporter.fatal && !interactive } ∧
      interpreter.debug = debug := by
  obtain ⟨source, rfl⟩ := exists_source_of_openPath h
  exact ⟨rfl, rfl⟩

theorem Reachable.printed_eq {interpreter : Interpreter} (h : interpreter.Reachable) :
    interpreter.machine.printed = [] := by
  cases h with
  | opened hopen => rw [(machine_of_openPath hopen).1]
  | fed => rfl

theorem reachable_atPrompt (reporter : Reporter) (debug : Bool) :
    (atPrompt reporter debug).Reachable := by
  have hopen : openPath (fun _ => none) reporter Reporter.inputPath true debug =
      .ok (atPrompt reporter debug) := by
    simp [openPath, atPrompt]
  exact .opened hopen

end Interpreter

end StackScript
