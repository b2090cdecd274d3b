import StackScript.Proofs.Lines
import StackScript.Proofs.Output

/-!
# Texts fed one by one and all at once

A text can be cut at any newline and fed in pieces. A run over the lines of the first piece ends
where a run over the lines of the rest begins: the machine carries over, and the lines are numbered
on. Only an error keeps the pieces apart, since nothing after it is evaluated.
-/

namespace StackScript

namespace Machine

variable {machine : Machine} {program rest : List Line}

theorem evaluateLines_append :
    evaluateLines (program ++ rest) machine =
      match (evaluateLines program machine).error with
      | none => evaluateLines rest (evaluateLines program machine).machine
      | some _ => evaluateLines program machine := by
  induction program generalizing machine with
  | nil => rfl
  | cons line program ih =>
      simp only [List.cons_append, evaluateLines_cons]
      cases herror : (machine.evaluateLine line).error with
      | none => exact ih
      | some fault => simp only [herror]

theorem Turn.aborted {base used : Nat} {next : Machine} {token : Token} {before : List Token}
    (h : machine.Turn base token before used next) : next.aborted = machine.aborted := by
  cases h with
  | literal | fetch | symbol => rfl
  | print => rw [print_eq]
  | operator _ _ hoperands happly => exact (hoperands.kept happly).2

theorem Fails.aborted {base : Nat} {next : Machine} {token : Token}
    (h : machine.Fails base token next) : next.aborted = machine.aborted := by
  cases h <;> rfl

theorem evaluateLine_aborted (machine : Machine) (line : Line) :
    (machine.evaluateLine line).machine.aborted = machine.aborted := by
  refine evaluateLine_preserves (motive := fun next => next.aborted = machine.aborted)
    (fun q hreaches => ?_) fun hfails h => hfails.aborted.trans h
  refine hreaches.preserves (motive := fun p => p.machine.aborted = machine.aborted) ?_ rfl
  intro p q hstep hp
  cases hstep with
  | skip => exact hp
  | turn hturn => exact hturn.aborted.trans hp

/-- A run over lines and more lines is a run over the first ones and, unless an error stops it, one over the others from where it ends. -/
theorem run_append :
    machine.run (program ++ rest) =
      match (machine.run program).error with
      | none => (machine.run program).machine.run rest
      | some _ => machine.run program := by
  have haborted :
      (evaluateLines program { machine with aborted := false }).machine.aborted = false :=
    evaluateLines_preserves (motive := fun machine => machine.aborted = false)
      (fun line _ machine h => (evaluateLine_aborted machine line).trans h) rfl
  simp only [run, evaluateLines_append]
  generalize evaluateLines program { machine with aborted := false } = ending at haborted
  obtain ⟨next, error⟩ := ending
  cases error with
  | none =>
      have hnext : { next with aborted := false } = next := by
        rw [← haborted]
      simp only [hnext]
  | some fault => rfl

end Machine

namespace Response

/-- The response to texts that were fed one after the other: all that was put out, and what became of the last. -/
def join (responses : List Response) : Response :=
  { fault := responses.getLast?.bind (·.fault)
    out := String.join (responses.map (·.out))
    err := String.join (responses.map (·.err)) }

theorem join_singleton (response : Response) : join [response] = response := by
  simp [join]

theorem join_cons (response : Response) {responses : List Response} (h : responses ≠ []) :
    join (response :: responses) =
      { fault := (join responses).fault
        out := response.out ++ (join responses).out
        err := response.err ++ (join responses).err } := by
  simp [join, List.getLast?_cons_of_ne_nil h]

end Response

namespace Interpreter

/-- Feeds texts one after the other, up to the first that an error stops, and gives the responses. -/
def feedEach (interpreter : Interpreter) : List String → Interpreter × List Response
  | [] => (interpreter, [])
  | text :: rest =>
    let (next, response) := interpreter.feed text
    match response.fault with
    | some _ => (next, [response])
    | none =>
      let (last, responses) := next.feedEach rest
      (last, response :: responses)

variable {interpreter : Interpreter} {text rest : String}

theorem feed_response (hdebug : interpreter.debug = false) :
    (interpreter.feed text).2 =
      { fault := (interpreter.machine.run (interpreter.program text)).error
        out := (interpreter.machine.run (interpreter.program text)).machine.output
          interpreter.reporter.style
        err := match (interpreter.machine.run (interpreter.program text)).error with
          | none => ""
          | some fault => interpreter.reporter.errorText fault.diagnostic } := by
  unfold program
  cases herror :
      (interpreter.machine.run (Line.ofText (interpreter.lineCount + 1) text)).error <;>
    simp [feed, execute, hdebug, herror]

theorem program_join :
    interpreter.program (text ++ "\n" ++ rest) =
      interpreter.program text ++ (interpreter.feed text).1.program rest := by
  have hcount : ((interpreter.feed text).1.lineCount : Int) + 1 =
      interpreter.lineCount + 1 + text.toList.count '\n' + 1 := by
    simp only [feed, execute]
    omega
  calc interpreter.program (text ++ "\n" ++ rest)
      = Line.ofText (interpreter.lineCount + 1) text ++
          Line.ofText (interpreter.lineCount + 1 + text.toList.count '\n' + 1) rest :=
        Line.ofText_join _ text rest
    _ = interpreter.program text ++ (interpreter.feed text).1.program rest := by
        rw [program, program, hcount]

theorem lineCount_join (interpreter : Interpreter) (text rest : String) :
    (interpreter.feed (text ++ "\n" ++ rest)).1.lineCount =
      ((interpreter.feed text).1.feed rest).1.lineCount := by
  simp only [feed, execute, String.toList_append, List.count_append]
  have hnewline : "\n".toList.count '\n' = 1 := rfl
  omega

theorem run_join_of_some {fault : Fault} (h : (interpreter.feed text).2.fault = some fault) :
    interpreter.machine.run (interpreter.program (text ++ "\n" ++ rest)) =
      interpreter.machine.run (interpreter.program text) := by
  have herror : (interpreter.machine.run (interpreter.program text)).error = some fault := h
  rw [program_join, Machine.run_append, herror]

/-- Without an error in the first text, the run over both is the run over the second, but for what the first has printed. -/
theorem run_join_of_none (h : (interpreter.feed text).2.fault = none) :
    interpreter.machine.run (interpreter.program (text ++ "\n" ++ rest)) =
      { (interpreter.feed text).1.machine.run ((interpreter.feed text).1.program rest) with
        machine := ((interpreter.feed text).1.machine.run
          ((interpreter.feed text).1.program rest)).machine.printedAfter
            (interpreter.machine.run (interpreter.program text)).machine.printed } := by
  have herror : (interpreter.machine.run (interpreter.program text)).error = none := h
  have hmachine : (interpreter.feed text).1.machine.printedAfter
      (interpreter.machine.run (interpreter.program text)).machine.printed =
        (interpreter.machine.run (interpreter.program text)).machine := rfl
  calc interpreter.machine.run (interpreter.program (text ++ "\n" ++ rest))
      = (interpreter.machine.run (interpreter.program text)).machine.run
          ((interpreter.feed text).1.program rest) := by
        rw [program_join, Machine.run_append, herror]
    _ = _ := by rw [← Machine.run_printedAfter, hmachine]

theorem feed_join_of_some (rest : String) (hdebug : interpreter.debug = false) {fault : Fault}
    (h : (interpreter.feed text).2.fault = some fault) :
    (interpreter.feed (text ++ "\n" ++ rest)).1.machine = (interpreter.feed text).1.machine ∧
      (interpreter.feed (text ++ "\n" ++ rest)).2 = (interpreter.feed text).2 := by
  rw [feed_machine, feed_machine, feed_response hdebug, feed_response hdebug, run_join_of_some h]
  exact ⟨rfl, rfl⟩

theorem feed_join_of_none (rest : String) (hdebug : interpreter.debug = false)
    (h : (interpreter.feed text).2.fault = none) :
    (interpreter.feed (text ++ "\n" ++ rest)).1.machine =
        ((interpreter.feed text).1.feed rest).1.machine ∧
      (interpreter.feed (text ++ "\n" ++ rest)).2 =
        { fault := ((interpreter.feed text).1.feed rest).2.fault
          out := (interpreter.feed text).2.out ++ ((interpreter.feed text).1.feed rest).2.out
          err := (interpreter.feed text).2.err ++
            ((interpreter.feed text).1.feed rest).2.err } := by
  have hdebug' : (interpreter.feed text).1.debug = false := hdebug
  have herror : (interpreter.machine.run (interpreter.program text)).error = none := h
  constructor
  · rw [feed_machine, feed_machine, run_join_of_none h]
    rfl
  · rw [feed_response hdebug, feed_response hdebug', feed_response hdebug, run_join_of_none h,
      herror, Machine.output_printedAfter, String.empty_append]
    rfl

theorem feedEach_of_some {fault : Fault} {rest : List String}
    (h : (interpreter.feed text).2.fault = some fault) :
    interpreter.feedEach (text :: rest) =
      ((interpreter.feed text).1, [(interpreter.feed text).2]) := by
  simp only [feedEach, h]

theorem feedEach_of_none {rest : List String} (h : (interpreter.feed text).2.fault = none) :
    interpreter.feedEach (text :: rest) =
      (((interpreter.feed text).1.feedEach rest).1,
        (interpreter.feed text).2 :: ((interpreter.feed text).1.feedEach rest).2) := by
  simp only [feedEach, h]

theorem feedEach_ne_nil {texts : List String} (h : texts ≠ []) :
    (interpreter.feedEach texts).2 ≠ [] := by
  cases texts with
  | nil => exact absurd rfl h
  | cons text rest =>
      cases hfault : (interpreter.feed text).2.fault with
      | none => simp [feedEach_of_none hfault]
      | some fault => simp [feedEach_of_some hfault]

/-- Texts that newlines join do at once what they do one after the other, up to the first that an error stops. -/
theorem feed_intercalate {texts : List String} (hdebug : interpreter.debug = false)
    (htexts : texts ≠ []) :
    (interpreter.feed ("\n".intercalate texts)).1.machine = (interpreter.feedEach texts).1.machine ∧
      (interpreter.feed ("\n".intercalate texts)).2 = Response.join (interpreter.feedEach texts).2 ∧
      ((interpreter.feed ("\n".intercalate texts)).2.fault = none →
        (interpreter.feed ("\n".intercalate texts)).1.lineCount =
          (interpreter.feedEach texts).1.lineCount) := by
  induction texts generalizing interpreter with
  | nil => exact absurd rfl htexts
  | cons text rest ih =>
      -- the last text has no newline after it, so it is a case of its own
      cases rest with
      | nil =>
          rw [String.intercalate_singleton]
          cases hfault : (interpreter.feed text).2.fault with
          | none =>
              rw [feedEach_of_none hfault]
              exact ⟨rfl, (Response.join_singleton _).symm, fun _ => rfl⟩
          | some fault =>
              rw [feedEach_of_some hfault]
              exact ⟨rfl, (Response.join_singleton _).symm, fun _ => rfl⟩
      | cons next others =>
          have hrest : next :: others ≠ [] := List.cons_ne_nil next others
          rw [String.intercalate_cons_of_ne_nil hrest]
          cases hfault : (interpreter.feed text).2.fault with
          | none =>
              have hdebug' : (interpreter.feed text).1.debug = false := hdebug
              obtain ⟨hmachine, hresponse⟩ :=
                feed_join_of_none ("\n".intercalate (next :: others)) hdebug hfault
              obtain ⟨ihMachine, ihResponse, ihCount⟩ := ih hdebug' hrest
              rw [feedEach_of_none hfault, hmachine, hresponse,
                Response.join_cons _ (feedEach_ne_nil hrest), ← ihResponse]
              refine ⟨ihMachine, rfl, fun hnone => ?_⟩
              rw [lineCount_join]
              exact ihCount hnone
          | some fault =>
              obtain ⟨hmachine, hresponse⟩ :=
                feed_join_of_some ("\n".intercalate (next :: others)) hdebug hfault
              rw [feedEach_of_some hfault, hmachine, hresponse, Response.join_singleton]
              exact ⟨rfl, rfl, fun hnone => by simp [hfault] at hnone⟩

theorem feed_intercalate_pair :
    (atPrompt {} false).debug = false ∧ ["x = 1", "x print"] ≠ [] ∧
      ((atPrompt {} false).feed "x = 1\nx print").2.fault = none ∧
      ((atPrompt {} false).feed "x = 1\nx print").1.machine =
        ((atPrompt {} false).feedEach ["x = 1", "x print"]).1.machine ∧
      ((atPrompt {} false).feed "x = 1\nx print").2 =
        Response.join ((atPrompt {} false).feedEach ["x = 1", "x print"]).2 ∧
      ((atPrompt {} false).feed "x = 1\nx print").1.lineCount =
        ((atPrompt {} false).feedEach ["x = 1", "x print"]).1.lineCount := by
  have htexts : ["x = 1", "x print"] ≠ [] := by decide
  have hdebug : (atPrompt {} false).debug = false := rfl
  have hfault : ((atPrompt {} false).feed "x = 1\nx print").2.fault = none := by decide +kernel
  obtain ⟨hmachine, hresponse, hcount⟩ := feed_intercalate hdebug htexts
  exact ⟨hdebug, htexts, hfault, hmachine, hresponse, hcount hfault⟩

end Interpreter

end StackScript
