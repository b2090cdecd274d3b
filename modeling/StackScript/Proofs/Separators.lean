import StackScript.Proofs.Joining
import StackScript.Proofs.Statements

/-!
# Newlines and semicolons

A semicolon ends a statement as a newline does, also within quotes and comments; a newline ends a
physical line besides, and only the numbers of the lines tell. Numbers are for reports: lines with
the same tokens are evaluated alike, whatever their numbers. So a text does the same when it is
spread out with every statement on a physical line of its own.
-/

namespace StackScript

namespace Line

def spreadChar (c : Char) : Char :=
  if c = ';' then '\n' else c

/-- The text with a newline in place of each semicolon. -/
def spread (text : String) : String :=
  String.ofList (text.toList.map spreadChar)

variable {c : Char}

theorem separates_spreadChar (h : Separates c) : Separates (spreadChar c) := by
  rcases h with rfl | rfl <;> exact Or.inl rfl

theorem spreadChar_of_not_separates (h : ¬ Separates c) : spreadChar c = c :=
  if_neg fun hsemicolon => h (Or.inr hsemicolon)

theorem map_snd_statements_separator (h : Separates c) (l : List Char) :
    (statements (c :: l)).map Prod.snd = [] :: (statements l).map Prod.snd := by
  rw [statements_separator h, List.map_cons, List.map_map]
  rfl

theorem map_snd_statements_cons (h : ¬ Separates c) (l : List Char) :
    (statements (c :: l)).map Prod.snd = ((statements l).map Prod.snd).modifyHead (c :: ·) := by
  rw [statements_of_not_separates h]
  cases statements l <;> rfl

/-- Spread out, a text has the same statements. -/
theorem map_snd_statements_map (l : List Char) :
    (statements (l.map spreadChar)).map Prod.snd = (statements l).map Prod.snd := by
  induction l with
  | nil => rfl
  | cons c l ih =>
      rw [List.map_cons]
      by_cases hc : Separates c
      · rw [map_snd_statements_separator (separates_spreadChar hc),
          map_snd_statements_separator hc, ih]
      · rw [spreadChar_of_not_separates hc, map_snd_statements_cons hc,
          map_snd_statements_cons hc, ih]

theorem map_tokens_spread (first again : Int) (text : String) :
    (ofText first (spread text)).map tokens = (ofText again text).map tokens := by
  rw [map_tokens_ofText, map_tokens_ofText, spread, String.toList_ofList, map_snd_statements_map]

end Line

/-! ### Lines with other numbers -/

/-- The endings differ in nothing but the number of the line at fault, if there is a fault. -/
structure Ending.Alike (ending other : Ending Fault) : Prop where
  machine : other.machine = ending.machine
  error : other.error.map Fault.error = ending.error.map Fault.error

theorem Ending.Alike.error_of_none {ending other : Ending Fault} (h : ending.Alike other)
    (hnone : ending.error = none) : other.error = none := by
  have herror := h.error
  rwa [hnone, Option.map_none, Option.map_eq_none_iff] at herror

theorem Ending.Alike.error_of_some {ending other : Ending Fault} {fault : Fault}
    (h : ending.Alike other) (hsome : ending.error = some fault) :
    ∃ line, other.error = some { fault with line := line } := by
  have herror := h.error
  rw [hsome, Option.map_some, Option.map_eq_some_iff] at herror
  obtain ⟨⟨error, line⟩, hother, rfl⟩ := herror
  exact ⟨line, hother⟩

namespace Machine

variable {line other : Line} {program others : List Line}

theorem evaluateLine_alike (h : other.tokens = line.tokens) (machine : Machine) :
    (machine.evaluateLine line).Alike (machine.evaluateLine other) := by
  unfold evaluateLine
  rw [h]
  refine ⟨rfl, ?_⟩
  simp only [Option.map_map]
  rfl

theorem evaluateLines_alike (h : others.map Line.tokens = program.map Line.tokens)
    (machine : Machine) : (evaluateLines program machine).Alike (evaluateLines others machine) := by
  induction program generalizing others machine with
  | nil =>
      obtain rfl := List.map_eq_nil_iff.mp h
      exact ⟨rfl, rfl⟩
  | cons line program ih =>
      obtain ⟨other, others, rfl, hline, hrest⟩ := List.map_eq_cons_iff.mp h
      have halike := evaluateLine_alike hline machine
      rw [evaluateLines_cons, evaluateLines_cons]
      cases herror : (machine.evaluateLine line).error with
      | none =>
          rw [halike.error_of_none herror, halike.machine]
          exact ih hrest _
      | some fault =>
          obtain ⟨line', hother⟩ := halike.error_of_some herror
          rw [hother]
          exact halike

/-- A run depends on the tokens of its lines, and else only the number in its fault on theirs. -/
theorem run_alike (h : others.map Line.tokens = program.map Line.tokens) (machine : Machine) :
    (machine.run program).Alike (machine.run others) := by
  have halike := evaluateLines_alike h { machine with aborted := false }
  constructor
  · rw [run_machine, run_machine, halike.machine]
    cases herror : (evaluateLines program { machine with aborted := false }).error with
    | none => rw [halike.error_of_none herror]
    | some fault =>
        obtain ⟨line, hother⟩ := halike.error_of_some herror
        rw [hother]
  · rw [run_error, run_error]
    exact halike.error

end Machine

namespace Interpreter

/-- **A semicolon is a newline.** A text and the same text spread out, fed to an interpreter that shows neither texts nor tokens, leave it with the same stack, variables and mark of an aborted run, and put out the same. Either both end without an error or both with the same one. All that differs is the count of lines and the number of the line at fault. -/
theorem feed_spread {interpreter : Interpreter} (hdebug : interpreter.debug = false)
    (text : String) :
    let spread := interpreter.feed (Line.spread text)
    let packed := interpreter.feed text
    spread.1 = { packed.1 with lineCount := spread.1.lineCount } ∧
      (packed.2.fault = none → spread.2 = packed.2) ∧
      ∀ fault, packed.2.fault = some fault → ∃ line,
        spread.2 =
          { packed.2 with
            fault := some { fault with line := line }
            err := interpreter.reporter.errorText { fault with line := line }.diagnostic } := by
  intro spread packed
  have halike : (interpreter.machine.run (interpreter.program text)).Alike
      (interpreter.machine.run (interpreter.program (Line.spread text))) :=
    Machine.run_alike (Line.map_tokens_spread _ _ text) interpreter.machine
  have hspread : spread.2 = _ := feed_response hdebug
  have hpacked : packed.2 = _ := feed_response hdebug
  rw [halike.machine] at hspread
  refine ⟨?_, fun hnone => ?_, fun fault hsome => ?_⟩
  · have hmachine : spread.1.machine = packed.1.machine := by
      rw [feed_machine, feed_machine, halike.machine]
    calc spread.1
        = { interpreter with machine := spread.1.machine, lineCount := spread.1.lineCount } := rfl
      _ = { packed.1 with lineCount := spread.1.lineCount } := by rw [hmachine]; rfl
  · have hended : (interpreter.machine.run (interpreter.program text)).error = none := hnone
    rw [hspread, hpacked, halike.error_of_none hended, hended]
  · have hfailed : (interpreter.machine.run (interpreter.program text)).error = some fault := hsome
    obtain ⟨line, hother⟩ := halike.error_of_some hfailed
    refine ⟨line, ?_⟩
    rw [hspread, hpacked, hother]

/-- A comment ends at a semicolon too. The unknown `q` is on the second line of the text, and on the fourth when it is spread out. -/
theorem feed_spread_comment :
    let interpreter := atPrompt {} false
    let text := "x = 1; print x # note; print 2\nq"
    let packed := interpreter.feed text
    let spread := interpreter.feed (Line.spread text)
    interpreter.debug = false ∧ Line.spread text = "x = 1\n print x # note\n print 2\nq" ∧
      packed.2 =
        { fault := some ⟨.unknownIdentifier "q", 2⟩
          out := "1\n2\n"
          err := "<in>:2: error: unknown identifier 'q'\n" } ∧
      spread.1.machine = packed.1.machine ∧ spread.2.out = "1\n2\n" ∧
      spread.2.fault = some ⟨.unknownIdentifier "q", 4⟩ := by
  intro interpreter text packed spread
  have hpacked : packed.2 =
      { fault := some ⟨.unknownIdentifier "q", 2⟩
        out := "1\n2\n"
        err := "<in>:2: error: unknown identifier 'q'\n" } := by
    decide +kernel
  have hdebug : interpreter.debug = false := rfl
  obtain ⟨hnext, -, hfault⟩ := feed_spread hdebug text
  obtain ⟨line, hspread⟩ := hfault _ (congrArg Response.fault hpacked)
  have hmachine : spread.1.machine = packed.1.machine := by
    rw [hnext]
  have hout : spread.2.out = packed.2.out := by
    rw [hspread]
  have hline : spread.2.fault = some ⟨.unknownIdentifier "q", 4⟩ := by
    decide +kernel
  refine ⟨hdebug, by decide +kernel, hpacked, hmachine, ?_, hline⟩
  rw [hout, hpacked]

end Interpreter

end StackScript
