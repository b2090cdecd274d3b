import StackScript.Proofs.Frame
import StackScript.Proofs.Infix
import StackScript.Proofs.Session
import StackScript.Proofs.Spelling

/-!
# Texts of one line

A text that spells out the tokens of one line is that line, and to feed it is to evaluate the line on
the machine as it stands: a line that prints the value of an expression puts that value out and
leaves all else as it was, or fails with the error that came in its place.
-/

namespace StackScript

open Scanner

/-! ### Tokens that can stand on a line -/

/-- Of what ends statements or is left out of them, only a semicolon can stand in a token that is no string. -/
theorem Token.WellFormed.onLine {token : Token} (h : token.WellFormed) (hkind : token.kind ≠ .string)
    (hsemicolon : ';' ∉ token.text.toList) : token.OnLine := by
  refine ⟨h, fun c hc => ?_⟩
  have hblank := Token.isBlank_of_mem_text h hkind c hc
  refine ⟨?_, ?_, fun heq => hsemicolon (heq ▸ hc)⟩
  · rintro rfl
    exact absurd hblank (by decide)
  · rintro rfl
    exact absurd hblank (by decide)

theorem Token.onLine_number {text : String} (h : isNumeral text = true) :
    (⟨.number, text⟩ : Token).OnLine := by
  refine WellFormed.onLine h (by simp) fun hsemicolon => ?_
  obtain ⟨digits, -, hdigits, htext | htext⟩ := isNumeral_iff.mp h
  · exact absurd (hdigits ';' (htext ▸ hsemicolon)) (by decide)
  · rcases List.mem_cons.mp (htext ▸ hsemicolon) with hminus | hmem
    · exact absurd hminus (by decide)
    · exact absurd (hdigits ';' hmem) (by decide)

theorem Token.onLine_operator {c : Char} (h : isOperatorChar c = true) :
    (⟨.operator, String.singleton c⟩ : Token).OnLine := by
  refine WellFormed.onLine ⟨c, h, Or.inl rfl⟩ (by simp) fun hsemicolon => ?_
  obtain rfl : ';' = c := by simpa using hsemicolon
  exact absurd h (by decide)

theorem Token.onLine_print : (⟨.identifier, Machine.printName⟩ : Token).OnLine := by
  have hname : IsName Machine.printName :=
    ⟨List.all_eq_true.mp (by decide), 'p', rfl, by decide⟩
  exact WellFormed.onLine ⟨hname, by decide, by decide⟩ (by simp) (by decide)

/-! ### Lines that print or store -/

namespace Machine

variable {machine : Machine} {chain : List Link} {last value : Token}

theorem evaluateLine_print (hlast : last.IsOperand) (number : Int) (source : String) :
    machine.evaluateLine
        ⟨number, [⟨.identifier, printName⟩] ++ Link.written chain last, source⟩ =
      machine.conclude number (fun value => { machine with printed := value :: machine.printed })
        (machine.chainValue chain last) :=
  evaluateLine_chain hlast (fun value _ => evaluate_print value) number source

theorem evaluateLine_print_trailing (link : Link) (right : Token) (number : Int)
    (source : String) :
    machine.evaluateLine
        ⟨number, [⟨.identifier, printName⟩] ++
          [link.operand, right, (Operator.binary link.operator).token], source⟩ =
      machine.conclude number (fun value => { machine with printed := value :: machine.printed })
        (machine.chainValue [link] right) :=
  evaluateLine_trailing link right (fun value _ => evaluate_print value) number source

theorem chainValue_literal (machine : Machine) (hkind : value.kind ∈ TokenKind.literals) :
    machine.chainValue [] value = .ok value := by
  rw [chainValue_nil, valueOf_literal hkind]

theorem evaluateLine_assign_literal (hkind : value.kind ∈ TokenKind.literals) (name : String)
    (number : Int) (source : String) :
    machine.evaluateLine
        ⟨number, [⟨.identifier, name⟩, Operator.assign.token] ++ Link.written [] value, source⟩ =
      { machine := { machine with vars := machine.vars.assign name value } } := by
  have hnext : ∀ stored, machine.chainValue [] value = .ok stored →
      evaluate machine.stack.length 0 [⟨.identifier, name⟩, Operator.assign.token].reverse
          (machine.push stored) =
        { machine := { machine with vars := machine.vars.assign name stored } } := by
    intro stored hstored
    obtain rfl := Except.ok.inj ((machine.chainValue_literal hkind).symm.trans hstored)
    exact evaluate_assign hkind name
  rw [evaluateLine_chain (Or.inl hkind) hnext, chainValue_literal machine hkind]
  rfl

end Machine

/-! ### Feeding one line -/

theorem Machine.run_singleton (machine : Machine) (line : Line) :
    machine.run [line] =
      match ((machine.marked false).evaluateLine line).error with
      | none => (machine.marked false).evaluateLine line
      | some _ => { (machine.marked false).evaluateLine line with
          machine := ((machine.marked false).evaluateLine line).machine.abort } := by
  have hready : { machine with aborted := false } = machine.marked false := rfl
  simp only [run, evaluateLines, hready]
  obtain ⟨next, error⟩ := (machine.marked false).evaluateLine line
  cases error <;> rfl

namespace Interpreter

variable {interpreter : Interpreter} {text : String} {tokens : List Token} {line : Line}

theorem program_of_spell (interpreter : Interpreter) (htext : text.toList = Line.spell tokens)
    (hne : tokens ≠ []) (honLine : ∀ token ∈ tokens, token.OnLine) :
    interpreter.program text = [⟨interpreter.lineCount + 1, tokens, text⟩] := by
  have hspelled : text = Line.spellAll [tokens] := by
    apply String.toList_inj.mp
    rw [htext, Line.spellAll, String.toList_ofList, List.map_singleton, List.intercalate_singleton]
  have hsource : String.ofList (Line.spell tokens) = text := by
    rw [← htext, String.ofList_toList]
  rw [program, hspelled, Line.ofText_spellAll _ (List.forall_mem_singleton.mpr ⟨hne, honLine⟩)]
  simp [hsource, ← hspelled]

/-- An error leaves the output and the variables of its line as they were. -/
theorem feed_line (h : interpreter.program text = [line]) {ending : Ending Fault}
    (hline : (interpreter.machine.marked false).evaluateLine line = ending) :
    (interpreter.feed text).2.fault = ending.error ∧
      (interpreter.feed text).2.out = ending.machine.output interpreter.reporter.style ∧
      (interpreter.feed text).1.machine.vars = ending.machine.vars := by
  have hfault : (interpreter.feed text).2.fault =
      (interpreter.machine.run (interpreter.program text)).error := rfl
  have hout : (interpreter.feed text).2.out =
      (interpreter.machine.run (interpreter.program text)).machine.output
        interpreter.reporter.style := rfl
  rw [hfault, hout, feed_machine, h, Machine.run_singleton, hline]
  obtain ⟨machine, error⟩ := ending
  cases error <;> exact ⟨rfl, rfl, rfl⟩

/-- A line that prints the value of an expression, or fails for want of one. -/
theorem feed_print (hreachable : interpreter.Reachable) (h : interpreter.program text = [line])
    {result : Except ScriptError Token}
    (hline : (interpreter.machine.marked false).evaluateLine line =
      (interpreter.machine.marked false).conclude line.number
        (fun value => { interpreter.machine.marked false with
          printed := value :: interpreter.machine.printed }) result) :
    (∀ value, result = .ok value →
        (interpreter.feed text).2.fault = none ∧
        (interpreter.feed text).2.out = value.display interpreter.reporter.style ++ "\n") ∧
      (∀ error, result = .error error →
        (interpreter.feed text).2.fault = some ⟨error, line.number⟩ ∧
        (interpreter.feed text).2.out = "") ∧
      (interpreter.feed text).1.machine.vars = interpreter.machine.vars := by
  obtain ⟨hfault, hout, hvars⟩ := feed_line h hline
  rw [hfault, hout, hvars]
  cases result with
  | ok value =>
      refine ⟨fun value hvalue => ?_, fun error herror => (by cases herror), rfl⟩
      obtain rfl := Except.ok.inj hvalue
      refine ⟨rfl, ?_⟩
      simp [Machine.conclude, Machine.output, hreachable.printed_eq]
  | error error =>
      refine ⟨fun value hvalue => (by cases hvalue), fun error herror => ?_, rfl⟩
      obtain rfl := Except.error.inj herror
      refine ⟨rfl, ?_⟩
      simp [Machine.conclude, Machine.output, Machine.marked, hreachable.printed_eq]

end Interpreter

end StackScript
