import StackScript.Proofs.Names
import StackScript.Proofs.Numbering
import StackScript.Proofs.SingleLine

/-!
# Values that are stored

A variable holds a token, kind and text as they were written. It holds that token for as long as no
line assigns to its name, whatever else is fed and whether or not an error stops it, and a print
shows the token without taking it away. So padding that no print shows is still there.
-/

namespace StackScript

open Scanner

namespace Line

variable {line other : Line} {name : String}

theorem Assigns.of_tokens_eq (h : line.Assigns name) (htokens : other.tokens = line.tokens) :
    other.Assigns name := by
  simpa only [Assigns, neighbor?, htokens] using h

/-- Which names a text assigns to does not depend on where it stands in a session. -/
theorem exists_assigns_ofText {first again : Int} {text : String}
    (h : ∃ line ∈ ofText first text, line.Assigns name) :
    ∃ line ∈ ofText again text, line.Assigns name := by
  obtain ⟨line, hline, hassigns⟩ := h
  have htokens : line.tokens ∈ (ofText again text).map tokens := by
    rw [tokens_ofText again first]
    exact List.mem_map_of_mem hline
  obtain ⟨other, hother, heq⟩ := List.mem_map.mp htokens
  exact ⟨other, hother, hassigns.of_tokens_eq heq⟩

end Line

namespace Interpreter

variable {interpreter : Interpreter} {name : String} {value : Token}

/-! ### What leaves a variable alone -/

theorem find?_feed {text : String} (htext : ∀ line ∈ Line.ofText 1 text, ¬ line.Assigns name) :
    (interpreter.feed text).1.machine.vars.find? name = interpreter.machine.vars.find? name := by
  have hupdates := interpreter.machine.run_updates (interpreter.program text)
  by_contra hne
  obtain ⟨line, hline, hassigns⟩ := Line.exists_assigns_ofText (hupdates.changed name hne)
  exact htext line hline hassigns

theorem find?_feedAll {texts : List String}
    (htexts : ∀ text ∈ texts, ∀ line ∈ Line.ofText 1 text, ¬ line.Assigns name) :
    (interpreter.feedAll texts).1.machine.vars.find? name =
      interpreter.machine.vars.find? name := by
  induction texts generalizing interpreter with
  | nil => rfl
  | cons text texts ih =>
      obtain ⟨htext, hrest⟩ := List.forall_mem_cons.mp htexts
      rw [feedAll_cons]
      exact (ih hrest).trans (find?_feed htext)

/-! ### Storing and printing -/

/-- A literal that is assigned to a name is stored as it is written. -/
theorem feed_assign (interpreter : Interpreter) (hname : (⟨.identifier, name⟩ : Token).OnLine)
    (hkind : value.kind ∈ TokenKind.literals) (hvalue : value.OnLine) :
    (interpreter.feed (name ++ " = " ++ String.ofList value.lexeme)).2.fault = none ∧
      (interpreter.feed (name ++ " = " ++ String.ofList value.lexeme)).1.machine.vars =
        interpreter.machine.vars.assign name value := by
  have hassign : Operator.assign.token.OnLine := Token.onLine_operator (c := '=') (by decide)
  have hspell : (name ++ " = " ++ String.ofList value.lexeme).toList =
      Line.spell ([⟨.identifier, name⟩, Operator.assign.token] ++ Link.written [] value) := by
    simp [Line.spell, Link.written, Token.lexeme_of_ne_string, Operator.token, Operator.symbol]
  have hprogram := program_of_spell interpreter hspell (by simp)
    (by simp [Link.written, hname, hassign, hvalue])
  obtain ⟨hfault, -, hvars⟩ :=
    feed_line hprogram (Machine.evaluateLine_assign_literal hkind name _ _)
  exact ⟨hfault, hvars⟩

/-- The print of a name shows what it holds. -/
theorem feed_printName (hreachable : interpreter.Reachable)
    (hname : (⟨.identifier, name⟩ : Token).OnLine) (hprint : name ≠ Machine.printName)
    (hstored : interpreter.machine.vars.find? name = some value) :
    (interpreter.feed ("print " ++ name)).2.fault = none ∧
      (interpreter.feed ("print " ++ name)).2.out =
        value.display interpreter.reporter.style ++ "\n" ∧
      (interpreter.feed ("print " ++ name)).1.machine.vars = interpreter.machine.vars := by
  have hspell : ("print " ++ name).toList =
      Line.spell ([⟨.identifier, Machine.printName⟩] ++ Link.written [] ⟨.identifier, name⟩) := by
    simp [Line.spell, Link.written, Token.lexeme_of_ne_string, Machine.printName]
  have hprogram := program_of_spell interpreter hspell (by simp)
    (by simp [Link.written, hname, Token.onLine_print])
  have hlast : (⟨.identifier, name⟩ : Token).IsOperand := Or.inr ⟨rfl, hprint⟩
  have hvalue : (interpreter.machine.marked false).valueOf ⟨.identifier, name⟩ = .ok value :=
    (Machine.valueOf_identifier rfl).mpr hstored
  obtain ⟨hshown, -, hvars⟩ :=
    feed_print hreachable hprogram (Machine.evaluateLine_print hlast _ _)
  obtain ⟨hfault, hout⟩ := hshown value (by rw [Machine.chainValue_nil, hvalue])
  exact ⟨hfault, hout, hvars⟩

/-- **Stored as written.** Whatever was fed before, a literal that is assigned to a name is stored as it stands, and neither the texts fed after that, as long as none of them assigns to the name, nor the print that shows it in the end make it another. -/
theorem feed_stored (hreachable : interpreter.Reachable)
    (hname : (⟨.identifier, name⟩ : Token).WellFormed) (hsemicolon : ';' ∉ name.toList)
    (hprint : name ≠ Machine.printName) (hkind : value.kind ∈ TokenKind.literals)
    (hvalue : value.OnLine) {texts : List String}
    (htexts : ∀ text ∈ texts, ∀ line ∈ Line.ofText 1 text, ¬ line.Assigns name) :
    let stored := interpreter.feed (name ++ " = " ++ String.ofList value.lexeme)
    let later := (stored.1.feedAll texts).1
    let shown := later.feed ("print " ++ name)
    stored.2.fault = none ∧ stored.1.machine.vars.find? name = some value ∧
      later.machine.vars.find? name = some value ∧
      shown.2.fault = none ∧
      shown.2.out = value.display interpreter.reporter.style ++ "\n" ∧
      shown.1.machine.vars.find? name = some value := by
  intro stored later shown
  have honLine : (⟨.identifier, name⟩ : Token).OnLine := hname.onLine (by simp) hsemicolon
  obtain ⟨hstores, hvars⟩ := feed_assign interpreter honLine hkind hvalue
  have hfind : stored.1.machine.vars.find? name = some value := by
    rw [hvars, Variables.find?_assign_self]
  have hlater : later.machine.vars.find? name = some value := (find?_feedAll htexts).trans hfind
  have hfed : later.Reachable := (hreachable.fed _).feedAll texts
  have hstyle : later.reporter = interpreter.reporter := (settings_feedAll stored.1 texts).1
  obtain ⟨hshows, hout, hkept⟩ := feed_printName hfed honLine hprint hlater
  rw [hstyle] at hout
  refine ⟨hstores, hfind, hlater, hshows, hout, ?_⟩
  rw [hkept]
  exact hlater

/-- The padded -007 outlives a failure and a sum, and is shown as -7. -/
theorem feed_stored_padded :
    let interpreter := atPrompt {} false
    let value : Token := ⟨.number, "-007"⟩
    let texts := ["q", "y = x + 1; print y"]
    let stored := interpreter.feed ("x" ++ " = " ++ String.ofList value.lexeme)
    let later := stored.1.feedAll texts
    let shown := later.1.feed ("print " ++ "x")
    interpreter.Reachable ∧ String.ofList value.lexeme = "-007" ∧
      (∀ text ∈ texts, ∀ line ∈ Line.ofText 1 text, ¬ line.Assigns "x") ∧
      later.2.map (·.fault) = [some ⟨.unknownIdentifier "q", 2⟩, none] ∧
      stored.1.machine.vars.find? "x" = some value ∧
      value.display interpreter.reporter.style = "-7" ∧
      shown.2.out = value.display interpreter.reporter.style ++ "\n" ∧
      shown.1.machine.vars.find? "x" = some value := by
  intro interpreter value texts
  have hreachable : interpreter.Reachable := reachable_atPrompt _ _
  have hchar : isNameChar 'x' = true := by decide
  have hname : (⟨.identifier, "x"⟩ : Token).WellFormed :=
    ⟨⟨by simpa using hchar, 'x', rfl, by decide⟩, by decide, by decide⟩
  have hvalue : value.OnLine := Token.onLine_number (by decide)
  have htexts : ∀ text ∈ texts, ∀ line ∈ Line.ofText 1 text, ¬ line.Assigns "x" := by
    decide +kernel
  have hfaults : ((interpreter.feed ("x" ++ " = " ++ String.ofList value.lexeme)).1.feedAll
      texts).2.map (·.fault) = [some ⟨.unknownIdentifier "q", 2⟩, none] := by
    decide +kernel
  obtain ⟨-, hstored, -, -, hout, hkept⟩ :=
    feed_stored hreachable hname (by decide) (by decide) (by decide) hvalue htexts
  exact ⟨hreachable, by decide, htexts, hfaults, hstored, by decide, hout, hkept⟩

end Interpreter

end StackScript
