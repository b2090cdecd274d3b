import StackScript.Proofs.Printing

/-!
# What is shown and what is done

An interpreter can show truth values and messages in bold, and it can show each text and its tokens
before it evaluates them. Both settings only say how things look: with other settings every text of
a session leaves the same machine and the same count of lines, and has the same outcome.
-/

namespace StackScript

open Text

theorem Token.display_ansi (token : Token) :
    token.display .ansi =
      if token.kind = .boolean then Style.ansi.bold (token.display .plain)
      else token.display .plain := by
  obtain ⟨kind, text⟩ := token
  cases kind <;> rfl

namespace Interpreter

/-- The interpreter with the style given, showing texts and tokens or not. -/
def showing (interpreter : Interpreter) (style : Style) (debug : Bool) : Interpreter :=
  { interpreter with reporter := { interpreter.reporter with style := style }, debug := debug }

/-- The values that the prints of a text show, in order. -/
def shown (interpreter : Interpreter) (text : String) : List Token :=
  (interpreter.prints text).map Point.shown

variable {interpreter : Interpreter}

theorem openPath_showing (files : String → Option (List UInt8)) (reporter : Reporter)
    (path : String) (interactive debug : Bool) (style : Style) (debug' : Bool) :
    openPath files { reporter with style := style } path interactive debug' =
      (openPath files reporter path interactive debug).map (·.showing style debug') := by
  unfold openPath
  by_cases hinput : path = Reporter.inputPath
  · simp only [if_pos hinput]
    cases interactive <;> rfl
  · simp only [if_neg hinput]
    cases readSource files path <;> rfl

theorem feed_showing (interpreter : Interpreter) (style : Style) (debug : Bool) (text : String) :
    ((interpreter.showing style debug).feed text).1 =
      (interpreter.feed text).1.showing style debug := rfl

theorem feedAll_showing (interpreter : Interpreter) (style : Style) (debug : Bool)
    (texts : List String) :
    ((interpreter.showing style debug).feedAll texts).1 =
      (interpreter.feedAll texts).1.showing style debug := by
  induction texts generalizing interpreter with
  | nil => rfl
  | cons text texts ih => simp only [feedAll_cons, feed_showing, ih]

theorem out_showing (hprinted : interpreter.machine.printed = []) (style : Style) (debug : Bool)
    (text : String) :
    ((interpreter.showing style debug).feed text).2.out =
      String.join ((interpreter.shown text).map fun value => value.display style ++ "\n") := by
  have hshowing : (interpreter.showing style debug).machine.printed = [] := hprinted
  rw [out_eq hshowing, shown, List.map_map]
  rfl

theorem err_showing (hdebug : interpreter.debug = false) (text : String) :
    ((interpreter.showing interpreter.reporter.style true).feed text).2.err =
      Line.echo text ++ Line.listings (interpreter.program text) ++
        (interpreter.feed text).2.err := by
  rw [feed_response hdebug]
  simp only [feed, execute, showing, if_true, String.append_assoc]
  rfl

/-- **Settings.** Opened with another style, or to show texts and tokens, an interpreter goes through every session alike: the same machine, count of lines and fault after each text. In the same style the output is the same too, and what is written before the report is the text in its frame, and in another one the number and the tokens of each line. With style, the output differs in nothing but the marks around truth values. -/
theorem feedAll_whatever_shown {files : String → Option (List UInt8)} {reporter : Reporter}
    {path : String} {interactive debug : Bool}
    (hopen : openPath files reporter path interactive debug = .ok interpreter)
    (style : Style) (debug' : Bool) :
    ∃ other, openPath files { reporter with style := style } path interactive debug' = .ok other ∧
      ∀ texts text,
        let reached := (interpreter.feedAll texts).1
        let reached' := (other.feedAll texts).1
        let response := (reached.feed text).2
        let response' := (reached'.feed text).2
        reached'.machine = reached.machine ∧ reached'.lineCount = reached.lineCount ∧
          response'.fault = response.fault ∧
          (style = reporter.style →
            response'.out = response.out ∧
              (debug = false → debug' = true →
                response'.err =
                  "--- Code ---\n" ++ text ++ "\n------------\n\n" ++
                    ("--- Tokens ---\n" ++
                      "\n".intercalate ((reached.program text).map fun line =>
                        toString line.number ++ ": [" ++
                          ", ".intercalate (line.tokens.map fun token =>
                            token.kind.name ++ "('" ++ token.text ++ "')") ++ "]") ++
                      "\n--------------\n\n") ++
                    response.err)) ∧
          (reporter.style = .plain → style = .ansi →
            response.out = String.join ((reached.shown text).map fun value =>
              value.display .plain ++ "\n") ∧
            response'.out = String.join ((reached.shown text).map fun value =>
              (if value.kind = .boolean then Style.ansi.bold (value.display .plain)
              else value.display .plain) ++ "\n")) := by
  refine ⟨interpreter.showing style debug', ?_, fun texts text => ?_⟩
  · rw [openPath_showing files reporter path interactive debug, hopen]
    rfl
  rw [feedAll_showing]
  intro reached reached' response response'
  have hprinted : reached.machine.printed = [] :=
    ((Reachable.opened hopen).feedAll texts).printed_eq
  obtain ⟨hreporter, hdebug⟩ := settings_of_openPath hopen
  obtain ⟨hreachedReporter, hreachedDebug⟩ := settings_feedAll interpreter texts
  have hstyle : reached.reporter.style = reporter.style := by
    rw [hreachedReporter, hreporter]
  have hout : response.out = String.join ((reached.shown text).map fun value =>
      value.display reporter.style ++ "\n") := by
    rw [← hstyle]
    exact out_showing hprinted reached.reporter.style reached.debug text
  have hout' : response'.out = String.join ((reached.shown text).map fun value =>
      value.display style ++ "\n") :=
    out_showing hprinted style debug' text
  refine ⟨rfl, rfl, rfl, fun hsame => ⟨by rw [hout, hout', hsame], ?_⟩, fun hplain hansi => ?_⟩
  · rintro hoff rfl
    have hquiet : reached.debug = false := hreachedDebug.trans (hdebug.trans hoff)
    have herr := err_showing hquiet text
    rw [hstyle, ← hsame] at herr
    exact herr
  · rw [hout, hout', hplain, hansi]
    simp only [Token.display_ansi, true_and]

/-- In bold, or with texts and tokens shown, the session prints the same three values and fails on the same name. The tokens shown are of all kinds. -/
theorem feedAll_whatever_shown_bold :
    let opened := atPrompt {} false
    let reached := (opened.feedAll ["t = 1 2 <"]).1
    let text := "print t; print 007\n(1 == true) z print \"x\""
    openPath (fun _ => none) {} Reporter.inputPath true false = .ok opened ∧
      (reached.feed text).2 =
        { fault := some ⟨.unknownIdentifier "z", 3⟩
          out := "true\n7\nx\n"
          err := "<in>:3: error: unknown identifier 'z'\n" } ∧
      (∃ other,
        openPath (fun _ => none) { style := .ansi } Reporter.inputPath true false = .ok other ∧
        ((other.feedAll ["t = 1 2 <"]).1.feed text).2.fault =
          some ⟨.unknownIdentifier "z", 3⟩ ∧
        ((other.feedAll ["t = 1 2 <"]).1.feed text).2.out =
          "\x1b[1mtrue\x1b[0m\n7\nx\n") ∧
      ∃ other, openPath (fun _ => none) {} Reporter.inputPath true true = .ok other ∧
        ((other.feedAll ["t = 1 2 <"]).1.feed text).2.err =
          "--- Code ---\nprint t; print 007\n(1 == true) z print \"x\"\n------------\n\n" ++
            "--- Tokens ---\n2: [Identifier('print'), Identifier('t')]\n" ++
            "2: [Identifier('print'), Number('007')]\n" ++
            "3: [Symbol('('), Number('1'), Operator('=='), Boolean('true'), Symbol(')'), " ++
            "Identifier('z'), Identifier('print'), String('x')]\n--------------\n\n" ++
            "<in>:3: error: unknown identifier 'z'\n" := by
  intro opened reached text
  have hopen : openPath (fun _ => none) {} Reporter.inputPath true false = .ok opened := rfl
  have hresponse : (reached.feed text).2 =
      { fault := some ⟨.unknownIdentifier "z", 3⟩
        out := "true\n7\nx\n"
        err := "<in>:3: error: unknown identifier 'z'\n" } := by
    decide +kernel
  have hshown : reached.shown text =
      [⟨.boolean, "true"⟩, ⟨.number, "007"⟩, ⟨.string, "x"⟩] := by
    decide +kernel
  refine ⟨hopen, hresponse, ?_, ?_⟩
  · obtain ⟨other, hother, hsession⟩ := feedAll_whatever_shown hopen .ansi false
    obtain ⟨-, -, hfault, -, hbold⟩ := hsession ["t = 1 2 <"] text
    refine ⟨other, hother, hfault.trans (congrArg Response.fault hresponse), ?_⟩
    rw [(hbold rfl rfl).2, hshown]
    decide +kernel
  · obtain ⟨other, hother, hsession⟩ := feedAll_whatever_shown hopen .plain true
    obtain ⟨-, -, -, hsame, -⟩ := hsession ["t = 1 2 <"] text
    refine ⟨other, hother, ?_⟩
    rw [(hsame rfl).2 rfl rfl, congrArg Response.err hresponse]
    decide +kernel

end Interpreter

end StackScript
