import StackScript.Proofs.Messages
import StackScript.Proofs.Numbering

/-!
# A line for each print, and one for the error

What is printed are values, and no value is displayed with a newline in it. So the output of a text
has as many lines as prints had their turn, and the report of the error that stops it is one line.
-/

namespace StackScript

open Text

/-! ### Displayed values -/

theorem Numeral.oneLine_canonical {numeral : Numeral} (h : '\n' ∉ numeral.digits) :
    OneLine numeral.canonical := by
  have hrest : '\n' ∉ numeral.digits.dropWhile (· == '0') := fun hc =>
    h ((List.dropWhile_suffix _).mem hc)
  unfold canonical
  split
  · decide
  · cases numeral.negative <;> simpa [OneLine] using hrest

theorem oneLine_canonicalText {text : String} (h : OneLine text) : OneLine (canonicalText text) := by
  unfold canonicalText
  split
  · rename_i numeral hnumeral
    obtain ⟨-, htext⟩ := Numeral.ofChars?_eq_some_iff.mp hnumeral
    refine Numeral.oneLine_canonical fun hc => h ?_
    rw [htext]
    split
    · exact List.mem_cons_of_mem _ hc
    · exact hc
  · exact h

theorem Token.oneLine_display {token : Token} (h : OneLine token.text) (style : Style) :
    OneLine (token.display style) := by
  unfold display
  split
  · exact oneLine_canonicalText h
  · exact h.bold style
  · exact h

theorem Point.WellTyped.oneLine_shown {point : Point} (h : point.WellTyped) :
    OneLine point.shown.text := by
  unfold Point.shown
  cases hhead : point.machine.stack.head? with
  | none => decide
  | some value => exact (h.machine.stack value (List.mem_of_mem_head? hhead)).oneLine

theorem count_newline_join {texts : List String} (h : ∀ text ∈ texts, OneLine text) :
    (String.join (texts.map (· ++ "\n"))).toList.count '\n' = texts.length := by
  induction texts with
  | nil => rfl
  | cons text texts ih =>
      obtain ⟨htext, htexts⟩ := List.forall_mem_cons.mp h
      have hnewline : "\n".toList.count '\n' = 1 := rfl
      rw [List.map_cons, String.join_cons, String.toList_append, String.toList_append,
        List.count_append, List.count_append, ih htexts, List.count_eq_zero.mpr htext, hnewline,
        List.length_cons]
      omega

/-! ### The report of an error -/

theorem OneLine.place {reporter : Reporter} (h : OneLine reporter.path) (number : Int) :
    OneLine (reporter.place (some number)) := by
  unfold Reporter.place
  refine OneLine.bold ?_ _
  have hnumber := oneLine_of_isNumeral (isNumeral_toString number)
  simp only [oneLine_append]
  exact ⟨⟨⟨h, by decide⟩, hnumber⟩, by decide⟩

theorem errorText_fault (reporter : Reporter) (fault : Fault) :
    reporter.errorText fault.diagnostic =
      reporter.place (some fault.line) ++ reporter.style.boldColour .red "error: " ++
        fault.error.message.render reporter.style ++ "\n" := by
  simp [Reporter.errorText, Fault.diagnostic, ScriptError.diagnostic]

namespace Interpreter

variable {interpreter : Interpreter} {files : String → Option (List UInt8)} {reporter : Reporter}
  {path : String} {interactive : Bool}

/-- The points of a text at which a print has its turn. -/
def prints (interpreter : Interpreter) (text : String) : List Point :=
  (interpreter.machine.runTurns (interpreter.program text)).filter (·.Prints)

theorem out_eq (hprinted : interpreter.machine.printed = []) (text : String) :
    (interpreter.feed text).2.out =
      String.join ((interpreter.prints text).map fun point =>
        point.shown.display interpreter.reporter.style ++ "\n") := by
  have hrun := Machine.printed_run (interpreter.program text) interpreter.machine
  rw [hprinted, List.append_nil] at hrun
  have hout : (interpreter.feed text).2.out =
      (interpreter.machine.run (interpreter.program text)).machine.output
        interpreter.reporter.style := rfl
  rw [hout, Machine.output, hrun, Machine.shownAt, List.reverse_reverse, List.map_map, prints]
  rfl

theorem oneLine_of_mem_prints (h : interpreter.Reachable) {text : String} {point : Point}
    (hpoint : point ∈ interpreter.prints text) (style : Style) :
    OneLine (point.shown.display style) := by
  obtain ⟨base, hvisits⟩ := Machine.exists_visits_of_mem_runTurns (List.mem_filter.mp hpoint).1
  have hwell := h.wellTyped.visits (onLine_of_mem_program interpreter text) hvisits
  exact Token.oneLine_display hwell.oneLine_shown style

/-- What is reported of a text is one line for the error that stopped it, or nothing. -/
theorem report_of_feed (h : interpreter.Reachable) (hdebug : interpreter.debug = false)
    (hpath : OneLine interpreter.reporter.path) (text : String) :
    ((interpreter.feed text).2.fault = none → (interpreter.feed text).2.err = "") ∧
      ∀ fault, (interpreter.feed text).2.fault = some fault →
        ∃ line, OneLine line ∧ (interpreter.feed text).2.err = line ++ "\n" ∧
          line = interpreter.reporter.place (some fault.line) ++
            interpreter.reporter.style.boldColour .red "error: " ++
              fault.error.message.render interpreter.reporter.style := by
  have hresponse := @feed_response interpreter text hdebug
  have hfault : (interpreter.feed text).2.fault =
      (interpreter.machine.run (interpreter.program text)).error := rfl
  rw [hfault]
  refine ⟨fun hnone => ?_, fun fault hsome => ?_⟩
  · rw [hresponse, hnone]
  · have herror := h.wellTyped.oneLine_of_run (onLine_of_mem_program interpreter text) hsome
    refine ⟨_, ?_, ?_, rfl⟩
    · simp only [oneLine_append]
      exact ⟨⟨OneLine.place hpath fault.line, OneLine.boldColour (by decide) _ _⟩,
        herror.message _⟩
    · rw [hresponse, hsome]
      exact errorText_fault interpreter.reporter fault

/-- **Lines.** For each text of a session the output is a line for each print that had its turn, and the report is one line with place and message of the error that stopped it, or nothing. -/
theorem feed_lines (hopen : openPath files reporter path interactive false = .ok interpreter)
    (hpath : OneLine path) (texts : List String) (text : String) :
    let reached := (interpreter.feedAll texts).1
    let response := (reached.feed text).2
    response.out.toList.count '\n' = (reached.prints text).length ∧
      response.out = String.join ((reached.prints text).map fun point =>
        point.shown.display reporter.style ++ "\n") ∧
      (∀ point ∈ reached.prints text, OneLine (point.shown.display reporter.style)) ∧
      (response.fault = none → response.err = "") ∧
      ∀ fault, response.fault = some fault →
        ∃ line, OneLine line ∧ response.err = line ++ "\n" ∧
          line = reporter.style.bold (path ++ ":" ++ toString fault.line ++ ": ") ++
            reporter.style.boldColour .red "error: " ++
              fault.error.message.render reporter.style := by
  intro reached response
  have hreachable : reached.Reachable := (Reachable.opened hopen).feedAll texts
  obtain ⟨hreporter, hdebug⟩ := settings_of_openPath hopen
  obtain ⟨hreached, hreachedDebug⟩ := settings_feedAll interpreter texts
  have hsettings : reached.reporter =
      { reporter with path, fatal := reporter.fatal && !interactive } :=
    hreached.trans hreporter
  have hout := out_eq hreachable.printed_eq text
  have hreport := report_of_feed hreachable (hreachedDebug.trans hdebug)
    (by rw [hsettings]; exact hpath) text
  rw [hsettings] at hout hreport
  have honeLine : ∀ point ∈ reached.prints text, OneLine (point.shown.display reporter.style) :=
    fun _ hpoint => oneLine_of_mem_prints hreachable hpoint reporter.style
  refine ⟨?_, hout, honeLine, hreport⟩
  have hlines : ∀ line ∈ (reached.prints text).map (·.shown.display reporter.style),
      OneLine line := List.forall_mem_map.mpr honeLine
  have hcount := count_newline_join hlines
  rw [List.map_map, List.length_map] at hcount
  exact (congrArg (fun out => out.toList.count '\n') hout).trans hcount

/-- Three prints, one of them of a string that no quote closes, and then an error: three lines of output and one of report. -/
theorem feed_lines_unclosed :
    let opened : Interpreter := { reporter := { path := "a.pfx", style := .ansi }, source := some "" }
    let reached := (opened.feedAll ["x = \"a\ny = true"]).1
    let text := "print x x +\nprint y; z print 007"
    openPath (fun _ => some []) { style := .ansi } "a.pfx" false false = .ok opened ∧
      OneLine "a.pfx" ∧
      (reached.feed text).2.out = "aa\n\x1b[1mtrue\x1b[0m\n7\n" ∧
      (reached.prints text).length = 3 ∧
      (reached.feed text).2.fault = some ⟨.unknownIdentifier "z", 4⟩ ∧
      (reached.feed text).2.err =
        "\x1b[1ma.pfx:4: \x1b[0m\x1b[1m\x1b[31merror: \x1b[0munknown identifier '\x1b[1mz\x1b[0m'\n" := by
  intro opened reached text
  have hopen : openPath (fun _ => some []) { style := .ansi } "a.pfx" false false = .ok opened := by
    cbv
  have hpath : OneLine "a.pfx" := by decide
  have hout : (reached.feed text).2.out = "aa\n\x1b[1mtrue\x1b[0m\n7\n" := by decide +kernel
  have hfault : (reached.feed text).2.fault = some ⟨.unknownIdentifier "z", 4⟩ := by
    decide +kernel
  obtain ⟨hcount, -, -, -, hreport⟩ :=
    feed_lines hopen hpath ["x = \"a\ny = true"] text
  obtain ⟨line, -, herr, hline⟩ := hreport _ hfault
  refine ⟨hopen, hpath, hout, ?_, hfault, ?_⟩
  · rw [← hcount, hout]
    decide
  · rw [herr, hline]
    decide +kernel

end Interpreter

end StackScript
