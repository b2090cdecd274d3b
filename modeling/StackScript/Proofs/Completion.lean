import StackScript.CommandLine.Run
import StackScript.Proofs.Conversation
import StackScript.Proofs.Printing

/-!
# How the program ends

With a file the program ends with status 0 if there is a script in it that no error stops. What
fails instead, be it the file or the script, leaves one line and status 1. A conversation reads no
file and ends with status 0 whatever is typed in: at the first line that ends it, or at the end of
the input.
-/

namespace StackScript

open Text

/-! ### The lines of a conversation -/

namespace Text

/-- The lines of an input are the texts that a newline ends, and what is left after the last newline, if anything is. -/
def AreLinesOf (lines : List String) (input : String) : Prop :=
  ∃ (ended : List String) (rest : String), (∀ line ∈ ended, OneLine line) ∧ OneLine rest ∧
    input = String.join (ended.map (· ++ "\n")) ++ rest ∧
    lines = if rest = "" then ended else ended ++ [rest]

theorem toList_ended (ended : List String) (rest : String) :
    (String.join (ended.map (· ++ "\n")) ++ rest).toList =
      ['\n'].intercalate ((ended ++ [rest]).map String.toList) := by
  induction ended with
  | nil => simp
  | cons line ended ih =>
      rw [List.cons_append, List.map_cons, List.map_cons,
        List.intercalate_cons_of_ne_nil (by simp), ← ih]
      simp

theorem inputLines_eq {input : String} {ended : List String} {rest : String}
    (h : input.toList.splitOn '\n' = (ended ++ [rest]).map String.toList) :
    inputLines input = if rest = "" then ended else ended ++ [rest] := by
  have hlines : (input.toList.splitOn '\n').map String.ofList = ended ++ [rest] := by
    rw [h, List.map_map]
    simp
  rw [inputLines, hlines]
  by_cases hempty : rest = "" <;> simp [hempty]

/-- An input has lines, and none but these. -/
theorem areLinesOf_iff {lines : List String} {input : String} :
    AreLinesOf lines input ↔ lines = inputLines input := by
  constructor
  · rintro ⟨ended, rest, hended, hrest, rfl, rfl⟩
    refine (inputLines_eq ?_).symm
    rw [toList_ended]
    refine List.splitOn_intercalate '\n' ?_ (by simp)
    simpa [OneLine, or_imp, forall_and] using ⟨hended, hrest⟩
  · rintro rfl
    obtain ⟨ended, rest, hlines⟩ : ∃ ended rest,
        (input.toList.splitOn '\n').map String.ofList = ended ++ [rest] :=
      ⟨_, _, (List.dropLast_concat_getLast (by simp [List.splitOn_ne_nil])).symm⟩
    have hpieces : input.toList.splitOn '\n' = (ended ++ [rest]).map String.toList := by
      rw [← hlines, List.map_map]
      simp
    have honeLine : ∀ line ∈ ended ++ [rest], OneLine line := by
      intro line hline hnewline
      have hpiece : line.toList ∈ input.toList.splitOn '\n' :=
        hpieces ▸ List.mem_map_of_mem hline
      exact (mem_of_mem_splitOn hpiece hnewline).2 rfl
    refine ⟨ended, rest, fun line hline => honeLine line (List.mem_append_left _ hline),
      honeLine rest (by simp), String.toList_inj.mp ?_, inputLines_eq hpieces⟩
    rw [toList_ended, ← hpieces, List.intercalate_splitOn]

end Text

namespace Prompt

/-- The lines that are read: those up to the first that ends the conversation, or all and then the end of the input. -/
def handled (lines : List String) : List String :=
  lines.takeWhile (¬ Ends ·) ++ [(lines.find? (Ends ·)).getD "EOF"]

variable {line : String}

theorem handled_cons_of_ends (h : Ends line) (rest : List String) :
    handled (line :: rest) = [line] := by
  rw [handled, List.takeWhile_cons_of_neg (by simpa using h),
    List.find?_cons_of_pos (by simpa using h)]
  rfl

theorem handled_cons_of_not_ends (h : ¬ Ends line) (rest : List String) :
    handled (line :: rest) = line :: handled rest := by
  rw [handled, List.takeWhile_cons_of_pos (by simpa using h),
    List.find?_cons_of_neg (by simpa using h), List.cons_append, handled]

end Prompt

namespace Interpreter

theorem length_replyAll (interpreter : Interpreter) (lines : List String) :
    (interpreter.replyAll lines).2.length = lines.length := by
  induction lines generalizing interpreter with
  | nil => rfl
  | cons line lines ih => rw [replyAll_cons, List.length_cons, ih, List.length_cons]

/-- A conversation replies to the lines that are read, one after the other. -/
theorem converse_eq (interpreter : Interpreter) (lines : List String) :
    interpreter.converse lines = (interpreter.replyAll (Prompt.handled lines)).2 := by
  induction lines generalizing interpreter with
  | nil => rfl
  | cons line lines ih =>
      rw [converse]
      by_cases hends : Prompt.Ends line
      · rw [if_pos ((interpreter.verdict_reply line).mpr hends), Prompt.handled_cons_of_ends hends]
        rfl
      · rw [if_neg ((interpreter.verdict_reply line).not.mpr hends), ih,
          Prompt.handled_cons_of_not_ends hends, replyAll_cons]

end Interpreter

/-! ### The report of a failure -/

/-- One line that reports an error: first the path, then what else is known of the place, and the message. -/
def ErrorLine (path err : String) : Prop :=
  ∃ place message, OneLine (path ++ place ++ "error: " ++ message) ∧
    err = path ++ place ++ "error: " ++ message ++ "\n"

theorem errorLine_errorText {reporter : Reporter} (hstyle : reporter.style = .plain)
    (hpath : OneLine reporter.path) {diagnostic : Diagnostic}
    (hmessage : OneLine (diagnostic.message.render .plain)) :
    ErrorLine reporter.path (reporter.errorText diagnostic) := by
  have hline : ∃ number, OneLine number ∧
      reporter.place diagnostic.line = reporter.path ++ number := by
    cases diagnostic.line with
    | none => exact ⟨": ", by decide, by simp [Reporter.place, hstyle]⟩
    | some number =>
        refine ⟨":" ++ toString number ++ ": ", ?_, ?_⟩
        · simp only [oneLine_append]
          exact ⟨⟨by decide, oneLine_of_isNumeral (isNumeral_toString number)⟩, by decide⟩
        · simp [Reporter.place, hstyle, String.append_assoc]
  obtain ⟨number, hnumber, hplace⟩ := hline
  have hinternal : OneLine (if diagnostic.internal then "[internal] " else "") := by
    split <;> decide
  refine ⟨number ++ if diagnostic.internal then "[internal] " else "",
    diagnostic.message.render .plain, ?_, ?_⟩
  · simp only [oneLine_append]
    exact ⟨⟨⟨hpath, hnumber, hinternal⟩, by decide⟩, hmessage⟩
  · simp [Reporter.errorText, hplace, hstyle, String.append_assoc]

theorem Text.Utf8.oneLine_hex (b : UInt8) : OneLine (hex b) := by
  have hdigit : ∀ n < 16, Nat.digitChar n ≠ '\n' := by decide
  have hhigh := hdigit (b.toNat / 16) (by have := b.toNat_lt; omega)
  have hlow := hdigit (b.toNat % 16) (Nat.mod_lt _ (by decide))
  simp [OneLine, hex, hhigh.symm, hlow.symm]

theorem oneLine_toString_nat (n : Nat) : OneLine (toString n) :=
  oneLine_of_isNumeral (isNumeral_toString (n : Int))

theorem Text.Utf8.Fault.oneLine_message (fault : Fault) : OneLine fault.message := by
  have hposition := oneLine_toString_nat fault.position
  have hreason : OneLine fault.reason.text := by cases fault.reason <;> decide
  unfold message
  split
  · rename_i b _
    simp only [oneLine_append]
    exact ⟨⟨⟨by decide, ⟨⟨by decide, oneLine_hex b⟩, by decide⟩, hposition⟩, by decide⟩, hreason⟩
  · simp only [oneLine_append]
    exact ⟨⟨⟨by decide, ⟨⟨by decide, hposition⟩, by decide⟩, oneLine_toString_nat _⟩, by decide⟩,
      hreason⟩

/-- Whatever keeps a file from being opened is reported, in one line if its path is one. -/
theorem OpenError.exists_diagnostic (error : OpenError) :
    ∃ diagnostic, error.interruption.diagnostic? = some diagnostic ∧
      ((∀ path, error = .unreadable path → OneLine path) →
        OneLine (diagnostic.message.render .plain)) := by
  cases error with
  | unreadable path =>
      refine ⟨_, rfl, fun h => Message.oneLine_render ?_ .plain⟩
      have hpath : OneLine path := h path rfl
      simpa [Piece.render] using ⟨by decide, hpath, by decide⟩
  | reserved => exact ⟨_, rfl, fun _ => by decide⟩
  | nulInPath => exact ⟨_, rfl, fun _ => by decide⟩
  | undecodable fault =>
      refine ⟨_, rfl, fun _ => Message.oneLine_render ?_ .plain⟩
      have hmessage := fault.oneLine_message
      simpa [Reporter.unknownError, Piece.render] using
        ⟨by decide, by decide, by decide, hmessage, by decide⟩

/-! ### The script in a file -/

namespace CommandLine

variable {files : String → Option (List UInt8)} {reporter : Reporter} {path text : String}
  {style : Style} {debug : Bool}

/-- A file can be read at the path, which is not that of the input, and this is its text. -/
def Holds (files : String → Option (List UInt8)) (path text : String) : Prop :=
  path ≠ "<in>" ∧ '\x00' ∉ path.toList ∧
    ∃ octets raw, files path = some octets ∧ Utf8.decode octets = .ok raw ∧ text = withNewlines raw

/-- How a script ends on a new machine. -/
def ending (text : String) : Ending Fault :=
  ({} : Machine).run (Line.ofText 1 text)

/-- The interpreter of a script in a file. -/
def opened (style : Style) (path : String) (debug : Bool) (text : String) : Interpreter :=
  { reporter := { path, style }, debug, source := some text }

theorem openPath_of_holds (h : Holds files path text) :
    Interpreter.openPath files { path, style } path false debug =
      .ok (opened style path debug text) := by
  obtain ⟨hpath, hnul, octets, raw, hfile, hdecode, rfl⟩ := h
  have hread : Interpreter.readSource files path = .ok (withNewlines raw) := by
    simp [Interpreter.readSource, Interpreter.decodeSource, hnul, hfile, hdecode]
  rw [Interpreter.openPath, if_neg (show path ≠ Reporter.inputPath from hpath), hread]
  rfl

theorem readSource_of_not_holds (hpath : path ≠ "<in>") (h : ∀ text, ¬ Holds files path text) :
    ∃ error, Interpreter.readSource files path = .error error ∧
      ∀ other, error = .unreadable other → other = path := by
  unfold Interpreter.readSource
  split
  · exact ⟨.nulInPath, rfl, nofun⟩
  · rename_i hnul
    cases hfile : files path with
    | none => exact ⟨.unreadable path, rfl, fun _ hother => by cases hother; rfl⟩
    | some octets =>
        change ∃ error, Interpreter.decodeSource octets = .error error ∧ _
        unfold Interpreter.decodeSource
        cases hdecode : Utf8.decode octets with
        | error fault => exact ⟨.undecodable fault, rfl, nofun⟩
        | ok raw =>
            exact absurd ⟨hpath, by simpa using hnul, octets, raw, hfile, hdecode, rfl⟩
              (h (withNewlines raw))

theorem openPath_of_not_holds (h : ∀ text, ¬ Holds files path text) :
    ∃ error, Interpreter.openPath files reporter path false debug = .error error ∧
      ∀ other, error = .unreadable other → other = path := by
  unfold Interpreter.openPath
  split
  · exact ⟨.reserved, rfl, nofun⟩
  · rename_i hpath
    obtain ⟨error, hread, hother⟩ := readSource_of_not_holds hpath h
    rw [hread]
    exact ⟨error, rfl, hother⟩

/-- A file that holds no script is not run. -/
theorem runFile_of_not_holds (h : ∀ text, ¬ Holds files path text) :
    (runFile files style path debug).status = 1 ∧ (runFile files style path debug).out = "" ∧
      (style = .plain → OneLine path → ErrorLine path (runFile files style path debug).err) := by
  obtain ⟨error, hopen, hother⟩ :=
    @openPath_of_not_holds files { path, style } path debug h
  obtain ⟨diagnostic, hdiagnostic, hmessage⟩ := error.exists_diagnostic
  have hrun : runFile files style path debug =
      { status := 1, err := Reporter.errorText { path, style } diagnostic } := by
    simp only [runFile, hopen, Reporter.settle_eq hdiagnostic]
    rfl
  rw [hrun]
  refine ⟨rfl, rfl, fun hstyle hpath => ?_⟩
  exact @errorLine_errorText { path, style } hstyle hpath _
    (hmessage fun other hunreadable => hother other hunreadable ▸ hpath)

/-- The script in a file is fed to a new interpreter, and ends the program with status 0 if no error stops it. -/
theorem runFile_eq (h : Holds files path text) :
    runFile files style path debug =
      { status := if (ending text).error = none then 0 else 1
        out := (ending text).machine.output style
        err := ((opened style path debug text).feed text).2.err } := by
  have hrun : runFile files style path debug =
      { status :=
          ((((opened style path debug text).feed text).1.exitCode?
            ((opened style path debug text).feed text).2).map ExitCode.toStatus).getD 0
        out := ((opened style path debug text).feed text).2.out
        err := ((opened style path debug text).feed text).2.err } := by
    simp only [runFile, openPath_of_holds h]
    rfl
  have hfault : ((opened style path debug text).feed text).2.fault =
      (ending text).error := rfl
  have hfatal : ((opened style path debug text).feed text).1.reporter.fatal = true := rfl
  have hout : ((opened style path debug text).feed text).2.out =
      (ending text).machine.output style := rfl
  rw [hrun, Interpreter.exitCode?, hfault, hfatal, hout]
  cases (ending text).error <;> rfl

theorem errorLine_of_holds (h : Holds files path text) (hpath : OneLine path)
    (hfails : (ending text).error ≠ none) :
    ErrorLine path (runFile files .plain path false).err := by
  obtain ⟨fault, hfault⟩ := Option.ne_none_iff_exists'.mp hfails
  have hreachable : (opened .plain path false text).Reachable := .opened (openPath_of_holds h)
  have herror := hreachable.wellTyped.oneLine_of_run
    (Interpreter.onLine_of_mem_program (opened .plain path false text) text) hfault
  have herr : ((opened .plain path false text).feed text).2.err =
      Reporter.errorText { path } fault.diagnostic := by
    have hrun : ((opened .plain path false text).machine.run
        ((opened .plain path false text).program text)).error = some fault := hfault
    rw [Interpreter.feed_response rfl, hrun]
    rfl
  rw [runFile_eq h, herr]
  exact @errorLine_errorText { path } rfl hpath _ (herror.message .plain)

theorem status_runFile_iff :
    (runFile files style path debug).status = 0 ↔
      ∃ text, Holds files path text ∧ (ending text).error = none := by
  refine ⟨fun hstatus => ?_, fun ⟨text, hholds, hnone⟩ => ?_⟩
  · by_cases hholds : ∃ text, Holds files path text
    · obtain ⟨text, hholds⟩ := hholds
      refine ⟨text, hholds, Decidable.byContradiction fun hfails => ?_⟩
      rw [runFile_eq hholds, if_neg hfails] at hstatus
      cases hstatus
    · rw [(runFile_of_not_holds (not_exists.mp hholds)).1] at hstatus
      cases hstatus
  · rw [runFile_eq hholds, if_pos hnone]

theorem status_runFile : (runFile files style path debug).status ∈ [0, 1] := by
  by_cases hholds : ∃ text, Holds files path text
  · obtain ⟨text, hholds⟩ := hholds
    rw [runFile_eq hholds]
    change (if _ then (0 : Int) else 1) ∈ [0, 1]
    split <;> decide
  · rw [(runFile_of_not_holds (not_exists.mp hholds)).1]
    decide

theorem errorLine_runFile (hpath : OneLine path)
    (hstatus : (runFile files .plain path false).status ≠ 0) :
    ErrorLine path (runFile files .plain path false).err := by
  by_cases hholds : ∃ text, Holds files path text
  · obtain ⟨text, hholds⟩ := hholds
    exact errorLine_of_holds hholds hpath fun hnone =>
      hstatus (status_runFile_iff.mpr ⟨text, hholds, hnone⟩)
  · exact (runFile_of_not_holds (not_exists.mp hholds)).2.2 rfl hpath

theorem run_eq {arguments : List String} {request : Request}
    (h : Request.ofArguments arguments = .ok request) (files : String → Option (List UInt8))
    (style : Style) (input : String) :
    run files style input arguments = runRequest files style input request := by
  simp only [run, h]

variable {request : Request}

theorem runRequest_of_file (hfile : request.file = some path) (hrepl : request.repl = false)
    (files : String → Option (List UInt8)) (style : Style) (input : String) :
    runRequest files style input request = runFile files style path request.debug := by
  simp only [runRequest, hfile, hrepl]

theorem runRequest_of_prompt (h : request.file = none ∨ request.repl = true)
    (files : String → Option (List UInt8)) (style : Style) (input : String) :
    runRequest files style input request = runPrompt style request.debug input := by
  unfold runRequest
  split
  · rename_i hfile hrepl
    simp [hfile, hrepl] at h
  · rfl

/-- **Completion.** Whatever the arguments ask for: with a file the status is 0 if there is a script in it that no error stops, and else 1; the output is what the script printed, and a failure is reported with one line. Without one no file matters: the status is 0, and what is written are the replies to the lines that are read, with a mark for each. -/
theorem run_completes (files : String → Option (List UInt8)) (style : Style) (input : String)
    (request : Request) :
    let completion := runRequest files style input request
    (∀ arguments, Request.ofArguments arguments = .ok request →
      run files style input arguments = completion) ∧
    (∀ path, request.file = some path → request.repl = false →
      (completion.status = 0 ↔
        ∃ text, Holds files path text ∧ (ending text).error = none) ∧
      (completion.status ≠ 0 → completion.status = 1) ∧
      (∀ text, Holds files path text →
        completion.out = (ending text).machine.output style) ∧
      ((∀ text, ¬ Holds files path text) → completion.out = "") ∧
      (completion.status ≠ 0 → request.debug = false → style = .plain → OneLine path →
        ErrorLine path completion.err)) ∧
    (request.file = none ∨ request.repl = true →
      ∃ lines, AreLinesOf lines input ∧
      let handled := Prompt.handled lines
      let replies := ((Interpreter.atPrompt { style } request.debug).replyAll handled).2
      (∀ others, runRequest others style input request = completion) ∧
      completion.status = 0 ∧
      replies.length = handled.length ∧
      completion.out = Prompt.intro ++ "\n" ++
        String.join (replies.map fun reply => "> " ++ reply.out) ∧
      completion.err = String.join (replies.map (·.err))) := by
  intro completion
  refine ⟨fun arguments h => run_eq h files style input, fun path hfile hrepl => ?_,
    fun hprompt => ?_⟩
  · have hrun : completion = runFile files style path request.debug :=
      runRequest_of_file hfile hrepl files style input
    rw [hrun]
    refine ⟨status_runFile_iff, fun hfails => ?_, fun text hholds => ?_,
      fun hholds => (runFile_of_not_holds hholds).2.1, fun hfails hdebug hstyle hpath => ?_⟩
    · have hstatus : (runFile files style path request.debug).status ∈ [0, 1] := status_runFile
      simpa [hfails] using hstatus
    · rw [runFile_eq hholds]
    · rw [hstyle, hdebug] at hfails ⊢
      exact errorLine_runFile hpath hfails
  · refine ⟨inputLines input, areLinesOf_iff.mpr rfl, ?_⟩
    intro handled replies
    have hrun : ∀ others, runRequest others style input request =
        runPrompt style request.debug input :=
      fun others => runRequest_of_prompt hprompt others style input
    have hcompletion : completion = runPrompt style request.debug input := hrun files
    have hreplies : (Interpreter.atPrompt { style } request.debug).converse (inputLines input) =
        replies := Interpreter.converse_eq _ _
    refine ⟨fun others => (hrun others).trans (hrun files).symm, ?_,
      Interpreter.length_replyAll _ _, ?_, ?_⟩
    · rw [hcompletion]
      rfl
    · rw [hcompletion, runPrompt, hreplies]
      rfl
    · rw [hcompletion, runPrompt, hreplies]

/-- A script that is stopped after its first print, and then a conversation in its place that is left early. Carriage returns end lines of the script, and none of the conversation. -/
theorem run_completes_stopped :
    let octets := "print 1\rprint nope\r\n".toList.map (·.toNat.toUInt8)
    let files := fun path => if path = "a.pfx" then some octets else none
    let stopped := run files .plain "" ["a.pfx"]
    let left := run files .plain "x = 2\nprint\r x\n exit\r\nprint 3" ["-r", "a.pfx"]
    Request.ofArguments ["a.pfx"] = .ok { file := some "a.pfx", fileSettled := true } ∧
      Request.ofArguments ["-r", "a.pfx"] =
        .ok { file := some "a.pfx", fileSettled := true, repl := true } ∧
      OneLine "a.pfx" ∧ Holds files "a.pfx" "print 1\nprint nope\n" ∧
      stopped.status = 1 ∧ stopped.out = "1\n" ∧ ErrorLine "a.pfx" stopped.err ∧
      stopped.err = "a.pfx:2: error: unknown identifier 'nope'\n" ∧
      left.status = 0 ∧
      left.out =
        "pfx interpreter :: Python backend\nType '?' or 'help' for more information.\n" ++
          "> > 2\n> " ∧
      left.err = "" := by
  intro octets files stopped left
  have hfile : Request.ofArguments ["a.pfx"] =
      .ok { file := some "a.pfx", fileSettled := true } := by
    cbv
  have hrepl : Request.ofArguments ["-r", "a.pfx"] =
      .ok { file := some "a.pfx", fileSettled := true, repl := true } := by
    cbv
  have hpath : OneLine "a.pfx" := by decide
  have hdecode : Utf8.decode octets = .ok "print 1\rprint nope\r\n" := by
    have hoption : (Utf8.decode octets).toOption = some "print 1\rprint nope\r\n" := by
      decide +kernel
    cases hraw : Utf8.decode octets with
    | ok raw =>
        rw [hraw] at hoption
        exact congrArg _ (Option.some_inj.mp hoption)
    | error fault =>
        rw [hraw] at hoption
        cases hoption
  have hholds : Holds files "a.pfx" "print 1\nprint nope\n" :=
    ⟨by decide, by decide, octets, _, rfl, hdecode, by decide +kernel⟩
  have hstatus : stopped.status = 1 := by decide +kernel
  have hfails : stopped.status ≠ 0 := by rw [hstatus]; decide
  obtain ⟨hstopped, hscript, -⟩ := run_completes files .plain ""
    { file := some "a.pfx", fileSettled := true }
  rw [← hstopped _ hfile] at hscript
  obtain ⟨-, -, hout, -, hline⟩ := hscript "a.pfx" rfl rfl
  obtain ⟨hleft, -, htyped⟩ :=
    run_completes files .plain "x = 2\nprint\r x\n exit\r\nprint 3"
      { file := some "a.pfx", fileSettled := true, repl := true }
  rw [← hleft _ hrepl] at htyped
  obtain ⟨lines, hlines, -, hzero, -, hleftOut, hleftErr⟩ := htyped (.inr rfl)
  rw [areLinesOf_iff] at hlines
  subst hlines
  refine ⟨hfile, hrepl, hpath, hholds, hstatus, (hout _ hholds).trans ?_,
    hline hfails rfl rfl hpath, ?_, hzero, hleftOut.trans ?_, hleftErr.trans ?_⟩
  · decide +kernel
  · decide +kernel
  · decide +kernel
  · decide +kernel

end CommandLine

end StackScript
