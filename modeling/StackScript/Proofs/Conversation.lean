import Mathlib.Data.List.TakeWhile
import StackScript.Prompt
import StackScript.Proofs.Numbering
import StackScript.Proofs.Templates

/-!
# Conversations

A line at the prompt is a statement or a request. The statements are fed to the interpreter, as if
no requests had come between them; a request leaves the interpreter as it is. No line makes the
prompt fail: what goes wrong becomes a message, which can be worded whatever stands in the line.
-/

namespace StackScript

open Text

namespace Text

theorem isBlank_of_trimChars {l : List Char} (h : trimChars l = []) {c : Char} (hc : c ∈ l) :
    isBlank c = true := by
  obtain ⟨indent, gap, hsplit, hindent, hgap⟩ := exists_blanks_trimChars l
  rw [hsplit, h, List.nil_append, List.mem_append] at hc
  exact hc.elim (hindent c) (hgap c)

/-- A text without blanks around it has none behind what it begins with. -/
theorem eq_nil_of_trimChars {l rest : List Char} (hrest : rest <:+ trimChars l)
    (h : trimChars rest = []) : rest = [] := by
  cases hlast : rest.getLast? with
  | none => exact List.getLast?_eq_none_iff.mp hlast
  | some c =>
      have hblank := isBlank_of_trimChars h (List.mem_of_getLast? hlast)
      obtain ⟨first, hfirst⟩ := hrest
      have hwhole : c ∈ (trimChars l).getLast? := by
        rw [← hfirst, List.getLast?_append, hlast]
        rfl
      rw [isBlank_getLast?_trimChars hwhole] at hblank
      cases hblank

end Text

/-! ### What goes wrong -/

/-- The diagnostic of an error is its template with the expressions put in, whatever they are. -/
theorem Fault.diagnostic_eq (fault : Fault) :
    Diagnostic.ofTemplate fault.error.template fault.error.exprs (some fault.line) false =
      .ok fault.diagnostic :=
  fault.error.ofTemplate_template (some fault.line)

/-- What is reported of an interruption: all but an exit are errors. -/
def Interruption.diagnostic? : Interruption → Option Diagnostic
  | keyboard => some Reporter.keyboardInterrupt
  | exit _ => none
  | failure diagnostic => some diagnostic
  | unexpected kind message => some (Reporter.unknownError kind message)

theorem Reporter.settle_eq {interruption : Interruption} {diagnostic : Diagnostic}
    (h : interruption.diagnostic? = some diagnostic) (reporter : Reporter) :
    reporter.settle (some interruption) = reporter.settleError diagnostic := by
  cases interruption <;> cases h <;> rfl

/-- A reporter that is not fatal lets nothing but an exit out. -/
theorem Reporter.settle_of_not_fatal {reporter : Reporter} (hfatal : reporter.fatal = false)
    {interruption : Interruption} (hexit : ∀ code, interruption ≠ .exit code) :
    (reporter.settle (some interruption)).2 = .suppressed := by
  have hreported : ∃ diagnostic, interruption.diagnostic? = some diagnostic := by
    cases interruption with
    | exit code => exact absurd rfl (hexit code)
    | keyboard | failure | unexpected => exact ⟨_, rfl⟩
  obtain ⟨diagnostic, hdiagnostic⟩ := hreported
  simp [settle_eq hdiagnostic, settleError, raise, hfatal]

/-! ### Statements and requests -/

namespace Prompt

/-- The word that a text begins with; it is empty if there is none. -/
def leadingWord (text : String) : String :=
  String.ofList (text.toList.takeWhile Command.isWordChar)

/-- What follows the leading word. -/
def argument (text : String) : String :=
  trim (String.ofList (text.toList.dropWhile Command.isWordChar))

/-- The statements on a line, if it is neither blank nor a request. -/
def statement? (line : String) : Option String :=
  let text := trim line
  if text = "" ∨ text.toList.head? = some '?' ∨ leadingWord text ∈ ["help", "exit", "EOF"] then none
  else some text

/-- The lines that end a conversation. -/
def Ends (line : String) : Prop :=
  trim line = "exit" ∨ trim line = "EOF"

instance : DecidablePred Ends :=
  fun line => inferInstanceAs (Decidable (trim line = "exit" ∨ trim line = "EOF"))

theorem request_of_statement? {line : String} (h : statement? line = none) :
    trim line = "" ∨
      ((trim line).toList.head? = some '?' ∨ leadingWord (trim line) = "help") ∨
      (leadingWord (trim line) = "exit" ∨ leadingWord (trim line) = "EOF") := by
  have hrequest := Decidable.byContradiction fun hnot =>
    Option.some_ne_none _ ((if_neg hnot).symm.trans h)
  simp only [List.mem_cons, List.not_mem_nil, or_false] at hrequest
  rcases hrequest with hblank | hmark | hhelp | hexit | hend
  · exact .inl hblank
  · exact .inr (.inl (.inl hmark))
  · exact .inr (.inl (.inr hhelp))
  · exact .inr (.inr (.inl hexit))
  · exact .inr (.inr (.inr hend))

def warningTemplate : String := "unrecognized token: '\x7b\x7d'"

def warning (argument : String) : Diagnostic :=
  { message := [.words "unrecognized token: '", .expr argument, .words "'"], subject := argument }

theorem warning_eq (argument : String) :
    Diagnostic.ofTemplate warningTemplate [argument] none false = .ok (warning argument) := by
  have hfill : Template.fill warningTemplate [argument] = .ok (warning argument).message :=
    Template.fill_fields "unrecognized token: '".toList [(argument, ['\x27'])] []
  rw [Diagnostic.ofTemplate, hfill]
  rfl

theorem leadingWord_of_head? {text : String} {c : Char} (h : text.toList.head? = some c)
    (hc : Command.isWordChar c = false) : leadingWord text = "" := by
  obtain ⟨rest, hrest⟩ := List.head?_eq_some_iff.mp h
  rw [leadingWord, hrest, List.takeWhile_cons_of_neg (by rw [hc]; decide)]

theorem eq_of_argument {line : String} (h : argument (trim line) = "") :
    trim line = leadingWord (trim line) := by
  have hrest : (trim line).toList.dropWhile Command.isWordChar = [] := by
    refine eq_nil_of_trimChars (l := line.toList) ?_ ?_
    · rw [trim, String.toList_ofList]
      exact List.dropWhile_suffix _
    · rw [argument, trim, String.toList_ofList] at h
      exact String.ofList_injective h
  have hall := List.takeWhile_append_dropWhile (p := Command.isWordChar) (l := (trim line).toList)
  rw [hrest, List.append_nil] at hall
  rw [leadingWord, hall, String.ofList_toList]

/-- A line that begins with one of the words that can end a conversation ends it if nothing follows. -/
theorem argument_eq_empty_iff {line : String}
    (h : leadingWord (trim line) = "exit" ∨ leadingWord (trim line) = "EOF") :
    argument (trim line) = "" ↔ Ends line := by
  refine ⟨fun hempty => ?_, fun hends => ?_⟩
  · rwa [← eq_of_argument hempty] at h
  · rcases hends with hexit | hend
    · rw [hexit]
      decide
    · rw [hend]
      decide

theorem leadingWord_of_ends {line : String} (h : Ends line) :
    leadingWord (trim line) = "exit" ∨ leadingWord (trim line) = "EOF" := by
  rcases h with hexit | hend
  · left
    rw [hexit]
    decide
  · right
    rw [hend]
    decide

end Prompt
namespace Command

variable {line text : String}

theorem ofWord_eq (text : String) :
    ofWord text.toList =
      if Prompt.leadingWord text = "help" then help
      else if Prompt.leadingWord text = "exit" then leave (Prompt.argument text)
      else if Prompt.leadingWord text = "EOF" then hangUp (Prompt.argument text)
      else code text := by
  simp only [ofWord, String.ofList_toList]
  rfl

/-- What begins with an exclamation mark has no leading word, so it needs no case of its own. -/
theorem ofLine_eq (line : String) :
    ofLine line =
      if trim line = "" then blank
      else if (trim line).toList.head? = some '?' then help
      else ofWord (trim line).toList := by
  have htext : (trim line).toList = trimChars line.toList := String.toList_ofList
  have hempty : trim line = "" ↔ trimChars line.toList = [] := by
    rw [← htext, String.toList_eq_nil_iff]
  simp only [hempty, htext, ofLine]
  generalize trimChars line.toList = chars
  split
  · rfl
  · rfl
  · rfl
  · rename_i hnil hmark _
    have hhead : chars.head? ≠ some '?' := fun hhead =>
      have ⟨rest, hrest⟩ := List.head?_eq_some_iff.mp hhead
      hmark rest hrest
    rw [if_neg hnil, if_neg hhead]

theorem ofLine_of_statement (h : Prompt.statement? line = some text) :
    ofLine line = code text := by
  obtain ⟨hrequest, htext⟩ := Option.ite_none_left_eq_some.mp h
  cases htext
  obtain ⟨hblank, hrequest⟩ := not_or.mp hrequest
  obtain ⟨hmark, hword⟩ := not_or.mp hrequest
  simp only [List.mem_cons, List.not_mem_nil, or_false, not_or] at hword
  obtain ⟨hhelp, hexit, hend⟩ := hword
  rw [ofLine_eq, if_neg hblank, if_neg hmark, ofWord_eq, if_neg hhelp, if_neg hexit, if_neg hend]

theorem ofLine_of_word (h : Prompt.leadingWord (trim line) ≠ "") :
    ofLine line = ofWord (trim line).toList := by
  have hblank : trim line ≠ "" := fun hempty => h (by rw [hempty]; rfl)
  have hmark : (trim line).toList.head? ≠ some '?' := fun hhead =>
    h (Prompt.leadingWord_of_head? hhead rfl)
  rw [ofLine_eq, if_neg hblank, if_neg hmark]

theorem ofLine_of_help
    (h : (trim line).toList.head? = some '?' ∨ Prompt.leadingWord (trim line) = "help") :
    ofLine line = help := by
  rcases h with hmark | hword
  · have hblank : trim line ≠ "" := fun hempty => by
      rw [hempty] at hmark
      cases hmark
    rw [ofLine_eq, if_neg hblank, if_pos hmark]
  · rw [ofLine_of_word (by rw [hword]; decide), ofWord_eq, if_pos hword]

theorem ofLine_of_exit (h : Prompt.leadingWord (trim line) = "exit") :
    ofLine line = leave (Prompt.argument (trim line)) := by
  rw [ofLine_of_word (by rw [h]; decide), ofWord_eq, if_neg (by rw [h]; decide), if_pos h]

theorem ofLine_of_endOfInput (h : Prompt.leadingWord (trim line) = "EOF") :
    ofLine line = hangUp (Prompt.argument (trim line)) := by
  rw [ofLine_of_word (by rw [h]; decide), ofWord_eq, if_neg (by rw [h]; decide),
    if_neg (by rw [h]; decide), if_pos h]

end Command

namespace Interpreter

variable {interpreter opened : Interpreter} {files : String → Option (List UInt8)}
  {reporter : Reporter} {path line text : String} {debug : Bool}

/-! ### One line -/

theorem reply_of_statement (interpreter : Interpreter) (h : Prompt.statement? line = some text) :
    interpreter.reply line =
      { interpreter := (interpreter.feed text).1
        verdict := .done
        out := (interpreter.feed text).2.out
        err := (interpreter.feed text).2.err } := by
  rw [reply, Command.ofLine_of_statement h]
  rfl

theorem reply_of_blank (interpreter : Interpreter) (h : trim line = "") :
    interpreter.reply line = { interpreter, verdict := .blank } := by
  rw [reply, Command.ofLine_eq, if_pos h]
  rfl

theorem reply_of_help (interpreter : Interpreter)
    (h : (trim line).toList.head? = some '?' ∨ Prompt.leadingWord (trim line) = "help") :
    interpreter.reply line =
      { interpreter, verdict := .done, out := Prompt.helpText ++ "\n" } := by
  rw [reply, Command.ofLine_of_help h]
  rfl

theorem replyToLeave_eq (interpreter : Interpreter) (argument : String) :
    interpreter.replyToLeave argument =
      { interpreter
        verdict := if argument = "" then .ended else .refused
        err := if argument = "" then ""
          else interpreter.reporter.warningText (Prompt.warning argument) } := by
  unfold replyToLeave
  split <;> rfl

theorem reply_of_leave (interpreter : Interpreter)
    (h : Prompt.leadingWord (trim line) = "exit" ∨ Prompt.leadingWord (trim line) = "EOF") :
    interpreter.reply line =
      { interpreter
        verdict := if Prompt.argument (trim line) = "" then .ended else .refused
        out := if Prompt.leadingWord (trim line) = "EOF" then "\n" else ""
        err := if Prompt.argument (trim line) = "" then ""
          else interpreter.reporter.warningText (Prompt.warning (Prompt.argument (trim line))) } := by
  rcases h with hexit | hend
  · rw [reply, Command.ofLine_of_exit hexit, replyTo, replyToLeave_eq, hexit,
      if_neg (show "exit" ≠ "EOF" by decide)]
  · rw [reply, Command.ofLine_of_endOfInput hend, replyTo, replyToLeave_eq, hend,
      if_pos (show "EOF" = "EOF" from rfl)]

theorem verdict_reply (interpreter : Interpreter) (line : String) :
    (interpreter.reply line).verdict = .ended ↔ Prompt.Ends line := by
  by_cases hword : Prompt.leadingWord (trim line) = "exit" ∨ Prompt.leadingWord (trim line) = "EOF"
  · rw [reply_of_leave interpreter hword, ← Prompt.argument_eq_empty_iff hword]
    simp
  · refine iff_of_false ?_ fun hends => hword (Prompt.leadingWord_of_ends hends)
    cases hstatement : Prompt.statement? line with
    | some text =>
        rw [reply_of_statement interpreter hstatement]
        simp
    | none =>
        rcases Prompt.request_of_statement? hstatement with hblank | hhelp | hleave
        · rw [reply_of_blank interpreter hblank]
          simp
        · rw [reply_of_help interpreter hhelp]
          simp
        · exact absurd hleave hword

/-- A request leaves the interpreter as it is. -/
theorem reply_of_request (interpreter : Interpreter) (h : Prompt.statement? line = none) :
    (interpreter.reply line).interpreter = interpreter := by
  rcases Prompt.request_of_statement? h with hblank | hhelp | hleave
  · rw [reply_of_blank interpreter hblank]
  · rw [reply_of_help interpreter hhelp]
  · rw [reply_of_leave interpreter hleave]

/-! ### A conversation -/

/-- Replies to lines one after the other, whether or not one of them ends the conversation, and gives the replies. -/
def replyAll (interpreter : Interpreter) : List String → Interpreter × List Reply
  | [] => (interpreter, [])
  | line :: rest =>
    let reply := interpreter.reply line
    let (last, replies) := reply.interpreter.replyAll rest
    (last, reply :: replies)

theorem replyAll_cons (interpreter : Interpreter) (line : String) (lines : List String) :
    interpreter.replyAll (line :: lines) =
      (((interpreter.reply line).interpreter.replyAll lines).1,
        interpreter.reply line :: ((interpreter.reply line).interpreter.replyAll lines).2) := rfl

/-- The lines that hold statements, each with the reply to it. -/
def answered (interpreter : Interpreter) (lines : List String) : List (String × Reply) :=
  (lines.zip (interpreter.replyAll lines).2).filter fun answer =>
    (Prompt.statement? answer.1).isSome

theorem replyAll_eq_feedAll (interpreter : Interpreter) (lines : List String) :
    (interpreter.replyAll lines).1 =
        (interpreter.feedAll (lines.filterMap Prompt.statement?)).1 ∧
      (interpreter.answered lines).map (fun answer => (answer.2.out, answer.2.err)) =
        (interpreter.feedAll (lines.filterMap Prompt.statement?)).2.map
          fun response => (response.out, response.err) := by
  induction lines generalizing interpreter with
  | nil => exact ⟨rfl, rfl⟩
  | cons line lines ih =>
      cases hstatement : Prompt.statement? line with
      | none =>
          -- nothing is fed, and the reply is not one of those compared
          have hstays := interpreter.reply_of_request hstatement
          rw [List.filterMap_cons_none hstatement, answered, replyAll_cons, List.zip_cons_cons,
            List.filter_cons_of_neg (by simp [hstatement]), hstays]
          exact ih interpreter
      | some text =>
          have hreply := interpreter.reply_of_statement hstatement
          obtain ⟨hreached, houtputs⟩ := ih (interpreter.feed text).1
          rw [List.filterMap_cons_some hstatement, answered, replyAll_cons, List.zip_cons_cons,
            List.filter_cons_of_pos (by simp [hstatement]), hreply, feedAll_cons]
          exact ⟨hreached, congrArg (List.cons _) houtputs⟩

/-- **Conversation.** Whatever lines are entered, the interpreter is as after feeding it the statements among them, which are answered with what that wrote. A request leaves it as it is, and is answered with help, a newline, one warning, or nothing. Nothing that goes wrong gets out, and the conversation ends at the lines that say so. -/
theorem replyAll_refines (hopen : openPath files reporter path true debug = .ok opened)
    (lines : List String) (line : String) :
    let statements := lines.filterMap Prompt.statement?
    let reached := (opened.replyAll lines).1
    let reply := reached.reply line
    let word := Prompt.leadingWord (trim line)
    let argument := Prompt.argument (trim line)
    reached = (opened.feedAll statements).1 ∧
      (opened.answered lines).map (fun answer => (answer.2.out, answer.2.err)) =
        (opened.feedAll statements).2.map (fun response => (response.out, response.err)) ∧
      (∀ text, Prompt.statement? line = some text →
        reply.interpreter = (reached.feed text).1 ∧
        reply.out = (reached.feed text).2.out ∧
        reply.err = (reached.feed text).2.err ∧
        reached.exitCode? (reached.feed text).2 = none ∧
        ∀ fault, (reached.feed text).2.fault = some fault →
          Diagnostic.ofTemplate fault.error.template fault.error.exprs (some fault.line) false =
            .ok fault.diagnostic) ∧
      (∀ interruption, (∀ code, interruption ≠ .exit code) →
        (reached.reporter.settle (some interruption)).2 = .suppressed) ∧
      (Prompt.statement? line = none →
        reply.interpreter = reached ∧
        (trim line = "" → reply.out = "" ∧ reply.err = "") ∧
        ((trim line).toList.head? = some '?' ∨ word = "help" →
          reply.out = Prompt.helpText ++ "\n" ∧ reply.err = "") ∧
        (word = "exit" ∨ word = "EOF" →
          reply.out = (if word = "EOF" then "\n" else "") ∧
          Diagnostic.ofTemplate Prompt.warningTemplate [argument] none false =
            .ok (Prompt.warning argument) ∧
          reply.err = if argument = "" then ""
            else reached.reporter.warningText (Prompt.warning argument))) ∧
      (reply.verdict = .ended ↔ trim line = "exit" ∨ trim line = "EOF") := by
  intro statements reached reply word argument
  obtain ⟨hreached, houtputs⟩ := opened.replyAll_eq_feedAll lines
  have hreporter : reached.reporter = opened.reporter := by
    rw [show reached = _ from hreached]
    exact (settings_feedAll opened statements).1
  have hfatal : reached.reporter.fatal = false := by
    rw [hreporter, (settings_of_openPath hopen).1]
    exact Bool.and_false _
  -- the texts fed change nothing about the reporter, which was made not to be fatal at the start
  refine ⟨hreached, houtputs, fun text htext => ?_, fun interruption hexit =>
    Reporter.settle_of_not_fatal hfatal hexit, fun hrequest => ⟨reached.reply_of_request hrequest,
      fun hblank => ?_, fun hhelp => ?_, fun hleave => ?_⟩, reached.verdict_reply line⟩
  · have hreply := reached.reply_of_statement htext
    refine ⟨congrArg Reply.interpreter hreply, congrArg Reply.out hreply,
      congrArg Reply.err hreply, ?_, fun fault _ => fault.diagnostic_eq⟩
    rw [exitCode?, hfatal, Bool.and_false]
    rfl
  · have hreply := reached.reply_of_blank hblank
    exact ⟨congrArg Reply.out hreply, congrArg Reply.err hreply⟩
  · have hreply := reached.reply_of_help hhelp
    exact ⟨congrArg Reply.out hreply, congrArg Reply.err hreply⟩
  · have hreply : reply = _ := reached.reply_of_leave hleave
    exact ⟨by rw [hreply], Prompt.warning_eq argument, by rw [hreply]⟩

/-- Two statements among requests, the second of which fails; then an end that is refused, and one that is not. -/
theorem replyAll_refines_refused :
    let opened := atPrompt {} false
    let lines := [" x = \"\x7b\" ", "?", "", "help print x", "print x x nope +", "EOF \x7b\x7d"]
    let reached := (opened.replyAll lines).1
    openPath (fun _ => none) {} Reporter.inputPath true false = .ok opened ∧
      reached = (opened.feedAll ["x = \"\x7b\"", "print x x nope +"]).1 ∧
      (opened.answered lines).map (fun answer => (answer.2.out, answer.2.err)) =
        [("", ""), ("", "<in>:2: error: unknown identifier 'nope'\n")] ∧
      (opened.replyAll lines).2.map (·.verdict) =
        [.done, .done, .blank, .done, .done, .refused] ∧
      (opened.replyAll lines).2.getLast?.map (·.err) =
        some "<in>: warning: unrecognized token: '\x7b\x7d'\n" ∧
      (reached.reply " exit ").verdict = .ended := by
  intro opened lines reached
  have hopen : openPath (fun _ => none) {} Reporter.inputPath true false = .ok opened := rfl
  obtain ⟨hreached, houtputs, -, -, -, hended⟩ := replyAll_refines hopen lines " exit "
  have hstatements : lines.filterMap Prompt.statement? =
      ["x = \"\x7b\"", "print x x nope +"] := by
    decide +kernel
  rw [hstatements] at hreached houtputs
  refine ⟨hopen, hreached, ?_, by decide +kernel, by decide +kernel, hended.mpr (.inl ?_)⟩
  · rw [houtputs]
    decide +kernel
  · decide

end Interpreter

end StackScript
