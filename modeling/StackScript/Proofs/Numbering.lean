import StackScript.Proofs.Abort
import StackScript.Proofs.Statements

/-!
# The line numbers of a session

An interpreter numbers the lines of each text on from the texts before it, whether or not an error
has stopped one of them. So the number of an error is that of a physical line of all that it was
fed, joined with newlines, and the failing statement is found on that line.
-/

namespace StackScript

namespace Interpreter

/-- Feeds texts one after the other, whether or not one of them is stopped by an error, and gives the responses. -/
def feedAll (interpreter : Interpreter) : List String → Interpreter × List Response
  | [] => (interpreter, [])
  | text :: rest =>
    let (next, response) := interpreter.feed text
    let (last, responses) := next.feedAll rest
    (last, response :: responses)

variable {interpreter : Interpreter} {text : String} {texts : List String} {fault : Fault}

theorem feedAll_cons (interpreter : Interpreter) (text : String) (texts : List String) :
    interpreter.feedAll (text :: texts) =
      (((interpreter.feed text).1.feedAll texts).1,
        (interpreter.feed text).2 :: ((interpreter.feed text).1.feedAll texts).2) := rfl

/-- What every text keeps holds after any texts. -/
theorem feedAll_preserves {motive : Interpreter → Prop}
    (hfeed : ∀ interpreter text, motive interpreter → motive (interpreter.feed text).1)
    (hstart : motive interpreter) (texts : List String) : motive (interpreter.feedAll texts).1 := by
  induction texts generalizing interpreter with
  | nil => exact hstart
  | cons text texts ih => exact ih (hfeed interpreter text hstart)

theorem Reachable.feedAll (h : interpreter.Reachable) (texts : List String) :
    (interpreter.feedAll texts).1.Reachable :=
  feedAll_preserves (fun _ text hreachable => hreachable.fed text) h texts

theorem settings_feedAll (interpreter : Interpreter) (texts : List String) :
    (interpreter.feedAll texts).1.reporter = interpreter.reporter ∧
      (interpreter.feedAll texts).1.debug = interpreter.debug :=
  feedAll_preserves (motive := fun reached =>
    reached.reporter = interpreter.reporter ∧ reached.debug = interpreter.debug)
    (fun _ _ h => h) ⟨rfl, rfl⟩ texts

/-! ### One text -/

theorem lineCount_feed (interpreter : Interpreter) (text : String) :
    (interpreter.feed text).1.lineCount = interpreter.lineCount + text.toList.count '\n' + 1 := rfl

theorem exists_failsOn_of_feed (h : (interpreter.feed text).2.fault = some fault) :
    ∃ before line after, interpreter.program text = before ++ line :: after ∧
      interpreter.machine.FailsOn before line fault := by
  have herror : (interpreter.machine.run (interpreter.program text)).error = some fault := h
  exact Machine.exists_failsOn herror

/-- An error is numbered beyond the texts before its own, and not beyond that one. -/
theorem line_of_feed (h : (interpreter.feed text).2.fault = some fault) :
    interpreter.lineCount < fault.line ∧ fault.line ≤ (interpreter.feed text).1.lineCount := by
  obtain ⟨before, line, after, hprogram, hfails⟩ := exists_failsOn_of_feed h
  have hmem : line ∈ Line.ofText (interpreter.lineCount + 1) text := by
    change line ∈ interpreter.program text
    rw [hprogram]
    exact List.mem_append_right before List.mem_cons_self
  have hbounds := Line.number_of_mem_ofText hmem
  rw [hfails.line_eq, lineCount_feed]
  omega

/-! ### A sequence of texts -/

theorem program_empty (interpreter : Interpreter) : interpreter.program "" = [] := rfl

theorem program_intercalate_cons (interpreter : Interpreter) (text : String) (h : texts ≠ []) :
    interpreter.program ("\n".intercalate (text :: texts)) =
      interpreter.program text ++
        (interpreter.feed text).1.program ("\n".intercalate texts) := by
  rw [String.intercalate_cons_of_ne_nil h, program_join]

/-- The lines of the last text follow those of the texts before it, whatever became of them. -/
theorem program_intercalate_append (interpreter : Interpreter) (texts : List String)
    (text : String) :
    interpreter.program ("\n".intercalate (texts ++ [text])) =
      interpreter.program ("\n".intercalate texts) ++
        (interpreter.feedAll texts).1.program text := by
  induction texts generalizing interpreter with
  | nil => rw [List.nil_append, String.intercalate_singleton, String.intercalate_nil,
      program_empty, List.nil_append, feedAll]
  | cons first texts ih =>
      rw [List.cons_append, program_intercalate_cons _ _ (by simp), ih, feedAll_cons,
        ← List.append_assoc]
      congr 1
      cases texts with
      | nil =>
          rw [String.intercalate_nil, String.intercalate_singleton, program_empty,
            List.append_nil]
      | cons next texts => rw [program_intercalate_cons _ _ (List.cons_ne_nil next texts)]

theorem lineCount_feedAll (interpreter : Interpreter) (h : texts ≠ []) :
    (interpreter.feedAll texts).1.lineCount =
      (interpreter.feed ("\n".intercalate texts)).1.lineCount := by
  induction texts generalizing interpreter with
  | nil => exact absurd rfl h
  | cons text texts ih =>
      cases texts with
      | nil => rw [String.intercalate_singleton, feedAll_cons, feedAll]
      | cons next texts =>
          have hrest : next :: texts ≠ [] := List.cons_ne_nil next texts
          rw [feedAll_cons, ih _ hrest, String.intercalate_cons_of_ne_nil hrest, lineCount_join]

theorem feedAll_append (interpreter : Interpreter) (texts : List String) (text : String) :
    interpreter.feedAll (texts ++ [text]) =
      (((interpreter.feedAll texts).1.feed text).1,
        (interpreter.feedAll texts).2 ++ [((interpreter.feedAll texts).1.feed text).2]) := by
  induction texts generalizing interpreter with
  | nil => rfl
  | cons first texts ih => simp only [List.cons_append, feedAll_cons, ih]

theorem lineCount_lt_of_mem_feedAll
    (h : fault ∈ (interpreter.feedAll texts).2.filterMap (·.fault)) :
    interpreter.lineCount < fault.line := by
  induction texts generalizing interpreter with
  | nil => cases h
  | cons text texts ih =>
      obtain ⟨response, hresponse, hfault⟩ := List.mem_filterMap.mp h
      rw [feedAll_cons] at hresponse
      rcases List.mem_cons.mp hresponse with rfl | hresponse
      · exact (line_of_feed hfault).1
      · have hlater := ih (List.mem_filterMap.mpr ⟨response, hresponse, hfault⟩)
        rw [lineCount_feed] at hlater
        omega

theorem pairwise_feedAll (interpreter : Interpreter) (texts : List String) :
    ((interpreter.feedAll texts).2.filterMap (·.fault)).Pairwise (·.line < ·.line) := by
  induction texts generalizing interpreter with
  | nil => exact .nil
  | cons text texts ih =>
      rw [feedAll_cons]
      cases hfault : (interpreter.feed text).2.fault with
      | none =>
          rw [List.filterMap_cons_none hfault]
          exact ih _
      | some fault =>
          rw [List.filterMap_cons_some hfault, List.pairwise_cons]
          refine ⟨fun other hother => ?_, ih _⟩
          have hfirst := (line_of_feed hfault).2
          have hlater := lineCount_lt_of_mem_feedAll hother
          omega

/-- The line on which an error stops the last text is found in the texts joined, after the lines of the earlier ones and those that were evaluated. -/
theorem exists_foundAt_of_feed
    (h : ((interpreter.feedAll texts).1.feed text).2.fault = some fault) :
    ∃ before line after left statement right,
      (interpreter.feedAll texts).1.program text = before ++ line :: after ∧
      (interpreter.feedAll texts).1.machine.FailsOn before line fault ∧
      Line.FoundAt ("\n".intercalate (texts ++ [text])).toList left statement right line ∧
      interpreter.program (String.ofList left) =
        interpreter.program ("\n".intercalate texts) ++ before ∧
      fault.line = interpreter.lineCount + 1 + left.count '\n' := by
  obtain ⟨before, line, after, hprogram, hfails⟩ := exists_failsOn_of_feed h
  have hwhole : interpreter.program ("\n".intercalate (texts ++ [text])) =
      (interpreter.program ("\n".intercalate texts) ++ before) ++ line :: after := by
    rw [program_intercalate_append, hprogram, List.append_assoc]
  obtain ⟨left, statement, right, hfound, hnumber, hleft⟩ := Line.exists_foundAt hwhole
  exact ⟨before, line, after, left, statement, right, hprogram, hfails, hfound, hleft,
    hfails.line_eq.trans hnumber⟩

/-- **Numbering.** After any texts the count is that of the physical lines of all of them, joined with newlines. An error in the last of them has the number of the physical line that its statement is found on; so it lies beyond the texts before, and no two errors of a session have the same number. -/
theorem feedAll_numbered {files : String → Option (List UInt8)} {reporter : Reporter}
    {path : String} {interactive debug : Bool}
    (hopen : openPath files reporter path interactive debug = .ok interpreter)
    (texts : List String) (text : String) :
    (interpreter.feedAll (texts ++ [text])).1.lineCount =
        (("\n".intercalate (texts ++ [text])).toList.splitOn '\n').length ∧
      (∀ fault, ((interpreter.feedAll texts).1.feed text).2.fault = some fault →
        (interpreter.feedAll texts).1.lineCount < fault.line ∧
        fault.line ≤ (interpreter.feedAll (texts ++ [text])).1.lineCount ∧
        ∃ before line after left statement right,
          (interpreter.feedAll texts).1.program text = before ++ line :: after ∧
          (interpreter.feedAll texts).1.machine.FailsOn before line fault ∧
          Line.FoundAt ("\n".intercalate (texts ++ [text])).toList left statement right line ∧
          Line.ofText 1 (String.ofList left) =
            Line.ofText 1 ("\n".intercalate texts) ++ before ∧
          fault.line = 1 + left.count '\n') ∧
      ((interpreter.feedAll (texts ++ [text])).2.filterMap (·.fault)).Pairwise
        (·.line < ·.line) := by
  have hzero : interpreter.lineCount = 0 := (machine_of_openPath hopen).2
  refine ⟨?_, fun fault hfault => ?_, pairwise_feedAll interpreter _⟩
  · rw [lineCount_feedAll interpreter (by simp), lineCount_feed, hzero, length_splitOn,
      Nat.zero_add]
  · obtain ⟨hlower, hupper⟩ := line_of_feed hfault
    rw [feedAll_append]
    refine ⟨hlower, hupper, ?_⟩
    have hfound := exists_foundAt_of_feed hfault
    simp only [program, hzero] at hfound ⊢
    exact hfound

/-- The last of three texts fails on its second line, the seventh of all, although an error stopped the first and the second has no statement. -/
theorem feedAll_numbered_seventh :
    let opened := atPrompt {} false
    let earlier := ["x = 1\nq; 2", "# note\n\n"]
    let last := "y = 2; y print\n 3 ; z ; 4"
    openPath (fun _ => none) {} Reporter.inputPath true false = .ok opened ∧
      (opened.feedAll earlier).2.map (·.fault) = [some ⟨.unknownIdentifier "q", 2⟩, none] ∧
      ((opened.feedAll earlier).1.feed last).2.fault = some ⟨.unknownIdentifier "z", 7⟩ ∧
      (opened.feedAll (earlier ++ [last])).1.lineCount = 7 ∧
      ((opened.feedAll (earlier ++ [last])).2.filterMap (·.fault)).Pairwise (·.line < ·.line) ∧
      ∃ line left statement right,
        Line.FoundAt ("\n".intercalate (earlier ++ [last])).toList left statement right line ∧
        left.count '\n' = 6 := by
  intro opened earlier last
  have hopen : openPath (fun _ => none) {} Reporter.inputPath true false = .ok opened := rfl
  have hearlier : (opened.feedAll earlier).2.map (·.fault) =
      [some ⟨.unknownIdentifier "q", 2⟩, none] := by
    decide +kernel
  have hlast : ((opened.feedAll earlier).1.feed last).2.fault =
      some ⟨.unknownIdentifier "z", 7⟩ := by
    decide +kernel
  obtain ⟨hcount, hfound, hpairwise⟩ := feedAll_numbered hopen earlier last
  obtain ⟨-, -, before, line, after, left, statement, right, -, -, hfound, -, hnumber⟩ :=
    hfound _ hlast
  refine ⟨hopen, hearlier, hlast, ?_, hpairwise, line, left, statement, right, hfound, ?_⟩
  · rw [hcount]
    decide +kernel
  · change (7 : Int) = 1 + left.count '\n' at hnumber
    omega

end Interpreter

end StackScript
