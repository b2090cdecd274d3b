import Mathlib.Data.List.DropRight
import StackScript.Proofs.Boundaries
import StackScript.Proofs.Statements

/-!
# Lines as they are shown

A line keeps the statement it was made of, without the blanks around it. Blanks in front of a
statement make no token, and blanks behind it end the token in progress as the end of the statement
does, so the statement without them has the same tokens. The one exception is a string that is
still open at the end: it loses the blanks there, and nothing else does.
-/

namespace StackScript

open Text Scanner

theorem rdropWhile_append {α : Type} {p : α → Bool} {l gap : List α} (hgap : ∀ c ∈ gap, p c = true)
    (hlast : ∀ c ∈ l.getLast?, p c = false) : (l ++ gap).rdropWhile p = l := by
  induction gap using List.reverseRecOn with
  | nil =>
      rw [List.append_nil, List.rdropWhile_eq_self_iff]
      intro hne
      simp [hlast _ (List.getLast_mem_getLast? hne)]
  | append_singleton gap c ih =>
      obtain ⟨hgap, hc⟩ := List.forall_mem_append.mp hgap
      rw [← List.append_assoc, List.rdropWhile_concat_pos p _ c (hc c (List.mem_singleton_self c)),
        ih hgap]

namespace ScanState

variable {state : ScanState} {c : Char} {l gap : List Char}

theorem advance_blank (hmode : state.mode ≠ .string) (hblank : isBlank c = true) :
    state.advance (c :: l) = (start.advance l).following state.finish.toList := by
  have hstep := step_blank hmode hblank l.head?
  rw [advance_of_next (by rw [hstep]; rfl), hstep, close, List.append_nil]

theorem advance_blanks (hgap : ∀ c ∈ gap, isBlank c = true) :
    start.advance (gap ++ l) = start.advance l := by
  induction gap with
  | nil => rfl
  | cons c gap ih =>
      obtain ⟨hblank, hgap⟩ := List.forall_mem_cons.mp hgap
      rw [List.cons_append, advance_blank (by decide) hblank, ih hgap]
      rfl

/-- Outside a string blanks do no more than end the token in progress. -/
theorem advance_gap (hmode : state.mode ≠ .string) (hgap : ∀ c ∈ gap, isBlank c = true) :
    state.advance gap = ⟨[], some state⟩ ∨
      state.advance gap = ⟨state.finish.toList, some start⟩ := by
  cases gap with
  | nil => exact Or.inl rfl
  | cons c gap =>
      obtain ⟨hblank, hgap⟩ := List.forall_mem_cons.mp hgap
      have hstart : start.advance gap = ⟨[], some start⟩ := by
        have hblanks := advance_blanks (l := []) hgap
        rwa [List.append_nil] at hblanks
      rw [advance_blank hmode hblank, hstart, Progress.following, List.append_nil]
      exact Or.inr rfl

/-- An open string takes blanks in. -/
theorem advance_string_gap (text : List Char) (hgap : ∀ c ∈ gap, isBlank c = true) :
    (⟨.string, String.ofList text⟩ : ScanState).advance gap =
      ⟨[], some ⟨.string, String.ofList (text ++ gap)⟩⟩ := by
  induction gap generalizing text with
  | nil => simp [advance]
  | cons c gap ih =>
      obtain ⟨hblank, hgap⟩ := List.forall_mem_cons.mp hgap
      obtain ⟨hquote, -, -, hoperator, -⟩ := classes_of_isBlank hblank
      have hcomment : opensComment c gap.head? = false := by
        simp [opensComment, (ne_of_isOperatorChar_eq_false hoperator).1]
      have hstep : (⟨.string, String.ofList text⟩ : ScanState).step c gap.head? =
          ⟨⟨.string, String.ofList (text ++ [c])⟩, [], .next⟩ := by
        rw [step_stringChar _ hquote hcomment, push_ofList]
      rw [advance_of_next (by rw [hstep]), hstep, ih _ hgap, List.append_assoc,
        List.singleton_append]
      rfl

end ScanState

namespace Scanner

variable {statement : List Char}

/-- A statement takes the scanner as far as it does without the blanks around it, and then over those behind it. -/
theorem progress_trimChars (statement : List Char) :
    ∃ gap, (∀ c ∈ gap, isBlank c = true) ∧
      progress statement = (progress (trimChars statement)).andThen (·.advance gap) := by
  obtain ⟨indent, gap, hsplit, hindent, hgap⟩ := exists_blanks_trimChars statement
  have hblank : ∀ l : List Char, (∀ c ∈ l, isBlank c = true) →
      ∀ c ∈ l.filter (· != '\r'), isBlank c = true :=
    fun l hl c hc => hl c (List.mem_of_mem_filter hc)
  refine ⟨gap.filter (· != '\r'), hblank gap hgap, ?_⟩
  have hapart : Apart ((trimChars statement).filter (· != '\r')) (gap.filter (· != '\r')) := by
    intro c _ d hd
    exact .of_isBlank (hblank gap hgap d (List.mem_of_mem_head? hd))
  rw [progress, progress, ← ScanState.advance_append _ hapart]
  conv => lhs; rw [hsplit]
  rw [List.filter_append, List.filter_append, ScanState.advance_blanks (hblank indent hindent)]

theorem getLast?_filter_trimChars (l : List Char) :
    ((trimChars l).filter (· != '\r')).getLast? = (trimChars l).getLast? := by
  cases hlast : (trimChars l).getLast? with
  | none =>
      rw [List.getLast?_eq_none_iff] at hlast
      rw [hlast]
      rfl
  | some c =>
      have hreturn : c ≠ '\r' := by
        rintro rfl
        exact absurd (isBlank_getLast?_trimChars hlast) (by decide)
      obtain ⟨init, hinit⟩ := List.getLast?_eq_some_iff.mp hlast
      rw [hinit, List.filter_append, List.filter_cons_of_pos (by simpa using hreturn),
        List.filter_nil, List.getLast?_concat]

/-- What is in progress at the end of a statement without blanks around it does not end in one. -/
theorem isBlank_getLast?_progress {last : ScanState}
    (h : (progress (trimChars statement)).state? = some last) {c : Char}
    (hc : c ∈ last.text.toList.getLast?) : isBlank c = false := by
  obtain ⟨before, hbefore⟩ := ScanState.suffix_of_advance h
  have hlast : ((trimChars statement).filter (· != '\r')).getLast? = some c := by
    rw [← List.nil_append (List.filter _ _)]
    change (ScanState.start.text.toList ++ _).getLast? = _
    rw [← hbefore, List.getLast?_append, Option.mem_def.mp hc]
    rfl
  rw [getLast?_filter_trimChars] at hlast
  exact isBlank_getLast?_trimChars hlast

theorem tokens_of_not_endsInString (h : ¬ EndsInString (trimChars statement)) :
    tokens (trimChars statement) = tokens statement ∧ ¬ EndsInString statement := by
  obtain ⟨gap, hgap, hprogress⟩ := progress_trimChars statement
  rw [tokens_eq_finish, tokens_eq_finish, EndsInString, hprogress, Progress.finish_andThen,
    Progress.finish, Progress.andThen]
  cases hstate : (progress (trimChars statement)).state? with
  | none => simp [hstate]
  | some state =>
      have hmode : state.mode ≠ .string := fun hmode => h ⟨state, hstate, hmode⟩
      -- the token in progress is ended by the end of the statement or by a blank before it
      rcases ScanState.advance_gap hmode hgap with hadvance | hadvance
      · simp [hadvance, Progress.finish, Progress.following, hmode]
      · simp [hadvance, Progress.finish, Progress.following, ScanState.start, ScanState.finish]

theorem progress_of_endsInString (h : EndsInString (trimChars statement)) :
    ∃ earlier text gap, (∀ c ∈ gap, isBlank c = true) ∧
      progress (trimChars statement) = ⟨earlier, some ⟨.string, text⟩⟩ ∧
      progress statement = ⟨earlier, some ⟨.string, String.ofList (text.toList ++ gap)⟩⟩ := by
  obtain ⟨gap, hgap, hprogress⟩ := progress_trimChars statement
  obtain ⟨⟨mode, text⟩, hstate, hmode⟩ := h
  obtain rfl : mode = .string := hmode
  have htrimmed : progress (trimChars statement) =
      ⟨(progress (trimChars statement)).tokens, some ⟨.string, text⟩⟩ := by
    rw [← Option.mem_def.mp hstate]
  have hadvance := ScanState.advance_string_gap text.toList hgap
  rw [String.ofList_toList] at hadvance
  refine ⟨_, text, gap, hgap, htrimmed, ?_⟩
  rw [hprogress, htrimmed, Progress.andThen]
  simp only [hadvance, Progress.following, List.append_nil]

theorem endsInString_trimChars : EndsInString (trimChars statement) ↔ EndsInString statement := by
  by_cases h : EndsInString (trimChars statement)
  · obtain ⟨earlier, text, gap, -, -, hprogress⟩ := progress_of_endsInString h
    exact iff_of_true h ⟨_, congrArg Progress.state? hprogress, rfl⟩
  · exact iff_of_false h (tokens_of_not_endsInString h).2

/-- An open string loses the blanks at the end of the statement. -/
theorem tokens_of_endsInString (h : EndsInString (trimChars statement)) :
    ∃ earlier value, tokens statement = earlier ++ [⟨.string, value⟩] ∧
      tokens (trimChars statement) =
        earlier ++ [⟨.string, String.ofList (value.toList.rdropWhile isBlank)⟩] := by
  obtain ⟨earlier, text, gap, hgap, htrimmed, hprogress⟩ := progress_of_endsInString h
  have hvalue : (text.toList ++ gap).rdropWhile isBlank = text.toList :=
    rdropWhile_append hgap fun c hc =>
      isBlank_getLast?_progress (congrArg Progress.state? htrimmed) hc
  refine ⟨earlier, String.ofList (text.toList ++ gap), ?_, ?_⟩
  · rw [tokens_eq_finish, hprogress]
    rfl
  · rw [tokens_eq_finish, htrimmed, String.toList_ofList, hvalue, String.ofList_toList]
    rfl

end Scanner

namespace Line

/-- **Sources.** Every line of a text comes from a statement at its place in that text, and the source of the line, scanned again, has the tokens of the line; only if a string is still open where the statement ends does the last token, that string, come back without the blanks at its end. -/
theorem tokenize_source {first : Int} {text : String} {before after : List Line} {line : Line}
    (h : ofText first text = before ++ line :: after) :
    ∃ left statement right, FoundAt text.toList left statement right line ∧
      line.number = first + left.count '\n' ∧ ofText first (String.ofList left) = before ∧
      (¬ EndsInString statement → tokenize line.source = line.tokens) ∧
      (EndsInString statement → ∃ earlier value,
        line.tokens = earlier ++ [⟨.string, value⟩] ∧
          tokenize line.source =
            earlier ++ [⟨.string, String.ofList (value.toList.rdropWhile isBlank)⟩]) := by
  obtain ⟨left, statement, right, hfound, hnumber, hbefore⟩ := exists_foundAt h
  refine ⟨left, statement, right, hfound, hnumber, hbefore, ?_⟩
  rw [hfound.tokens_eq, hfound.source_eq, tokenize, String.toList_ofList, ← endsInString_trimChars]
  exact ⟨fun hends => (tokens_of_not_endsInString hends).1, tokens_of_endsInString⟩

/-- The second statement of a line ends in a string, which loses two blanks; the source of the first has its tokens, though it lacks a tab and a carriage return. -/
theorem tokenize_source_open :
    let text := "\tx = -1 \r; print \"hi  "
    let stored : Line :=
      ⟨3, [⟨.identifier, "x"⟩, ⟨.operator, "="⟩, ⟨.number, "-1"⟩], "x = -1"⟩
    let shown : Line := ⟨3, [⟨.identifier, "print"⟩, ⟨.string, "hi  "⟩], "print \"hi"⟩
    ofText 3 text = [stored, shown] ∧
      tokenize stored.source = stored.tokens ∧
      ∃ left statement right, FoundAt text.toList left statement right shown ∧
        ofText 3 (String.ofList left) = [stored] ∧ EndsInString statement ∧
        ∃ earlier value, shown.tokens = earlier ++ [⟨.string, value⟩] ∧
          tokenize shown.source =
            earlier ++ [⟨.string, String.ofList (value.toList.rdropWhile isBlank)⟩] ∧
          tokenize shown.source = [⟨.identifier, "print"⟩, ⟨.string, "hi"⟩] := by
  intro text stored shown
  have hlines : ofText 3 text = [stored] ++ shown :: [] := by decide +kernel
  obtain ⟨left, statement, right, hfound, -, hbefore, hclosed, hopen⟩ := tokenize_source hlines
  have hshown : tokenize shown.source = [⟨.identifier, "print"⟩, ⟨.string, "hi"⟩] := by
    decide +kernel
  have hends : EndsInString statement := by
    by_contra hends
    have hsame := (hclosed hends).symm.trans hshown
    exact absurd hsame (by decide)
  obtain ⟨earlier, value, htokens, hsource⟩ := hopen hends
  exact ⟨hlines, by decide +kernel, left, statement, right, hfound, hbefore, hends, earlier, value,
    htokens, hsource, hshown⟩

end Line

end StackScript
