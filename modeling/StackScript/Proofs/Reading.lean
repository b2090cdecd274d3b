import StackScript.Proofs.Lexeme

/-!
# What the scanner reads

One lemma for each thing that can come next outside a string, and then what reading makes of a whole
run of characters. A token that stays open until the next character is emitted with whatever comes
after it, so each lemma speaks of the token in progress, `state.finish`, and of the rest of the text.
-/

namespace StackScript

open Text Scanner

theorem push_ofList (l : List Char) (c : Char) :
    (String.ofList l).push c = String.ofList (l ++ [c]) := by
  apply String.toList_inj.mp
  simp

theorem ofList_eq_empty_iff {l : List Char} : String.ofList l = "" ↔ l = [] := by
  rw [← String.toList_inj]
  simp

namespace ScanState

variable {state : ScanState} {c d : Char} {l : List Char}

theorem read_nil : state.read [] [] = state.finish.toList := by
  simp [read]

theorem read_of_next (h : (state.step c l.head?).move = .next) :
    state.read [] (c :: l) =
      (state.step c l.head?).tokens ++ (state.step c l.head?).state.read [] l := by
  conv => lhs; unfold read
  simp only [h]
  rw [read_eq_append]
  simp

theorem read_of_skip (h : (state.step c (some d)).move = .skip) :
    state.read [] (c :: d :: l) =
      (state.step c (some d)).tokens ++ (state.step c (some d)).state.read [] l := by
  conv => lhs; unfold read
  simp only [List.head?_cons, h]
  rw [read_eq_append]
  simp

theorem read_of_stop (h : (state.step c l.head?).move = .stop) :
    state.read [] (c :: l) =
      (state.step c l.head?).tokens ++ (state.step c l.head?).state.finish.toList := by
  unfold read
  simp [h]

/-! ### Outside a string -/

section Outside

variable (hmode : state.mode ≠ .string)
include hmode

theorem step_eq_stepOutside (c : Char) (ahead : Option Char) :
    state.step c ahead = state.stepOutside c ahead := by
  rw [step, if_neg hmode]

theorem read_quote :
    state.read [] ('"' :: l) = state.finish.toList ++ (⟨.string, ""⟩ : ScanState).read [] l := by
  have hstep : state.step '"' l.head? = ⟨⟨.string, ""⟩, state.finish.toList, .next⟩ := by
    rw [step_eq_stepOutside hmode, stepOutside, if_pos rfl]
  rw [read_of_next (by rw [hstep]), hstep]

theorem read_comment (hcomment : c = '#' ∨ opensComment c l.head? = true) :
    state.read [] (c :: l) = state.finish.toList := by
  have hquote : c ≠ '"' := by
    rintro rfl
    simp [opensComment] at hcomment
  have hstep : state.step c l.head? = state.close [] .stop := by
    rw [step_eq_stepOutside hmode, stepOutside, if_neg hquote, if_pos hcomment]
  rw [read_of_stop (by rw [hstep]; rfl), hstep]
  simp [close, start, finish]

theorem step_blank (hblank : isBlank c = true) (ahead : Option Char) :
    state.step c ahead = state.close [] .next := by
  obtain ⟨hquote, hhash, -, hoperator, -⟩ := classes_of_isBlank hblank
  rw [step_eq_stepOutside hmode, stepOutside, if_neg hquote,
    if_neg (not_comment hhash hoperator _), if_pos hblank]

theorem read_blank (hblank : isBlank c = true) :
    state.read [] (c :: l) = state.finish.toList ++ start.read [] l := by
  have hstep := step_blank hmode hblank l.head?
  rw [read_of_next (by rw [hstep]; rfl), hstep]
  simp [close]

theorem read_bracket (hbracket : isBracket c = true) :
    state.read [] (c :: l) =
      state.finish.toList ++ ⟨.symbol, String.singleton c⟩ :: start.read [] l := by
  obtain ⟨hblank, hquote, hhash, hoperator, -⟩ := classes_of_isBracket hbracket
  have hstep : state.step c l.head? = state.close [⟨.symbol, String.singleton c⟩] .next := by
    rw [step_eq_stepOutside hmode, stepOutside, if_neg hquote,
      if_neg (not_comment hhash hoperator _), if_neg (by simp [hblank]), if_pos hbracket]
  rw [read_of_next (by rw [hstep]; rfl), hstep]
  simp [close]

theorem step_operator (hoperator : isOperatorChar c = true) {ahead : Option Char}
    (hcomment : opensComment c ahead = false) (hsign : state.opensNegative c ahead = false) :
    state.step c ahead = state.stepOperator c ahead := by
  obtain ⟨hblank, hquote, hhash, hbracket, -⟩ := classes_of_isOperatorChar hoperator
  rw [step_eq_stepOutside hmode, stepOutside, if_neg hquote, if_neg (by simp [hhash, hcomment]),
    if_neg (by simp [hblank]), if_neg (by simp [hbracket]), if_neg (by simp [hsign]),
    if_pos hoperator]

theorem read_pair (hoperator : isOperatorChar c = true) (hpair : isOperatorPair c d = true) :
    state.read [] (c :: d :: l) =
      state.finish.toList ++ ⟨.operator, String.ofList [c, d]⟩ :: start.read [] l := by
  have hsecond := isOperatorChar_of_isOperatorPair hpair
  have hcomment := opensComment_eq_false_of_isOperatorPair hpair
  have hsign : state.opensNegative c (some d) = false := by
    simp [opensNegative, (classes_of_isOperatorChar hsecond).2.2.2.2]
  have hstep : state.step c (some d) =
      state.close [⟨.operator, String.ofList [c, d]⟩] .skip := by
    rw [step_operator hmode hoperator hcomment hsign]
    simp [stepOperator, hpair]
  rw [read_of_skip (by rw [hstep]; rfl), hstep]
  simp [close]

theorem read_operator (hoperator : isOperatorChar c = true)
    (hnext : ∀ d ∈ l.head?, isOperatorPair c d = false ∧ opensComment c (some d) = false)
    (hsign : state.opensNegative c l.head? = false) :
    state.read [] (c :: l) =
      state.finish.toList ++ ⟨.operator, String.singleton c⟩ :: start.read [] l := by
  have hcomment : opensComment c l.head? = false := by
    cases hhead : l.head? with
    | none => simp [opensComment]
    | some d => exact (hnext d hhead).2
  have hstep : state.step c l.head? = state.close [⟨.operator, String.singleton c⟩] .next := by
    rw [step_operator hmode hoperator hcomment hsign]
    cases hhead : l.head? with
    | none => rfl
    | some d => simp [stepOperator, (hnext d hhead).1]
  rw [read_of_next (by rw [hstep]; rfl), hstep]
  simp [close]

theorem step_nameChar (hname : isNameChar c = true) (ahead : Option Char) :
    state.step c ahead =
      if c.isDigit then
        if state.text = "" then ⟨⟨.number, String.singleton c⟩, [], .next⟩ else state.extend c
      else if state.mode = .number then
        ⟨⟨.default, String.singleton c⟩, state.finish.toList, .next⟩
      else state.extend c := by
  obtain ⟨hblank, hquote, hhash, hbracket, hoperator⟩ := isNameChar_iff.mp hname
  have hminus := (ne_of_isOperatorChar_eq_false hoperator).2
  rw [step_eq_stepOutside hmode, stepOutside, if_neg hquote,
    if_neg (not_comment hhash hoperator _), if_neg (by simp [hblank]),
    if_neg (by simp [hbracket]), if_neg (by simp [opensNegative, hminus]),
    if_neg (by simp [hoperator])]

end Outside

/-! ### Numbers and names -/

theorem read_sign (hdigit : d.isDigit = true) :
    start.read [] ('-' :: d :: l) =
      (⟨.number, String.ofList ['-']⟩ : ScanState).read [] (d :: l) := by
  have hstep : start.step '-' (some d) = ⟨⟨.number, String.singleton '-'⟩, [], .next⟩ := by
    have hsign : start.opensNegative '-' (some d) = true := by
      simp [opensNegative, hdigit, start]
    rw [step_eq_stepOutside (by decide), stepOutside, if_neg (by decide),
      if_neg (by simp [opensComment]), if_neg (by decide), if_neg (by decide), if_pos hsign]
  rw [read_of_next (by rw [List.head?_cons, hstep]), List.head?_cons, hstep,
    String.singleton_eq_ofList]
  rfl

theorem read_firstDigit (hdigit : c.isDigit = true) :
    start.read [] (c :: l) = (⟨.number, String.ofList [c]⟩ : ScanState).read [] l := by
  have hstep : start.step c l.head? = ⟨⟨.number, String.singleton c⟩, [], .next⟩ := by
    rw [step_nameChar (by decide) (isNameChar_of_isDigit hdigit), if_pos hdigit]
    rfl
  rw [read_of_next (by rw [hstep]), hstep, String.singleton_eq_ofList]
  rfl

theorem read_digits {text digits : List Char} (htext : text ≠ [])
    (hdigits : ∀ c ∈ digits, c.isDigit = true) :
    (⟨.number, String.ofList text⟩ : ScanState).read [] (digits ++ l) =
      (⟨.number, String.ofList (text ++ digits)⟩ : ScanState).read [] l := by
  induction digits generalizing text with
  | nil => simp
  | cons c digits ih =>
      obtain ⟨hdigit, hdigits⟩ := List.forall_mem_cons.mp hdigits
      have hstep : ∀ ahead, (⟨.number, String.ofList text⟩ : ScanState).step c ahead =
          ⟨⟨.number, String.ofList (text ++ [c])⟩, [], .next⟩ := by
        intro ahead
        rw [step_nameChar (by simp) (isNameChar_of_isDigit hdigit), if_pos hdigit,
          if_neg (by simpa [ofList_eq_empty_iff] using htext), extend, push_ofList]
      rw [List.cons_append, read_of_next (by rw [hstep]), hstep, List.nil_append,
        ih (by simp) hdigits, List.append_assoc, List.singleton_append]

theorem read_firstNameChar {state : ScanState} (hstate : state = start ∨ state.mode = .number)
    (hname : isNameChar c = true) (hdigit : c.isDigit = false) :
    state.read [] (c :: l) =
      state.finish.toList ++ (⟨.default, String.ofList [c]⟩ : ScanState).read [] l := by
  have hstep : state.step c l.head? =
      ⟨⟨.default, String.singleton c⟩, state.finish.toList, .next⟩ := by
    rcases hstate with rfl | hnumber
    · rw [step_nameChar (by decide) hname, if_neg (by simp [hdigit]), if_neg (by decide)]
      rfl
    · rw [step_nameChar (by simp [hnumber]) hname, if_neg (by simp [hdigit]), if_pos hnumber]
  rw [read_of_next (by rw [hstep]), hstep, String.singleton_eq_ofList]

theorem read_nameChars {text name : List Char} (htext : text ≠ [])
    (hname : ∀ c ∈ name, isNameChar c = true) :
    (⟨.default, String.ofList text⟩ : ScanState).read [] (name ++ l) =
      (⟨.default, String.ofList (text ++ name)⟩ : ScanState).read [] l := by
  induction name generalizing text with
  | nil => simp
  | cons c name ih =>
      obtain ⟨hfirst, hname⟩ := List.forall_mem_cons.mp hname
      have hstep : ∀ ahead, (⟨.default, String.ofList text⟩ : ScanState).step c ahead =
          ⟨⟨.default, String.ofList (text ++ [c])⟩, [], .next⟩ := by
        intro ahead
        have hempty : String.ofList text ≠ "" := mt ofList_eq_empty_iff.mp htext
        rw [step_nameChar (by simp) hfirst]
        simp only [hempty, reduceCtorEq, if_false, ite_self, extend, push_ofList]
      rw [List.cons_append, read_of_next (by rw [hstep]), hstep, List.nil_append,
        ih (by simp) hname, List.append_assoc, List.singleton_append]

/-! ### Inside a string -/

theorem read_closingQuote (text : String) :
    (⟨.string, text⟩ : ScanState).read [] ('"' :: l) = ⟨.string, text⟩ :: start.read [] l := by
  have hstep : ∀ ahead, (⟨.string, text⟩ : ScanState).step '"' ahead =
      ⟨start, [⟨.string, text⟩], .next⟩ := fun _ => rfl
  rw [read_of_next (by rw [hstep]), hstep]
  rfl

theorem read_cut (text : String) :
    (⟨.string, text⟩ : ScanState).read [] ('/' :: '/' :: l) = [⟨.string, text⟩] := by
  have hstep : (⟨.string, text⟩ : ScanState).step '/' (some '/') =
      ⟨start, [⟨.string, text⟩], .stop⟩ := rfl
  rw [read_of_stop (by rw [List.head?_cons, hstep]), List.head?_cons, hstep]
  rfl

theorem step_stringChar (text : String) (hquote : c ≠ '"') {ahead : Option Char}
    (hcomment : opensComment c ahead = false) :
    (⟨.string, text⟩ : ScanState).step c ahead = ⟨⟨.string, text.push c⟩, [], .next⟩ := by
  rw [step, if_pos rfl, stepString, if_neg hquote, if_neg (by rw [hcomment]; decide), extend]

/-- A string takes in what holds neither a quote nor two slashes, as long as its last slash does not meet another one. -/
theorem read_stringChars {text body : List Char} (hquote : '"' ∉ body)
    (hslashes : ¬['/', '/'] <:+: body)
    (hend : body.getLast? = some '/' → l.head? ≠ some '/') :
    (⟨.string, String.ofList text⟩ : ScanState).read [] (body ++ l) =
      (⟨.string, String.ofList (text ++ body)⟩ : ScanState).read [] l := by
  induction body generalizing text with
  | nil => simp
  | cons c body ih =>
      have hfirst : c ≠ '"' := fun heq => hquote (heq ▸ List.mem_cons_self)
      have hbody : ¬['/', '/'] <:+: body :=
        fun h => hslashes (h.trans (List.suffix_cons c body).isInfix)
      have hcomment : opensComment c (body ++ l).head? = false := by
        refine Bool.eq_false_iff.mpr fun hopens => ?_
        obtain ⟨rfl, hslash⟩ := opensComment_iff.mp hopens
        cases body with
        | nil => exact hend rfl (by simpa using hslash)
        | cons d body =>
            cases Option.some.inj hslash
            exact hslashes ⟨[], body, rfl⟩
      have hstep : (⟨.string, String.ofList text⟩ : ScanState).step c (body ++ l).head? =
          ⟨⟨.string, String.ofList (text ++ [c])⟩, [], .next⟩ := by
        rw [step_stringChar _ hfirst hcomment, push_ofList]
      have hend' : body.getLast? = some '/' → l.head? ≠ some '/' := by
        intro hlast
        apply hend
        rw [List.getLast?_cons, hlast]
        rfl
      rw [List.cons_append, read_of_next (by rw [hstep]), hstep, List.nil_append,
        ih (mt (List.mem_cons_of_mem c) hquote) hbody hend', List.append_assoc,
        List.singleton_append]

/-! ### Whole texts of one kind -/

theorem read_number {text : String} (hnumeral : isNumeral text = true) :
    start.read [] (text.toList ++ l) = (⟨.number, text⟩ : ScanState).read [] l := by
  obtain ⟨digits, hne, hdigits, htext⟩ := isNumeral_iff.mp hnumeral
  obtain ⟨first, digits, rfl⟩ := List.exists_cons_of_ne_nil hne
  have hfirst : first.isDigit = true := hdigits first List.mem_cons_self
  have hother : ∀ c ∈ digits, c.isDigit = true := fun c hc => hdigits c (List.mem_cons_of_mem _ hc)
  rw [← String.ofList_toList (s := text)]
  rcases htext with htext | htext
  · rw [String.toList_ofList, htext, List.cons_append, read_firstDigit hfirst,
      read_digits (by simp) hother, List.singleton_append]
  · rw [String.toList_ofList, htext, List.cons_append, List.cons_append, read_sign hfirst,
      ← List.cons_append, read_digits (by simp) hdigits, List.singleton_append]

theorem read_name {text : String} (hstate : state = start ∨ state.mode = .number)
    (hname : IsName text) :
    state.read [] (text.toList ++ l) =
      state.finish.toList ++ (⟨.default, text⟩ : ScanState).read [] l := by
  obtain ⟨hchars, first, hhead, hdigit⟩ := hname
  rw [← String.ofList_toList (s := text)]
  cases htext : text.toList with
  | nil => simp [htext] at hhead
  | cons c name =>
      rw [htext] at hchars hhead
      cases Option.some.inj hhead
      obtain ⟨hfirst, hother⟩ := List.forall_mem_cons.mp hchars
      rw [String.toList_ofList, List.cons_append, read_firstNameChar hstate hfirst hdigit,
        read_nameChars (by simp) hother, List.singleton_append]

theorem read_closedString {text : String} (hmode : state.mode ≠ .string)
    (hquote : '"' ∉ text.toList) (hslashes : ¬['/', '/'] <:+: text.toList) :
    state.read [] ('"' :: (text.toList ++ '"' :: l)) =
      state.finish.toList ++ ⟨.string, text⟩ :: start.read [] l := by
  have hend : text.toList.getLast? = some '/' → ('"' :: l).head? ≠ some '/' := by simp
  rw [read_quote hmode, ← String.ofList_nil, read_stringChars hquote hslashes hend,
    List.nil_append, String.ofList_toList, read_closingQuote]

theorem read_openString {text : String} (hmode : state.mode ≠ .string)
    (hquote : '"' ∉ text.toList) (hslashes : ¬['/', '/'] <:+: text.toList) :
    state.read [] ('"' :: text.toList) = state.finish.toList ++ [⟨.string, text⟩] := by
  have hchars := @read_stringChars [] [] text.toList hquote hslashes (by simp)
  rw [List.append_nil, List.nil_append, String.ofList_nil, String.ofList_toList, read_nil] at hchars
  rw [read_quote hmode, hchars]
  rfl

theorem read_cutString {text : String} (hmode : state.mode ≠ .string)
    (hquote : '"' ∉ text.toList) (hslashes : ¬['/', '/'] <:+: text.toList)
    (hlast : text.toList.getLast? ≠ some '/') :
    state.read [] ('"' :: (text.toList ++ '/' :: '/' :: l)) =
      state.finish.toList ++ [⟨.string, text⟩] := by
  have hend : text.toList.getLast? = some '/' → ('/' :: '/' :: l).head? ≠ some '/' :=
    fun h => absurd h hlast
  rw [read_quote hmode, ← String.ofList_nil, read_stringChars hquote hslashes hend,
    List.nil_append, String.ofList_toList, read_cut]

end ScanState

end StackScript
