import StackScript.Proofs.Tokenization

/-!
# Where a statement can be cut

The scanner looks one character ahead, and steps over that one only for a pair of operator
characters. So where neither a pair nor the mark of a comment nor a sign goes over a cut, the text
before the cut takes the scanner as far as it would alone, and the text after it is read on from the
state there. A comment or a blank behind a text then does what the end of the statement does to the
token in progress; only an open string goes on past a blank or a `#`.
-/

namespace StackScript

open Text Scanner

namespace Scanner

/-- Nothing that the first character opens goes on with the second: neither a pair of operator characters nor the mark of a comment nor a sign with its number. -/
structure Parted (c d : Char) : Prop where
  pair : isOperatorPair c d = false
  comment : opensComment c (some d) = false
  sign : c = '-' → d.isDigit = false

/-- Two texts, one after the other, with nothing that goes from the first over into the second. -/
def Apart (l rest : List Char) : Prop :=
  ∀ c ∈ l.getLast?, ∀ d ∈ rest.head?, Parted c d

variable {c d : Char} {l rest : List Char}

theorem Parted.of_classes (hoperator : isOperatorChar d = false) (hdigit : d.isDigit = false) :
    Parted c d where
  pair := (parts_of_isOperatorChar_eq_false hoperator c).1
  comment := (parts_of_isOperatorChar_eq_false hoperator c).2
  sign _ := hdigit

theorem Parted.of_isBlank (hblank : isBlank d = true) : Parted c d := by
  obtain ⟨-, -, -, hoperator, hdigit⟩ := classes_of_isBlank hblank
  exact .of_classes hoperator hdigit

theorem Parted.slash (h : c ≠ '/') : Parted c '/' where
  pair := by simp [isOperatorPair]
  comment := by simp [opensComment, h]
  sign _ := by decide

theorem Apart.of_head (hparted : ∀ c, Parted c d) : Apart l (d :: rest) := by
  intro c _ e he
  cases Option.some.inj he
  exact hparted c

theorem Apart.tail (h : Apart (c :: l) rest) : Apart l rest := by
  intro b hb
  apply h
  rw [List.getLast?_cons, Option.mem_def.mp hb]
  rfl

end Scanner

/-- How far a text takes the scanner: the tokens made by the end of the text, and the state there, or `none` if a comment has ended the statement before that. -/
structure Progress where
  tokens : List Token
  state? : Option ScanState
deriving DecidableEq, Repr

namespace Progress

/-- The progress with some tokens made before it. -/
def following (progress : Progress) (tokens : List Token) : Progress :=
  { progress with tokens := tokens ++ progress.tokens }

/-- Goes on from the state at the end, unless a comment has ended the statement. -/
def andThen (progress : Progress) (next : ScanState → Progress) : Progress :=
  match progress.state? with
  | none => progress
  | some state => (next state).following progress.tokens

/-- The tokens of a statement that ends here. -/
def finish (progress : Progress) : List Token :=
  progress.tokens ++ progress.state?.elim [] (·.finish.toList)

variable {progress : Progress} {tokens : List Token} {next : ScanState → Progress}

theorem following_andThen :
    (progress.following tokens).andThen next = (progress.andThen next).following tokens := by
  obtain ⟨made, state?⟩ := progress
  cases state? with
  | none => rfl
  | some state => simp [andThen, following]

theorem finish_following : (progress.following tokens).finish = tokens ++ progress.finish := by
  simp [finish, following]

theorem finish_andThen :
    (progress.andThen next).finish =
      progress.tokens ++ progress.state?.elim [] fun state => (next state).finish := by
  unfold andThen
  cases hstate : progress.state? with
  | none => simp [finish, hstate]
  | some state => rw [finish_following, Option.elim_some]

end Progress

namespace ScanState

variable {state last : ScanState} {c d : Char} {l rest : List Char}

/-- Reads a text that the statement may go on after. -/
def advance (state : ScanState) : List Char → Progress
  | [] => ⟨[], some state⟩
  | c :: rest =>
    let step := state.step c rest.head?
    match step.move, rest with
    | .skip, _ :: rest => (step.state.advance rest).following step.tokens
    | .skip, [] => ⟨step.tokens, some step.state⟩
    | .next, rest => (step.state.advance rest).following step.tokens
    | .stop, _ => ⟨step.tokens, none⟩

theorem advance_of_next (h : (state.step c l.head?).move = .next) :
    state.advance (c :: l) =
      ((state.step c l.head?).state.advance l).following (state.step c l.head?).tokens := by
  conv => lhs; unfold advance
  simp only [h]

theorem advance_of_skip (h : (state.step c (some d)).move = .skip) :
    state.advance (c :: d :: l) =
      ((state.step c (some d)).state.advance l).following (state.step c (some d)).tokens := by
  conv => lhs; unfold advance
  simp only [List.head?_cons, h]

theorem advance_of_stop (h : (state.step c l.head?).move = .stop) :
    state.advance (c :: l) = ⟨(state.step c l.head?).tokens, none⟩ := by
  unfold advance
  simp only [h]

/-! ### What a step leaves in progress -/

/-- A token in progress is what was read last, and only a step to the next character leaves one. -/
theorem step_state (state : ScanState) (c : Char) (ahead : Option Char) :
    (state.step c ahead).state = start ∨
      (state.step c ahead).move = .next ∧
        (state.step c ahead).state.text.toList <:+ state.text.toList ++ [c] := by
  have hextend : (state.text.push c).toList <:+ state.text.toList ++ [c] := by simp
  have hfirst : (String.singleton c).toList <:+ state.text.toList ++ [c] := by simp
  have hoperator : (state.stepOperator c ahead).state = start := by
    unfold stepOperator
    repeat' split
    all_goals rfl
  by_cases hmode : state.mode = .string
  · rw [step, if_pos hmode, stepString]
    repeat' split
    · exact Or.inl rfl
    · exact Or.inl rfl
    · exact Or.inr ⟨rfl, hextend⟩
  · rw [step, if_neg hmode, stepOutside]
    -- the characters in the order the scanner tells them apart, from the quote to the name
    repeat' split
    · exact Or.inr ⟨rfl, List.nil_suffix⟩
    · exact Or.inl rfl
    · exact Or.inl rfl
    · exact Or.inl rfl
    · exact Or.inr ⟨rfl, hfirst⟩
    · exact Or.inl hoperator
    · exact Or.inr ⟨rfl, hfirst⟩
    · exact Or.inr ⟨rfl, hextend⟩
    · exact Or.inr ⟨rfl, hfirst⟩
    · exact Or.inr ⟨rfl, hextend⟩

theorem state_of_move_ne_next {ahead : Option Char} (h : (state.step c ahead).move ≠ .next) :
    (state.step c ahead).state = start :=
  (state.step_state c ahead).resolve_right fun hnext => h hnext.1

theorem text_step_suffix (state : ScanState) (c : Char) (ahead : Option Char) :
    (state.step c ahead).state.text.toList <:+ state.text.toList ++ [c] := by
  rcases state.step_state c ahead with hstart | ⟨-, hsuffix⟩
  · rw [hstart]
    exact List.nil_suffix
  · exact hsuffix

theorem suffix_of_advance (h : (state.advance l).state? = some last) :
    last.text.toList <:+ state.text.toList ++ l := by
  fun_induction advance state l with
  | case1 state =>
      cases Option.some.inj h
      exact ⟨[], by rw [List.nil_append, List.append_nil]⟩
  | case2 state c d l step hmove ih =>
      have hskip : step.move ≠ .next := by simp [hmove]
      have hstate : step.state = start := state_of_move_ne_next hskip
      have hlast := ih h
      rw [hstate] at hlast
      exact hlast.trans ⟨state.text.toList ++ [c, d], by simp [start]⟩
  | case3 state c step hmove => exact absurd hmove (step_none_move_ne_skip state c)
  | case4 state c l step hmove ih =>
      obtain ⟨passed, hpassed⟩ := state.text_step_suffix c l.head?
      have hread : step.state.text.toList ++ l <:+ state.text.toList ++ (c :: l) := by
        refine ⟨passed, ?_⟩
        rw [← List.append_assoc, hpassed, List.append_assoc, List.singleton_append]
      exact (ih h).trans hread
  | case5 => cases h

/-! ### Reading on after a cut -/

theorem step_of_parted (state : ScanState) (h : Parted c d) :
    state.step c (some d) = state.step c none := by
  have hcomment : opensComment c (some d) = opensComment c none := by
    rw [h.comment]
    simp [opensComment]
  have hsign : state.opensNegative c (some d) = state.opensNegative c none := by
    by_cases hminus : c = '-'
    · simp [opensNegative, h.sign hminus]
    · simp [opensNegative, hminus]
  have hoperator : state.stepOperator c (some d) = state.stepOperator c none := by
    simp [stepOperator, h.pair]
  simp only [step, stepString, stepOutside, hcomment, hsign, hoperator]

theorem step_append (state : ScanState) (h : Apart (c :: l) rest) :
    state.step c (l ++ rest).head? = state.step c l.head? := by
  cases l with
  | cons d l => rfl
  | nil =>
      cases rest with
      | nil => rfl
      | cons d rest => exact step_of_parted state (h c rfl d rfl)

/-- Where two texts are apart, the second is read on from where the first one takes the scanner. -/
theorem advance_append (state : ScanState) (h : Apart l rest) :
    state.advance (l ++ rest) = (state.advance l).andThen (·.advance rest) := by
  fun_induction advance state l with
  | case1 => rfl
  | case2 state c d l step hmove ih =>
      rw [Progress.following_andThen, ← ih h.tail.tail]
      exact advance_of_skip hmove
  | case3 state c step hmove => exact absurd hmove (step_none_move_ne_skip state c)
  | case4 state c l step hmove ih =>
      -- only for the last character of the first text is the one ahead in the second
      have hstep : state.step c (l ++ rest).head? = step := state.step_append h
      rw [Progress.following_andThen, ← ih h.tail, List.cons_append,
        advance_of_next (by rw [hstep, hmove]), hstep]
  | case5 state c l step hmove =>
      have hstep : state.step c (l ++ rest).head? = step := state.step_append h
      rw [List.cons_append, advance_of_stop (by rw [hstep, hmove]), hstep]
      rfl

theorem read_eq_advance (state : ScanState) (l : List Char) :
    state.read [] l = (state.advance l).finish := by
  fun_induction advance state l with
  | case1 => exact read_nil
  | case2 state c d l step hmove ih =>
      rw [Progress.finish_following, ← ih]
      exact read_of_skip hmove
  | case3 state c step hmove => exact absurd hmove (step_none_move_ne_skip state c)
  | case4 state c l step hmove ih =>
      rw [Progress.finish_following, ← ih]
      exact read_of_next hmove
  | case5 state c l step hmove =>
      have hstop : step.move ≠ .next := by simp [hmove]
      rw [read_of_stop hmove, state_of_move_ne_next hstop]
      rfl

end ScanState

namespace Scanner

variable {statement rest : List Char} {c : Char}

/-- How far a statement takes the scanner. -/
def progress (statement : List Char) : Progress :=
  ScanState.start.advance (statement.filter (· != '\r'))

/-- A string is still open where the statement ends. -/
def EndsInString (statement : List Char) : Prop :=
  ∃ state ∈ (progress statement).state?, state.mode = .string

/-- A comment ends the statement: a `#`, or two slashes, also within a string. -/
def MeetsComment (statement : List Char) : Prop :=
  (progress statement).state? = none

instance : DecidablePred EndsInString :=
  fun statement => inferInstanceAs (Decidable (∃ state ∈ (progress statement).state?, _))

instance : DecidablePred MeetsComment :=
  fun statement => inferInstanceAs (Decidable ((progress statement).state? = none))

theorem tokens_eq_finish (statement : List Char) :
    tokens statement = (progress statement).finish := by
  rw [tokens_eq_read, ScanState.read_eq_advance, progress]

theorem tokens_append
    (h : Apart (statement.filter (· != '\r')) (rest.filter (· != '\r'))) :
    tokens (statement ++ rest) =
      (progress statement).tokens ++
        (progress statement).state?.elim [] (·.read [] (rest.filter (· != '\r'))) := by
  rw [tokens_eq_read, List.filter_append, ScanState.read_eq_advance,
    ScanState.advance_append _ h, Progress.finish_andThen, progress]
  simp only [ScanState.read_eq_advance]

/-- What does no more to the state at the end of a statement than the end does can be left out there. -/
theorem tokens_append_eq
    (h : Apart (statement.filter (· != '\r')) (rest.filter (· != '\r')))
    (hrest : ∀ state ∈ (progress statement).state?,
      state.read [] (rest.filter (· != '\r')) = state.finish.toList) :
    tokens (statement ++ rest) = tokens statement := by
  rw [tokens_append h, tokens_eq_finish, Progress.finish]
  cases hstate : (progress statement).state? with
  | none => rfl
  | some state => rw [Option.elim_some, Option.elim_some, hrest state hstate]

/-! ### Comments -/

theorem tokens_append_hash (h : ¬ EndsInString statement) (rest : List Char) :
    tokens (statement ++ '#' :: rest) = tokens statement := by
  have hrest : ('#' :: rest).filter (· != '\r') = '#' :: rest.filter (· != '\r') :=
    List.filter_cons_of_pos (by decide)
  refine tokens_append_eq ?_ fun state hstate => ?_
  · rw [hrest]
    exact .of_head fun c => .of_classes (by decide) (by decide)
  · rw [hrest]
    exact ScanState.read_comment (fun hmode => h ⟨state, hstate, hmode⟩) (Or.inl rfl)

theorem tokens_append_slashes (h : (statement.filter (· != '\r')).getLast? ≠ some '/')
    (rest : List Char) : tokens (statement ++ '/' :: '/' :: rest) = tokens statement := by
  have hrest : ('/' :: '/' :: rest).filter (· != '\r') =
      '/' :: '/' :: rest.filter (· != '\r') := by
    rw [List.filter_cons_of_pos (by decide), List.filter_cons_of_pos (by decide)]
  refine tokens_append_eq ?_ fun state hstate => ?_
  · rw [hrest]
    intro c hc d hd
    cases Option.some.inj hd
    exact .slash fun heq => h (heq ▸ hc)
  · rw [hrest]
    obtain ⟨mode, text⟩ := state
    cases mode with
    | string => exact ScanState.read_cut text
    | default | number => exact ScanState.read_comment (by simp) (Or.inr rfl)

/-! ### Blanks -/

theorem tokens_append_blank (hblank : isBlank c = true) (hreturn : c ≠ '\r')
    (h : ¬ EndsInString statement) (rest : List Char) :
    tokens (statement ++ c :: rest) =
      tokens statement ++ if MeetsComment statement then [] else tokens rest := by
  have hrest : (c :: rest).filter (· != '\r') = c :: rest.filter (· != '\r') :=
    List.filter_cons_of_pos (by simpa using hreturn)
  have hapart : Apart (statement.filter (· != '\r')) ((c :: rest).filter (· != '\r')) := by
    rw [hrest]
    exact .of_head fun _ => .of_isBlank hblank
  rw [tokens_append hapart, tokens_eq_finish statement, Progress.finish, hrest]
  cases hstate : (progress statement).state? with
  | none => simp [MeetsComment, hstate]
  | some state =>
      have hmode : state.mode ≠ .string := fun hmode => h ⟨state, hstate, hmode⟩
      rw [if_neg (by simp [MeetsComment, hstate]), Option.elim_some, Option.elim_some,
        ScanState.read_blank hmode hblank, tokens_eq_read, List.append_assoc]

end Scanner

/-- **Comments.** What comes after the mark of a comment does not count, and nothing before it is changed: the statement has the tokens it would have if it ended there. A `#` in a string is no mark; two slashes are, as long as no slash before them is taken for the first. -/
theorem tokenize_comment (statement rest : String) :
    (¬ EndsInString statement.toList →
        tokenize (statement ++ "#" ++ rest) = tokenize statement) ∧
      ((statement.toList.filter (· != '\r')).getLast? ≠ some '/' →
        tokenize (statement ++ "//" ++ rest) = tokenize statement) := by
  simp only [tokenize, String.append_assoc, String.toList_append]
  exact ⟨fun h => tokens_append_hash h rest.toList,
    fun h => tokens_append_slashes h rest.toList⟩

/-- The minus in front of `#5` is an operator, as it is at the end; the open string is cut at the two slashes. -/
theorem tokenize_comment_cut :
    ¬ EndsInString "3 -".toList ∧ tokenize ("3 -" ++ "#" ++ "5") = tokenize "3 -" ∧
      tokenize "3 -" = [⟨.number, "3"⟩, ⟨.operator, "-"⟩] ∧
      EndsInString "x \"a".toList ∧
      ("x \"a".toList.filter (· != '\r')).getLast? ≠ some '/' ∧
      tokenize ("x \"a" ++ "//" ++ "b\" y") = tokenize "x \"a" ∧
      tokenize "x \"a" = [⟨.identifier, "x"⟩, ⟨.string, "a"⟩] := by
  have hends : ¬ EndsInString "3 -".toList := by decide +kernel
  have hlast : ("x \"a".toList.filter (· != '\r')).getLast? ≠ some '/' := by decide +kernel
  exact ⟨hends, (tokenize_comment "3 -" "5").1 hends, by decide +kernel, by decide +kernel, hlast,
    (tokenize_comment "x \"a" "b\" y").2 hlast, by decide +kernel⟩

/-- Of three slashes the first two are the mark, so the operator is lost. -/
example : tokenize "/" = [⟨.operator, "/"⟩] ∧ tokenize ("/" ++ "//" ++ "x") = [] := by
  decide +kernel

/-- **Blanks.** A blank between two texts keeps them apart: the tokens are those of the first and then those of the second, or those of the first alone if it holds a comment. Only in an open string is a blank something else. -/
theorem tokenize_blank (statement rest : String) {c : Char} (hblank : isBlank c = true)
    (hreturn : c ≠ '\r') :
    (¬ EndsInString statement.toList → ¬ MeetsComment statement.toList →
        tokenize (statement.push c ++ rest) = tokenize statement ++ tokenize rest) ∧
      (MeetsComment statement.toList →
        tokenize (statement.push c ++ rest) = tokenize statement) := by
  simp only [tokenize, String.toList_append, String.toList_push, List.append_assoc,
    List.singleton_append]
  constructor
  · intro hends hcomment
    rw [tokens_append_blank hblank hreturn hends, if_neg hcomment]
  · intro hcomment
    have hends : ¬ EndsInString statement.toList := by
      rintro ⟨state, hstate, -⟩
      rw [hcomment] at hstate
      cases hstate
    rw [tokens_append_blank hblank hreturn hends, if_pos hcomment, List.append_nil]

/-- Between `3 -` and `5` a blank keeps the minus an operator; behind the comment of `"a" # "b` nothing counts. -/
theorem tokenize_blank_sign :
    isBlank ' ' = true ∧ ' ' ≠ '\r' ∧
      ¬ EndsInString "3 -".toList ∧ ¬ MeetsComment "3 -".toList ∧
      tokenize ("3 -".push ' ' ++ "5") = tokenize "3 -" ++ tokenize "5" ∧
      tokenize "3 -" ++ tokenize "5" = [⟨.number, "3"⟩, ⟨.operator, "-"⟩, ⟨.number, "5"⟩] ∧
      MeetsComment "\"a\" # \"b".toList ∧
      tokenize ("\"a\" # \"b".push ' ' ++ "5") = tokenize "\"a\" # \"b" ∧
      tokenize "\"a\" # \"b" = [⟨.string, "a"⟩] := by
  have hblank : isBlank ' ' = true := by decide
  have hreturn : ' ' ≠ '\r' := by decide
  have hends : ¬ EndsInString "3 -".toList := by decide +kernel
  have hnone : ¬ MeetsComment "3 -".toList := by decide +kernel
  have hcomment : MeetsComment "\"a\" # \"b".toList := by decide +kernel
  exact ⟨hblank, hreturn, hends, hnone, (tokenize_blank "3 -" "5" hblank hreturn).1 hends hnone,
    by decide +kernel, hcomment, (tokenize_blank "\"a\" # \"b" "5" hblank hreturn).2 hcomment,
    by decide +kernel⟩

end StackScript
