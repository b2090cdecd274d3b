import StackScript.Proofs.Reading

/-!
# The one way to cut a statement into tokens

A statement is written as blanks, then each token's lexeme with blanks after it, then a comment or
nothing. Many token sequences can be written so; what singles one out is that munching is maximal. A
token stops only before a character that could not have been part of it, and a minus sign before a
digit is its sign unless a number or a name ends directly before it. `Written` says this without the
scanner, and `isTokenization_iff` that the scanner finds the one sequence there is.
-/

namespace StackScript

open Text Scanner

namespace Token

/-- The token could not have been longer: the character after it, if there is one, is not part of it. -/
def StopsBefore (token : Token) (next : Option Char) : Prop :=
  match token.kind with
  | .identifier | .boolean => ∀ c ∈ next, isNameChar c = false
  | .number => ∀ c ∈ next, c.isDigit = false
  | .operator =>
    ∀ c, token.text = String.singleton c →
      ∀ d ∈ next, isOperatorPair c d = false ∧ opensComment c (some d) = false
  | .symbol | .string => True

/-- A minus sign before a digit is part of the number, unless an open-ended token stands directly before it: then it is an operator. -/
def SignFits (touching : Option Token) (token : Token) (next : Option Char) : Prop :=
  (token.kind = .number → token.text.toList.head? = some '-' →
    ∀ left ∈ touching, left.openEnded = false) ∧
  (token = ⟨.operator, "-"⟩ → ∀ d ∈ next, d.isDigit = true →
    ∃ left ∈ touching, left.openEnded = true)

end Token

def IsTail (l : List Char) : Prop :=
  l = [] ∨ l.head? = some '#' ∨ ['/', '/'] <+: l

/-- A string without a closing quote goes up to the end of the statement or to the first two slashes in a row. -/
def CutsString (text : String) (tail : List Char) : Prop :=
  tail = [] ∨ (['/', '/'] <+: tail ∧ text.toList.getLast? ≠ some '/')

/-- `Written touching l tokens`: the characters `l` are a way to write the tokens, where the token `touching`, if there is one, ends directly before them. -/
inductive Written : Option Token → List Char → List Token → Prop
  | tail {touching : Option Token} {l : List Char} : IsTail l → Written touching l []
  | token {touching : Option Token} {token : Token} {gap l : List Char} {tokens : List Token} :
      token.WellFormed → (∀ c ∈ gap, isBlank c = true) →
      token.StopsBefore (gap ++ l).head? → token.SignFits touching (gap ++ l).head? →
      Written (if gap = [] then some token else none) l tokens →
      Written touching (token.lexeme ++ (gap ++ l)) (token :: tokens)
  | unclosed {touching : Option Token} {text : String} {l : List Char} :
      (⟨.string, text⟩ : Token).WellFormed → CutsString text l →
      Written touching ('"' :: (text.toList ++ l)) [⟨.string, text⟩]

/-- The statement without its carriage returns can be written as these tokens, with blanks in front. -/
def IsTokenization (statement : String) (tokens : List Token) : Prop :=
  ∃ indent l, statement.toList.filter (· != '\r') = indent ++ l ∧
    (∀ c ∈ indent, isBlank c = true) ∧ Written none l tokens

/-! ### The scanner reads what is written -/

theorem Token.text_ne_empty {token : Token} (hwell : token.WellFormed)
    (hopen : token.openEnded = true) : token.text ≠ "" := by
  obtain ⟨kind, text⟩ := token
  rintro rfl
  have hname : ¬IsName "" := by rintro ⟨-, c, hc, -⟩; cases hc
  cases kind with
  | identifier => exact hname hwell.1
  | boolean => exact hname (isName_of_boolean hwell)
  | number => exact absurd (show isNumeral "" = true from hwell) (by decide)
  | operator | symbol | string => cases hopen

namespace ScanState

/-- The state directly after a token: an open-ended one is still in progress. -/
def after : Option Token → ScanState
  | none => start
  | some ⟨kind, text⟩ =>
    match kind with
    | .identifier | .boolean => ⟨.default, text⟩
    | .number => ⟨.number, text⟩
    | .operator | .symbol | .string => start

variable {touching : Option Token} {token : Token} {l : List Char}

theorem after_mode_ne_string : (after touching).mode ≠ .string := by
  rcases touching with _ | ⟨kind, text⟩
  · decide
  · cases kind <;> simp [after, start]

theorem after_of_openEnded_eq_false (h : ∀ left ∈ touching, left.openEnded = false) :
    after touching = start := by
  rcases touching with _ | ⟨kind, text⟩
  · rfl
  · have hopen := h _ rfl
    cases kind with
    | identifier | boolean | number => cases hopen
    | operator | symbol | string => rfl

theorem finish_after (hwell : token.WellFormed) :
    (after (some token)).finish.toList = if token.openEnded = true then [token] else [] := by
  have hempty := token.text_ne_empty hwell
  obtain ⟨kind, text⟩ := token
  cases kind with
  | identifier => simp [after, finish, Token.openEnded, hempty rfl, hwell.2.1, hwell.2.2]
  | boolean =>
      have hword : text = "true" ∨ text = "false" := hwell
      simp [after, finish, Token.openEnded, hempty rfl, hword]
  | number => simp [after, finish, Token.openEnded, hempty rfl]
  | operator | symbol | string => rfl

theorem after_of_isName {text : String} (hname : IsName text)
    (hstops : ∀ left ∈ touching, left.StopsBefore (text.toList ++ l).head?) :
    after touching = start ∨ (after touching).mode = .number := by
  obtain ⟨hchars, c, hhead, -⟩ := hname
  have hfirst : isNameChar c = true := hchars c (List.mem_of_mem_head? hhead)
  rw [List.head?_append, hhead] at hstops
  rcases touching with _ | ⟨kind, text⟩
  · exact Or.inl rfl
  · have hstop := hstops _ rfl
    cases kind with
    | identifier | boolean =>
        have hother : isNameChar c = false := hstop c rfl
        simp [hfirst] at hother
    | number => exact Or.inr rfl
    | operator | symbol | string => exact Or.inl rfl

theorem after_of_isDigit {c : Char} (hstops : ∀ left ∈ touching, left.StopsBefore (some c))
    (hdigit : c.isDigit = true) : after touching = start := by
  rcases touching with _ | ⟨kind, text⟩
  · rfl
  · have hstop := hstops _ rfl
    cases kind with
    | identifier | boolean =>
        have hother : isNameChar c = false := hstop c rfl
        simp [isNameChar_of_isDigit hdigit] at hother
    | number =>
        have hother : c.isDigit = false := hstop c rfl
        simp [hdigit] at hother
    | operator | symbol | string => rfl

theorem after_of_isNumeral {text : String} (hnumeral : isNumeral text = true)
    (hstops : ∀ left ∈ touching, left.StopsBefore (text.toList ++ l).head?)
    (hsign : text.toList.head? = some '-' → ∀ left ∈ touching, left.openEnded = false) :
    after touching = start := by
  obtain ⟨digits, hne, hdigits, htext | htext⟩ := isNumeral_iff.mp hnumeral
  · obtain ⟨first, digits, rfl⟩ := List.exists_cons_of_ne_nil hne
    rw [htext] at hstops
    exact after_of_isDigit hstops (hdigits first List.mem_cons_self)
  · exact after_of_openEnded_eq_false (hsign (by rw [htext]; rfl))

/-- An open-ended token directly before keeps a minus sign from being the sign of a number. -/
theorem opensNegative_after (hwell : ∀ left ∈ touching, left.WellFormed) {c : Char}
    {next : Option Char}
    (h : c = '-' → ∀ d ∈ next, d.isDigit = true → ∃ left ∈ touching, left.openEnded = true) :
    (after touching).opensNegative c next = false := by
  refine Bool.eq_false_iff.mpr fun hopens => ?_
  simp only [opensNegative, Bool.and_eq_true, beq_iff_eq, Option.any_eq_true] at hopens
  obtain ⟨⟨hminus, d, hd, hdigit⟩, hempty⟩ := hopens
  obtain ⟨left, hleft, hopen⟩ := h hminus d hd hdigit
  have hne := left.text_ne_empty (hwell left hleft) hopen
  obtain ⟨kind, text⟩ := left
  cases hleft
  cases kind with
  | identifier | boolean | number => exact hne hempty
  | operator | symbol | string => cases hopen

/-- Reading a lexeme emits the token before it and, unless the new token is still open, the new one. -/
theorem read_lexeme (htouching : ∀ left ∈ touching, left.WellFormed)
    (hstopsTouching : ∀ left ∈ touching, left.StopsBefore (token.lexeme ++ l).head?)
    (hwell : token.WellFormed) (hstops : token.StopsBefore l.head?)
    (hsign : token.SignFits touching l.head?) :
    (after touching).read [] (token.lexeme ++ l) =
      (after touching).finish.toList ++
        if token.openEnded = true then (after (some token)).read [] l
        else token :: start.read [] l := by
  have hmode : (after touching).mode ≠ .string := after_mode_ne_string
  obtain ⟨kind, text⟩ := token
  cases kind with
  | identifier => exact read_name (after_of_isName hwell.1 hstopsTouching) hwell.1
  | boolean =>
      have hname := Token.isName_of_boolean hwell
      exact read_name (after_of_isName hname hstopsTouching) hname
  | number =>
      have hstart := after_of_isNumeral hwell hstopsTouching (hsign.1 rfl)
      rw [hstart, Token.lexeme_of_ne_string (by simp), read_number hwell]
      rfl
  | operator =>
      obtain ⟨c, hoperator, rfl | ⟨d, hpair, rfl⟩⟩ := hwell
      · have hminus : c = '-' → ∀ d ∈ l.head?, d.isDigit = true →
            ∃ left ∈ touching, left.openEnded = true := by
          rintro rfl
          exact hsign.2 rfl
        rw [Token.lexeme_of_ne_string (by simp), String.toList_singleton, List.singleton_append,
          read_operator hmode hoperator (hstops c rfl) (opensNegative_after htouching hminus)]
        rfl
      · rw [Token.lexeme_of_ne_string (by simp), String.toList_ofList, List.cons_append,
          List.singleton_append, read_pair hmode hoperator hpair]
        rfl
  | symbol =>
      obtain ⟨c, hbracket, rfl⟩ := hwell
      rw [Token.lexeme_of_ne_string (by simp), String.toList_singleton, List.singleton_append,
        read_bracket hmode hbracket]
      rfl
  | string =>
      obtain ⟨hquote, hslashes⟩ := hwell
      rw [Token.lexeme_string, List.cons_append, List.append_assoc, List.singleton_append,
        read_closedString hmode hquote hslashes]
      rfl

theorem read_blanks {gap : List Char} (hgap : ∀ c ∈ gap, isBlank c = true) :
    start.read [] (gap ++ l) = start.read [] l := by
  induction gap with
  | nil => rfl
  | cons c gap ih =>
      obtain ⟨hblank, hgap⟩ := List.forall_mem_cons.mp hgap
      rw [List.cons_append, read_blank (by decide) hblank, ih hgap]
      rfl

theorem read_gap {gap : List Char} (hgap : ∀ c ∈ gap, isBlank c = true) :
    (after (some token)).read [] (gap ++ l) =
      if gap = [] then (after (some token)).read [] l
      else (after (some token)).finish.toList ++ start.read [] l := by
  cases gap with
  | nil => rfl
  | cons c gap =>
      obtain ⟨hblank, hgap⟩ := List.forall_mem_cons.mp hgap
      rw [if_neg (by simp), List.cons_append, read_blank after_mode_ne_string hblank,
        read_blanks hgap]

theorem read_tail (htail : IsTail l) :
    (after touching).read [] l = (after touching).finish.toList := by
  rcases htail with rfl | hhash | ⟨rest, rfl⟩
  · exact read_nil
  · obtain ⟨rest, rfl⟩ : ∃ rest, l = '#' :: rest := by
      cases l with
      | nil => cases hhash
      | cons c rest => exact ⟨rest, by rw [Option.some.inj hhash]⟩
    exact read_comment after_mode_ne_string (Or.inl rfl)
  · exact read_comment after_mode_ne_string (Or.inr rfl)

theorem read_unclosed {text : String} (hwell : (⟨.string, text⟩ : Token).WellFormed)
    (hcut : CutsString text l) :
    (after touching).read [] ('"' :: (text.toList ++ l)) =
      (after touching).finish.toList ++ [⟨.string, text⟩] := by
  rcases hcut with rfl | ⟨⟨rest, rfl⟩, hlast⟩
  · rw [List.append_nil]
    exact read_openString after_mode_ne_string hwell.1 hwell.2
  · exact read_cutString after_mode_ne_string hwell.1 hwell.2 hlast

/-- What is written is read back: the token in progress first, then the tokens written. -/
theorem read_written {tokens : List Token} (h : Written touching l tokens) :
    (∀ left ∈ touching, left.WellFormed ∧ left.StopsBefore l.head?) →
      (after touching).read [] l = (after touching).finish.toList ++ tokens := by
  induction h with
  | tail htail =>
      intro _
      rw [read_tail htail, List.append_nil]
  | unclosed hwell hcut =>
      intro _
      exact read_unclosed hwell hcut
  | @token touching token gap l tokens hwell hgap hstops hsign _ ih =>
      intro htouching
      rw [read_lexeme (fun left hleft => (htouching left hleft).1)
        (fun left hleft => (htouching left hleft).2) hwell hstops hsign]
      -- the gap decides whether the new token is still in progress when reading goes on
      have hrest : (after (some token)).read [] (gap ++ l) =
          (after (some token)).finish.toList ++ tokens := by
        rw [read_gap hgap]
        by_cases hempty : gap = []
        · rw [if_pos hempty]
          rw [if_pos hempty] at ih
          refine ih fun left hleft => ?_
          cases hleft
          exact ⟨hwell, by simpa [hempty] using hstops⟩
        · rw [if_neg hempty]
          rw [if_neg hempty] at ih
          rw [show start.read [] l = tokens from ih (by simp)]
      rw [finish_after hwell] at hrest
      by_cases hopen : token.openEnded = true
      · rw [if_pos hopen, hrest, if_pos hopen]
        rfl
      · have hstart : after (some token) = start := by
          refine after_of_openEnded_eq_false fun left hleft => ?_
          cases hleft
          exact Bool.eq_false_iff.mpr hopen
        rw [if_neg hopen, hstart, List.nil_append] at hrest
        rw [if_neg hopen, hrest]

end ScanState

/-! ### Every statement can be written -/

theorem Scanner.exists_span (p : Char → Bool) (l : List Char) :
    ∃ taken rest, l = taken ++ rest ∧ (∀ c ∈ taken, p c = true) ∧
      ∀ c ∈ rest.head?, p c = false := by
  refine ⟨l.takeWhile p, l.dropWhile p, List.takeWhile_append_dropWhile.symm, ?_, ?_⟩
  · exact fun c hc => List.all_eq_true.mp List.all_takeWhile c hc
  · intro c hc
    have hhead := List.head?_dropWhile_not p l
    rw [hc] at hhead
    simpa using hhead

/-- A string goes up to the first quote or the first two slashes in a row, if either is there. -/
theorem Scanner.exists_stringBody (l : List Char) :
    ∃ body rest, l = body ++ rest ∧ '"' ∉ body ∧ ¬['/', '/'] <:+: body ∧
      (rest.head? = some '"' ∨ rest = [] ∨
        (['/', '/'] <+: rest ∧ body.getLast? ≠ some '/')) := by
  induction l with
  | nil => exact ⟨[], [], rfl, by simp, by simp, Or.inr (Or.inl rfl)⟩
  | cons c l ih =>
      by_cases hquote : c = '"'
      · exact ⟨[], c :: l, rfl, by simp, by simp, Or.inl (by rw [hquote]; rfl)⟩
      by_cases hcomment : ['/', '/'] <+: c :: l
      · exact ⟨[], c :: l, rfl, by simp, by simp, Or.inr (Or.inr ⟨hcomment, by simp⟩)⟩
      obtain ⟨body, rest, rfl, hbody, hslashes, hend⟩ := ih
      refine ⟨c :: body, rest, rfl, ?_, ?_, ?_⟩
      · simpa [Ne.symm hquote] using hbody
      · rw [List.infix_cons_iff]
        rintro (hfront | hinner)
        · exact hcomment (hfront.trans (List.prefix_append _ rest))
        · exact hslashes hinner
      · rcases hend with hclosed | hopen | ⟨hcut, hlast⟩
        · exact Or.inl hclosed
        · exact Or.inr (Or.inl hopen)
        · refine Or.inr (Or.inr ⟨hcut, ?_⟩)
          cases body with
          | nil =>
              -- the string is this one character: two slashes after it would have come first
              obtain ⟨rest, rfl⟩ := hcut
              intro hslash
              cases Option.some.inj hslash
              exact hcomment ⟨'/' :: rest, rfl⟩
          | cons d body => simpa using hlast

/-- `Begins touching l token rest`: the token can be read off the front of `l`, and `rest` comes after it. -/
structure Begins (touching : Option Token) (l : List Char) (token : Token)
    (rest : List Char) : Prop where
  eq_append : l = token.lexeme ++ rest
  wellFormed : token.WellFormed
  stops : token.StopsBefore rest.head?
  sign : token.SignFits touching rest.head?

section Begins

variable {touching : Option Token} {c : Char} {l : List Char}

theorem exists_begins_name (hname : isNameChar c = true) (hdigit : c.isDigit = false) :
    ∃ token rest, Begins touching (c :: l) token rest := by
  obtain ⟨name, rest, rfl, hchars, hrest⟩ := exists_span isNameChar l
  have hisName : IsName (String.ofList (c :: name)) := by
    refine ⟨?_, c, by simp, hdigit⟩
    simpa using ⟨hname, hchars⟩
  by_cases hword : String.ofList (c :: name) = "true" ∨ String.ofList (c :: name) = "false"
  · exact ⟨⟨.boolean, String.ofList (c :: name)⟩, rest, by simp [Token.lexeme], hword, hrest,
      by simp [Token.SignFits]⟩
  · rw [not_or] at hword
    exact ⟨⟨.identifier, String.ofList (c :: name)⟩, rest, by simp [Token.lexeme],
      ⟨hisName, hword⟩, hrest, by simp [Token.SignFits]⟩

theorem exists_begins_number (hdigit : c.isDigit = true) :
    ∃ token rest, Begins touching (c :: l) token rest := by
  obtain ⟨digits, rest, rfl, hdigits, hrest⟩ := exists_span Char.isDigit l
  have hnumeral : isNumeral (String.ofList (c :: digits)) = true :=
    isNumeral_iff.mpr ⟨c :: digits, by simp, by simpa using ⟨hdigit, hdigits⟩, by simp⟩
  have hsign : c ≠ '-' := by
    rintro rfl
    exact absurd hdigit (by decide)
  exact ⟨⟨.number, String.ofList (c :: digits)⟩, rest, by simp [Token.lexeme], hnumeral, hrest,
    by simp [Token.SignFits, hsign]⟩

theorem exists_begins_signed (hdigit : c.isDigit = true)
    (htouching : ∀ left ∈ touching, left.openEnded = false) :
    ∃ token rest, Begins touching ('-' :: c :: l) token rest := by
  obtain ⟨digits, rest, rfl, hdigits, hrest⟩ := exists_span Char.isDigit l
  have hnumeral : isNumeral (String.ofList ('-' :: c :: digits)) = true :=
    isNumeral_iff.mpr ⟨c :: digits, by simp, by simpa using ⟨hdigit, hdigits⟩, by simp⟩
  exact ⟨⟨.number, String.ofList ('-' :: c :: digits)⟩, rest, by simp [Token.lexeme], hnumeral,
    hrest, fun _ _ => htouching, by simp⟩

theorem exists_begins_operator (hoperator : isOperatorChar c = true)
    (hcomment : opensComment c l.head? = false) :
    ∃ token rest, Begins touching (c :: l) token rest := by
  have hsingle : ∀ d, String.singleton c = String.singleton d → c = d := by
    intro d h
    simpa using congrArg String.toList h
  cases l with
  | nil =>
      exact ⟨⟨.operator, String.singleton c⟩, [], by simp [Token.lexeme],
        ⟨c, hoperator, Or.inl rfl⟩,
        by simp [Token.StopsBefore], by simp [Token.SignFits]⟩
  | cons d l =>
      by_cases hpair : isOperatorPair c d = true
      · have hlength : ∀ e, String.ofList [c, d] ≠ String.singleton e := by
          intro e h
          simpa using congrArg String.toList h
        exact ⟨⟨.operator, String.ofList [c, d]⟩, l, by simp [Token.lexeme],
          ⟨c, hoperator, Or.inr ⟨d, hpair, rfl⟩⟩, fun e he => absurd he (hlength e),
          by simp, fun he => absurd (Token.mk.inj he).2 (hlength '-')⟩
      by_cases hsign : c = '-' ∧ d.isDigit = true ∧ ∀ left ∈ touching, left.openEnded = false
      · obtain ⟨rfl, hdigit, htouching⟩ := hsign
        exact exists_begins_signed hdigit htouching
      refine ⟨⟨.operator, String.singleton c⟩, d :: l, by simp [Token.lexeme],
        ⟨c, hoperator, Or.inl rfl⟩, ?_, by simp, ?_⟩
      · rintro e he f hf
        cases hsingle e he
        cases Option.some.inj hf
        exact ⟨Bool.eq_false_iff.mpr hpair, hcomment⟩
      · rintro he f hf hdigit
        cases hsingle '-' (Token.mk.inj he).2
        cases Option.some.inj hf
        simpa [hdigit] using hsign

theorem exists_begins_symbol (hbracket : isBracket c = true) :
    ∃ token rest, Begins touching (c :: l) token rest :=
  ⟨⟨.symbol, String.singleton c⟩, l, by simp [Token.lexeme], ⟨c, hbracket, rfl⟩, trivial,
    by simp [Token.SignFits]⟩

theorem exists_begins_string :
    (∃ token rest, Begins touching ('"' :: l) token rest) ∨
      ∃ text rest, l = text.toList ++ rest ∧ (⟨.string, text⟩ : Token).WellFormed ∧
        CutsString text rest := by
  obtain ⟨body, rest, rfl, hquote, hslashes, hclosed | hopen⟩ := exists_stringBody l
  · left
    obtain ⟨rest, rfl⟩ : ∃ tail, rest = '"' :: tail := by
      cases rest with
      | nil => cases hclosed
      | cons d rest => exact ⟨rest, by rw [Option.some.inj hclosed]⟩
    exact ⟨⟨.string, String.ofList body⟩, rest, by simp [Token.lexeme],
      ⟨by simpa using hquote, by simpa using hslashes⟩, trivial, by simp [Token.SignFits]⟩
  · right
    exact ⟨String.ofList body, rest, by simp, ⟨by simpa using hquote, by simpa using hslashes⟩,
      by simpa [CutsString] using hopen⟩

theorem exists_begins (touching : Option Token) (hblank : isBlank c = false)
    (htail : ¬IsTail (c :: l)) :
    (∃ token rest, Begins touching (c :: l) token rest) ∨
      ∃ text rest, c :: l = '"' :: (text.toList ++ rest) ∧
        (⟨.string, text⟩ : Token).WellFormed ∧ CutsString text rest := by
  have hhash : c ≠ '#' := by
    rintro rfl
    exact htail (Or.inr (Or.inl rfl))
  by_cases hquote : c = '"'
  · rw [hquote]
    refine exists_begins_string.imp_right ?_
    rintro ⟨text, rest, rfl, hwell, hcut⟩
    exact ⟨text, rest, rfl, hwell, hcut⟩
  left
  by_cases hbracket : isBracket c = true
  · exact exists_begins_symbol hbracket
  by_cases hoperator : isOperatorChar c = true
  · refine exists_begins_operator hoperator (Bool.eq_false_iff.mpr fun hopens => htail ?_)
    obtain ⟨rfl, hslash⟩ := opensComment_iff.mp hopens
    obtain ⟨rest, rfl⟩ : ∃ rest, l = '/' :: rest := by
      cases l with
      | nil => cases hslash
      | cons d rest => exact ⟨rest, by rw [Option.some.inj hslash]⟩
    exact Or.inr (Or.inr ⟨rest, rfl⟩)
  by_cases hdigit : c.isDigit = true
  · exact exists_begins_number hdigit
  · have hname : isNameChar c = true := isNameChar_iff.mpr ⟨hblank, hquote, hhash,
      Bool.eq_false_iff.mpr hbracket, Bool.eq_false_iff.mpr hoperator⟩
    exact exists_begins_name hname (Bool.eq_false_iff.mpr hdigit)

end Begins

theorem Token.lexeme_ne_nil {token : Token} (hwell : token.WellFormed) : token.lexeme ≠ [] := by
  obtain ⟨kind, text⟩ := token
  cases kind with
  | identifier | boolean | number =>
      exact mt String.toList_eq_nil_iff.mp (Token.text_ne_empty hwell rfl)
  | operator =>
      obtain ⟨c, -, rfl | ⟨d, -, rfl⟩⟩ := hwell <;> simp [lexeme]
  | symbol =>
      obtain ⟨c, -, rfl⟩ := hwell
      simp [lexeme]
  | string => simp [lexeme]

theorem exists_written (touching : Option Token) {l : List Char}
    (hblank : ∀ c ∈ l.head?, isBlank c = false) : ∃ tokens, Written touching l tokens := by
  induction hlength : l.length using Nat.strongRecOn generalizing l touching with
  | ind n ih =>
      by_cases htail : IsTail l
      · exact ⟨[], .tail htail⟩
      cases l with
      | nil => exact absurd (Or.inl rfl) htail
      | cons c l =>
          rcases exists_begins touching (hblank c rfl) htail with
            ⟨token, rest, hbegins⟩ | ⟨text, rest, heq, hwell, hcut⟩
          · obtain ⟨gap, after, hrest, hgap, hafter⟩ := exists_span isBlank rest
            have hlt : after.length < n := by
              have hpos := List.length_pos_iff.mpr (Token.lexeme_ne_nil hbegins.wellFormed)
              have hsum := congrArg List.length hbegins.eq_append
              simp only [hrest, List.length_append] at hsum
              omega
            obtain ⟨tokens, hwritten⟩ :=
              ih after.length hlt (if gap = [] then some token else none) hafter rfl
            refine ⟨token :: tokens, ?_⟩
            rw [hbegins.eq_append, hrest]
            exact .token hbegins.wellFormed hgap (hrest ▸ hbegins.stops) (hrest ▸ hbegins.sign)
              hwritten
          · rw [heq]
            exact ⟨[⟨.string, text⟩], .unclosed hwell hcut⟩

/-! ### The scanner finds the one sequence -/

theorem Scanner.isTail_of_isVoid {l : List Char} (h : isVoid l = true) :
    IsTail (l.dropWhile isBlank) := by
  unfold isVoid at h
  split at h
  · rename_i heq
    exact Or.inl heq
  · rename_i c rest heq
    obtain ⟨rfl, hslash⟩ := opensComment_iff.mp h
    rw [heq]
    cases rest with
    | nil => cases hslash
    | cons d rest =>
        cases Option.some.inj hslash
        exact Or.inr (Or.inr ⟨rest, rfl⟩)

/-- Answering blank statements and comments without the scanner changes nothing. -/
theorem Scanner.tokens_eq_read (statement : List Char) :
    tokens statement = ScanState.start.read [] (statement.filter (· != '\r')) := by
  change (if isVoid (statement.filter (· != '\r')) = true then [] else _) = _
  by_cases hvoid : isVoid (statement.filter (· != '\r')) = true
  · rw [if_pos hvoid,
      ← List.takeWhile_append_dropWhile (p := isBlank) (l := statement.filter (· != '\r')),
      ScanState.read_blanks fun c hc => List.all_eq_true.mp List.all_takeWhile c hc]
    exact (@ScanState.read_tail none _ (isTail_of_isVoid hvoid)).symm
  · rw [if_neg hvoid]

theorem tokenize_eq_of_isTokenization {statement : String} {tokens : List Token}
    (h : IsTokenization statement tokens) : tokenize statement = tokens := by
  obtain ⟨indent, l, hsplit, hindent, hwritten⟩ := h
  rw [tokenize, tokens_eq_read, hsplit, ScanState.read_blanks hindent]
  exact ScanState.read_written hwritten (by simp)

theorem exists_isTokenization (statement : String) : ∃ tokens, IsTokenization statement tokens := by
  obtain ⟨indent, l, hsplit, hindent, hhead⟩ :=
    exists_span isBlank (statement.toList.filter (· != '\r'))
  obtain ⟨tokens, hwritten⟩ := exists_written none hhead
  exact ⟨tokens, indent, l, hsplit, hindent, hwritten⟩

theorem isTokenization_tokenize (statement : String) :
    IsTokenization statement (tokenize statement) := by
  obtain ⟨tokens, htokens⟩ := exists_isTokenization statement
  rw [tokenize_eq_of_isTokenization htokens]
  exact htokens

/-- **The one tokenization.** There is exactly one way to write a statement as tokens, and the scanner finds it. -/
theorem isTokenization_iff (statement : String) (tokens : List Token) :
    IsTokenization statement tokens ↔ tokens = tokenize statement := by
  constructor
  · exact fun h => (tokenize_eq_of_isTokenization h).symm
  · rintro rfl
    exact isTokenization_tokenize statement

end StackScript
