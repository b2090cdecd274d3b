import Mathlib.Data.List.Basic
import StackScript.Proofs.Lines

/-!
# Spelling tokens out

Any tokens that can stand on a line can be written so that they are read back: with a space between
any two of them, no token runs into the next one, opens a comment with it or lends it a sign. What
is read from any text is such tokens, so a text can be put into this form without a change to its
tokens.
-/

namespace StackScript

open Text Scanner

namespace Token

variable {token : Token}

theorem isBlank_of_mem_text (hwell : token.WellFormed) (hkind : token.kind ≠ .string) :
    ∀ c ∈ token.text.toList, isBlank c = false := by
  have hname : ∀ text, IsName text → ∀ c ∈ text.toList, isBlank c = false :=
    fun text h c hc => (isNameChar_iff.mp (h.1 c hc)).1
  obtain ⟨kind, text⟩ := token
  cases kind with
  | identifier => exact hname text hwell.1
  | boolean => exact hname text (isName_of_boolean hwell)
  | number =>
      obtain ⟨digits, -, hdigits, htext | htext⟩ := isNumeral_iff.mp hwell
      · intro c hc
        exact (isNameChar_iff.mp (isNameChar_of_isDigit (hdigits c (htext ▸ hc)))).1
      · intro c hc
        rcases List.mem_cons.mp (htext ▸ hc) with rfl | hc
        · decide
        · exact (isNameChar_iff.mp (isNameChar_of_isDigit (hdigits c hc))).1
  | operator =>
      obtain ⟨c, hoperator, rfl | ⟨d, hpair, rfl⟩⟩ := hwell
      · simpa using (classes_of_isOperatorChar hoperator).1
      · have hsecond := isOperatorChar_of_isOperatorPair hpair
        simpa using ⟨(classes_of_isOperatorChar hoperator).1, (classes_of_isOperatorChar hsecond).1⟩
  | symbol =>
      obtain ⟨c, hbracket, rfl⟩ := hwell
      simpa using (classes_of_isBracket hbracket).1
  | string => exact absurd rfl hkind

theorem isBlank_ends_lexeme (hwell : token.WellFormed) :
    (∀ c ∈ token.lexeme.head?, isBlank c = false) ∧
      ∀ c ∈ token.lexeme.getLast?, isBlank c = false := by
  by_cases hkind : token.kind = .string
  · rw [lexeme, if_pos hkind]
    constructor
    · intro c hc
      cases Option.some.inj hc
      decide
    · intro c hc
      rw [← List.cons_append, List.getLast?_concat] at hc
      cases Option.some.inj hc
      decide
  · rw [lexeme_of_ne_string hkind]
    have hblank := isBlank_of_mem_text hwell hkind
    exact ⟨fun c hc => hblank c (List.mem_of_mem_head? hc),
      fun c hc => hblank c (List.mem_of_getLast? hc)⟩

theorem OnLine.lexeme_chars (h : token.OnLine) :
    ∀ c ∈ token.lexeme, c ≠ '\n' ∧ c ≠ '\r' ∧ c ≠ ';' := by
  intro c hc
  unfold lexeme at hc
  split at hc
  · rcases List.mem_cons.mp hc with rfl | hc
    · decide
    · rcases List.mem_append.mp hc with hc | hc
      · exact h.chars c hc
      · cases List.mem_singleton.mp hc
        decide
  · exact h.chars c hc

/-- A blank stops every token, and keeps a minus sign from the digit after it. -/
theorem stopsBefore_blank (token : Token) {next : Option Char}
    (hnext : ∀ c ∈ next, isBlank c = true) :
    token.StopsBefore next ∧ token.SignFits none next := by
  constructor
  · obtain ⟨kind, text⟩ := token
    cases kind with
    | identifier | boolean => exact fun c hc => isNameChar_eq_false_of_isBlank (hnext c hc)
    | number => exact fun c hc => (classes_of_isBlank (hnext c hc)).2.2.2.2
    | operator =>
        intro c _ d hd
        exact parts_of_isOperatorChar_eq_false (classes_of_isBlank (hnext d hd)).2.2.2.1 c
    | symbol | string => trivial
  · refine ⟨fun _ _ left hleft => (by cases hleft), fun _ d hd hdigit => ?_⟩
    simp [(classes_of_isBlank (hnext d hd)).2.2.2.2] at hdigit

end Token

namespace Line

/-- The characters of tokens written with a space between any two. -/
def spell (tokens : List Token) : List Char :=
  [' '].intercalate (tokens.map Token.lexeme)

/-- A text with each of the token lists on a physical line of its own. -/
def spellAll (lists : List (List Token)) : String :=
  String.ofList (['\n'].intercalate (lists.map spell))

theorem spell_singleton (token : Token) : spell [token] = token.lexeme :=
  List.intercalate_singleton

theorem spell_cons_cons (token next : Token) (rest : List Token) :
    spell (token :: next :: rest) = token.lexeme ++ ([' '] ++ spell (next :: rest)) := by
  simp only [spell, List.map_cons, List.intercalate_cons_cons, List.append_assoc]

variable {tokens : List Token}

theorem written_spell (hwell : ∀ token ∈ tokens, token.WellFormed) :
    Written none (spell tokens) tokens := by
  induction tokens with
  | nil => exact .tail (Or.inl rfl)
  | cons token rest ih =>
      obtain ⟨htoken, hrest⟩ := List.forall_mem_cons.mp hwell
      cases rest with
      | nil =>
          have hend : ∀ c ∈ (none : Option Char), isBlank c = true := by simp
          obtain ⟨hstops, hsign⟩ := token.stopsBefore_blank hend
          have hwritten : Written none (token.lexeme ++ ([] ++ [])) [token] :=
            .token htoken (by simp) hstops hsign (.tail (Or.inl rfl))
          rwa [List.append_nil, List.append_nil, ← spell_singleton] at hwritten
      | cons next rest =>
          have hspace : isBlank ' ' = true := by decide
          have hnext : ∀ c ∈ some ' ', isBlank c = true := by
            simpa using hspace
          obtain ⟨hstops, hsign⟩ := token.stopsBefore_blank hnext
          rw [spell_cons_cons]
          exact .token htoken (List.forall_mem_singleton.mpr hspace) hstops hsign (ih hrest)

theorem spell_chars (honLine : ∀ token ∈ tokens, token.OnLine) :
    ∀ c ∈ spell tokens, c ≠ '\n' ∧ c ≠ '\r' ∧ c ≠ ';' := by
  induction tokens with
  | nil => simp [spell]
  | cons token rest ih =>
      obtain ⟨htoken, hrest⟩ := List.forall_mem_cons.mp honLine
      cases rest with
      | nil =>
          rw [spell_singleton]
          exact htoken.lexeme_chars
      | cons next rest =>
          intro c hc
          rw [spell_cons_cons, List.mem_append, List.mem_append] at hc
          rcases hc with hc | hc | hc
          · exact htoken.lexeme_chars c hc
          · cases List.mem_singleton.mp hc
            decide
          · exact ih hrest c hc

theorem tokens_spell (honLine : ∀ token ∈ tokens, token.OnLine) :
    Scanner.tokens (spell tokens) = tokens := by
  have hreturn : (spell tokens).filter (· != '\r') = spell tokens := by
    refine List.filter_eq_self.mpr fun c hc => ?_
    simpa using (spell_chars honLine c hc).2.1
  have hspelled : IsTokenization (String.ofList (spell tokens)) tokens := by
    refine ⟨[], spell tokens, ?_, by simp, written_spell fun token h => (honLine token h).wellFormed⟩
    rw [String.toList_ofList, hreturn, List.nil_append]
  have htokens := tokenize_eq_of_isTokenization hspelled
  rwa [tokenize, String.toList_ofList] at htokens

theorem spell_ne_nil (hne : tokens ≠ []) (hwell : ∀ token ∈ tokens, token.WellFormed) :
    spell tokens ≠ [] := by
  obtain ⟨token, rest, rfl⟩ := List.exists_cons_of_ne_nil hne
  have hlexeme := Token.lexeme_ne_nil (hwell token List.mem_cons_self)
  cases rest with
  | nil =>
      rw [spell_singleton]
      exact hlexeme
  | cons next rest =>
      rw [spell_cons_cons]
      exact List.append_ne_nil_of_left_ne_nil hlexeme _

/-- No blank stands at either end, so none is cut off there. -/
theorem trimChars_spell (hwell : ∀ token ∈ tokens, token.WellFormed) :
    trimChars (spell tokens) = spell tokens := by
  apply trimChars_eq_self
  · cases tokens with
    | nil => simp [spell]
    | cons token rest =>
        have htoken := hwell token List.mem_cons_self
        have hhead := (Token.isBlank_ends_lexeme htoken).1
        cases rest with
        | nil => rwa [spell_singleton]
        | cons next rest =>
            rwa [spell_cons_cons, List.head?_append_of_ne_nil _ (Token.lexeme_ne_nil htoken)]
  · induction tokens with
    | nil => simp [spell]
    | cons token rest ih =>
        obtain ⟨htoken, hrest⟩ := List.forall_mem_cons.mp hwell
        cases rest with
        | nil =>
            rw [spell_singleton]
            exact (Token.isBlank_ends_lexeme htoken).2
        | cons next rest =>
            have hne := spell_ne_nil (List.cons_ne_nil next rest) hrest
            rw [spell_cons_cons, ← List.append_assoc, List.getLast?_append_of_ne_nil _ hne]
            exact ih hrest

theorem ofPhysical_spell (number : Int) (hne : tokens ≠ [])
    (honLine : ∀ token ∈ tokens, token.OnLine) :
    ofPhysical number (spell tokens) = [⟨number, tokens, String.ofList (spell tokens)⟩] := by
  have hsemicolon : ';' ∉ spell tokens := fun h => (spell_chars honLine ';' h).2.2 rfl
  have hstatement : ofStatement number (spell tokens) =
      some ⟨number, tokens, String.ofList (spell tokens)⟩ := by
    obtain ⟨token, rest, rfl⟩ := List.exists_cons_of_ne_nil hne
    unfold ofStatement
    rw [tokens_spell honLine, trimChars_spell fun token h => (honLine token h).wellFormed]
  rw [ofPhysical, List.splitOn_eq_singleton hsemicolon, List.filterMap_cons, hstatement]
  rfl

theorem ofText_spellAll (first : Int) {lists : List (List Token)}
    (hlists : ∀ tokens ∈ lists, tokens ≠ [] ∧ ∀ token ∈ tokens, token.OnLine) :
    ofText first (spellAll lists) =
      lists.mapIdx fun i tokens => ⟨first + i, tokens, String.ofList (spell tokens)⟩ := by
  by_cases hempty : lists = []
  · rw [hempty]
    rfl
  · have hnewline : ∀ physical ∈ lists.map spell, '\n' ∉ physical := by
      intro physical hphysical hmem
      obtain ⟨tokens, htokens, rfl⟩ := List.mem_map.mp hphysical
      exact (spell_chars (hlists tokens htokens).2 '\n' hmem).1 rfl
    have hsplit : (spellAll lists).toList.splitOn '\n' = lists.map spell := by
      rw [spellAll, String.toList_ofList]
      exact List.splitOn_intercalate '\n' hnewline (by simpa using hempty)
    have hline : ∀ entry ∈ lists.zipIdx, ofPhysical (first + entry.2) (spell entry.1) =
        [⟨first + entry.2, entry.1, String.ofList (spell entry.1)⟩] := by
      intro entry hentry
      obtain ⟨hne, honLine⟩ := hlists entry.1 (List.fst_mem_of_mem_zipIdx hentry)
      exact ofPhysical_spell _ hne honLine
    rw [ofText, hsplit, List.mapIdx_eq_zipIdx_map, List.zipIdx_map, List.flatMap_map,
      List.map_eq_flatMap]
    exact List.flatMap_congr hline

/-- **Lexing undoes spelling.** Tokens that can stand on lines are read back from their spelling, each list of them on its own line, and what is read from any text is such tokens. -/
theorem ofText_spelling :
    (∀ first lists, (∀ tokens ∈ lists, tokens ≠ [] ∧ ∀ token ∈ tokens, token.OnLine) →
        ofText first (spellAll lists) =
          lists.mapIdx fun i tokens => ⟨first + i, tokens, String.ofList (spell tokens)⟩) ∧
      ∀ first again text,
        (ofText again (spellAll ((ofText first text).map Line.tokens))).map Line.tokens =
          (ofText first text).map Line.tokens := by
  refine ⟨fun first lists hlists => ofText_spellAll first hlists, fun first again text => ?_⟩
  have hread : ∀ tokens ∈ (ofText first text).map Line.tokens,
      tokens ≠ [] ∧ ∀ token ∈ tokens, token.OnLine := by
    intro tokens htokens
    obtain ⟨line, hline, rfl⟩ := List.mem_map.mp htokens
    exact ⟨tokens_ne_nil_of_mem_ofText hline, fun token htoken => onLine_of_mem_ofText hline htoken⟩
  rw [ofText_spellAll again hread, List.mapIdx_eq_zipIdx_map, List.map_map]
  exact List.zipIdx_map_fst 0 _

/-- A minus sign before a digit, two slashes and a string that ends in one: the spaces keep them apart. -/
theorem ofText_spelling_signs :
    let lists : List (List Token) :=
      [[⟨.operator, "-"⟩, ⟨.number, "5"⟩, ⟨.operator, "/"⟩, ⟨.operator, "/"⟩],
        [⟨.string, "a /"⟩, ⟨.identifier, "x"⟩]]
    (∀ tokens ∈ lists, tokens ≠ [] ∧ ∀ token ∈ tokens, token.OnLine) ∧
      spellAll lists = "- 5 / /\n\"a /\" x" ∧
      ofText 3 (spellAll lists) =
        [⟨3, [⟨.operator, "-"⟩, ⟨.number, "5"⟩, ⟨.operator, "/"⟩, ⟨.operator, "/"⟩], "- 5 / /"⟩,
          ⟨4, [⟨.string, "a /"⟩, ⟨.identifier, "x"⟩], "\"a /\" x"⟩] := by
  intro lists
  have hminus : (⟨.operator, "-"⟩ : Token).OnLine :=
    ⟨⟨'-', by decide, Or.inl rfl⟩, by simp⟩
  have hslash : (⟨.operator, "/"⟩ : Token).OnLine :=
    ⟨⟨'/', by decide, Or.inl rfl⟩, by simp⟩
  have hnumber : (⟨.number, "5"⟩ : Token).OnLine :=
    ⟨show isNumeral "5" = true by decide, by simp⟩
  have hstring : (⟨.string, "a /"⟩ : Token).OnLine := ⟨⟨by decide, by decide⟩, by simp⟩
  have hx : isNameChar 'x' = true := by decide
  have hname : (⟨.identifier, "x"⟩ : Token).OnLine :=
    ⟨⟨⟨by simpa using hx, 'x', rfl, by decide⟩, by decide, by decide⟩, by simp⟩
  have hlists : ∀ tokens ∈ lists, tokens ≠ [] ∧ ∀ token ∈ tokens, token.OnLine := by
    simp [lists, hminus, hslash, hnumber, hstring, hname]
  refine ⟨hlists, by decide, (ofText_spelling.1 3 lists hlists).trans ?_⟩
  decide

end Line

end StackScript
