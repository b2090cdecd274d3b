import StackScript.Line
import StackScript.Proofs.Tokenization

/-!
# The lines of a text

Cutting a text into lines loses only newlines and semicolons, so no token of a line holds either,
and none holds a carriage return. The lines of two texts that a newline joins are the lines of the
first and those of the second, numbered on from there.
-/

namespace StackScript

open Text Scanner

theorem mem_of_mem_splitOn {sep c : Char} {l piece : List Char} (hpiece : piece ∈ l.splitOn sep)
    (hc : c ∈ piece) : c ∈ l ∧ c ≠ sep := by
  induction l generalizing piece with
  | nil =>
      rw [List.splitOn_nil, List.mem_singleton] at hpiece
      simp [hpiece] at hc
  | cons d l ih =>
      rw [List.splitOn_cons_eq_if_modifyHead] at hpiece
      by_cases hsep : (d == sep) = true
      · rw [if_pos hsep, List.mem_cons] at hpiece
        rcases hpiece with rfl | hpiece
        · cases hc
        · exact ⟨List.mem_cons_of_mem d (ih hpiece hc).1, (ih hpiece hc).2⟩
      · rw [if_neg hsep] at hpiece
        cases hsplit : l.splitOn sep with
        | nil => exact absurd hsplit (List.splitOn_ne_nil sep l)
        | cons first others =>
            rw [hsplit, List.modifyHead_cons, List.mem_cons] at hpiece
            rw [hsplit] at ih
            rcases hpiece with rfl | hpiece
            · rcases List.mem_cons.mp hc with rfl | hc
              · exact ⟨List.mem_cons_self, by simpa using hsep⟩
              · have hmem := ih List.mem_cons_self hc
                exact ⟨List.mem_cons_of_mem d hmem.1, hmem.2⟩
            · have hmem := ih (List.mem_cons_of_mem first hpiece) hc
              exact ⟨List.mem_cons_of_mem d hmem.1, hmem.2⟩

theorem length_splitOn (sep : Char) (l : List Char) : (l.splitOn sep).length = l.count sep + 1 := by
  induction l with
  | nil => simp
  | cons c l ih =>
      rw [List.splitOn_cons_eq_if_modifyHead, List.count_cons]
      split <;> simp [ih]

/-! ### Tokens of a statement -/

theorem Written.wellFormed {touching : Option Token} {l : List Char} {tokens : List Token}
    (h : Written touching l tokens) : ∀ token ∈ tokens, token.WellFormed := by
  induction h with
  | tail => simp
  | token hwell _ _ _ _ ih => exact List.forall_mem_cons.mpr ⟨hwell, ih⟩
  | unclosed hwell => simpa using hwell

theorem Written.mem_of_mem_text {touching : Option Token} {l : List Char} {tokens : List Token}
    (h : Written touching l tokens) : ∀ token ∈ tokens, ∀ c ∈ token.text.toList, c ∈ l := by
  induction h with
  | tail => simp
  | token _ _ _ _ _ ih =>
      refine List.forall_mem_cons.mpr ⟨fun c hc => ?_, fun other hother c hc => ?_⟩
      · exact List.mem_append_left _ (Token.mem_lexeme hc)
      · exact List.mem_append_right _ (List.mem_append_right _ (ih other hother c hc))
  | unclosed =>
      intro token htoken c hc
      rw [List.mem_singleton.mp htoken] at hc
      exact List.mem_cons_of_mem _ (List.mem_append_left _ hc)

/-- A token as it can stand on a line: well formed, and without the characters that end statements or are left out of them. -/
structure Token.OnLine (token : Token) : Prop where
  wellFormed : token.WellFormed
  chars : ∀ c ∈ token.text.toList, c ≠ '\n' ∧ c ≠ '\r' ∧ c ≠ ';'

theorem Scanner.mem_tokens {statement : List Char} {token : Token}
    (h : token ∈ tokens statement) :
    token.WellFormed ∧ ∀ c ∈ token.text.toList, c ∈ statement ∧ c ≠ '\r' := by
  obtain ⟨indent, l, hsplit, -, hwritten⟩ := isTokenization_tokenize (String.ofList statement)
  rw [String.toList_ofList] at hsplit
  rw [tokenize, String.toList_ofList] at hwritten
  refine ⟨hwritten.wellFormed token h, fun c hc => ?_⟩
  have hmem : c ∈ statement.filter (· != '\r') := by
    rw [hsplit]
    exact List.mem_append_right indent (hwritten.mem_of_mem_text token h c hc)
  simpa using hmem

namespace Line

theorem of_ofStatement_eq_some {number : Int} {statement : List Char} {line : Line}
    (h : ofStatement number statement = some line) :
    Scanner.tokens statement ≠ [] ∧
      line = ⟨number, Scanner.tokens statement, String.ofList (trimChars statement)⟩ := by
  unfold ofStatement at h
  split at h
  · cases h
  · rename_i hne
    exact ⟨hne, (Option.some.inj h).symm⟩

theorem exists_statement {first : Int} {text : String} {line : Line}
    (h : line ∈ ofText first text) :
    ∃ number, ∃ physical ∈ text.toList.splitOn '\n', ∃ statement ∈ physical.splitOn ';',
      ofStatement number statement = some line := by
  unfold ofText at h
  obtain ⟨⟨physical, i⟩, hphysical, hline⟩ := List.mem_flatMap.mp h
  obtain ⟨statement, hstatement, hsome⟩ := List.mem_filterMap.mp hline
  exact ⟨first + i, physical, List.fst_mem_of_mem_zipIdx hphysical, statement, hstatement, hsome⟩

theorem onLine_of_mem_ofText {first : Int} {text : String} {line : Line}
    (hline : line ∈ ofText first text) {token : Token} (htoken : token ∈ line.tokens) :
    token.OnLine := by
  obtain ⟨number, physical, hphysical, statement, hstatement, hsome⟩ := exists_statement hline
  obtain ⟨-, rfl⟩ := of_ofStatement_eq_some hsome
  obtain ⟨hwell, hchars⟩ := Scanner.mem_tokens htoken
  refine ⟨hwell, fun c hc => ?_⟩
  obtain ⟨hmem, hreturn⟩ := hchars c hc
  obtain ⟨hmem, hsemicolon⟩ := mem_of_mem_splitOn hstatement hmem
  exact ⟨(mem_of_mem_splitOn hphysical hmem).2, hreturn, hsemicolon⟩

theorem tokens_ne_nil_of_mem_ofText {first : Int} {text : String} {line : Line}
    (h : line ∈ ofText first text) : line.tokens ≠ [] := by
  obtain ⟨number, physical, -, statement, -, hsome⟩ := exists_statement h
  obtain ⟨hne, rfl⟩ := of_ofStatement_eq_some hsome
  exact hne

/-! ### Texts that a newline joins -/

theorem ofText_join (first : Int) (text rest : String) :
    ofText first (text ++ "\n" ++ rest) =
      ofText first text ++ ofText (first + text.toList.count '\n' + 1) rest := by
  have hsplit : (text ++ "\n" ++ rest).toList.splitOn '\n' =
      text.toList.splitOn '\n' ++ rest.toList.splitOn '\n' := by
    simp only [String.toList_append, List.append_assoc]
    exact List.splitOn_append_cons_self text.toList rest.toList
  have hshift : ∀ physical : List (List Char), ∀ k : Nat,
      (physical.zipIdx k).flatMap (fun entry => ofPhysical (first + entry.2) entry.1) =
        physical.zipIdx.flatMap (fun entry => ofPhysical (first + k + entry.2) entry.1) := by
    intro physical k
    rw [List.zipIdx_eq_map_add, List.flatMap_map]
    simp only [Int.natCast_add, Int.add_assoc]
  have hcount : first + text.toList.count '\n' + 1 =
      first + ((text.toList.count '\n' + 1 : Nat) : Int) := by
    omega
  simp only [ofText, hsplit, List.zipIdx_append, List.flatMap_append, Nat.zero_add, length_splitOn]
  rw [hshift _ (text.toList.count '\n' + 1), hcount]

end Line

end StackScript
