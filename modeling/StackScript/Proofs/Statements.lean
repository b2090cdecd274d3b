import StackScript.Proofs.Lines

/-!
# The statements of a text

A text is cut twice, at newlines and then at semicolons. Read once from left to right it is one list
of statements, each with the number of newlines before it; its lines are those that hold a token,
and their numbers are counted from there. Each statement has a place in the text, between a
separator or the end of the text on either side.
-/

namespace StackScript

namespace Line

/-- The statements of a text, each with the number of newlines before it. -/
def statements : List Char → List (Nat × List Char)
  | [] => [(0, [])]
  | c :: rest =>
    if c = '\n' then (0, []) :: (statements rest).map (Prod.map (· + 1) id)
    else if c = ';' then (0, []) :: statements rest
    else (statements rest).modifyHead (Prod.map id (c :: ·))

theorem statements_newline (l : List Char) :
    statements ('\n' :: l) = (0, []) :: (statements l).map (Prod.map (· + 1) id) := by
  rw [statements, if_pos rfl]

theorem statements_semicolon (l : List Char) :
    statements (';' :: l) = (0, []) :: statements l := by
  rw [statements, if_neg (by decide), if_pos rfl]

theorem statements_cons {c : Char} (hnewline : c ≠ '\n') (hsemicolon : c ≠ ';') (l : List Char) :
    statements (c :: l) = (statements l).modifyHead (Prod.map id (c :: ·)) := by
  rw [statements, if_neg hnewline, if_neg hsemicolon]

theorem statements_eq_flatMap (l : List Char) :
    statements l =
      (l.splitOn '\n').zipIdx.flatMap fun entry =>
        (entry.1.splitOn ';').map fun statement => (entry.2, statement) := by
  induction l with
  | nil => rfl
  | cons c l ih =>
      rw [List.splitOn_cons_eq_if_modifyHead]
      by_cases hnewline : c = '\n'
      · subst hnewline
        rw [statements_newline, ih, if_pos (beq_self_eq_true _), List.zipIdx_cons,
          List.flatMap_cons, List.splitOn_nil, List.map_singleton, List.singleton_append,
          List.zipIdx_succ, List.flatMap_map, List.map_flatMap]
        simp only [List.map_map]
        rfl
      · -- the character belongs to the first physical line
        obtain ⟨physical, others, hsplit⟩ :=
          List.exists_cons_of_ne_nil (List.splitOn_ne_nil '\n' l)
        rw [hsplit, List.zipIdx_cons, List.flatMap_cons] at ih
        rw [if_neg (by simpa using hnewline), hsplit, List.modifyHead_cons, List.zipIdx_cons,
          List.flatMap_cons, List.splitOn_cons_eq_if_modifyHead]
        by_cases hsemicolon : c = ';'
        · subst hsemicolon
          rw [statements_semicolon, ih, if_pos (beq_self_eq_true _), List.map_cons,
            List.cons_append]
        · rw [statements_cons hnewline hsemicolon, ih, if_neg (by simpa using hsemicolon)]
          obtain ⟨statement, rest, hpieces⟩ :=
            List.exists_cons_of_ne_nil (List.splitOn_ne_nil ';' physical)
          rw [hpieces]
          rfl

theorem ofText_eq_filterMap (first : Int) (text : String) :
    ofText first text =
      (statements text.toList).filterMap fun entry => ofStatement (first + entry.1) entry.2 := by
  rw [statements_eq_flatMap, List.filterMap_flatMap]
  simp only [List.filterMap_map]
  rfl

theorem map_tokens_ofStatement (number again : Int) (statement : List Char) :
    (ofStatement number statement).map tokens = (ofStatement again statement).map tokens := by
  unfold ofStatement
  cases Scanner.tokens statement <;> rfl

/-- What the lines hold comes from the statements alone, and not from the numbers these have. -/
theorem map_tokens_ofText (first : Int) (text : String) :
    (ofText first text).map tokens =
      ((statements text.toList).map Prod.snd).filterMap fun statement =>
        (ofStatement 0 statement).map tokens := by
  rw [ofText_eq_filterMap, List.map_filterMap, List.filterMap_map]
  congr 1
  funext entry
  exact map_tokens_ofStatement (first + entry.1) 0 entry.2

theorem tokens_ofText (first again : Int) (text : String) :
    (ofText first text).map tokens = (ofText again text).map tokens := by
  rw [map_tokens_ofText, map_tokens_ofText]

theorem exists_physical {l : List Char} {i : Nat} {statement : List Char}
    (h : (i, statement) ∈ statements l) :
    ∃ physical, (l.splitOn '\n')[i]? = some physical ∧ statement ∈ physical.splitOn ';' := by
  rw [statements_eq_flatMap] at h
  obtain ⟨⟨physical, j⟩, hphysical, hentry⟩ := List.mem_flatMap.mp h
  obtain ⟨piece, hpiece, heq⟩ := List.mem_map.mp hentry
  obtain ⟨rfl, rfl⟩ := Prod.mk.inj heq
  exact ⟨physical, List.mem_zipIdx_iff_getElem?.mp hphysical, hpiece⟩

/-! ### Where a statement stands -/

/-- Ends statements: a newline or a semicolon. -/
def Separates (c : Char) : Prop :=
  c = '\n' ∨ c = ';'

/-- A statement at its place: a piece of the text that no separator interrupts, with one or an end of the text on either side. -/
structure Stands (text left statement right : List Char) : Prop where
  eq_append : text = left ++ (statement ++ right)
  unbroken : ∀ c ∈ statement, ¬ Separates c
  starts : ∀ c, left.getLast? = some c → Separates c
  ends : ∀ c, right.head? = some c → Separates c

variable {l left statement right : List Char} {c : Char}

theorem stands_nil : Stands [] [] [] [] where
  eq_append := rfl
  unbroken := by simp
  starts := by simp
  ends := by simp

theorem stands_separator (hc : Separates c) (l : List Char) : Stands (c :: l) [] [] (c :: l) where
  eq_append := rfl
  unbroken := by simp
  starts := by simp
  ends := by simpa using hc

theorem Stands.cons_statement (h : Stands l [] statement right) (hc : ¬ Separates c) :
    Stands (c :: l) [] (c :: statement) right where
  eq_append := congrArg (c :: ·) h.eq_append
  unbroken := List.forall_mem_cons.mpr ⟨hc, h.unbroken⟩
  starts := h.starts
  ends := h.ends

theorem Stands.cons_left (h : Stands l left statement right) (hc : left = [] → Separates c) :
    Stands (c :: l) (c :: left) statement right where
  eq_append := congrArg (c :: ·) h.eq_append
  unbroken := h.unbroken
  starts := by
    intro d hd
    cases left with
    | nil =>
        obtain rfl : c = d := by simpa using hd
        exact hc rfl
    | cons e left =>
        apply h.starts d
        rw [← hd, List.getLast?_cons_cons]
  ends := h.ends

theorem statements_ne_nil (l : List Char) : statements l ≠ [] := by
  cases l with
  | nil => exact List.cons_ne_nil _ _
  | cons c l =>
      rw [statements]
      split
      · exact List.cons_ne_nil _ _
      · split
        · exact List.cons_ne_nil _ _
        · simpa using statements_ne_nil l

theorem statements_separator (hc : Separates c) (l : List Char) :
    statements (c :: l) =
      (0, []) :: (statements l).map (Prod.map (· + [c].count '\n') id) := by
  rcases hc with rfl | rfl
  · exact statements_newline l
  · rw [statements_semicolon]
    exact congrArg _ (List.map_id _).symm

theorem statements_of_not_separates (hc : ¬ Separates c) (l : List Char) :
    statements (c :: l) = (statements l).modifyHead (Prod.map id (c :: ·)) := by
  rw [Separates, not_or] at hc
  exact statements_cons hc.1 hc.2 l

/-- `left` is what stands before a statement: it holds the statements before that one, and the newlines that number it. -/
structure Precedes (left : List Char) (before : List (Nat × List Char)) (i : Nat) : Prop where
  statements_eq : statements left = before ++ [(i, [])]
  count_eq : left.count '\n' = i
  eq_nil : before = [] → left = []

variable {before after : List (Nat × List Char)} {i : Nat}

theorem precedes_nil : Precedes [] [] 0 where
  statements_eq := rfl
  count_eq := rfl
  eq_nil _ := rfl

theorem Precedes.cons_separator (h : Precedes left before i) (hc : Separates c) :
    Precedes (c :: left) ((0, []) :: before.map (Prod.map (· + [c].count '\n') id))
      (i + [c].count '\n') where
  statements_eq := by
    rw [statements_separator hc, h.statements_eq, List.map_append, List.cons_append]
    rfl
  count_eq := by
    rw [← List.singleton_append, List.count_append, h.count_eq, Nat.add_comm]
  eq_nil hnil := absurd hnil (List.cons_ne_nil _ _)

theorem Precedes.ne_nil {entry : Nat × List Char} (h : Precedes left (entry :: before) i) :
    left ≠ [] := by
  intro hnil
  have hlength := congrArg List.length h.statements_eq
  rw [hnil] at hlength
  simp [statements] at hlength

theorem Precedes.cons {entry : Nat × List Char} (h : Precedes left (entry :: before) i)
    (hc : ¬ Separates c) : Precedes (c :: left) (Prod.map id (c :: ·) entry :: before) i where
  statements_eq := by
    rw [statements_of_not_separates hc, h.statements_eq]
    rfl
  count_eq := by
    have hne : c ≠ '\n' := fun heq => hc (.inl heq)
    rw [List.count_cons_of_ne hne, h.count_eq]
  eq_nil hnil := absurd hnil (List.cons_ne_nil _ _)

/-- Every statement has its place: it is numbered by the newlines to its left, where the statements before it stand. -/
theorem exists_stands (h : statements l = before ++ (i, statement) :: after) :
    ∃ left right, Stands l left statement right ∧ Precedes left before i := by
  induction l generalizing before after i statement with
  | nil =>
      rw [statements, List.singleton_eq_append_iff] at h
      obtain ⟨rfl, hentry⟩ | ⟨-, hnil⟩ := h
      · cases hentry
        exact ⟨[], [], stands_nil, precedes_nil⟩
      · cases hnil
  | cons c l ih =>
      by_cases hc : Separates c
      · rw [statements_separator hc] at h
        cases before with
        | nil =>
            cases h
            exact ⟨[], c :: l, stands_separator hc l, precedes_nil⟩
        | cons first before =>
            obtain ⟨rfl, hrest⟩ := List.cons.inj h
            obtain ⟨before, others, hsplit, rfl, hothers⟩ := List.map_eq_append_iff.mp hrest
            obtain ⟨⟨j, piece⟩, after, rfl, hentry, rfl⟩ := List.map_eq_cons_iff.mp hothers
            cases hentry
            obtain ⟨left, right, hstands, hbefore⟩ := ih hsplit
            exact ⟨c :: left, right, hstands.cons_left fun _ => hc, hbefore.cons_separator hc⟩
      · obtain ⟨entry, others, hsplit⟩ := List.exists_cons_of_ne_nil (statements_ne_nil l)
        rw [statements_of_not_separates hc, hsplit, List.modifyHead_cons] at h
        cases before with
        | nil =>
            cases h
            obtain ⟨left, right, hstands, hbefore⟩ := @ih _ [] _ _ hsplit
            obtain rfl := hbefore.eq_nil rfl
            exact ⟨[], right, hstands.cons_statement hc, hbefore⟩
        | cons first before =>
            obtain ⟨rfl, rfl⟩ := List.cons.inj h
            obtain ⟨left, right, hstands, hbefore⟩ := @ih _ (entry :: before) _ _ hsplit
            exact ⟨c :: left, right, hstands.cons_left fun hnil => absurd hnil hbefore.ne_nil,
              hbefore.cons hc⟩

/-! ### Where a line is found -/

/-- A line is found in a text at a statement: it holds the statement's tokens and shows it as it is written, and the statement is a piece of the physical line that the newlines to its left count off. -/
structure FoundAt (text left statement right : List Char) (line : Line) : Prop where
  stands : Stands text left statement right
  piece : ∃ physical, (text.splitOn '\n')[left.count '\n']? = some physical ∧
    statement ∈ physical.splitOn ';'
  tokens_eq : line.tokens = Scanner.tokens statement
  source_eq : line.source = String.ofList (Text.trimChars statement)

/-- Every line of a text is found in it, numbered by the newlines to its left, where the lines before it are. -/
theorem exists_foundAt {first : Int} {text : String} {before after : List Line} {line : Line}
    (h : ofText first text = before ++ line :: after) :
    ∃ left statement right, FoundAt text.toList left statement right line ∧
      line.number = first + left.count '\n' ∧ ofText first (String.ofList left) = before := by
  rw [ofText_eq_filterMap] at h
  obtain ⟨done, others, hsplit, hdone, hothers⟩ := List.filterMap_eq_append_iff.mp h
  obtain ⟨empty, ⟨i, statement⟩, others, rfl, hempty, hline, -⟩ :=
    List.filterMap_eq_cons_iff.mp hothers
  rw [← List.append_assoc] at hsplit
  obtain ⟨left, right, hstands, hleft, rfl, -⟩ := exists_stands hsplit
  have hmem : (left.count '\n', statement) ∈ statements text.toList := by
    simp [hsplit]
  obtain ⟨-, rfl⟩ := of_ofStatement_eq_some hline
  refine ⟨left, statement, right, ⟨hstands, exists_physical hmem, rfl, rfl⟩, rfl, ?_⟩
  rw [ofText_eq_filterMap, String.toList_ofList, hleft, List.filterMap_append,
    List.filterMap_append, hdone, List.filterMap_eq_nil_iff.mpr hempty, List.append_nil]
  exact List.append_nil before

theorem number_of_mem_ofText {first : Int} {text : String} {line : Line}
    (h : line ∈ ofText first text) :
    first ≤ line.number ∧ line.number ≤ first + text.toList.count '\n' := by
  obtain ⟨before, after, hsplit⟩ := List.append_of_mem h
  obtain ⟨left, statement, right, hfound, hnumber, -⟩ := exists_foundAt hsplit
  have hcount : left.count '\n' ≤ text.toList.count '\n' := by
    rw [hfound.stands.eq_append, List.count_append]
    exact Nat.le_add_right _ _
  omega

end Line

end StackScript
