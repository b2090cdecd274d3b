import StackScript.Proofs.Values

/-!
# Lines without their brackets

A bracket does nothing in its own turn. An operator may still come upon one, as it takes its
operands from where they are written, whatever stands there; no operator can do anything with a
bracket, so the line fails there. Every line that does not come to that is evaluated as it is
without its brackets, and so is every line that evaluates without an error.
-/

namespace StackScript

/-- The line with its brackets left out. -/
def Line.withoutBrackets (line : Line) : Line :=
  { line with tokens := line.tokens.filter (·.kind ≠ .symbol) }

/-- How many of the tokens to its left an operator takes operands from. -/
def Machine.sought (base : Nat) (machine : Machine) : Nat :=
  if base < machine.stack.length then 1 else 2

/-- The next turn is that of an operator that has a bracket where it takes an operand from. -/
inductive Point.FacesBracket (base : Nat) : Point → Prop
  | intro {machine : Machine} {token bracket : Token} {before : List Token} {operator : Operator} :
      token.kind = .operator → Operator.ofSymbol? token.text = some operator →
      bracket ∈ before.take (machine.sought base) → bracket.kind = .symbol →
      Point.FacesBracket base ⟨machine, 0, token :: before⟩

theorem take_filter_of_forall {α : Type} {p : α → Bool} {l : List α} {n : Nat}
    (h : ∀ x ∈ l.take n, p x = true) : (l.filter p).take n = l.take n := by
  induction l generalizing n with
  | nil => rfl
  | cons x l ih =>
      cases n with
      | zero => rfl
      | succ n =>
          rw [List.take_succ_cons] at h ⊢
          obtain ⟨hx, hrest⟩ := List.forall_mem_cons.mp h
          rw [List.filter_cons_of_pos hx, List.take_succ_cons, ih hrest]

namespace Machine

variable {base used : Nat} {machine next popped : Machine} {token left right : Token}
  {before before' : List Token} {operator : Operator}

/-! ### An operator sees no further than its operands -/

theorem perform_congr {right? : Option Token}
    (h : before'.take (if right?.isSome then 1 else 2) =
      before.take (if right?.isSome then 1 else 2)) :
    machine.perform operator right? before' = machine.perform operator right? before := by
  have hget : ∀ k < (if right?.isSome then 1 else 2), before'[k]? = before[k]? := by
    intro k hk
    rw [← List.getElem?_take_of_lt hk, h, List.getElem?_take_of_lt hk]
  cases right? with
  | some right => simp only [perform, hget 0 Nat.zero_lt_one]
  | none => simp only [perform, hget 0 Nat.zero_lt_two, hget 1 Nat.one_lt_two]

theorem takeTurn_congr (h : before'.take (machine.sought base) = before.take (machine.sought base)) :
    takeTurn base machine token before' = takeTurn base machine token before := by
  have hright : (machine.popAbove base).1.isSome = decide (base < machine.stack.length) :=
    Bool.eq_iff_iff.mpr (popAbove_isSome_iff.trans (decide_eq_true_iff).symm)
  unfold takeTurn
  cases token.kind with
  | operator =>
      simp only [operate]
      split
      · rfl
      · rw [perform_congr]
        simpa [hright, sought] using h
  | _ => rfl

theorem Operands.used_eq (h : machine.Operands base operator before used popped left right) :
    used = machine.sought base := by
  cases h with
  | stacked _ hlt => exact (if_pos hlt).symm
  | trailing hle => exact (if_neg (Nat.not_lt.mpr hle)).symm

/-! ### No operator accepts a bracket -/

theorem operand_of_symbol {bracket : Token} (hbracket : bracket.kind = .symbol)
    {operator side : String} {named : Bool} {value : Token}
    (h : machine.operand (some bracket) operator side named = .ok value) : value = bracket := by
  have hkind : bracket.kind ≠ .identifier := by
    rw [hbracket]
    decide
  simp only [operand, valueOf, if_neg hkind, ite_self] at h
  exact (Except.ok.inj h).symm

theorem Operands.eq_of_symbol
    (h : machine.Operands base operator before used popped left right) {bracket : Token}
    (hmem : bracket ∈ before.take (machine.sought base)) (hbracket : bracket.kind = .symbol) :
    left = bracket ∨ right = bracket := by
  obtain ⟨k, hk⟩ := List.mem_iff_getElem?.mp hmem
  have hlt : k < machine.sought base := by
    obtain ⟨hlength, -⟩ := List.getElem?_eq_some_iff.mp hk
    rw [List.length_take] at hlength
    exact Nat.lt_of_lt_of_le hlength (Nat.min_le_left _ _)
  rw [List.getElem?_take_of_lt hlt] at hk
  rw [← h.used_eq] at hlt
  cases h with
  | stacked _ _ hleft =>
      obtain rfl : k = 0 := by omega
      rw [hk] at hleft
      exact Or.inl (operand_of_symbol hbracket hleft)
  | trailing _ hright hleft =>
      obtain rfl | rfl : k = 0 ∨ k = 1 := by omega
      · rw [hk] at hright
        exact Or.inr (operand_of_symbol hbracket hright)
      · rw [hk] at hleft
        exact Or.inl (operand_of_symbol hbracket hleft)

theorem kinds_of_apply (h : machine.apply operator left right = .ok next) :
    left.kind ≠ .symbol ∧ right.kind ≠ .symbol := by
  have hliteral : ∀ kind ∈ TokenKind.literals, kind ≠ .symbol := by decide
  cases operator with
  | assign =>
      obtain ⟨hidentifier, hkind, -⟩ := apply_assign_eq_ok_iff.mp h
      exact ⟨by simp [hidentifier], hliteral _ hkind⟩
  | binary operator =>
      obtain ⟨value, hvalue, -⟩ := apply_binary_eq_ok_iff.mp h
      obtain ⟨hleft, hright, -⟩ := BinaryOperator.apply_eq_ok_iff.mp hvalue
      have hsubset := operator.kinds_subset_literals
      exact ⟨hliteral _ (hsubset hleft), hliteral _ (hsubset hright)⟩

theorem takeTurn_of_facesBracket
    (h : Point.FacesBracket base ⟨machine, 0, token :: before⟩) :
    ∃ error next, takeTurn base machine token before = (.error error, next) := by
  match hturn : takeTurn base machine token before with
  | (.error error, next) => exact ⟨error, next, rfl⟩
  | (.ok used, next) =>
      exfalso
      cases h with
      | intro hkind hsymbol hmem hbracket =>
          rw [takeTurn, hkind] at hturn
          obtain ⟨_, _, _, _, -, hoperands, happly⟩ := operate_eq_ok_iff.mp hturn
          have hkinds := kinds_of_apply happly
          rcases hoperands.eq_of_symbol hmem hbracket with rfl | rfl
          · exact hkinds.1 hbracket
          · exact hkinds.2 hbracket

/-! ### Evaluation without brackets -/

/-- The operands that a turn uses are no brackets, unless the operator faces one. -/
theorem Turn.used_ne_symbol (hturn : machine.Turn base token before used next)
    (hfree : ¬ Point.FacesBracket base ⟨machine, 0, token :: before⟩) :
    ∀ operand ∈ before.take used, operand.kind ≠ .symbol := by
  cases hturn with
  | literal | fetch | print | symbol => simp
  | operator hkind hsymbol hoperands =>
      intro operand hmem hbracket
      rw [hoperands.used_eq] at hmem
      exact hfree (.intro hkind hsymbol hmem hbracket)

theorem takeTurn_filter (hfree : ¬ Point.FacesBracket base ⟨machine, 0, token :: before⟩) :
    takeTurn base machine token (before.filter (·.kind ≠ .symbol)) =
      takeTurn base machine token before := by
  by_cases hkind : token.kind = .operator
  · cases hsymbol : Operator.ofSymbol? token.text with
    | none => simp only [takeTurn, hkind, operate, hsymbol]
    | some operator =>
        refine takeTurn_congr (take_filter_of_forall fun operand hmem => ?_)
        exact decide_eq_true fun hbracket => hfree (.intro hkind hsymbol hmem hbracket)
  · unfold takeTurn
    cases hother : token.kind with
    | operator => exact absurd hother hkind
    | _ => rfl

theorem evaluate_filter {skip : Nat}
    (hskip : ∀ operand ∈ before.take skip, operand.kind ≠ .symbol)
    (hfree : ∀ q, Point.Reaches base ⟨machine, skip, before⟩ q → ¬ q.FacesBracket base) :
    evaluate base skip (before.filter (·.kind ≠ .symbol)) machine =
      evaluate base skip before machine := by
  induction before generalizing skip machine with
  | nil => rfl
  | cons token before ih =>
      cases skip with
      | succ skip =>
          rw [List.take_succ_cons] at hskip
          obtain ⟨htoken, hrest⟩ := List.forall_mem_cons.mp hskip
          rw [List.filter_cons_of_pos (by simpa using htoken)]
          exact ih hrest fun q hreaches => hfree q (.head .skip hreaches)
      | zero =>
          by_cases hbracket : token.kind = .symbol
          · have hstep : machine.Turn base token before 0 machine := .symbol hbracket
            rw [List.filter_cons_of_neg (by simp [hbracket]), evaluate_of_turn hstep]
            exact ih (by simp) fun q hreaches => hfree q (.head (.turn hstep) hreaches)
          · rw [List.filter_cons_of_pos (by simpa using hbracket), evaluate_cons, evaluate_cons,
              takeTurn_filter (hfree _ .refl)]
            match hturn : takeTurn base machine token before with
            | (.ok used, next) =>
                have hstep := takeTurn_eq_ok_iff.mp hturn
                exact ih (hstep.used_ne_symbol (hfree _ .refl))
                  fun q hreaches => hfree q (.head (.turn hstep) hreaches)
            | (.error error, next) => rfl

theorem evaluateLine_of_facesBracket {line : Line} {q : Point}
    (hreaches : Point.Reaches machine.stack.length (Point.start machine line) q)
    (hfaces : q.FacesBracket machine.stack.length) :
    ∃ token before error next, q = ⟨q.machine, 0, token :: before⟩ ∧
      takeTurn machine.stack.length q.machine token before = (.error error, next) ∧
      machine.evaluateLine line =
        { machine := next, error := some ⟨error, line.number⟩ } := by
  obtain ⟨reached, skip, tokens⟩ := q
  cases hfaces with
  | @intro _ token _ before _ hkind hsymbol hmem hbracket =>
      obtain ⟨error, next, hturn⟩ :=
        takeTurn_of_facesBracket (.intro hkind hsymbol hmem hbracket)
      refine ⟨token, before, error, next, rfl, hturn, ?_⟩
      rw [evaluateLine_eq, hreaches.ending_eq, Point.ending, evaluate_cons, hturn]
      rfl

/-- **Brackets.** A line in which no operator faces a bracket does the same with its brackets as without them. Where an operator faces one the line fails at that operator; so every line that evaluates without an error does the same without its brackets. -/
theorem evaluateLine_withoutBrackets (machine : Machine) (line : Line) :
    ((∀ q, Point.Reaches machine.stack.length (Point.start machine line) q →
          ¬ q.FacesBracket machine.stack.length) →
        machine.evaluateLine line.withoutBrackets = machine.evaluateLine line) ∧
      (∀ q, Point.Reaches machine.stack.length (Point.start machine line) q →
        q.FacesBracket machine.stack.length →
          ∃ token before error next, q = ⟨q.machine, 0, token :: before⟩ ∧
            takeTurn machine.stack.length q.machine token before = (.error error, next) ∧
            machine.evaluateLine line =
              { machine := next, error := some ⟨error, line.number⟩ }) ∧
      ((machine.evaluateLine line).error = none →
        machine.evaluateLine line.withoutBrackets = machine.evaluateLine line) := by
  have hfree : (∀ q, Point.Reaches machine.stack.length (Point.start machine line) q →
      ¬ q.FacesBracket machine.stack.length) →
        machine.evaluateLine line.withoutBrackets = machine.evaluateLine line := by
    intro hfree
    have hevaluate : evaluate machine.stack.length 0
        (line.tokens.reverse.filter (·.kind ≠ .symbol)) machine =
          evaluate machine.stack.length 0 line.tokens.reverse machine :=
      evaluate_filter (by simp) hfree
    simp only [evaluateLine, Line.withoutBrackets, ← List.filter_reverse, hevaluate]
  refine ⟨hfree, fun q => evaluateLine_of_facesBracket,
    fun hnone => hfree fun q hreaches hfaces => ?_⟩
  obtain ⟨_, _, error, next, -, -, hline⟩ := evaluateLine_of_facesBracket hreaches hfaces
  rw [hline] at hnone
  cases hnone

/-- `print (1 2 +)` prints 3 as it does without its brackets; in `print (1) + 2` the sum faces a bracket. -/
theorem evaluateLine_withoutBrackets_sums :
    let machine : Machine := {}
    let print : Token := ⟨.identifier, printName⟩
    let sum : Token := ⟨.operator, "+"⟩
    let around : Line := ⟨1, [print, ⟨.symbol, "("⟩, ⟨.number, "1"⟩, ⟨.number, "2"⟩, sum,
      ⟨.symbol, ")"⟩], "print (1 2 +)"⟩
    let inside : Line := ⟨1, [print, ⟨.symbol, "("⟩, ⟨.number, "1"⟩, ⟨.symbol, ")"⟩, sum,
      ⟨.number, "2"⟩], "print (1) + 2"⟩
    (machine.evaluateLine around).error = none ∧
      (∀ q, Point.Reaches 0 (Point.start machine around) q → ¬ q.FacesBracket 0) ∧
      machine.evaluateLine around.withoutBrackets =
        { machine := { printed := [⟨.number, "3"⟩] } } ∧
      ∃ q, Point.Reaches 0 (Point.start machine inside) q ∧ q.FacesBracket 0 ∧
        ∃ error next, machine.evaluateLine inside =
          { machine := next, error := some ⟨error, 1⟩ } := by
  intro machine print sum around inside
  have hnone : (machine.evaluateLine around).error = none := by decide +kernel
  have hprinted : machine.evaluateLine around =
      { machine := { printed := [⟨.number, "3"⟩] } } := by
    decide +kernel
  obtain ⟨-, hfails, hsame⟩ := evaluateLine_withoutBrackets machine around
  refine ⟨hnone, fun q hreaches hfaces => ?_, (hsame hnone).trans hprinted, ?_⟩
  · obtain ⟨_, _, _, _, -, -, hline⟩ := hfails q hreaches hfaces
    rw [hline] at hnone
    cases hnone
  · have hreaches : Point.Reaches 0 (Point.start machine inside)
        ⟨machine.push ⟨.number, "2"⟩, 0,
          [sum, ⟨.symbol, ")"⟩, ⟨.number, "1"⟩, ⟨.symbol, "("⟩, print]⟩ :=
      .single (.turn (.literal (by decide)))
    have hfaces : Point.FacesBracket 0 ⟨machine.push ⟨.number, "2"⟩, 0,
        [sum, ⟨.symbol, ")"⟩, ⟨.number, "1"⟩, ⟨.symbol, "("⟩, print]⟩ :=
      .intro rfl (Operator.ofSymbol?_symbol (.binary .add)) List.mem_cons_self rfl
    obtain ⟨_, _, error, next, -, -, hline⟩ :=
      (evaluateLine_withoutBrackets machine inside).2.1 _ hreaches hfaces
    exact ⟨_, hreaches, hfaces, error, next, hline⟩

/-- The statement `print (1) + 2` fails on the bracket before the sum; without its brackets it prints 3. -/
theorem exists_bracket_operand :
    ∃ line, Line.ofText 1 "print (1) + 2" = [line] ∧
      ({} : Machine).evaluateLine line =
        { machine := {}
          error := some ⟨.typeMismatch "+" "Number or String" ")", 1⟩ } ∧
      ({} : Machine).evaluateLine line.withoutBrackets =
        { machine := { printed := [⟨.number, "3"⟩] } } := by
  refine ⟨⟨1, [⟨.identifier, "print"⟩, ⟨.symbol, "("⟩, ⟨.number, "1"⟩, ⟨.symbol, ")"⟩,
    ⟨.operator, "+"⟩, ⟨.number, "2"⟩], "print (1) + 2"⟩, ?_, ?_, ?_⟩ <;> decide +kernel

end Machine

end StackScript
