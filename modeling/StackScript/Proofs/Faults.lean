import StackScript.Proofs.Turns

/-!
# The tokens to the right of a fault

An evaluation goes from right to left, and a turn looks at no more tokens to its left than it uses.
So when the turn of a token comes, what the tokens to its right have done is what they do as a line
of their own: none of them has used the token or anything before it. If the turn fails, that is all
the line has done, but for a value that an operator may have taken off the stack by then.
-/

namespace StackScript

namespace Point

variable {base : Nat} {p q : Point}

theorem Step.length_before (h : Step base p q) : p.before.length = q.before.length + 1 := by
  obtain ⟨token, hbefore⟩ := h.before_eq
  rw [hbefore, List.length_cons]

/-- Tokens that are used up at a point have been passed at every later point at which none is. -/
theorem Reaches.skip_le (h : Reaches base p q) :
    p.skip + q.before.length ≤ p.before.length + q.skip := by
  refine h.preserves
    (motive := fun reached =>
      p.skip + reached.before.length ≤ p.before.length + reached.skip) ?_ ?_
  · intro reached next hstep hreached
    cases hstep with
    | skip =>
        simp only [List.length_cons] at hreached ⊢
        omega
    | turn =>
        simp only [List.length_cons] at hreached ⊢
        omega
  · omega

end Point

namespace Machine

variable {base skip used : Nat} {machine popped next : Machine} {token left right : Token}
  {before rest : List Token} {operator : Operator}

/-! ### A turn sees no further than it uses -/

theorem Operands.of_append
    (h : machine.Operands base operator (before ++ rest) used popped left right)
    (hused : used ≤ before.length) :
    machine.Operands base operator before used popped left right := by
  cases h with
  | stacked hstack hlt hleft =>
      rw [List.getElem?_append_left (by omega)] at hleft
      exact .stacked hstack hlt hleft
  | trailing hle hright hleft =>
      rw [List.getElem?_append_left (by omega)] at hright
      rw [List.getElem?_append_left (by omega)] at hleft
      exact .trailing hle hright hleft

theorem Turn.of_append (h : machine.Turn base token (before ++ rest) used next)
    (hused : used ≤ before.length) : machine.Turn base token before used next := by
  cases h with
  | literal hkind => exact .literal hkind
  | fetch hkind hname hvalue => exact .fetch hkind hname hvalue
  | print hkind hname => exact .print hkind hname
  | operator hkind hsymbol hoperands happly =>
      exact .operator hkind hsymbol (hoperands.of_append hused) happly
  | symbol hkind => exact .symbol hkind

/-- Tokens that an evaluation has passed, with none of the rest used, are evaluated by themselves to the same machine. -/
theorem evaluate_of_reaches
    (h : Point.Reaches base ⟨machine, skip, before ++ rest⟩ ⟨next, 0, rest⟩) :
    evaluate base skip before machine = { machine := next } := by
  induction before generalizing skip machine with
  | nil =>
      rcases Relation.ReflTransGen.cases_head h with heq | ⟨p, hstep, hreaches⟩
      · cases heq
        rfl
      · have hlength := hstep.length_before
        have hle := (Point.Reaches.before_suffix hreaches).length_le
        simp only [List.nil_append] at hlength hle
        omega
  | cons token before ih =>
      rcases Relation.ReflTransGen.cases_head h with heq | ⟨p, hstep, hreaches⟩
      · have hlength := congrArg (fun point : Point => point.before.length) heq
        simp only [List.length_append, List.length_cons] at hlength
        omega
      · cases hstep with
        | skip => exact ih hreaches
        | @turn _ reached _ _ used hturn =>
            have hroom : used + rest.length ≤ (before ++ rest).length + 0 :=
              Point.Reaches.skip_le hreaches
            rw [List.length_append] at hroom
            have hused : used ≤ before.length := by omega
            rw [evaluate_of_turn (hturn.of_append hused)]
            exact ih hreaches

end Machine

/-! ### Lines that fail -/

/-- The tokens to the right of the index, as a line of their own. -/
def Line.rightOf (line : Line) (index : Nat) : Line :=
  { line with tokens := line.tokens.drop (index + 1) }

namespace Machine

theorem exists_index_of_reaches {machine reached : Machine} {line : Line} {token : Token}
    {rest : List Token}
    (h : Point.Reaches machine.stack.length (Point.start machine line)
      ⟨reached, 0, token :: rest⟩) :
    ∃ i, line.tokens[i]? = some token ∧ line.before i = rest ∧
      machine.evaluateLine (line.rightOf i) = { machine := reached } := by
  obtain ⟨passed, hsplit⟩ : ∃ passed, passed ++ token :: rest = line.tokens.reverse :=
    h.before_suffix
  have htokens : line.tokens = rest.reverse ++ [token] ++ passed.reverse := by
    rw [← List.reverse_reverse line.tokens, ← hsplit]
    simp
  have hright : (line.rightOf rest.length).tokens.reverse = passed := by
    rw [Line.rightOf, htokens, List.drop_left' (by simp), List.reverse_reverse]
  have hpassed : evaluate machine.stack.length 0 passed machine = { machine := reached } := by
    apply evaluate_of_reaches
    rw [hsplit]
    exact h
  refine ⟨rest.length, by simp [htokens], by simp [Line.before, htokens], ?_⟩
  unfold evaluateLine
  rw [hright, hpassed]
  rfl

/-- **What a failing line has done.** It fails in the turn of one of its tokens, and the tokens to the right of that one evaluate without an error as a line of their own. What the failing line has printed and stored is what they print and store, and it leaves the stack they leave; only an operator may have taken the top off that, and only a value of the line. -/
theorem evaluateLine_right_of_fault (machine : Machine) (line : Line) {fault : Fault}
    (h : (machine.evaluateLine line).error = some fault) :
    ∃ i token,
      let failing := (machine.evaluateLine line).machine
      let right := (machine.evaluateLine (line.rightOf i)).machine
      line.tokens[i]? = some token ∧
        (machine.evaluateLine (line.rightOf i)).error = none ∧
        takeTurn machine.stack.length right token (line.before i) =
          (.error fault.error, failing) ∧
        failing.printed = right.printed ∧ failing.vars = right.vars ∧
        (failing.stack = right.stack ∨
          token.kind = .operator ∧ machine.stack.length < right.stack.length ∧
            failing.stack = right.stack.tail) := by
  obtain ⟨error, herror, rfl⟩ := Option.map_eq_some_iff.mp h
  obtain ⟨reached, token, rest, next, hreaches, hturn⟩ := exists_turn_of_error herror
  have hending : (Point.start machine line).ending machine.stack.length =
      { machine := next, error := some error } := by
    have hsame : (Point.start machine line).ending machine.stack.length =
        Point.ending machine.stack.length ⟨reached, 0, token :: rest⟩ :=
      Point.Reaches.ending_eq hreaches
    rw [hsame, Point.ending, evaluate_cons, hturn]
  have hfailing : machine.evaluateLine line =
      { machine := next, error := some ⟨error, line.number⟩ } := by
    rw [evaluateLine_eq, hending]
    rfl
  obtain ⟨i, htoken, hbefore, hright⟩ := exists_index_of_reaches hreaches
  refine ⟨i, token, ?_⟩
  rw [hfailing, hright, hbefore]
  refine ⟨htoken, rfl, hturn, ?_⟩
  have hfails := fails_of_takeTurn hturn
  cases hfails with
  | unchanged => exact ⟨rfl, rfl, Or.inl rfl⟩
  | popped hkind hstack hlt =>
      refine ⟨rfl, rfl, Or.inr ⟨hkind, hlt, ?_⟩⟩
      rw [hstack]
      rfl

/-- With a 9 left on the stack, `q + 2 print 7 y = 5` stores the 5 and prints the 7 before its sum takes the 2 and finds no `q`. -/
theorem evaluateLine_right_of_fault_sum :
    let machine : Machine := { stack := [⟨.number, "9"⟩] }
    let line : Line := ⟨1, [⟨.identifier, "q"⟩, ⟨.operator, "+"⟩, ⟨.number, "2"⟩,
      ⟨.identifier, "print"⟩, ⟨.number, "7"⟩, ⟨.identifier, "y"⟩, ⟨.operator, "="⟩,
      ⟨.number, "5"⟩], "q + 2 print 7 y = 5"⟩
    machine.evaluateLine line =
        { machine :=
            { stack := [⟨.number, "9"⟩]
              vars.entries := [("y", ⟨.number, "5"⟩)]
              printed := [⟨.number, "7"⟩] }
          error := some ⟨.unknownIdentifier "q", 1⟩ } ∧
      ∃ i token,
        let right := machine.evaluateLine (line.rightOf i)
        line.tokens[i]? = some token ∧ right.error = none ∧
          right.machine.printed = [⟨.number, "7"⟩] ∧
          right.machine.vars.entries = [("y", ⟨.number, "5"⟩)] ∧
          (right.machine.stack = [⟨.number, "9"⟩] ∨
            token.kind = .operator ∧ right.machine.stack.tail = [⟨.number, "9"⟩]) := by
  intro machine line
  have hline : machine.evaluateLine line =
      { machine :=
          { stack := [⟨.number, "9"⟩]
            vars.entries := [("y", ⟨.number, "5"⟩)]
            printed := [⟨.number, "7"⟩] }
        error := some ⟨.unknownIdentifier "q", 1⟩ } := by
    decide +kernel
  have hfault : (machine.evaluateLine line).error = some ⟨.unknownIdentifier "q", 1⟩ :=
    congrArg Ending.error hline
  obtain ⟨i, token, htoken, hnone, -, hprinted, hvars, hstack⟩ :=
    evaluateLine_right_of_fault machine line hfault
  rw [hline] at hprinted hvars hstack
  refine ⟨hline, i, token, htoken, hnone, hprinted.symm,
    (congrArg Variables.entries hvars).symm, ?_⟩
  rcases hstack with hsame | ⟨hkind, -, htail⟩
  · exact Or.inl hsame.symm
  · exact Or.inr ⟨hkind, htail.symm⟩

end Machine

end StackScript
