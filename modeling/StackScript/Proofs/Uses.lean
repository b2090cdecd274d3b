import Mathlib.Data.List.Nodup
import StackScript.Proofs.OperandForm
import StackScript.Proofs.Turns

/-!
# Every token is used once

On its way from right to left an evaluation passes every position of the line. The tokens it leaves
out are those that operators have taken as operands, each by one operator and each still in the
line, and the stack rises and falls by what the other tokens do in their turns. An operator says
three times what it has taken: by the number of tokens to leave out, by the positions it looks at
and by the height of the stack. If no error ends the line, the three agree.
-/

namespace StackScript

theorem reverse_range_succ (n : Nat) :
    (List.range (n + 1)).reverse = n :: (List.range n).reverse := by
  rw [List.range_succ, List.reverse_append, List.reverse_singleton, List.singleton_append]

/-- What a token does in its turn, so far as the use of tokens and the height of the stack go. -/
inductive Role where
  | literal
  | fetch
  /-- `found` tells whether there is a value to print. -/
  | print (found : Bool)
  /-- `assigns` tells an assignment from the other operators, `stacked` an operator that takes its right operand from the stack from one that takes both from its left. -/
  | operator (assigns stacked : Bool)
  | symbol
deriving DecidableEq, Repr

namespace Role

/-- By how much the stack rises in a turn. -/
def gain : Role → Int
  | literal | fetch | operator false false => 1
  | print true | operator true true => -1
  | _ => 0

/-- By how much the stack rises in turns one after the other. -/
def rise : List Role → Int
  | [] => 0
  | role :: roles => role.gain + rise roles

theorem rise_eq (roles : List Role) :
    rise roles =
      roles.count .literal + roles.count .fetch + roles.count (.operator false false) -
        roles.count (.operator true true) - roles.count (.print true) := by
  induction roles with
  | nil => rfl
  | cons role roles ih =>
      rw [rise, ih]
      simp only [List.count_cons]
      cases role with
      | literal | fetch =>
          simp [gain]
          omega
      | print found =>
          cases found <;> simp [gain]
          omega
      | operator assigns stacked =>
          -- of the four kinds two leave the height as it is
          cases assigns <;> cases stacked <;> simp [gain] <;> omega
      | symbol => simp [gain]

end Role

namespace Machine

def role (base : Nat) (machine : Machine) (token : Token) : Role :=
  match token.kind with
  | .number | .string | .boolean => .literal
  | .identifier =>
    if token.text = printName then .print (decide (0 < machine.stack.length)) else .fetch
  | .operator =>
    .operator (decide (Operator.ofSymbol? token.text = some .assign))
      (decide (base < machine.stack.length))
  | .symbol => .symbol

/-- The points of an evaluation that have a token before them, in order. The token has its turn, or it is left out. -/
def points (base : Nat) : Nat → List Token → Machine → List Point
  | _, [], _ => []
  | skip + 1, token :: before, machine =>
    ⟨machine, skip + 1, token :: before⟩ :: points base skip before machine
  | 0, token :: before, machine =>
    ⟨machine, 0, token :: before⟩ ::
      match takeTurn base machine token before with
      | (.ok used, next) => points base used before next
      | (.error _, _) => []

variable {base used skip : Nat} {machine next popped : Machine} {token left right : Token}
  {before : List Token} {operator : Operator}

theorem turns_eq_filter (base skip : Nat) (before : List Token) (machine : Machine) :
    turns base skip before machine = (points base skip before machine).filter (·.skip = 0) := by
  induction before generalizing skip machine with
  | nil => cases skip <;> rfl
  | cons token before ih =>
      cases skip with
      | succ skip => exact ih skip machine
      | zero =>
          rw [turns, points, List.filter_cons_of_pos (by rfl)]
          rcases takeTurn base machine token before with ⟨error | used, next⟩
          · rfl
          · exact congrArg _ (ih used next)

/-! ### What a turn uses and what it gains -/

theorem lt_length_of_operand {k : Nat} {symbol side : String} {named : Bool} {value : Token}
    (h : machine.operand before[k]? symbol side named = .ok value) : k < before.length := by
  by_contra hge
  rw [List.getElem?_eq_none (Nat.not_lt.mp hge)] at h
  cases h

theorem Operands.used_le (h : machine.Operands base operator before used popped left right) :
    used ≤ before.length := by
  cases h with
  | stacked _ _ hleft => exact lt_length_of_operand hleft
  | trailing _ _ hleft => exact lt_length_of_operand hleft

theorem Turn.used_le (h : machine.Turn base token before used next) : used ≤ before.length := by
  cases h with
  | literal | fetch | print | symbol => exact Nat.zero_le _
  | operator _ _ hoperands => exact hoperands.used_le

theorem kind_of_role {assigns stacked : Bool}
    (h : machine.role base token = .operator assigns stacked) : token.kind = .operator := by
  unfold role at h
  cases hkind : token.kind with
  | operator => rfl
  | identifier =>
      rw [hkind] at h
      simp only at h
      split at h <;> cases h
  | number | string | boolean | symbol =>
      rw [hkind] at h
      cases h

/-- What a turn gains is what it puts on the stack less what it finds there to take. -/
theorem gain_role (base : Nat) (machine : Machine) (token : Token) :
    (machine.role base token).gain =
      token.pushed - (min (machine.taken base token) machine.stack.length : Nat) := by
  unfold role taken Token.pushed
  cases token.kind with
  | number | string | boolean | symbol => simp [Role.gain]
  | identifier =>
      by_cases hname : token.text = printName
      · -- a print takes the top, but there may be none
        by_cases hfound : 0 < machine.stack.length
        · simp [hname, hfound, Role.gain]
          omega
        · simp [hname, hfound, Role.gain]
          omega
      · simp [hname, Role.gain]
  | operator =>
      by_cases hassign : Operator.ofSymbol? token.text = some .assign <;>
        by_cases hlt : base < machine.stack.length <;>
        simp [hassign, hlt, Role.gain] <;> omega

theorem Turn.stack_length (h : machine.Turn base token before used next) :
    (next.stack.length : Int) = machine.stack.length + (machine.role base token).gain := by
  obtain ⟨values, hpushed, hstack⟩ := h.stack_eq
  rw [gain_role, hstack, List.length_append, List.length_drop, hpushed]
  omega

end Machine

namespace Point

/-- The position in the line of the token that is next. -/
def position (point : Point) : Nat :=
  point.before.length - 1

/-- The role of the token that is next, in a line that began with the stack at height `base`. -/
def role? (base : Nat) : Point → Option Role
  | ⟨_, _, []⟩ => none
  | ⟨machine, _, token :: _⟩ => some (machine.role base token)

/-- The positions that an operator takes operands from in its turn. -/
def uses (base : Nat) (point : Point) : List Nat :=
  match point.role? base with
  | some (.operator _ true) => [point.position - 1]
  | some (.operator _ false) => [point.position - 1, point.position - 2]
  | _ => []

def passed (base : Nat) (point : Point) : List Point :=
  Machine.points base point.skip point.before point.machine

/-- The positions to the left of the point, the nearest first. -/
def ahead (point : Point) : List Nat :=
  (List.range point.before.length).reverse

variable {base skip used : Nat} {machine next last : Machine} {token left right : Token}
  {before : List Token} {p q r : Point}

theorem uses_of_ne_operator (hkind : token.kind ≠ .operator) :
    uses base ⟨machine, skip, token :: before⟩ = [] := by
  unfold uses
  split
  · rename_i hrole
    exact absurd (Machine.kind_of_role (Option.some.inj hrole)) hkind
  · rename_i hrole
    exact absurd (Machine.kind_of_role (Option.some.inj hrole)) hkind
  · rfl

theorem uses_of_stacked (hkind : token.kind = .operator) (hlt : base < machine.stack.length) :
    uses base ⟨machine, 0, token :: left :: before⟩ = [before.length] := by
  simp [uses, role?, Machine.role, hkind, hlt, position]

theorem uses_of_trailing (hkind : token.kind = .operator) (hle : machine.stack.length ≤ base) :
    uses base ⟨machine, 0, token :: right :: left :: before⟩ =
      [before.length + 1, before.length] := by
  simp [uses, role?, Machine.role, hkind, Nat.not_lt.mpr hle, position]

/-- In a turn that succeeds the operands are the nearest tokens to the left, as many as are left out after it. -/
theorem uses_eq_take (h : machine.Turn base token before used next) :
    uses base ⟨machine, 0, token :: before⟩ = (ahead ⟨next, used, before⟩).take used := by
  have hliteral : .operator ∉ TokenKind.literals := by decide
  cases h with
  | literal hkind => exact uses_of_ne_operator fun hoperator => hliteral (hoperator ▸ hkind)
  | fetch hkind | print hkind | symbol hkind => exact uses_of_ne_operator (by simp [hkind])
  | operator hkind _ hoperands =>
      have hle := hoperands.used_le
      cases hoperands with
      | stacked _ hlt =>
          obtain ⟨left, before, rfl⟩ := List.exists_cons_of_length_pos hle
          rw [uses_of_stacked hkind hlt, ahead, List.length_cons, reverse_range_succ]
          rfl
      | trailing hlow =>
          match before, hle with
          | right :: left :: before, _ =>
              rw [uses_of_trailing hkind hlow, ahead, List.length_cons, List.length_cons,
                reverse_range_succ, reverse_range_succ]
              rfl

/-! ### Steps -/

theorem Step.unique (hq : Step base p q) (hr : Step base p r) : q = r := by
  cases hq with
  | skip =>
      cases hr
      rfl
  | turn hturn =>
      cases hr with
      | turn hother =>
          have hsame := (Machine.takeTurn_eq_ok_iff.mpr hturn).symm.trans
            (Machine.takeTurn_eq_ok_iff.mpr hother)
          cases hsame
          rfl

theorem Step.passed_eq (h : Step base p q) : passed base p = p :: passed base q := by
  cases h with
  | skip => rfl
  | turn hturn =>
      unfold passed
      rw [Machine.points, Machine.takeTurn_eq_ok_iff.mpr hturn]

theorem Step.ahead_eq (h : Step base p q) : ahead p = p.position :: ahead q := by
  obtain ⟨token, hbefore⟩ := h.before_eq
  rw [ahead, position, hbefore, List.length_cons, reverse_range_succ]
  rfl

theorem Step.skip_le_length (h : Step base p q) (hle : p.skip ≤ p.before.length) :
    q.skip ≤ q.before.length := by
  cases h with
  | skip => exact Nat.le_of_succ_le_succ hle
  | turn hturn => exact hturn.used_le

/-! ### Evaluations that end without an error -/

theorem Reaches.passes_iff (h : Reaches base p ⟨last, 0, []⟩) :
    Reaches base p q ↔ q ∈ passed base p ∨ q = ⟨last, 0, []⟩ := by
  induction h using Relation.ReflTransGen.head_induction_on with
  | refl =>
      refine ⟨fun hreaches => Or.inr ?_, ?_⟩
      · obtain rfl | ⟨r, hstep, -⟩ := Relation.ReflTransGen.cases_head hreaches
        · rfl
        · cases hstep
      · rintro (hmem | rfl)
        · cases hmem
        · exact .refl
  | @head p r hstep _ ih =>
      have hhead : Reaches base p q ↔ q = p ∨ Reaches base r q := by
        constructor
        · intro hreaches
          obtain rfl | ⟨r', hstep', hrest⟩ := Relation.ReflTransGen.cases_head hreaches
          · exact Or.inl rfl
          · exact Or.inr (hstep'.unique hstep ▸ hrest)
        · rintro (rfl | hrest)
          · exact .refl
          · exact .head hstep hrest
      rw [hhead, ih, hstep.passed_eq, List.mem_cons, or_assoc]

theorem Reaches.exists_step (h : Reaches base p ⟨last, 0, []⟩) (hmem : q ∈ passed base p) :
    ∃ r, Step base q r := by
  induction h using Relation.ReflTransGen.head_induction_on with
  | refl => cases hmem
  | head hstep _ ih =>
      rw [hstep.passed_eq] at hmem
      obtain rfl | hrest := List.mem_cons.mp hmem
      · exact ⟨_, hstep⟩
      · exact ih hrest

/-- The position of a point that is passed is that of the token it has before it. -/
theorem Reaches.getElem?_position {line : Line} (h : Reaches base (start machine line) q)
    (hstep : Step base q r) : line.tokens[q.position]? = q.before.head? := by
  obtain ⟨token, hbefore⟩ := hstep.before_eq
  obtain ⟨later, hlater⟩ := h.before_suffix
  have htokens : line.tokens = r.before.reverse ++ token :: later.reverse :=
    calc line.tokens
        = (later ++ token :: r.before).reverse := by
          rw [← hbefore, hlater, start, List.reverse_reverse]
      _ = r.before.reverse ++ token :: later.reverse := by simp
  have hposition : q.position = r.before.reverse.length := by
    rw [position, hbefore, List.length_reverse, List.length_cons, Nat.add_sub_cancel]
  rw [hposition, hbefore, htokens, List.getElem?_append_right (Nat.le_refl _), Nat.sub_self]
  rfl

theorem Reaches.map_position (h : Reaches base p ⟨last, 0, []⟩) :
    (passed base p).map position = ahead p := by
  induction h using Relation.ReflTransGen.head_induction_on with
  | refl => rfl
  | head hstep _ ih => rw [hstep.passed_eq, hstep.ahead_eq, List.map_cons, ih]

/-- The positions left out are those that are to be left out at the start, and then those that the turns use. -/
theorem Reaches.map_position_skipped (h : Reaches base p ⟨last, 0, []⟩) :
    ((passed base p).filter (0 < ·.skip)).map position =
      (ahead p).take p.skip ++ ((passed base p).filter (·.skip = 0)).flatMap (uses base) := by
  induction h using Relation.ReflTransGen.head_induction_on with
  | refl => rfl
  | head hstep _ ih =>
      rw [hstep.passed_eq, hstep.ahead_eq]
      cases hstep with
      | skip =>
          rw [List.filter_cons_of_pos (by simp), List.filter_cons_of_neg (by simp), List.map_cons,
            ih, List.take_succ_cons, List.cons_append]
      | turn hturn =>
          rw [List.filter_cons_of_neg (by simp), List.filter_cons_of_pos (by simp), ih,
            List.flatMap_cons, uses_eq_take hturn, List.take_zero, List.nil_append]

theorem Reaches.length_uses_le (h : Reaches base p ⟨last, 0, []⟩)
    (hmem : q ∈ (passed base p).filter (·.skip = 0)) : (uses base q).length ≤ q.position := by
  obtain ⟨hpassed, hskip⟩ := List.mem_filter.mp hmem
  obtain ⟨r, hstep⟩ := h.exists_step hpassed
  cases hstep with
  | skip => simp at hskip
  | @turn machine next token before used hturn =>
      rw [uses_eq_take hturn, List.length_take, ahead, List.length_reverse, List.length_range]
      exact Nat.min_le_right _ _

theorem Reaches.stack_length (h : Reaches base p ⟨last, 0, []⟩) :
    (last.stack.length : Int) =
      p.machine.stack.length +
        Role.rise (((passed base p).filter (·.skip = 0)).filterMap (role? base)) := by
  induction h using Relation.ReflTransGen.head_induction_on with
  | refl => exact (Int.add_zero _).symm
  | head hstep _ ih =>
      rw [hstep.passed_eq, ih]
      cases hstep with
      | skip => rw [List.filter_cons_of_neg (by simp)]
      | @turn machine next token before used hturn =>
          have hrole : role? base ⟨machine, 0, token :: before⟩ = some (machine.role base token) :=
            rfl
          rw [List.filter_cons_of_pos (by simp), List.filterMap_cons_some hrole, Role.rise,
            hturn.stack_length, Int.add_assoc]

theorem Reaches.skip_le_length (h : Reaches base p q) (hle : p.skip ≤ p.before.length) :
    q.skip ≤ q.before.length :=
  h.preserves (motive := fun reached => reached.skip ≤ reached.before.length)
    (fun hstep => hstep.skip_le_length) hle

end Point

namespace Machine

variable {machine : Machine} {line : Line}

/-- Without an error the evaluation of a line comes to its end with no token left to leave out. -/
theorem reaches_end (h : (machine.evaluateLine line).error = none) :
    Point.Reaches machine.stack.length (Point.start machine line)
      ⟨(machine.evaluateLine line).machine, 0, []⟩ := by
  rw [evaluateLine_eq, Option.map_eq_none_iff] at h
  obtain ⟨q, hreaches, hends⟩ :=
    Point.exists_reaches_ends machine.stack.length (Point.start machine line)
  have hskip := hreaches.skip_le_length (Nat.zero_le _)
  rw [evaluateLine_eq]
  generalize (Point.start machine line).ending machine.stack.length = ending at h hends
  cases hends with
  | @done last skip =>
      obtain rfl : skip = 0 := Nat.le_zero.mp hskip
      exact hreaches
  | failed => cases h

/-- **Every token is used once.** Where a line ends without an error, the evaluation passes every position, and at its end no token is left to leave out. The positions it leaves out are those the operators use in their turns, each of them used by one operator and none beyond the start of the line. The stack is higher than before by the literals, the names whose values were fetched and the operators with both operands from the left that are no assignments, less the assignments of values from the stack and the prints that found a value there. -/
theorem evaluateLine_uses (h : (machine.evaluateLine line).error = none) :
    let base := machine.stack.length
    let last := (machine.evaluateLine line).machine
    let points := points base 0 line.tokens.reverse machine
    let turns := turns base 0 line.tokens.reverse machine
    let roles := turns.filterMap (Point.role? base)
    (∀ q, Point.Reaches base (Point.start machine line) q ↔ q ∈ points ∨ q = ⟨last, 0, []⟩) ∧
      points.map Point.position = (List.range line.tokens.length).reverse ∧
      (∀ point ∈ points, line.tokens[point.position]? = point.before.head?) ∧
      turns = points.filter (·.skip = 0) ∧
      (points.filter (0 < ·.skip)).map Point.position = turns.flatMap (Point.uses base) ∧
      turns.Pairwise (fun turn other => (turn.uses base).Disjoint (other.uses base)) ∧
      (∀ turn ∈ turns, (turn.uses base).length ≤ turn.position) ∧
      (last.stack.length : Int) =
        base + roles.count .literal + roles.count .fetch + roles.count (.operator false false) -
          roles.count (.operator true true) - roles.count (.print true) := by
  intro base last points turns roles
  have hend : Point.Reaches base (Point.start machine line) ⟨last, 0, []⟩ := reaches_end h
  have hturns : turns = points.filter (·.skip = 0) := turns_eq_filter _ _ _ _
  have hpositions : points.map Point.position = (List.range line.tokens.length).reverse := by
    rw [← List.length_reverse]
    exact hend.map_position
  have hskipped : (points.filter (0 < ·.skip)).map Point.position =
      turns.flatMap (Point.uses base) := by
    rw [hturns]
    exact hend.map_position_skipped
  have hnodup : (turns.flatMap (Point.uses base)).Nodup := by
    rw [← hskipped]
    refine List.Nodup.sublist (List.filter_sublist.map _) ?_
    rw [hpositions, List.nodup_reverse]
    exact List.nodup_range
  refine ⟨fun q => hend.passes_iff, hpositions, fun point hmem => ?_, hturns, hskipped,
    (List.nodup_flatMap.mp hnodup).2, fun turn hmem => ?_, ?_⟩
  · obtain ⟨next, hstep⟩ := hend.exists_step hmem
    exact Point.Reaches.getElem?_position (hend.passes_iff.mpr (Or.inl hmem)) hstep
  · rw [hturns] at hmem
    exact hend.length_uses_le hmem
  · have hroles : roles = (points.filter (·.skip = 0)).filterMap (Point.role? base) := by
      rw [← hturns]
    calc (last.stack.length : Int)
        = base + Role.rise roles := by
          rw [hroles]
          exact hend.stack_length
      _ = base + roles.count .literal + roles.count .fetch + roles.count (.operator false false) -
            roles.count (.operator true true) - roles.count (.print true) := by
          rw [Role.rise_eq]
          omega

/-- The sum on the right has both operands from its left, the other one and the assignment one each. The print takes what was on the stack before the line, and `2` and the value of `y` are left. -/
theorem evaluateLine_uses_mixed :
    let machine : Machine :=
      { stack := [⟨.number, "9"⟩], vars := ({} : Variables).assign "y" ⟨.number, "1"⟩ }
    let line : Line := { number := 1, tokens := tokenize "y 2 print x = 5 + 3 4 +" }
    let turns := turns 1 0 line.tokens.reverse machine
    let roles := turns.filterMap (Point.role? 1)
    (machine.evaluateLine line).error = none ∧
      turns.map Point.position = [9, 6, 4, 2, 1, 0] ∧
      turns.flatMap (Point.uses 1) = [8, 7, 5, 3] ∧
      roles = [.operator false false, .operator false true, .operator true true, .print true,
        .literal, .fetch] ∧
      (machine.evaluateLine line).machine.stack.length = 2 := by
  intro machine line turns roles
  have hnone : (machine.evaluateLine line).error = none := by decide +kernel
  have hroles : roles = [.operator false false, .operator false true, .operator true true,
      .print true, .literal, .fetch] := by
    decide +kernel
  obtain ⟨-, -, -, -, hskipped, -, -, hheight⟩ := evaluateLine_uses hnone
  have hlength : ((machine.evaluateLine line).machine.stack.length : Int) = 2 :=
    calc ((machine.evaluateLine line).machine.stack.length : Int)
        = 1 + roles.count .literal + roles.count .fetch + roles.count (.operator false false) -
            roles.count (.operator true true) - roles.count (.print true) := hheight
      _ = 2 := by
        rw [hroles]
        decide
  exact ⟨hnone, by decide +kernel, hskipped.symm.trans (by decide +kernel), hroles,
    Int.ofNat.inj hlength⟩

end Machine

end StackScript
