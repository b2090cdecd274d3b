import Mathlib.Logic.Relation
import StackScript.Machine.Run

/-!
# What a token does when its turn comes

The evaluation of a line gives each token its turn, from right to left, but for those that an
operator has used. `Turn` lists everything a turn can do, and `Fails` how one can fail; the points
that an evaluation comes to are linked by `Point.Step`. What holds at the start of a line and is
kept by every turn holds at every point, and with it at the end, whether or not an error cuts the
line short.
-/

namespace StackScript

theorem bind_eq_ok_iff {ε α β : Type} {x : Except ε α} {f : α → Except ε β} {b : β} :
    x >>= f = .ok b ↔ ∃ a, x = .ok a ∧ f a = .ok b := by
  cases x <;> simp [bind, Except.bind]

theorem OperandClass.check_eq_ok_iff (required : OperandClass) (operator : String)
    (operand : Token) :
    required.check operator operand = .ok () ↔ operand.kind ∈ required.kinds := by
  unfold check
  split <;> simp [*]

namespace Machine

/-- How an operator comes by its operands: the right one from the stack if the line has put the stack higher than `base`, and else both from the tokens to its left. -/
inductive Operands (base : Nat) (machine : Machine) (operator : Operator) (before : List Token) :
    Nat → Machine → Token → Token → Prop
  | stacked {rest : List Token} {left right : Token} :
      machine.stack = right :: rest → base < machine.stack.length →
      { machine with stack := rest }.operand before[0]? operator.symbol "left"
        (decide (operator = Operator.assign)) = .ok left →
      Operands base machine operator before 1 { machine with stack := rest } left right
  | trailing {left right : Token} :
      machine.stack.length ≤ base →
      machine.operand before[0]? operator.symbol "right"
        (decide (operator = Operator.assign)) = .ok right →
      machine.operand before[1]? operator.symbol "left"
        (decide (operator = Operator.assign)) = .ok left →
      Operands base machine operator before 2 machine left right

/-- `Turn base machine token before used next`: in its turn the token, with the tokens `before` to its left, makes `next` of the machine and uses `used` of these tokens. -/
inductive Turn (base : Nat) (machine : Machine) (token : Token) (before : List Token) :
    Nat → Machine → Prop
  | literal : token.kind ∈ TokenKind.literals →
      Turn base machine token before 0 (machine.push token)
  | fetch {value : Token} : token.kind = .identifier → token.text ≠ printName →
      machine.vars.find? token.text = some value →
      Turn base machine token before 0 (machine.push value)
  | print : token.kind = .identifier → token.text = printName →
      Turn base machine token before 0 machine.print
  | operator {operator : Operator} {used : Nat} {popped next : Machine} {left right : Token} :
      token.kind = .operator → Operator.ofSymbol? token.text = some operator →
      machine.Operands base operator before used popped left right →
      popped.apply operator left right = .ok next →
      Turn base machine token before used next
  | symbol : token.kind = .symbol → Turn base machine token before 0 machine

/-- A turn that fails changes nothing, but an operator may have taken a value off the stack by then. -/
inductive Fails (base : Nat) (machine : Machine) (token : Token) : Machine → Prop
  | unchanged : Fails base machine token machine
  | popped {right : Token} {rest : List Token} : token.kind = .operator →
      machine.stack = right :: rest → base < machine.stack.length →
      Fails base machine token { machine with stack := rest }

variable {base : Nat} {machine next : Machine} {token : Token} {before : List Token}

theorem exists_top (hlt : base < machine.stack.length) :
    ∃ right rest, machine.stack = right :: rest :=
  List.exists_cons_of_length_pos (Nat.zero_lt_of_lt hlt)

theorem popAbove_of_lt {right : Token} {rest : List Token} (hstack : machine.stack = right :: rest)
    (hlt : base < machine.stack.length) :
    machine.popAbove base = (some right, { machine with stack := rest }) := by
  unfold popAbove
  rw [hstack]
  simp only
  rw [hstack] at hlt
  rw [if_pos hlt]

theorem popAbove_of_le (hle : machine.stack.length ≤ base) :
    machine.popAbove base = (none, machine) := by
  unfold popAbove
  split
  · rfl
  · rw [if_neg (Nat.not_lt.mpr hle)]

theorem popAbove_isSome_iff : (machine.popAbove base).1.isSome ↔ base < machine.stack.length := by
  by_cases hlt : base < machine.stack.length
  · obtain ⟨right, rest, hstack⟩ := exists_top hlt
    simp [popAbove_of_lt hstack hlt, hlt]
  · simp [popAbove_of_le (Nat.not_lt.mp hlt), hlt]

theorem print_eq (machine : Machine) :
    machine.print =
      { machine with
        stack := machine.stack.tail
        printed := machine.stack.head?.getD ⟨.string, ""⟩ :: machine.printed } := by
  unfold print popAbove
  cases hstack : machine.stack with
  | nil => simp [hstack]
  | cons value rest => simp

theorem apply_assign_eq_ok_iff {left right : Token} :
    machine.apply .assign left right = .ok next ↔
      left.kind = .identifier ∧ right.kind ∈ TokenKind.literals ∧
        next = { machine with vars := machine.vars.assign left.text right } := by
  simp only [apply, store]
  by_cases hkind : left.kind = .identifier
  · rw [if_pos hkind, bind_eq_ok_iff]
    constructor
    · rintro ⟨⟨⟩, hcheck, hnext⟩
      cases hnext
      exact ⟨hkind, (OperandClass.check_eq_ok_iff _ _ _).mp hcheck, rfl⟩
    · rintro ⟨-, hliteral, rfl⟩
      exact ⟨(), (OperandClass.check_eq_ok_iff .literal _ right).mpr hliteral, rfl⟩
  · simp [hkind]

theorem apply_binary_eq_ok_iff {operator : BinaryOperator} {left right : Token} :
    machine.apply (.binary operator) left right = .ok next ↔
      ∃ value, operator.apply left right = .ok value ∧ next = machine.push value := by
  rw [apply, bind_eq_ok_iff]
  refine exists_congr fun value => and_congr_right fun _ => ?_
  exact ⟨fun h => (Except.ok.inj h).symm, fun h => congrArg Except.ok h.symm⟩

/-- What an operator changes are the stack and the variables. -/
theorem Operands.kept {operator : Operator} {used : Nat} {popped : Machine} {left right : Token}
    (h : machine.Operands base operator before used popped left right)
    (happly : popped.apply operator left right = .ok next) :
    next.printed = machine.printed ∧ next.aborted = machine.aborted := by
  have hpopped : popped.printed = machine.printed ∧ popped.aborted = machine.aborted := by
    cases h <;> exact ⟨rfl, rfl⟩
  rw [← hpopped.1, ← hpopped.2]
  cases operator with
  | assign =>
      obtain ⟨-, -, rfl⟩ := apply_assign_eq_ok_iff.mp happly
      exact ⟨rfl, rfl⟩
  | binary operator =>
      obtain ⟨value, -, rfl⟩ := apply_binary_eq_ok_iff.mp happly
      exact ⟨rfl, rfl⟩

/-- What a token does in its turn: the machine after it, and the number of tokens to its left that it has used, or the error. -/
def takeTurn (base : Nat) (machine : Machine) (token : Token) (before : List Token) :
    Except ScriptError Nat × Machine :=
  match token.kind with
  | .number | .string | .boolean => (.ok 0, machine.push token)
  | .identifier =>
    match machine.visit token with
    | .ok next => (.ok 0, next)
    | .error error => (.error error, machine)
  | .operator => machine.operate token.text before base
  | .symbol => (.ok 0, machine)

theorem evaluate_cons :
    evaluate base 0 (token :: before) machine =
      match takeTurn base machine token before with
      | (.ok used, next) => evaluate base used before next
      | (.error error, next) => { machine := next, error := some error } := by
  rw [evaluate, takeTurn]
  cases token.kind with
  | number | string | boolean | symbol => rfl
  | identifier =>
      simp only
      cases machine.visit token <;> rfl
  | operator => rfl

/-- What an operator does with the right operand it has from the stack, if it has one. An error leaves the machine as it is. -/
def attempt (machine : Machine) (operator : Operator) (right? : Option Token)
    (before : List Token) : Except ScriptError Nat × Machine :=
  match machine.perform operator right? before with
  | .error error => (.error error, machine)
  | .ok (used, next) => (.ok used, next)

theorem attempt_eq_ok_iff {operator : Operator} {right? : Option Token} {used : Nat} :
    machine.attempt operator right? before = (.ok used, next) ↔
      machine.perform operator right? before = .ok (used, next) := by
  unfold attempt
  cases machine.perform operator right? before <;> simp [Prod.ext_iff]

theorem attempt_eq_error {operator : Operator} {right? : Option Token} {error : ScriptError}
    (h : machine.attempt operator right? before = (.error error, next)) : next = machine := by
  unfold attempt at h
  split at h
  · exact (Prod.mk.inj h).2.symm
  · cases h

theorem operate_of_lt {symbol : String} {operator : Operator} {right : Token} {rest : List Token}
    (hsymbol : Operator.ofSymbol? symbol = some operator) (hstack : machine.stack = right :: rest)
    (hlt : base < machine.stack.length) :
    machine.operate symbol before base =
      { machine with stack := rest }.attempt operator (some right) before := by
  rcases hperform : { machine with stack := rest }.perform operator (some right) before with
    error | ⟨used, next⟩ <;>
    simp only [operate, attempt, hsymbol, popAbove_of_lt hstack hlt, hperform]

theorem operate_of_le {symbol : String} {operator : Operator}
    (hsymbol : Operator.ofSymbol? symbol = some operator) (hle : machine.stack.length ≤ base) :
    machine.operate symbol before base = machine.attempt operator none before := by
  rcases hperform : machine.perform operator none before with error | ⟨used, next⟩ <;>
    simp only [operate, attempt, hsymbol, popAbove_of_le hle, hperform]

theorem perform_some_eq_ok_iff {operator : Operator} {right : Token} {used : Nat} :
    machine.perform operator (some right) before = .ok (used, next) ↔
      used = 1 ∧ ∃ left, machine.operand before[0]? operator.symbol "left"
          (decide (operator = .assign)) = .ok left ∧
        machine.apply operator left right = .ok next := by
  unfold perform
  simp only [bind_eq_ok_iff, pure, Except.pure, Except.ok.injEq, Prod.mk.injEq]
  constructor
  · rintro ⟨left, hleft, result, happly, rfl, rfl⟩
    exact ⟨rfl, left, hleft, happly⟩
  · rintro ⟨rfl, left, hleft, happly⟩
    exact ⟨left, hleft, next, happly, rfl, rfl⟩

theorem perform_none_eq_ok_iff {operator : Operator} {used : Nat} :
    machine.perform operator none before = .ok (used, next) ↔
      used = 2 ∧ ∃ left right, machine.operand before[0]? operator.symbol "right"
          (decide (operator = .assign)) = .ok right ∧
        machine.operand before[1]? operator.symbol "left"
          (decide (operator = .assign)) = .ok left ∧
        machine.apply operator left right = .ok next := by
  unfold perform
  simp only [bind_eq_ok_iff, pure, Except.pure, Except.ok.injEq, Prod.mk.injEq]
  constructor
  · rintro ⟨right, hright, left, hleft, result, happly, rfl, rfl⟩
    exact ⟨rfl, left, right, hright, hleft, happly⟩
  · rintro ⟨rfl, left, right, hright, hleft, happly⟩
    exact ⟨right, hright, left, hleft, next, happly, rfl, rfl⟩

theorem operate_eq_ok_iff {symbol : String} {used : Nat} :
    machine.operate symbol before base = (.ok used, next) ↔
      ∃ operator popped left right, Operator.ofSymbol? symbol = some operator ∧
        machine.Operands base operator before used popped left right ∧
        popped.apply operator left right = .ok next := by
  cases hsymbol : Operator.ofSymbol? symbol with
  | none => simp [operate, hsymbol]
  | some operator =>
      by_cases hlt : base < machine.stack.length
      · obtain ⟨right, rest, hstack⟩ := exists_top hlt
        rw [operate_of_lt hsymbol hstack hlt, attempt_eq_ok_iff, perform_some_eq_ok_iff]
        constructor
        · rintro ⟨rfl, left, hleft, happly⟩
          exact ⟨operator, _, left, right, rfl, .stacked hstack hlt hleft, happly⟩
        · rintro ⟨_, popped, left, right', hoperator, hoperands, happly⟩
          cases Option.some.inj hoperator
          cases hoperands with
          | stacked hstack' _ hleft =>
              cases hstack.symm.trans hstack'
              exact ⟨rfl, left, hleft, happly⟩
          | trailing hle => omega
      · have hle : machine.stack.length ≤ base := Nat.not_lt.mp hlt
        rw [operate_of_le hsymbol hle, attempt_eq_ok_iff, perform_none_eq_ok_iff]
        constructor
        · rintro ⟨rfl, left, right, hright, hleft, happly⟩
          exact ⟨operator, _, left, right, rfl, .trailing hle hright hleft, happly⟩
        · rintro ⟨_, popped, left, right, hoperator, hoperands, happly⟩
          cases Option.some.inj hoperator
          cases hoperands with
          | stacked _ hlt' => omega
          | trailing _ hright hleft => exact ⟨rfl, left, right, hright, hleft, happly⟩

theorem fails_of_operate {symbol : String} {error : ScriptError} (hkind : token.kind = .operator)
    (h : machine.operate symbol before base = (.error error, next)) :
    machine.Fails base token next := by
  cases hsymbol : Operator.ofSymbol? symbol with
  | none =>
      simp only [operate, hsymbol, Prod.mk.injEq] at h
      exact h.2 ▸ .unchanged
  | some operator =>
      by_cases hlt : base < machine.stack.length
      · obtain ⟨right, rest, hstack⟩ := exists_top hlt
        rw [operate_of_lt hsymbol hstack hlt] at h
        rw [attempt_eq_error h]
        exact .popped hkind hstack hlt
      · rw [operate_of_le hsymbol (Nat.not_lt.mp hlt)] at h
        rw [attempt_eq_error h]
        exact .unchanged

theorem valueOf_identifier (hkind : token.kind = .identifier) {value : Token} :
    machine.valueOf token = .ok value ↔ machine.vars.find? token.text = some value := by
  rw [valueOf, if_pos hkind]
  cases machine.vars.find? token.text <;> simp

theorem valueOf_literal (hkind : token.kind ∈ TokenKind.literals) :
    machine.valueOf token = .ok token := by
  have hidentifier : token.kind ≠ .identifier := by
    intro heq
    rw [heq] at hkind
    exact absurd hkind (by decide)
  rw [valueOf, if_neg hidentifier]

theorem turn_of_visit (hkind : token.kind = .identifier) (h : machine.visit token = .ok next) :
    machine.Turn base token before 0 next := by
  unfold visit at h
  by_cases hname : token.text = printName
  · rw [if_pos hname] at h
    cases h
    exact .print hkind hname
  · rw [if_neg hname] at h
    obtain ⟨value, hvalue, hpush⟩ := bind_eq_ok_iff.mp h
    cases hpush
    exact .fetch hkind hname ((valueOf_identifier hkind).mp hvalue)

theorem takeTurn_eq_ok_iff {used : Nat} :
    takeTurn base machine token before = (.ok used, next) ↔
      machine.Turn base token before used next := by
  constructor
  · intro h
    cases hkind : token.kind with
    | number | string | boolean =>
        simp only [takeTurn, hkind, Prod.mk.injEq, Except.ok.injEq] at h
        obtain ⟨rfl, rfl⟩ := h
        exact .literal (by simp [hkind, TokenKind.literals])
    | identifier =>
        simp only [takeTurn, hkind] at h
        split at h
        · rename_i result hvisit
          cases h
          exact turn_of_visit hkind hvisit
        · cases h
    | operator =>
        simp only [takeTurn, hkind] at h
        obtain ⟨operator, popped, left, right, hsymbol, hoperands, happly⟩ :=
          operate_eq_ok_iff.mp h
        exact .operator hkind hsymbol hoperands happly
    | symbol =>
        simp only [takeTurn, hkind, Prod.mk.injEq, Except.ok.injEq] at h
        obtain ⟨rfl, rfl⟩ := h
        exact .symbol hkind
  · intro h
    cases h with
    | literal hkind =>
        obtain ⟨kind, text⟩ := token
        cases kind <;> simp [TokenKind.literals] at hkind <;> rfl
    | fetch hkind hname hvalue =>
        simp [takeTurn, hkind, visit, hname, valueOf, hvalue, bind, Except.bind, pure, Except.pure]
    | print hkind hname => simp [takeTurn, hkind, visit, hname]
    | operator hkind hsymbol hoperands happly =>
        simp only [takeTurn, hkind]
        exact operate_eq_ok_iff.mpr ⟨_, _, _, _, hsymbol, hoperands, happly⟩
    | symbol hkind => simp [takeTurn, hkind]

theorem fails_of_takeTurn {error : ScriptError}
    (h : takeTurn base machine token before = (.error error, next)) :
    machine.Fails base token next := by
  cases hkind : token.kind with
  | number | string | boolean | symbol => simp [takeTurn, hkind] at h
  | identifier =>
      simp only [takeTurn, hkind] at h
      split at h
      · cases h
      · cases h
        exact .unchanged
  | operator =>
      simp only [takeTurn, hkind] at h
      exact fails_of_operate hkind h

theorem evaluate_of_turn {used : Nat} (h : machine.Turn base token before used next) :
    evaluate base 0 (token :: before) machine = evaluate base used before next := by
  rw [evaluate_cons, takeTurn_eq_ok_iff.mpr h]

end Machine

/-! ### The points of an evaluation -/

/-- A point of the evaluation of a line: the machine, how many of the next tokens are used up, and the tokens still to come, nearest first. -/
structure Point where
  machine : Machine
  skip : Nat
  before : List Token

namespace Point

def start (machine : Machine) (line : Line) : Point :=
  ⟨machine, 0, line.tokens.reverse⟩

def ending (base : Nat) (point : Point) : Ending ScriptError :=
  Machine.evaluate base point.skip point.before point.machine

inductive Step (base : Nat) : Point → Point → Prop
  | skip {machine : Machine} {skip : Nat} {token : Token} {before : List Token} :
      Step base ⟨machine, skip + 1, token :: before⟩ ⟨machine, skip, before⟩
  | turn {machine next : Machine} {token : Token} {before : List Token} {used : Nat} :
      machine.Turn base token before used next →
      Step base ⟨machine, 0, token :: before⟩ ⟨next, used, before⟩

def Reaches (base : Nat) : Point → Point → Prop :=
  Relation.ReflTransGen (Step base)

/-- How an evaluation can end at a point: no token is left, or the turn of the next one fails. -/
inductive Ends (base : Nat) : Point → Ending ScriptError → Prop
  | done {machine : Machine} {skip : Nat} : Ends base ⟨machine, skip, []⟩ { machine }
  | failed {machine next : Machine} {token : Token} {before : List Token} {error : ScriptError} :
      machine.Fails base token next →
      Ends base ⟨machine, 0, token :: before⟩ { machine := next, error := some error }

variable {base : Nat} {p q : Point}

theorem Step.ending_eq (h : Step base p q) : p.ending base = q.ending base := by
  cases h with
  | skip => rfl
  | turn hturn => exact Machine.evaluate_of_turn hturn

theorem Reaches.ending_eq (h : Reaches base p q) : p.ending base = q.ending base := by
  induction h with
  | refl => rfl
  | tail _ hstep ih => rw [ih, hstep.ending_eq]

theorem exists_reaches_ends (base : Nat) (p : Point) :
    ∃ q, Reaches base p q ∧ Ends base q (p.ending base) := by
  obtain ⟨machine, skip, before⟩ := p
  induction before generalizing machine skip with
  | nil =>
      refine ⟨_, .refl, ?_⟩
      cases skip <;> exact .done
  | cons token before ih =>
      cases skip with
      | succ skip =>
          obtain ⟨q, hreaches, hends⟩ := ih machine skip
          exact ⟨q, .head .skip hreaches, hends⟩
      | zero =>
          match hturn : Machine.takeTurn base machine token before with
          | (.ok used, next) =>
              have hstep := Machine.takeTurn_eq_ok_iff.mp hturn
              obtain ⟨q, hreaches, hends⟩ := ih next used
              refine ⟨q, .head (.turn hstep) hreaches, ?_⟩
              rwa [Step.ending_eq (.turn hstep)]
          | (.error error, next) =>
              refine ⟨_, .refl, ?_⟩
              rw [ending, Machine.evaluate_cons, hturn]
              exact .failed (Machine.fails_of_takeTurn hturn)

/-- What every step keeps holds at every point that an evaluation comes to. -/
theorem Reaches.preserves {motive : Point → Prop} (hreaches : Reaches base p q)
    (hstep : ∀ {p q}, Step base p q → motive p → motive q) (hstart : motive p) : motive q := by
  induction hreaches with
  | refl => exact hstart
  | tail _ h ih => exact hstep h ih

theorem Step.before_eq (h : Step base p q) : ∃ token, p.before = token :: q.before := by
  cases h with
  | skip => exact ⟨_, rfl⟩
  | turn => exact ⟨_, rfl⟩

theorem Reaches.before_suffix (h : Reaches base p q) : q.before <:+ p.before := by
  refine h.preserves (motive := fun reached => reached.before <:+ p.before) ?_ List.suffix_rfl
  intro reached next hstep hsuffix
  obtain ⟨token, hbefore⟩ := hstep.before_eq
  have hnext : next.before <:+ reached.before := by
    rw [hbefore]
    exact List.suffix_cons token next.before
  exact hnext.trans hsuffix

end Point

theorem Machine.evaluateLine_eq (machine : Machine) (line : Line) :
    machine.evaluateLine line =
      { machine := ((Point.start machine line).ending machine.stack.length).machine
        error := ((Point.start machine line).ending machine.stack.length).error.map
          (⟨·, line.number⟩) } := rfl

/-- What holds at every point that the evaluation of a line comes to, and is kept when it fails there, holds at its end. -/
theorem Machine.evaluateLine_preserves {motive : Machine → Prop} {machine : Machine} {line : Line}
    (hreached : ∀ q, Point.Reaches machine.stack.length (Point.start machine line) q →
      motive q.machine)
    (hfails : ∀ {base machine token next}, Machine.Fails base machine token next →
      motive machine → motive next) :
    motive (machine.evaluateLine line).machine := by
  obtain ⟨q, hreaches, hends⟩ :=
    Point.exists_reaches_ends machine.stack.length (Point.start machine line)
  have hq := hreached q hreaches
  rw [evaluateLine_eq]
  generalize (Point.start machine line).ending machine.stack.length = ending at hends
  cases hends with
  | done => exact hq
  | failed hfailed => exact hfails hfailed hq

end StackScript
