import Mathlib.Data.List.Induction
import StackScript.Proofs.Values

/-!
# Operators between their operands

An operator that is written between its operands finds the right one on the stack, as the tokens to
its right have had their turns by then. Written after both it finds the stack as the line found it,
and takes the right operand from where it is written. Either way it takes the value of the same two
tokens, the right one first, so the two forms differ in nothing. A chain of operators between their
operands is therefore a fold from the right, and the first fault from the right is the one reported.
-/

namespace StackScript

/-- A token that stands for a value: a literal, or a name other than that of the print. -/
def Token.IsOperand (token : Token) : Prop :=
  token.kind ∈ TokenKind.literals ∨ token.kind = .identifier ∧ token.text ≠ Machine.printName

instance (token : Token) : Decidable token.IsOperand :=
  inferInstanceAs (Decidable (_ ∨ _))

def Operator.token (operator : Operator) : Token :=
  ⟨.operator, operator.symbol⟩

/-- A link of a chain: an operand and the operator written after it. -/
structure Link where
  operand : Token
  operator : BinaryOperator
deriving DecidableEq, Repr

namespace Link

def tokens (link : Link) : List Token :=
  [link.operand, (Operator.binary link.operator).token]

/-- The chain as it is written, with its last operand. -/
def written (chain : List Link) (last : Token) : List Token :=
  chain.flatMap tokens ++ [last]

end Link

namespace Machine

/-- What a link makes of the value to its right. -/
def applyLink (machine : Machine) (link : Link) (right : Token) : Except ScriptError Token := do
  link.operator.apply (← machine.valueOf link.operand) right

/-- The value of a chain. Operands are looked up and operators applied from right to left. -/
def chainValue (machine : Machine) (chain : List Link) (last : Token) : Except ScriptError Token := do
  chain.foldrM machine.applyLink (← machine.valueOf last)

@[simp]
theorem chainValue_nil (machine : Machine) (last : Token) :
    machine.chainValue [] last = machine.valueOf last := by
  simp [chainValue]

@[simp]
theorem chainValue_cons (machine : Machine) (link : Link) (chain : List Link) (last : Token) :
    machine.chainValue (link :: chain) last =
      machine.chainValue chain last >>= machine.applyLink link := by
  simp [chainValue]

/-- Goes on to the left with a value on the stack, or ends with the error that came in its place. -/
def proceed (base : Nat) (before : List Token) (machine : Machine) :
    Except ScriptError Token → Ending ScriptError
  | .ok value => evaluate base 0 before (machine.push value)
  | .error error => { machine, error := some error }

/-- Ends a line on the machine that a value leads to, or on this one with the error that came in its place. -/
def conclude (machine : Machine) (number : Int) (next : Token → Machine) :
    Except ScriptError Token → Ending Fault
  | .ok value => { machine := next value }
  | .error error => { machine, error := some ⟨error, number⟩ }

variable {base : Nat} {machine : Machine} {before : List Token}

/-! ### The turn of an operand and of an operator -/

theorem evaluate_operand {token : Token} (h : token.IsOperand) :
    evaluate base 0 (token :: before) machine =
      proceed base before machine (machine.valueOf token) := by
  obtain ⟨kind, text⟩ := token
  rw [evaluate_cons, takeTurn]
  rcases h with hliteral | ⟨hidentifier, hname⟩
  · cases kind <;> simp [TokenKind.literals] at hliteral <;> rfl
  · obtain rfl : kind = .identifier := hidentifier
    simp only [visit, if_neg hname]
    cases machine.valueOf ⟨.identifier, text⟩ <;> rfl

theorem perform_binary_some (operator : BinaryOperator) (left right : Token) :
    machine.perform (.binary operator) (some right) (left :: before) =
      (machine.applyLink ⟨left, operator⟩ right).map fun value => (1, machine.push value) := by
  simp only [perform, operand, apply, applyLink, List.getElem?_cons_zero, decide_eq_true_eq,
    reduceCtorEq, if_false]
  cases machine.valueOf left with
  | error error => rfl
  | ok left =>
      simp only [bind, Except.bind]
      cases operator.apply left right <;> rfl

theorem perform_binary_none (operator : BinaryOperator) (left right : Token) :
    machine.perform (.binary operator) none (right :: left :: before) =
      (machine.valueOf right >>= machine.applyLink ⟨left, operator⟩).map
        fun value => (2, machine.push value) := by
  simp only [perform, operand, apply, List.getElem?_cons_zero, List.getElem?_cons_succ,
    decide_eq_true_eq, reduceCtorEq, if_false]
  cases machine.valueOf right with
  | error error => rfl
  | ok right =>
      simp only [applyLink, bind, Except.bind]
      cases machine.valueOf left with
      | error error => rfl
      | ok left =>
          simp only
          cases operator.apply left right <;> rfl

theorem evaluate_infix (hbase : base ≤ machine.stack.length) (link : Link) (right : Token) :
    evaluate base 0 ((Operator.binary link.operator).token :: link.operand :: before)
        (machine.push right) =
      proceed base before machine (machine.applyLink link right) := by
  have hlt : base < (machine.push right).stack.length := Nat.lt_succ_of_le hbase
  have hturn : takeTurn base (machine.push right) (Operator.binary link.operator).token
      (link.operand :: before) =
        machine.attempt (.binary link.operator) (some right) (link.operand :: before) :=
    operate_of_lt (Operator.ofSymbol?_symbol (.binary link.operator)) rfl hlt
  rw [evaluate_cons, hturn, attempt, perform_binary_some]
  cases machine.applyLink link right <;> rfl

theorem evaluate_trailing (hbase : machine.stack.length ≤ base) (link : Link) (right : Token) :
    evaluate base 0 ((Operator.binary link.operator).token :: right :: link.operand :: before)
        machine =
      proceed base before machine (machine.valueOf right >>= machine.applyLink link) := by
  have hturn : takeTurn base machine (Operator.binary link.operator).token
      (right :: link.operand :: before) =
        machine.attempt (.binary link.operator) none (right :: link.operand :: before) :=
    operate_of_le (Operator.ofSymbol?_symbol (.binary link.operator)) hbase
  rw [evaluate_cons, hturn, attempt, perform_binary_none]
  cases machine.valueOf right >>= machine.applyLink link <;> rfl

/-- **Two forms, one operator.** At the end of any line, on any stack and with any variables, it makes no difference whether an operator is written between its operands or after them. -/
theorem evaluateLine_infix_eq_trailing (machine : Machine) (number : Int) (earlier : List Token)
    (left : Token) {right : Token} (hright : right.IsOperand) (operator : BinaryOperator)
    (source source' : String) :
    machine.evaluateLine
        ⟨number, earlier ++ [left, (Operator.binary operator).token, right], source⟩ =
      machine.evaluateLine
        ⟨number, earlier ++ [left, right, (Operator.binary operator).token], source'⟩ := by
  have hforms : evaluate machine.stack.length 0
      (right :: (Operator.binary operator).token :: left :: earlier.reverse) machine =
        evaluate machine.stack.length 0
          ((Operator.binary operator).token :: right :: left :: earlier.reverse) machine := by
    rw [evaluate_operand hright, evaluate_trailing (Nat.le_refl _) ⟨left, operator⟩ right]
    cases machine.valueOf right with
    | error error => rfl
    | ok value => exact evaluate_infix (Nat.le_refl _) ⟨left, operator⟩ value
  simp only [evaluateLine, List.reverse_append, List.reverse_cons, List.reverse_nil,
    List.nil_append, List.cons_append, hforms]

/-- `print 1 + y` and `print 1 y +` print the same sum, and leave the 9 of an earlier line where it was. -/
theorem evaluateLine_infix_eq_trailing_sum :
    let machine : Machine :=
      { stack := [⟨.number, "9"⟩], vars.entries := [("y", ⟨.number, "-02"⟩)] }
    let ending : Ending Fault := { machine := { machine with printed := [⟨.number, "-1"⟩] } }
    let print : Token := ⟨.identifier, printName⟩
    let sum : Token := (Operator.binary .add).token
    (⟨.identifier, "y"⟩ : Token).IsOperand ∧
      machine.evaluateLine
        ⟨1, [print] ++ [⟨.number, "1"⟩, sum, ⟨.identifier, "y"⟩], "print 1 + y"⟩ = ending ∧
      machine.evaluateLine
        ⟨1, [print] ++ [⟨.number, "1"⟩, ⟨.identifier, "y"⟩, sum], "print 1 y +"⟩ = ending := by
  intro machine ending print sum
  have hright : (⟨.identifier, "y"⟩ : Token).IsOperand := by decide
  have hinfix : machine.evaluateLine
      ⟨1, [print] ++ [⟨.number, "1"⟩, sum, ⟨.identifier, "y"⟩], "print 1 + y"⟩ = ending := by
    decide +kernel
  refine ⟨hright, hinfix, ?_⟩
  rw [← evaluateLine_infix_eq_trailing machine 1 [print] ⟨.number, "1"⟩ hright .add "print 1 + y"]
  exact hinfix

/-! ### Chains -/

theorem evaluate_chain (hbase : base ≤ machine.stack.length) (chain : List Link) (right : Token) :
    evaluate base 0 ((chain.flatMap Link.tokens).reverse ++ before) (machine.push right) =
      proceed base before machine (chain.foldrM machine.applyLink right) := by
  -- the last link has its turn first, so the induction takes links off the end
  induction chain using List.reverseRecOn generalizing right with
  | nil => rfl
  | append_singleton chain link ih =>
      have hwritten : ((chain ++ [link]).flatMap Link.tokens).reverse ++ before =
          (Operator.binary link.operator).token :: link.operand ::
            ((chain.flatMap Link.tokens).reverse ++ before) := by
        simp [Link.tokens]
      have hfold : (chain ++ [link]).foldrM machine.applyLink right =
          machine.applyLink link right >>= chain.foldrM machine.applyLink := by
        rw [List.foldrM_append, List.foldrM_cons, List.foldrM_nil, pure_bind]
      rw [hwritten, hfold, evaluate_infix hbase]
      cases machine.applyLink link right with
      | error error => rfl
      | ok value => exact ih value

theorem evaluate_written (chain : List Link) {last : Token} (hlast : last.IsOperand) :
    evaluate machine.stack.length 0 ((Link.written chain last).reverse ++ before) machine =
      proceed machine.stack.length before machine (machine.chainValue chain last) := by
  have hwritten : (Link.written chain last).reverse ++ before =
      last :: ((chain.flatMap Link.tokens).reverse ++ before) := by
    simp [Link.written]
  rw [hwritten, evaluate_operand hlast, chainValue]
  cases machine.valueOf last with
  | error error => rfl
  | ok value => exact evaluate_chain (Nat.le_refl _) chain value

theorem evaluate_assign {value : Token} (hkind : value.kind ∈ TokenKind.literals) (name : String) :
    evaluate machine.stack.length 0 [Operator.assign.token, ⟨.identifier, name⟩]
        (machine.push value) =
      { machine := { machine with vars := machine.vars.assign name value } } := by
  have hlt : machine.stack.length < (machine.push value).stack.length := Nat.lt_succ_self _
  have hturn : (machine.push value).Turn machine.stack.length Operator.assign.token
      [⟨.identifier, name⟩] 1 { machine with vars := machine.vars.assign name value } :=
    .operator rfl (Operator.ofSymbol?_symbol .assign) (.stacked rfl hlt rfl)
      (apply_assign_eq_ok_iff.mpr ⟨rfl, hkind, rfl⟩)
  rw [evaluate_of_turn hturn]
  rfl

theorem evaluate_print (value : Token) :
    evaluate machine.stack.length 0 [⟨.identifier, printName⟩] (machine.push value) =
      { machine := { machine with printed := value :: machine.printed } } := by
  have hturn : (machine.push value).Turn machine.stack.length ⟨.identifier, printName⟩ [] 0
      { machine with printed := value :: machine.printed } := by
    have hprint : (machine.push value).Turn machine.stack.length ⟨.identifier, printName⟩ [] 0
        (machine.push value).print := .print rfl rfl
    rwa [print_eq] at hprint
  rw [evaluate_of_turn hturn]
  rfl

theorem kind_of_valueOf
    (hvars : ∀ name value, machine.vars.find? name = some value → value.kind ∈ TokenKind.literals)
    {token value : Token} (htoken : token.IsOperand) (h : machine.valueOf token = .ok value) :
    value.kind ∈ TokenKind.literals := by
  by_cases hidentifier : token.kind = .identifier
  · exact hvars token.text value ((valueOf_identifier hidentifier).mp h)
  · rw [valueOf, if_neg hidentifier] at h
    cases h
    exact htoken.resolve_right fun hname => hidentifier hname.1

theorem kind_of_chainValue
    (hvars : ∀ name value, machine.vars.find? name = some value → value.kind ∈ TokenKind.literals)
    {chain : List Link} {last value : Token} (hlast : last.IsOperand)
    (h : machine.chainValue chain last = .ok value) : value.kind ∈ TokenKind.literals := by
  cases chain with
  | nil =>
      rw [chainValue_nil] at h
      exact kind_of_valueOf hvars hlast h
  | cons link chain =>
      rw [chainValue_cons] at h
      obtain ⟨right, -, hlink⟩ := bind_eq_ok_iff.mp h
      obtain ⟨left, -, happly⟩ := bind_eq_ok_iff.mp hlink
      exact link.operator.kind_of_apply happly

theorem output_cons (machine : Machine) (value : Token) (style : Text.Style) :
    { machine with printed := value :: machine.printed }.output style =
      machine.output style ++ value.display style ++ "\n" := by
  simp [output, String.append_assoc]

variable {chain : List Link} {last : Token}

/-- The last tokens of a line come to a value, and those before them make use of it. -/
theorem evaluateLine_of_proceed {tokens earlier : List Token} {result : Except ScriptError Token}
    {next : Token → Machine}
    (htokens : evaluate machine.stack.length 0 tokens.reverse machine =
      proceed machine.stack.length earlier.reverse machine result)
    (hnext : ∀ value, result = .ok value →
      evaluate machine.stack.length 0 earlier.reverse (machine.push value) =
        { machine := next value })
    (number : Int) (source : String) :
    machine.evaluateLine ⟨number, tokens, source⟩ = machine.conclude number next result := by
  unfold evaluateLine
  simp only [htokens]
  cases result with
  | error error => rfl
  | ok value =>
      simp only [proceed, hnext value rfl]
      rfl

theorem evaluateLine_chain (hlast : last.IsOperand) {earlier : List Token} {next : Token → Machine}
    (hnext : ∀ value, machine.chainValue chain last = .ok value →
      evaluate machine.stack.length 0 earlier.reverse (machine.push value) =
        { machine := next value })
    (number : Int) (source : String) :
    machine.evaluateLine ⟨number, earlier ++ Link.written chain last, source⟩ =
      machine.conclude number next (machine.chainValue chain last) := by
  refine evaluateLine_of_proceed ?_ hnext number source
  rw [List.reverse_append, evaluate_written chain hlast]

theorem evaluateLine_trailing (link : Link) (right : Token) {earlier : List Token}
    {next : Token → Machine}
    (hnext : ∀ value, machine.chainValue [link] right = .ok value →
      evaluate machine.stack.length 0 earlier.reverse (machine.push value) =
        { machine := next value })
    (number : Int) (source : String) :
    machine.evaluateLine
        ⟨number, earlier ++ [link.operand, right, (Operator.binary link.operator).token], source⟩ =
      machine.conclude number next (machine.chainValue [link] right) := by
  refine evaluateLine_of_proceed ?_ hnext number source
  rw [chainValue_cons, chainValue_nil, ← evaluate_trailing (Nat.le_refl _) link right,
    List.reverse_append]
  rfl

/-- **A chain is a right fold.** On any stack, a line that is a chain pushes its value, and one that stores or prints a chain stores or prints it; each leaves all else as it was, and fails with the first fault from the right if the chain has no value. A number is printed in its canonical form, a truth value in bold. -/
theorem evaluateLine_written (machine : Machine) (chain : List Link) {last : Token}
    (hlast : last.IsOperand) (number : Int) (source : String) :
    machine.evaluateLine ⟨number, Link.written chain last, source⟩ =
        machine.conclude number machine.push (machine.chainValue chain last) ∧
      ((∀ name value, machine.vars.find? name = some value →
          value.kind ∈ TokenKind.literals) →
        ∀ name, machine.evaluateLine
            ⟨number, [⟨.identifier, name⟩, Operator.assign.token] ++ Link.written chain last,
              source⟩ =
          machine.conclude number
            (fun value => { machine with vars := machine.vars.assign name value })
            (machine.chainValue chain last)) ∧
      machine.evaluateLine
          ⟨number, [⟨.identifier, printName⟩] ++ Link.written chain last, source⟩ =
        machine.conclude number
          (fun value => { machine with printed := value :: machine.printed })
          (machine.chainValue chain last) ∧
      ∀ value, machine.chainValue chain last = .ok value → ∀ style,
        (machine.evaluateLine
          ⟨number, [⟨.identifier, printName⟩] ++ Link.written chain last, source⟩).machine.output
            style =
          machine.output style ++
            (if value.kind = .number then canonicalText value.text
            else if value.kind = .boolean then style.bold value.text
            else value.text) ++ "\n" := by
  have hpush : ∀ value, machine.chainValue chain last = .ok value →
      evaluate machine.stack.length 0 ([] : List Token).reverse (machine.push value) =
        { machine := machine.push value } :=
    fun _ _ => rfl
  have hprint : machine.evaluateLine
      ⟨number, [⟨.identifier, printName⟩] ++ Link.written chain last, source⟩ =
        machine.conclude number
          (fun value => { machine with printed := value :: machine.printed })
          (machine.chainValue chain last) :=
    evaluateLine_chain hlast (fun value _ => evaluate_print value) number source
  refine ⟨evaluateLine_chain hlast hpush number source, fun hvars name => ?_, hprint,
    fun value hvalue style => ?_⟩
  · refine evaluateLine_chain hlast (fun value hvalue => ?_) number source
    exact evaluate_assign (kind_of_chainValue hvars hlast hvalue) name
  · rw [hprint, hvalue, ← Token.display_eq]
    exact output_cons machine value style

/-- With -02 in `y`, the chain `"a" + 1 + y` has the value `a-1`, whatever lies on the stack; with `true` in place of 1 it fails on the sum with `y`, and not on the name `q` left of that. Printed alone, `y` loses its zero, and `1 > y` is shown in bold. -/
theorem evaluateLine_written_text :
    let machine : Machine :=
      { stack := [⟨.number, "9"⟩], vars.entries := [("y", ⟨.number, "-02"⟩)] }
    let last : Token := ⟨.identifier, "y"⟩
    let chain : List Link := [⟨⟨.string, "a"⟩, .add⟩, ⟨⟨.number, "1"⟩, .add⟩]
    let faulty : List Link := [⟨⟨.identifier, "q"⟩, .add⟩, ⟨⟨.boolean, "true"⟩, .add⟩]
    let comparing : List Link := [⟨⟨.number, "1"⟩, .compare .greater⟩]
    last.IsOperand ∧
      (∀ name value, machine.vars.find? name = some value → value.kind ∈ TokenKind.literals) ∧
      machine.evaluateLine ⟨3, Link.written chain last, "\"a\" + 1 + y"⟩ =
        { machine := machine.push ⟨.string, "a-1"⟩ } ∧
      machine.evaluateLine ⟨3, Link.written faulty last, "q + true + y"⟩ =
        { machine, error := some ⟨.typeMismatch "+" "Number or String" "true", 3⟩ } ∧
      machine.evaluateLine
          ⟨3, [⟨.identifier, "x"⟩, Operator.assign.token] ++ Link.written chain last,
            "x = \"a\" + 1 + y"⟩ =
        { machine := { machine with vars := machine.vars.assign "x" ⟨.string, "a-1"⟩ } } ∧
      (machine.evaluateLine
        ⟨3, [⟨.identifier, printName⟩] ++ Link.written chain last,
          "print \"a\" + 1 + y"⟩).machine.output .plain = "a-1\n" ∧
      (machine.evaluateLine
        ⟨3, [⟨.identifier, printName⟩] ++ Link.written [] last, "print y"⟩).machine.output .ansi =
          "-2\n" ∧
      (machine.evaluateLine
        ⟨3, [⟨.identifier, printName⟩] ++ Link.written comparing last,
          "print 1 > y"⟩).machine.output .ansi = "\x1b[1mtrue\x1b[0m\n" := by
  intro machine last chain faulty comparing
  have hlast : last.IsOperand := by decide
  have hvars : ∀ name value, machine.vars.find? name = some value →
      value.kind ∈ TokenKind.literals := by
    intro name value hfind
    have hentry := Variables.mem_entries_of_find? hfind
    simp only [machine, List.mem_singleton, Prod.mk.injEq] at hentry
    rw [hentry.2]
    decide
  have hvalue : machine.chainValue chain last = .ok ⟨.string, "a-1"⟩ := by decide +kernel
  have hfault : machine.chainValue faulty last =
      .error (.typeMismatch "+" "Number or String" "true") := by
    decide +kernel
  have hnumber : machine.chainValue [] last = .ok ⟨.number, "-02"⟩ := by decide +kernel
  have htruth : machine.chainValue comparing last = .ok ⟨.boolean, "true"⟩ := by decide +kernel
  obtain ⟨hpush, hassign, -, hprint⟩ :=
    evaluateLine_written machine chain hlast 3 "\"a\" + 1 + y"
  obtain ⟨-, -, -, hprintNumber⟩ := evaluateLine_written machine [] hlast 3 "print y"
  obtain ⟨-, -, -, hprintTruth⟩ := evaluateLine_written machine comparing hlast 3 "print 1 > y"
  have hfaulty := (evaluateLine_written machine faulty hlast 3 "q + true + y").1
  rw [hvalue] at hpush
  rw [hfault] at hfaulty
  have hstored := hassign hvars "x"
  rw [hvalue] at hstored
  refine ⟨hlast, hvars, hpush, hfaulty, hstored, hprint _ hvalue .plain,
    (hprintNumber _ hnumber .ansi).trans ?_, (hprintTruth _ htruth .ansi).trans ?_⟩
  · decide +kernel
  · decide +kernel

end Machine

end StackScript
