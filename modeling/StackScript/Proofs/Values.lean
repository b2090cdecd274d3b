import StackScript.Proofs.Lines
import StackScript.Proofs.Session

/-!
# What the stack and the variables hold

Only values are ever pushed or stored: numbers whose texts are numerals, truth values, and strings
without the characters that a string on a line cannot hold. So whatever an operator reads as an
integer is a numeral, and only its length can keep it from being read.
-/

namespace StackScript

namespace Token

/-- The texts that a value can have. A string put together from others may hold two slashes in a row. -/
def IsValue (token : Token) : Prop :=
  match token.kind with
  | .number => isNumeral token.text = true
  | .boolean => token.text = "true" ∨ token.text = "false"
  | .string => ∀ c ∈ token.text.toList, c ≠ '"' ∧ c ≠ '\n' ∧ c ≠ '\r' ∧ c ≠ ';'
  | .identifier | .operator | .symbol => False

theorem isValue_ofBool (b : Bool) : (ofBool b).IsValue := by
  cases b
  · exact Or.inr rfl
  · exact Or.inl rfl

theorem IsValue.kind_mem {token : Token} (h : token.IsValue) : token.kind ∈ TokenKind.literals := by
  obtain ⟨kind, text⟩ := token
  cases kind with
  | number | string | boolean => simp [TokenKind.literals]
  | identifier | operator | symbol => cases h

theorem OnLine.isValue {token : Token} (h : token.OnLine)
    (hkind : token.kind ∈ TokenKind.literals) :
    token.IsValue := by
  obtain ⟨kind, text⟩ := token
  cases kind with
  | number | boolean => exact h.wellFormed
  | string =>
      intro c hc
      refine ⟨?_, h.chars c hc⟩
      rintro rfl
      exact h.wellFormed.1 hc
  | identifier | operator | symbol => simp [TokenKind.literals] at hkind

theorem plain_of_isNumeral {text : String} (h : isNumeral text = true) :
    ∀ c ∈ text.toList, c ≠ '"' ∧ c ≠ '\n' ∧ c ≠ '\r' ∧ c ≠ ';' := by
  obtain ⟨digits, -, hdigits, htext⟩ := isNumeral_iff.mp h
  have hplain : ∀ c, c = '-' ∨ c.isDigit = true → c ≠ '"' ∧ c ≠ '\n' ∧ c ≠ '\r' ∧ c ≠ ';' := by
    rintro c (rfl | hdigit)
    · decide
    · refine ⟨?_, ?_, ?_, ?_⟩ <;> (rintro rfl; exact absurd hdigit (by decide))
  intro c hc
  rcases htext with htext | htext
  · exact hplain c (Or.inr (hdigits c (htext ▸ hc)))
  · rw [htext] at hc
    exact hplain c ((List.mem_cons.mp hc).imp_right (hdigits c))

theorem IsValue.plain {token : Token} (h : token.IsValue)
    (hkind : token.kind ∈ OperandClass.numberOrString.kinds) :
    ∀ c ∈ token.text.toList, c ≠ '"' ∧ c ≠ '\n' ∧ c ≠ '\r' ∧ c ≠ ';' := by
  obtain ⟨kind, text⟩ := token
  cases kind with
  | number => exact plain_of_isNumeral h
  | string => exact h
  | identifier | operator | symbol | boolean => simp [OperandClass.numberOrString] at hkind

end Token

/-! ### What operators make of values -/

namespace BinaryOperator

variable {operator : BinaryOperator} {left right value : Token}

theorem kinds_subset_literals (operator : BinaryOperator) :
    operator.operands.kinds ⊆ TokenKind.literals := by
  cases operator <;>
    simp [operands, OperandClass.numberOrString, OperandClass.literal, OperandClass.number,
      OperandClass.boolean, TokenKind.literals]

theorem apply_eq_ok_iff :
    operator.apply left right = .ok value ↔
      left.kind ∈ operator.operands.kinds ∧ right.kind ∈ operator.operands.kinds ∧
        operator.combine left right = .ok value := by
  simp only [apply, bind_eq_ok_iff,
    ← OperandClass.check_eq_ok_iff operator.operands operator.symbol]
  constructor
  · rintro ⟨⟨⟩, hleft, ⟨⟩, hright, hcombine⟩
    exact ⟨hleft, hright, hcombine⟩
  · rintro ⟨hleft, hright, hcombine⟩
    exact ⟨(), hleft, (), hright, hcombine⟩

/-- The texts that an operator reads as integers, in the order it reads them. -/
def integers (operator : BinaryOperator) (left right : Token) : List String :=
  match operator with
  | add => if left.kind = .string ∨ right.kind = .string then [] else [left.text, right.text]
  | compare _ => [left.text, right.text]
  | equal | notEqual | and | or => []

/-- What an operator makes of its operands once the integers among them are read. -/
def conclude (operator : BinaryOperator) (left right : Token) :
    List Int → Except ScriptError Token
  | [a, b] =>
    match operator with
    | compare comparison => .ok (.ofBool (comparison.holds a b))
    | _ => do return ⟨.number, ← writeInt operator.symbol (a + b)⟩
  | _ =>
    match operator with
    | equal => .ok (.ofBool (left.text == right.text))
    | notEqual => .ok (.ofBool (left.text != right.text))
    | and => .ok (.ofBool (left.isTrue && right.isTrue))
    | or => .ok (.ofBool (left.isTrue || right.isTrue))
    | _ => .ok ⟨.string, left.text ++ right.text⟩

theorem combine_eq :
    operator.combine left right =
      (operator.integers left right).mapM (readInt operator.symbol) >>=
        operator.conclude left right := by
  cases operator with
  | add =>
      simp only [combine, addTokens, integers]
      split
      · rfl
      · simp only [List.mapM_cons, List.mapM_nil, bind_assoc, pure_bind]
        rfl
  | compare comparison =>
      simp only [combine, integers, List.mapM_cons, List.mapM_nil, bind_assoc, pure_bind]
      rfl
  | equal | notEqual | and | or => rfl

/-- What an operator can make: a truth value, the numeral of an integer, or the texts of its operands joined. -/
theorem combine_cases (h : operator.combine left right = .ok value) :
    (∃ b, value = .ofBool b) ∨ (∃ n : Int, value = ⟨.number, toString n⟩) ∨
      operator = .add ∧ value = ⟨.string, left.text ++ right.text⟩ := by
  cases operator with
  | add =>
      simp only [combine, addTokens] at h
      split at h
      · cases h
        exact Or.inr (Or.inr ⟨rfl, rfl⟩)
      · obtain ⟨a, -, b, -, text, htext, hvalue⟩ := by simpa only [bind_eq_ok_iff] using h
        cases hvalue
        rw [(writeInt_eq_ok_iff.mp htext).2]
        exact Or.inr (Or.inl ⟨a + b, rfl⟩)
  | compare comparison =>
      obtain ⟨a, -, b, -, hvalue⟩ := by simpa only [combine, bind_eq_ok_iff] using h
      cases hvalue
      exact Or.inl ⟨_, rfl⟩
  | equal | notEqual | and | or =>
      cases h
      exact Or.inl ⟨_, rfl⟩

theorem isValue_of_combine (hleft : left.IsValue) (hright : right.IsValue)
    (hkindLeft : left.kind ∈ operator.operands.kinds)
    (hkindRight : right.kind ∈ operator.operands.kinds)
    (h : operator.combine left right = .ok value) : value.IsValue := by
  obtain ⟨b, rfl⟩ | ⟨n, rfl⟩ | ⟨rfl, rfl⟩ := combine_cases h
  · exact Token.isValue_ofBool b
  · exact isNumeral_toString n
  · intro c hc
    rw [String.toList_append, List.mem_append] at hc
    exact hc.elim (hleft.plain hkindLeft c) (hright.plain hkindRight c)

theorem kind_of_apply (operator : BinaryOperator) (h : operator.apply left right = .ok value) :
    value.kind ∈ TokenKind.literals := by
  obtain ⟨-, -, hcombine⟩ := apply_eq_ok_iff.mp h
  obtain ⟨b, rfl⟩ | ⟨n, rfl⟩ | ⟨-, rfl⟩ := combine_cases hcombine <;>
    simp [Token.ofBool, TokenKind.literals]

theorem isNumeral_of_mem_integers (hleft : left.IsValue) (hright : right.IsValue)
    (hkindLeft : left.kind ∈ operator.operands.kinds)
    (hkindRight : right.kind ∈ operator.operands.kinds) {text : String}
    (h : text ∈ operator.integers left right) : isNumeral text = true := by
  have hnumber : ∀ token : Token, token.IsValue → token.kind = .number →
      isNumeral token.text = true := by
    rintro ⟨kind, text⟩ hvalue rfl
    exact hvalue
  have hboth : left.kind = .number ∧ right.kind = .number := by
    cases operator with
    | add =>
        simp only [integers] at h
        split at h
        · cases h
        · rename_i hstring
          simp only [operands, OperandClass.numberOrString, List.mem_cons, List.not_mem_nil,
            or_false] at hkindLeft hkindRight
          exact ⟨hkindLeft.resolve_right fun heq => hstring (Or.inl heq),
            hkindRight.resolve_right fun heq => hstring (Or.inr heq)⟩
    | compare comparison =>
        exact ⟨List.mem_singleton.mp hkindLeft, List.mem_singleton.mp hkindRight⟩
    | equal | notEqual | and | or => cases h
  have hmem : text ∈ [left.text, right.text] := by
    cases operator with
    | add => simpa [integers, hboth.1, hboth.2] using h
    | compare comparison => exact h
    | equal | notEqual | and | or => cases h
  rcases List.mem_cons.mp hmem with rfl | hmem
  · exact hnumber left hleft hboth.1
  · rw [List.mem_singleton.mp hmem]
    exact hnumber right hright hboth.2

end BinaryOperator

/-! ### Machines that hold values only -/

namespace Machine

structure WellTyped (machine : Machine) : Prop where
  stack : ∀ value ∈ machine.stack, value.IsValue
  vars : ∀ entry ∈ machine.vars.entries,
    (⟨.identifier, entry.1⟩ : Token).WellFormed ∧ entry.2.IsValue

variable {base used : Nat} {machine popped next : Machine} {before : List Token}

theorem WellTyped.push (h : machine.WellTyped) {value : Token} (hvalue : value.IsValue) :
    (machine.push value).WellTyped :=
  ⟨List.forall_mem_cons.mpr ⟨hvalue, h.stack⟩, h.vars⟩

theorem WellTyped.of_suffix (h : machine.WellTyped) {stack : List Token}
    (hsuffix : stack <:+ machine.stack) : { machine with stack := stack }.WellTyped :=
  ⟨fun value hvalue => h.stack value (hsuffix.mem hvalue), h.vars⟩

theorem WellTyped.print (h : machine.WellTyped) : machine.print.WellTyped := by
  rw [print_eq]
  exact ⟨fun value hvalue => h.stack value (List.mem_of_mem_tail hvalue), h.vars⟩

theorem WellTyped.find? (h : machine.WellTyped) {name : String} {value : Token}
    (hfind : machine.vars.find? name = some value) : value.IsValue :=
  (h.vars _ (Variables.mem_entries_of_find? hfind)).2

theorem WellTyped.assign (h : machine.WellTyped) {name : String} {value : Token}
    (hname : (⟨.identifier, name⟩ : Token).WellFormed) (hvalue : value.IsValue) :
    { machine with vars := machine.vars.assign name value }.WellTyped := by
  refine ⟨h.stack, fun entry hentry => ?_⟩
  rcases Variables.mem_insertEntry hentry with rfl | hold
  · exact ⟨hname, hvalue⟩
  · exact h.vars entry hold

/-- An operand is a value, or a token of the line that may be none. -/
theorem WellTyped.operand (h : machine.WellTyped) (hbefore : ∀ token ∈ before, token.OnLine)
    {i : Nat} {operator side : String} {named : Bool} {token : Token}
    (hoperand : machine.operand before[i]? operator side named = .ok token) :
    token.IsValue ∨ token.OnLine := by
  unfold Machine.operand at hoperand
  split at hoperand
  · cases hoperand
  · rename_i neighbor hneighbor
    have honLine := hbefore neighbor (List.mem_of_getElem? hneighbor)
    split at hoperand
    · cases hoperand
      exact Or.inr honLine
    · unfold valueOf at hoperand
      split at hoperand
      · split at hoperand
        · rename_i hfind
          cases hoperand
          exact Or.inl (h.find? hfind)
        · cases hoperand
      · cases hoperand
        exact Or.inr honLine

theorem isValue_of_kind {token : Token} (h : token.IsValue ∨ token.OnLine)
    (hkind : token.kind ∈ TokenKind.literals) : token.IsValue :=
  h.elim id fun honLine => honLine.isValue hkind

theorem WellTyped.operands (h : machine.WellTyped) (hbefore : ∀ token ∈ before, token.OnLine)
    {operator : Operator} {left right : Token}
    (hoperands : machine.Operands base operator before used popped left right) :
    popped.WellTyped ∧ (left.IsValue ∨ left.OnLine) ∧ (right.IsValue ∨ right.OnLine) := by
  cases hoperands with
  | @stacked rest left right hstack _ hleft =>
      have hpopped : { machine with stack := rest }.WellTyped :=
        h.of_suffix (hstack ▸ List.suffix_cons right rest)
      exact ⟨hpopped, hpopped.operand hbefore hleft,
        Or.inl (h.stack right (hstack ▸ List.mem_cons_self))⟩
  | trailing _ hright hleft =>
      exact ⟨h, h.operand hbefore hleft, h.operand hbefore hright⟩

theorem WellTyped.apply (h : machine.WellTyped) {operator : Operator} {left right : Token}
    (hleft : left.IsValue ∨ left.OnLine) (hright : right.IsValue ∨ right.OnLine)
    (happly : machine.apply operator left right = .ok next) : next.WellTyped := by
  cases operator with
  | assign =>
      obtain ⟨hidentifier, hkind, rfl⟩ := apply_assign_eq_ok_iff.mp happly
      have hname : (⟨.identifier, left.text⟩ : Token).WellFormed := by
        rcases hleft with hvalue | honLine
        · simpa [hidentifier, TokenKind.literals] using hvalue.kind_mem
        · rw [← hidentifier]
          exact honLine.wellFormed
      exact h.assign hname (isValue_of_kind hright hkind)
  | binary operator =>
      obtain ⟨value, hvalue, rfl⟩ := apply_binary_eq_ok_iff.mp happly
      obtain ⟨hkindLeft, hkindRight, hcombine⟩ := BinaryOperator.apply_eq_ok_iff.mp hvalue
      have hsubset := operator.kinds_subset_literals
      exact h.push (BinaryOperator.isValue_of_combine (isValue_of_kind hleft (hsubset hkindLeft))
        (isValue_of_kind hright (hsubset hkindRight)) hkindLeft hkindRight hcombine)

theorem WellTyped.turn {token : Token} (h : machine.WellTyped) (htoken : token.OnLine)
    (hbefore : ∀ token ∈ before, token.OnLine) (hturn : machine.Turn base token before used next) :
    next.WellTyped := by
  cases hturn with
  | literal hkind => exact h.push (htoken.isValue hkind)
  | fetch _ _ hfind => exact h.push (h.find? hfind)
  | print => exact h.print
  | operator _ _ hoperands happly =>
      obtain ⟨hpopped, hleft, hright⟩ := h.operands hbefore hoperands
      exact hpopped.apply hleft hright happly
  | symbol => exact h

theorem WellTyped.fails {token : Token} (h : machine.WellTyped)
    (hfails : machine.Fails base token next) : next.WellTyped := by
  cases hfails with
  | unchanged => exact h
  | @popped right rest _ hstack _ => exact h.of_suffix (hstack ▸ List.suffix_cons right rest)

end Machine

structure Point.WellTyped (point : Point) : Prop where
  machine : point.machine.WellTyped
  before : ∀ token ∈ point.before, token.OnLine

namespace Point

theorem WellTyped.step {base : Nat} {p q : Point} (hstep : Step base p q) (h : p.WellTyped) :
    q.WellTyped := by
  cases hstep with
  | skip => exact ⟨h.machine, (List.forall_mem_cons.mp h.before).2⟩
  | turn hturn =>
      obtain ⟨htoken, hbefore⟩ := List.forall_mem_cons.mp h.before
      exact ⟨h.machine.turn htoken hbefore hturn, hbefore⟩

theorem WellTyped.reaches {base : Nat} {p q : Point} (h : p.WellTyped)
    (hreaches : Reaches base p q) :
    q.WellTyped :=
  hreaches.preserves (fun hstep hp => hp.step hstep) h

theorem WellTyped.start {machine : Machine} {line : Line} (hmachine : machine.WellTyped)
    (hline : ∀ token ∈ line.tokens, token.OnLine) : (start machine line).WellTyped :=
  ⟨hmachine, fun token htoken => hline token (List.mem_reverse.mp htoken)⟩

end Point

namespace Machine

theorem WellTyped.evaluateLine {machine : Machine} {line : Line} (h : machine.WellTyped)
    (hline : ∀ token ∈ line.tokens, token.OnLine) :
    (machine.evaluateLine line).machine.WellTyped :=
  evaluateLine_preserves
    (fun _ hreaches => ((Point.WellTyped.start h hline).reaches hreaches).machine)
    fun hfails hmachine => hmachine.fails hfails

end Machine

/-! ### Runs and sessions -/

namespace Machine

theorem WellTyped.abort {machine : Machine} (h : machine.WellTyped) : machine.abort.WellTyped :=
  ⟨fun _ hvalue => absurd hvalue List.not_mem_nil, h.vars⟩

theorem WellTyped.evaluateLines {machine : Machine} {program : List Line} (h : machine.WellTyped)
    (hprogram : ∀ line ∈ program, ∀ token ∈ line.tokens, token.OnLine) :
    (evaluateLines program machine).machine.WellTyped :=
  evaluateLines_preserves
    (fun line hline _ hmachine => hmachine.evaluateLine (hprogram line hline)) h

theorem WellTyped.run {machine : Machine} {program : List Line} (h : machine.WellTyped)
    (hprogram : ∀ line ∈ program, ∀ token ∈ line.tokens, token.OnLine) :
    (machine.run program).machine.WellTyped := by
  have hready : { machine with aborted := false }.WellTyped := ⟨h.stack, h.vars⟩
  have hended := hready.evaluateLines hprogram
  rw [run_machine]
  split
  · exact hended
  · exact hended.abort

theorem WellTyped.visits {machine : Machine} {program : List Line} {base : Nat} {point : Point}
    (h : machine.WellTyped) (hprogram : ∀ line ∈ program, ∀ token ∈ line.tokens, token.OnLine)
    (hvisits : machine.Visits program base point) : point.WellTyped := by
  obtain ⟨done, line, rest, started, rfl, hstarted, -, hreaches⟩ := hvisits
  have hready : { machine with aborted := false }.WellTyped := ⟨h.stack, h.vars⟩
  have hline := hready.evaluateLines fun other hother =>
    hprogram other (List.mem_append_left _ hother)
  rw [hstarted] at hline
  exact (Point.WellTyped.start hline
    (hprogram line (List.mem_append_right _ List.mem_cons_self))).reaches hreaches

end Machine

/-- The next token of the point is an operator, and the operands it has found are of kinds that it takes. -/
inductive Point.Combines (base : Nat) : Point → BinaryOperator → Token → Token → Prop
  | intro {machine popped : Machine} {token left right : Token} {before : List Token} {used : Nat}
      {operator : BinaryOperator} :
      token.kind = .operator → Operator.ofSymbol? token.text = some (.binary operator) →
      machine.Operands base (.binary operator) before used popped left right →
      left.kind ∈ operator.operands.kinds → right.kind ∈ operator.operands.kinds →
      Point.Combines base ⟨machine, 0, token :: before⟩ operator left right

theorem Point.WellTyped.isNumeral_of_combines {base : Nat} {point : Point}
    {operator : BinaryOperator} {left right : Token} (h : point.WellTyped)
    (hcombines : point.Combines base operator left right) {text : String}
    (htext : text ∈ operator.integers left right) : isNumeral text = true := by
  cases hcombines with
  | intro _ _ hoperands hkindLeft hkindRight =>
      have hbefore := (List.forall_mem_cons.mp h.before).2
      obtain ⟨-, hleft, hright⟩ := h.machine.operands hbefore hoperands
      have hsubset := operator.kinds_subset_literals
      exact BinaryOperator.isNumeral_of_mem_integers
        (Machine.isValue_of_kind hleft (hsubset hkindLeft))
        (Machine.isValue_of_kind hright (hsubset hkindRight)) hkindLeft hkindRight htext

namespace Interpreter

variable {interpreter : Interpreter}

theorem onLine_of_mem_program (interpreter : Interpreter) (text : String) :
    ∀ line ∈ interpreter.program text, ∀ token ∈ line.tokens, token.OnLine :=
  fun _ hline _ htoken => Line.onLine_of_mem_ofText hline htoken

theorem Reachable.wellTyped (h : interpreter.Reachable) : interpreter.machine.WellTyped := by
  induction h with
  | opened hopen =>
      rw [(machine_of_openPath hopen).1]
      exact ⟨fun _ hvalue => absurd hvalue List.not_mem_nil,
        fun _ hentry => absurd hentry List.not_mem_nil⟩
  | @fed interpreter text _ ih =>
      have hrun := ih.run (onLine_of_mem_program interpreter text)
      rw [feed_machine]
      exact ⟨hrun.stack, hrun.vars⟩

/-- Whatever a session has been fed, its stack and its variables hold values only; and whatever it is fed next, an operator reads nothing but numerals, so that only the length of one can stop it. -/
theorem values_of_reachable (h : interpreter.Reachable) :
    interpreter.machine.WellTyped ∧
      ∀ text base point, interpreter.machine.Visits (interpreter.program text) base point →
        ∀ operator left right, point.Combines base operator left right →
          operator.combine left right =
              (operator.integers left right).mapM (readInt operator.symbol) >>=
                operator.conclude left right ∧
            ∀ read ∈ operator.integers left right, isNumeral read = true ∧
              ∀ error, readInt operator.symbol read = .error error ↔
                error = .typeMismatch operator.symbol "Number" read ∧
                  ∃ numeral, Numeral.ofText? read = some numeral ∧
                    Numeral.maxDigits < numeral.digits.length := by
  refine ⟨h.wellTyped, fun text base point hvisits operator left right hcombines =>
    ⟨BinaryOperator.combine_eq, fun read hread => ?_⟩⟩
  have hpoint := h.wellTyped.visits (onLine_of_mem_program interpreter text) hvisits
  have hnumeral := hpoint.isNumeral_of_combines hcombines hread
  obtain ⟨numeral, hsome⟩ := Option.isSome_iff_exists.mp hnumeral
  refine ⟨hnumeral, fun error => ?_⟩
  rw [readInt_eq_error_iff]
  refine and_congr_right fun _ => ⟨fun hlong => ⟨numeral, hsome, hlong numeral hsome⟩, ?_⟩
  rintro ⟨long, hlong, hlength⟩ other hother
  cases hlong.symm.trans hother
  exact hlength

theorem values_of_reachable_sum :
    ∃ (interpreter : Interpreter) (point : Point), interpreter.Reachable ∧
      interpreter.machine.Visits (interpreter.program "y = x + 1") 0 point ∧
      point.Combines 0 .add ⟨.number, "3"⟩ ⟨.number, "1"⟩ ∧ interpreter.machine.WellTyped ∧
      ∀ read ∈ BinaryOperator.add.integers ⟨.number, "3"⟩ ⟨.number, "1"⟩,
        isNumeral read = true := by
  have hreachable : Reachable
      { atPrompt {} false with
        machine.vars.entries := [("x", ⟨.number, "3"⟩)], lineCount := 1 } := by
    have hfed : ((atPrompt {} false).feed "x = 3").1 =
        { atPrompt {} false with
          machine.vars.entries := [("x", ⟨.number, "3"⟩)], lineCount := 1 } := by
      decide +kernel
    exact hfed ▸ (reachable_atPrompt {} false).fed "x = 3"
  have hprogram : Line.ofText 2 "y = x + 1" =
      [⟨2, [⟨.identifier, "y"⟩, ⟨.operator, "="⟩, ⟨.identifier, "x"⟩, ⟨.operator, "+"⟩,
        ⟨.number, "1"⟩], "y = x + 1"⟩] := by
    decide +kernel
  have hvisits : Machine.Visits { vars.entries := [("x", ⟨.number, "3"⟩)] }
      (Line.ofText 2 "y = x + 1") 0
      ⟨{ stack := [⟨.number, "1"⟩], vars.entries := [("x", ⟨.number, "3"⟩)] }, 0,
        [⟨.operator, "+"⟩, ⟨.identifier, "x"⟩, ⟨.operator, "="⟩, ⟨.identifier, "y"⟩]⟩ := by
    rw [hprogram]
    exact ⟨[], _, [], _, rfl, rfl, rfl, .single (.turn (.literal (by decide)))⟩
  have hcombines : Point.Combines 0
      ⟨{ stack := [⟨.number, "1"⟩], vars.entries := [("x", ⟨.number, "3"⟩)] }, 0,
        [⟨.operator, "+"⟩, ⟨.identifier, "x"⟩, ⟨.operator, "="⟩, ⟨.identifier, "y"⟩]⟩
      .add ⟨.number, "3"⟩ ⟨.number, "1"⟩ :=
    .intro rfl rfl (.stacked rfl (by decide) rfl) (by decide) (by decide)
  have h := values_of_reachable hreachable
  exact ⟨_, _, hreachable, hvisits, hcombines, h.1,
    fun read hread => ((h.2 _ _ _ hvisits _ _ _ hcombines).2 read hread).1⟩

end Interpreter

end StackScript
