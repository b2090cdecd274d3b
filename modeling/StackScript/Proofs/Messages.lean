import StackScript.Proofs.Abort
import StackScript.Proofs.Templates
import StackScript.Proofs.Turns
import StackScript.Proofs.Values

/-!
# Messages of one line

The expressions in the message of an error are symbols, words of the language, and texts of tokens
and values. None of these has a newline, since texts are cut there and values come from tokens. So
the message of an error has none.
-/

namespace StackScript

namespace Text

/-- The text has no newline. -/
def OneLine (text : String) : Prop :=
  '\n' ∉ text.toList

instance : DecidablePred OneLine :=
  fun text => inferInstanceAs (Decidable ('\n' ∉ text.toList))

variable {text : String} {style : Style}

@[simp]
theorem oneLine_append {other : String} : OneLine (text ++ other) ↔ OneLine text ∧ OneLine other := by
  simp [OneLine]

theorem OneLine.join {texts : List String} (h : ∀ text ∈ texts, OneLine text) :
    OneLine (String.join texts) := by
  induction texts with
  | nil => decide
  | cons text texts ih =>
      obtain ⟨htext, htexts⟩ := List.forall_mem_cons.mp h
      rw [String.join_cons]
      exact oneLine_append.mpr ⟨htext, ih htexts⟩

theorem OneLine.bold (h : OneLine text) (style : Style) : OneLine (style.bold text) := by
  cases style with
  | plain => exact h
  | ansi =>
      simp only [Style.bold, oneLine_append]
      exact ⟨⟨by decide, h⟩, by decide⟩

theorem OneLine.boldColour (h : OneLine text) (style : Style) (colour : Colour) :
    OneLine (style.boldColour colour text) := by
  cases style with
  | plain => exact h
  | ansi =>
      have hcode : OneLine colour.code := by cases colour <;> decide
      exact OneLine.bold (oneLine_append.mpr ⟨hcode, h⟩) .ansi

end Text

open Text

theorem oneLine_of_isNumeral {text : String} (h : isNumeral text = true) : OneLine text :=
  fun hc => (Token.plain_of_isNumeral h '\n' hc).2.1 rfl

theorem Token.IsValue.oneLine {token : Token} (h : token.IsValue) : OneLine token.text := by
  obtain ⟨kind, text⟩ := token
  cases kind with
  | number => exact oneLine_of_isNumeral h
  | boolean => rcases h with rfl | rfl <;> decide
  | string => exact fun hc => (h '\n' hc).2.1 rfl
  | identifier | operator | symbol => cases h

theorem Token.OnLine.oneLine {token : Token} (h : token.OnLine) : OneLine token.text :=
  fun hc => (h.chars '\n' hc).1 rfl

/-! ### The words of an error -/

theorem Message.oneLine_render {message : Message}
    (h : ∀ piece ∈ message, OneLine (piece.render .plain)) (style : Style) :
    OneLine (message.render style) := by
  refine OneLine.join fun text htext => ?_
  obtain ⟨piece, hpiece, rfl⟩ := List.mem_map.mp htext
  cases piece with
  | words text => exact h _ hpiece
  | expr text => exact OneLine.bold (h _ hpiece) style

namespace ScriptError

def OneLine (error : ScriptError) : Prop :=
  ∀ expr ∈ error.exprs, Text.OneLine expr

theorem OneLine.message {error : ScriptError} (h : error.OneLine) (style : Style) :
    Text.OneLine (error.message.render style) := by
  apply Message.oneLine_render
  unfold OneLine at h
  cases error <;> simp only [exprs, List.forall_mem_cons] at h <;>
    simp only [ScriptError.message, List.forall_mem_cons]
  case unknownIdentifier name =>
    exact ⟨by decide, h.1, by decide, by simp⟩
  case missingOperand operator side =>
    exact ⟨by decide, h.1, by decide, h.2.1, by decide, by simp⟩
  case typeMismatch operator expected got =>
    exact ⟨by decide, h.1, by decide, h.2.1, by decide, h.2.2.1, by decide, by simp⟩
  case unknownOperator operator =>
    exact ⟨by decide, h.1, by decide, by simp⟩

theorem oneLine_typeMismatch {operator expected got : String} (hoperator : Text.OneLine operator)
    (hexpected : Text.OneLine expected) (hgot : Text.OneLine got) :
    (typeMismatch operator expected got).OneLine := by
  simpa [OneLine, exprs] using ⟨hoperator, hexpected, hgot⟩

end ScriptError

/-! ### The errors of a turn -/

/-- The computation fails with no other errors than these. -/
def ErrorsIn {ε α : Type} (errors : ε → Prop) (x : Except ε α) : Prop :=
  ∀ error, x = .error error → errors error

namespace ErrorsIn

variable {ε α β : Type} {errors : ε → Prop}

theorem ok (a : α) : ErrorsIn errors (.ok a) := by
  rintro error ⟨⟩

theorem error {error : ε} (h : errors error) : ErrorsIn errors (.error error : Except ε α) := by
  rintro _ ⟨⟩
  exact h

theorem bind {x : Except ε α} {f : α → Except ε β} (h : ErrorsIn errors x)
    (hnext : ∀ a, x = .ok a → ErrorsIn errors (f a)) : ErrorsIn errors (x >>= f) := by
  cases x with
  | error error => exact .error (h error rfl)
  | ok a => exact hnext a rfl

end ErrorsIn

open ScriptError (oneLine_typeMismatch)

theorem errorsIn_check {required : OperandClass} {operator : String} {operand : Token}
    (hname : OneLine required.name) (hoperator : OneLine operator)
    (hoperand : OneLine operand.text) :
    ErrorsIn ScriptError.OneLine (required.check operator operand) := by
  unfold OperandClass.check
  split
  · exact .ok ()
  · exact .error (oneLine_typeMismatch hoperator hname hoperand)

theorem errorsIn_readInt {operator text : String} (hoperator : OneLine operator)
    (htext : OneLine text) : ErrorsIn ScriptError.OneLine (readInt operator text) := by
  intro error herror
  rw [(readInt_eq_error_iff.mp herror).1]
  exact oneLine_typeMismatch hoperator (by decide) htext

theorem errorsIn_writeInt {operator : String} (hoperator : OneLine operator) (value : Int) :
    ErrorsIn ScriptError.OneLine (writeInt operator value) := by
  intro error herror
  rw [(writeInt_eq_error_iff.mp herror).1]
  exact oneLine_typeMismatch hoperator (by decide) (by decide)

namespace BinaryOperator

theorem oneLine_symbol (operator : BinaryOperator) : OneLine operator.symbol := by
  cases operator with
  | compare comparison => cases comparison <;> decide
  | _ => decide

theorem oneLine_operands (operator : BinaryOperator) : OneLine operator.operands.name := by
  cases operator <;> simp only [operands] <;> decide

theorem errorsIn_combine (operator : BinaryOperator) {left right : Token}
    (hleft : OneLine left.text) (hright : OneLine right.text) :
    ErrorsIn ScriptError.OneLine (operator.combine left right) := by
  have hsymbol := operator.oneLine_symbol
  cases operator with
  | add =>
      simp only [combine, addTokens]
      split
      · exact .ok _
      · refine .bind (errorsIn_readInt hsymbol hleft) fun a _ => ?_
        refine .bind (errorsIn_readInt hsymbol hright) fun b _ => ?_
        exact .bind (errorsIn_writeInt hsymbol _) fun _ _ => .ok _
  | compare comparison =>
      refine .bind (errorsIn_readInt hsymbol hleft) fun a _ => ?_
      exact .bind (errorsIn_readInt hsymbol hright) fun b _ => .ok _
  | equal | notEqual | and | or => exact .ok _

theorem errorsIn_apply (operator : BinaryOperator) {left right : Token}
    (hleft : OneLine left.text) (hright : OneLine right.text) :
    ErrorsIn ScriptError.OneLine (operator.apply left right) := by
  have hsymbol := operator.oneLine_symbol
  have hname := operator.oneLine_operands
  refine .bind (errorsIn_check hname hsymbol hleft) fun _ _ => ?_
  refine .bind (errorsIn_check hname hsymbol hright) fun _ _ => ?_
  exact operator.errorsIn_combine hleft hright

end BinaryOperator

theorem Operator.oneLine_symbol (operator : Operator) : OneLine operator.symbol := by
  cases operator with
  | assign => decide
  | binary operator => exact operator.oneLine_symbol

namespace Machine

variable {base : Nat} {machine : Machine} {token left right : Token} {before : List Token}

theorem errorsIn_valueOf (htoken : OneLine token.text) :
    ErrorsIn ScriptError.OneLine (machine.valueOf token) := by
  unfold valueOf
  split
  · split
    · exact .ok _
    · refine .error ?_
      simpa [ScriptError.OneLine, ScriptError.exprs] using htoken
  · exact .ok token

theorem errorsIn_operand (hbefore : ∀ token ∈ before, token.OnLine) {operator side : String}
    (hoperator : OneLine operator) (hside : OneLine side) (i : Nat) (named : Bool) :
    ErrorsIn ScriptError.OneLine (machine.operand before[i]? operator side named) := by
  unfold operand
  split
  · refine .error ?_
    simpa [ScriptError.OneLine, ScriptError.exprs] using ⟨hoperator, hside⟩
  · rename_i neighbor hneighbor
    split
    · exact .ok neighbor
    · exact errorsIn_valueOf (hbefore neighbor (List.mem_of_getElem? hneighbor)).oneLine

theorem errorsIn_apply (operator : Operator) (hleft : OneLine left.text)
    (hright : OneLine right.text) :
    ErrorsIn ScriptError.OneLine (machine.apply operator left right) := by
  cases operator with
  | assign =>
      simp only [apply, store]
      split
      · exact .bind (errorsIn_check (by decide) (by decide) hright) fun _ _ => .ok _
      · exact .error (oneLine_typeMismatch (by decide) (by decide) hleft)
  | binary operator => exact .bind (operator.errorsIn_apply hleft hright) fun _ _ => .ok _

theorem WellTyped.popAbove (h : machine.WellTyped) (base : Nat) :
    (∀ value ∈ (machine.popAbove base).1, value.IsValue) ∧
      (machine.popAbove base).2.WellTyped := by
  rw [popAbove_eq]
  split
  · exact ⟨fun value hvalue => h.stack value (List.mem_of_mem_head? hvalue),
      h.of_suffix (List.tail_suffix machine.stack)⟩
  · exact ⟨by simp, h⟩

theorem oneLine_of_isValue_or_onLine (h : token.IsValue ∨ token.OnLine) : OneLine token.text :=
  h.elim Token.IsValue.oneLine Token.OnLine.oneLine

theorem errorsIn_perform (h : machine.WellTyped) (hbefore : ∀ token ∈ before, token.OnLine)
    (operator : Operator) {right? : Option Token} (hright? : ∀ right ∈ right?, right.IsValue) :
    ErrorsIn ScriptError.OneLine (machine.perform operator right? before) := by
  have hsymbol := operator.oneLine_symbol
  cases right? with
  | some right =>
      refine .bind (errorsIn_operand hbefore hsymbol (by decide) 0 _) fun left hleft => ?_
      refine .bind (errorsIn_apply operator ?_ (hright? right rfl).oneLine) fun _ _ => .ok _
      exact oneLine_of_isValue_or_onLine (h.operand hbefore hleft)
  | none =>
      refine .bind (errorsIn_operand hbefore hsymbol (by decide) 0 _) fun right hright => ?_
      refine .bind (errorsIn_operand hbefore hsymbol (by decide) 1 _) fun left hleft => ?_
      refine .bind (errorsIn_apply operator ?_ ?_) fun _ _ => .ok _
      · exact oneLine_of_isValue_or_onLine (h.operand hbefore hleft)
      · exact oneLine_of_isValue_or_onLine (h.operand hbefore hright)

/-- No error of a turn has a newline in its message. -/
theorem errorsIn_takeTurn (h : machine.WellTyped) (htoken : token.OnLine)
    (hbefore : ∀ token ∈ before, token.OnLine) :
    ErrorsIn ScriptError.OneLine (takeTurn base machine token before).1 := by
  unfold takeTurn
  cases token.kind with
  | number | string | boolean | symbol => exact .ok 0
  | identifier =>
      simp only
      have hvisit : ErrorsIn ScriptError.OneLine (machine.visit token) := by
        unfold visit
        split
        · exact .ok _
        · exact .bind (errorsIn_valueOf htoken.oneLine) fun _ _ => .ok _
      cases hvisited : machine.visit token with
      | error error => exact .error (hvisit error hvisited)
      | ok next => exact .ok 0
  | operator =>
      simp only [operate]
      split
      · refine .error ?_
        simpa [ScriptError.OneLine, ScriptError.exprs] using htoken.oneLine
      · rename_i operator _
        obtain ⟨hright, hpopped⟩ := h.popAbove base
        split
        · rename_i error hperform
          exact .error (errorsIn_perform hpopped hbefore operator hright error hperform)
        · exact .ok _

/-- The error that stops a run has no newline in its message. -/
theorem WellTyped.oneLine_of_run {program : List Line} {fault : Fault} (h : machine.WellTyped)
    (hprogram : ∀ line ∈ program, ∀ token ∈ line.tokens, token.OnLine)
    (hfault : (machine.run program).error = some fault) : fault.error.OneLine := by
  obtain ⟨done, line, rest, rfl, reached, hpasses, hfails⟩ := exists_failsOn hfault
  have hreached : reached.WellTyped := by
    have hdone := h.evaluateLines fun other hother =>
      hprogram other (List.mem_append_left _ hother)
    rwa [hpasses.evaluateLines_eq] at hdone
  have hline := hprogram line (List.mem_append_right _ List.mem_cons_self)
  obtain ⟨error, herror, rfl⟩ := Option.map_eq_some_iff.mp hfails
  obtain ⟨last, token, before, next, hreaches, hturn⟩ := exists_turn_of_error herror
  have hpoint := (Point.WellTyped.start hreached hline).reaches hreaches
  obtain ⟨htoken, hbefore⟩ := List.forall_mem_cons.mp hpoint.before
  exact errorsIn_takeTurn hpoint.machine htoken hbefore error (congrArg Prod.fst hturn)

end Machine

end StackScript
