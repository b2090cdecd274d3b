import Mathlib.Data.List.Forall2
import StackScript.Proofs.Names

/-!
# Values in place of names

A name that holds a value can be replaced by that value in any line that does not write the name
next to an assignment. In its turn the name pushes the value, as the value itself does, and an
operator that finds the name next to it looks the value up. Only an assignment takes a name as it
is written, and only an assignment could make the name stand for something else further on.
-/

namespace StackScript

namespace Line

/-- The line with a value written in place of a name, at those of the places chosen where the name stands. -/
def substitute (line : Line) (name : String) (value : Token) (chosen : Nat → Bool) : Line :=
  { line with
    tokens := line.tokens.mapIdx fun i token =>
      if chosen i ∧ token = ⟨.identifier, name⟩ then value else token }

end Line

/-- `Replaces name value token other`: the second token is the first, or the value in place of the name. -/
inductive Token.Replaces (name : String) (value : Token) : Token → Token → Prop
  | same (token : Token) : Replaces name value token token
  | value : Replaces name value ⟨.identifier, name⟩ value

theorem Line.replaces_substitute (line : Line) (name : String) (value : Token)
    (chosen : Nat → Bool) :
    List.Forall₂ (Token.Replaces name value) line.tokens
      (line.substitute name value chosen).tokens := by
  refine List.forall₂_iff_get.mpr ⟨by simp [substitute], fun i hi hi' => ?_⟩
  simp only [substitute, List.get_eq_getElem, List.getElem_mapIdx]
  split
  · rename_i hchosen
    rw [hchosen.2]
    exact .value
  · exact .same _

theorem rel_getElem? {α β : Type} {related : α → β → Prop} {l : List α} {l' : List β}
    (h : List.Forall₂ related l l') (k : Nat) : Option.Rel related l[k]? l'[k]? := by
  induction h generalizing k with
  | nil => exact .none
  | cons hrelated _ ih =>
      cases k with
      | zero => exact .some hrelated
      | succ k => exact ih k

namespace Machine

variable {base skip : Nat} {machine : Machine} {name : String} {value token other : Token}
  {before before' : List Token} {line : Line}

section Operand

variable (hvalue : machine.vars.find? name = some value) (hkind : value.kind ∈ TokenKind.literals)
include hvalue hkind

theorem valueOf_replaces (h : Token.Replaces name value token other) :
    machine.valueOf other = machine.valueOf token := by
  cases h with
  | same => rfl
  | value => rw [valueOf_literal hkind, (valueOf_identifier rfl).mpr hvalue]

theorem operand_replaces (h : List.Forall₂ (Token.Replaces name value) before before') {k : Nat}
    {named : Bool} (hnamed : named = true → before[k]? ≠ some ⟨.identifier, name⟩)
    (operator side : String) :
    machine.operand before'[k]? operator side named =
      machine.operand before[k]? operator side named := by
  have hrel := rel_getElem? h k
  generalize before[k]? = neighbor at hrel hnamed
  generalize before'[k]? = neighbor' at hrel
  cases hrel with
  | none => rfl
  | some hreplaces =>
      cases named with
      | false => exact valueOf_replaces hvalue hkind hreplaces
      | true =>
          cases hreplaces with
          | same => rfl
          | value => exact absurd rfl (hnamed rfl)

theorem perform_replaces (h : List.Forall₂ (Token.Replaces name value) before before')
    {operator : Operator}
    (htarget : operator = .assign → ∀ k < 2, before[k]? ≠ some ⟨.identifier, name⟩)
    (right? : Option Token) :
    machine.perform operator right? before' = machine.perform operator right? before := by
  have hoperand : ∀ k < 2, ∀ side,
      machine.operand before'[k]? operator.symbol side (decide (operator = .assign)) =
        machine.operand before[k]? operator.symbol side (decide (operator = .assign)) :=
    fun k hk => operand_replaces hvalue hkind h
      (fun hassign => htarget (of_decide_eq_true hassign) k hk) operator.symbol
  unfold perform
  simp only [hoperand 0 Nat.zero_lt_two, hoperand 1 Nat.one_lt_two]

theorem operate_replaces (h : List.Forall₂ (Token.Replaces name value) before before')
    {symbol : String}
    (htarget : symbol = Operator.assign.symbol →
      ∀ k < 2, before[k]? ≠ some ⟨.identifier, name⟩) :
    machine.operate symbol before' base = machine.operate symbol before base := by
  have hpopped : (machine.popAbove base).2.vars.find? name = some value := by
    rw [popAbove_eq]
    split <;> exact hvalue
  unfold operate
  cases hsymbol : Operator.ofSymbol? symbol with
  | none => rfl
  | some operator =>
      have hassign : operator = .assign → ∀ k < 2, before[k]? ≠ some ⟨.identifier, name⟩ := by
        rintro rfl
        exact htarget (symbol_eq_of_ofSymbol?_assign hsymbol)
      simp only [perform_replaces hpopped hkind h hassign]

theorem takeTurn_replaces (hname : name ≠ printName)
    (htoken : Token.Replaces name value token other)
    (h : List.Forall₂ (Token.Replaces name value) before before')
    (htarget : token = ⟨.operator, Operator.assign.symbol⟩ →
      ∀ k < 2, before[k]? ≠ some ⟨.identifier, name⟩) :
    takeTurn base machine other before' = takeTurn base machine token before := by
  cases htoken with
  | value =>
      have hpush : machine.Turn base value before' 0 (machine.push value) := .literal hkind
      have hfetch : machine.Turn base ⟨.identifier, name⟩ before 0 (machine.push value) :=
        .fetch rfl hname hvalue
      rw [takeTurn_eq_ok_iff.mpr hpush, takeTurn_eq_ok_iff.mpr hfetch]
  | same =>
      obtain ⟨kind, text⟩ := token
      cases kind with
      | operator =>
          refine operate_replaces hvalue hkind h fun hsymbol => htarget ?_
          rw [← hsymbol]
      | identifier | number | string | boolean | symbol => rfl

end Operand

/-- Along the line the name goes on to hold the value, as no assignment has it for a target. -/
theorem evaluate_replaces (hname : name ≠ printName) (hkind : value.kind ∈ TokenKind.literals)
    (hassigns : ¬ line.Assigns name) (hvalue : machine.vars.find? name = some value)
    (hsuffix : before <:+ line.tokens.reverse)
    (h : List.Forall₂ (Token.Replaces name value) before before') :
    evaluate base skip before' machine = evaluate base skip before machine := by
  induction h generalizing skip machine with
  | nil => rfl
  | @cons token other before before' htoken hrest ih =>
      have hrestSuffix : before <:+ line.tokens.reverse :=
        (List.suffix_cons token before).trans hsuffix
      cases skip with
      | succ skip => exact ih hvalue hrestSuffix
      | zero =>
          have htarget : token = ⟨.operator, Operator.assign.symbol⟩ →
              ∀ k < 2, before[k]? ≠ some ⟨.identifier, name⟩ := by
            rintro rfl k hk hneighbor
            exact hassigns (Line.assigns_of_operand hsuffix hk hneighbor)
          rw [evaluate_cons, evaluate_cons,
            takeTurn_replaces hvalue hkind hname htoken hrest htarget]
          match hturn : takeTurn base machine token before with
          | (.error error, next) => rfl
          | (.ok used, next) =>
              -- a turn that changed the variable would show an assignment to it in the line
              have hupdates := (takeTurn_eq_ok_iff.mp hturn).updates hsuffix
              have hnext : next.vars.find? name = some value := by
                by_contra hne
                exact hassigns (hupdates.changed name fun heq => hne (heq.trans hvalue))
              exact ih hnext hrestSuffix

/-- **A name stands for its value.** Where a name holds a literal and no assignment of the line has it one or two places before it, writing the literal in place of the name, in any places, changes nothing: the line ends with the same error, output, stack and variables. -/
theorem evaluateLine_substitute {machine : Machine} {name : String} {value : Token} {line : Line}
    (hname : name ≠ printName) (hvalue : machine.vars.find? name = some value)
    (hkind : value.kind ∈ TokenKind.literals) (hassigns : ¬ line.Assigns name)
    (chosen : Nat → Bool) :
    machine.evaluateLine (line.substitute name value chosen) = machine.evaluateLine line := by
  have hreplaces := List.forall₂_reverse_iff.mpr (line.replaces_substitute name value chosen)
  unfold evaluateLine
  rw [evaluate_replaces hname hkind hassigns hvalue List.suffix_rfl hreplaces]
  rfl

/-- With -02 in `x`, the line `y = x print x + x` is the same as `y = -02 print x + -02`: it stores -02 and prints -4. The line `q x + true` fails at its sum, with or without the name. -/
theorem evaluateLine_substitute_padded :
    let value : Token := ⟨.number, "-02"⟩
    let machine : Machine := { stack := [⟨.number, "9"⟩], vars.entries := [("x", value)] }
    let x : Token := ⟨.identifier, "x"⟩
    let sum : Token := ⟨.operator, "+"⟩
    let line : Line := ⟨1, [⟨.identifier, "y"⟩, ⟨.operator, "="⟩, x, ⟨.identifier, "print"⟩, x,
      sum, x], "y = x print x + x"⟩
    let failing : Line := ⟨2, [⟨.identifier, "q"⟩, x, sum, ⟨.boolean, "true"⟩], "q x + true"⟩
    "x" ≠ printName ∧ machine.vars.find? "x" = some value ∧ value.kind ∈ TokenKind.literals ∧
      ¬ line.Assigns "x" ∧ ¬ failing.Assigns "x" ∧
      (line.substitute "x" value (· ≠ 4)).tokens =
        [⟨.identifier, "y"⟩, ⟨.operator, "="⟩, value, ⟨.identifier, "print"⟩, x, sum, value] ∧
      machine.evaluateLine (line.substitute "x" value (· ≠ 4)) =
        { machine :=
            { stack := [⟨.number, "9"⟩]
              vars.entries := [("x", value), ("y", value)]
              printed := [⟨.number, "-4"⟩] } } ∧
      machine.evaluateLine (failing.substitute "x" value fun _ => true) =
        { machine, error := some ⟨.typeMismatch "+" "Number or String" "true", 2⟩ } := by
  intro value machine x sum line failing
  have hname : "x" ≠ printName := by decide
  have hvalue : machine.vars.find? "x" = some value := by decide
  have hkind : value.kind ∈ TokenKind.literals := by decide
  have hline : ¬ line.Assigns "x" := by decide +kernel
  have hfailing : ¬ failing.Assigns "x" := by decide +kernel
  refine ⟨hname, hvalue, hkind, hline, hfailing, by decide +kernel, ?_, ?_⟩
  · rw [evaluateLine_substitute hname hvalue hkind hline]
    decide +kernel
  · rw [evaluateLine_substitute hname hvalue hkind hfailing]
    decide +kernel

end Machine

end StackScript
