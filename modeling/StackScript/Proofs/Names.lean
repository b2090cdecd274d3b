import StackScript.Proofs.Frame
import StackScript.Proofs.Session

/-!
# The names of a program

A name is read only where a line holds it, as a value that is fetched or as an operand, and stored
only where it is written next to an assignment. So a run goes the same way whatever the variables
are that the program does not mention, and none but the targets of its assignments change. No name
is ever forgotten, even when an error cuts the run short.
-/

namespace StackScript

/-- The same error, or results that are related. -/
inductive Alike {ε α β : Type} (related : α → β → Prop) : Except ε α → Except ε β → Prop
  | error {error : ε} : Alike related (.error error) (.error error)
  | ok {a : α} {b : β} : related a b → Alike related (.ok a) (.ok b)

namespace Alike

variable {ε α β γ δ : Type} {related : α → β → Prop} {related' : γ → δ → Prop}

theorem bind {x : Except ε α} {y : Except ε β} {f : α → Except ε γ} {g : β → Except ε δ}
    (h : Alike related x y) (hnext : ∀ a b, related a b → Alike related' (f a) (g b)) :
    Alike related' (x >>= f) (y >>= g) := by
  cases h with
  | error => exact .error
  | ok hrelated => exact hnext _ _ hrelated

theorem bind_same (x : Except ε α) {f : α → Except ε γ} {g : α → Except ε δ}
    (hnext : ∀ a, Alike related' (f a) (g a)) : Alike related' (x >>= f) (x >>= g) := by
  cases x with
  | error error => exact .error
  | ok a => exact hnext a

theorem exists_eq {x : Except ε α} {y : Except ε β} (h : Alike related x y) :
    (∃ error, x = .error error ∧ y = .error error) ∨
      ∃ a b, x = .ok a ∧ y = .ok b ∧ related a b := by
  cases h with
  | error => exact Or.inl ⟨_, rfl, rfl⟩
  | ok hrelated => exact Or.inr ⟨_, _, rfl, rfl, hrelated⟩

end Alike

/-! ### The names that are read -/

namespace Line

def Mentions (line : Line) (name : String) : Prop :=
  ⟨.identifier, name⟩ ∈ line.tokens

instance (line : Line) (name : String) : Decidable (line.Mentions name) :=
  inferInstanceAs (Decidable (_ ∈ line.tokens))

end Line

/-- The token is no name, or one of those given. -/
def Token.NamedIn (names : String → Prop) (token : Token) : Prop :=
  token.kind = .identifier → names token.text

theorem Line.namedIn_of_mem {line : Line} {token : Token} (h : token ∈ line.tokens) :
    token.NamedIn line.Mentions := by
  obtain ⟨kind, text⟩ := token
  rintro rfl
  exact h

namespace Machine

/-- Two machines that differ at most in variables with other names than those given. -/
structure AgreeOn (names : String → Prop) (machine other : Machine) : Prop where
  stack : other.stack = machine.stack
  aborted : other.aborted = machine.aborted
  printed : other.printed = machine.printed
  vars : ∀ name, names name → other.vars.find? name = machine.vars.find? name

/-- The same answer, with machines that agree. -/
def AgreedOn {α : Type} (names : String → Prop) (result other : α × Machine) : Prop :=
  other.1 = result.1 ∧ AgreeOn names result.2 other.2

namespace AgreeOn

variable {names : String → Prop} {machine other : Machine} {token : Token} {before : List Token}

theorem push (h : AgreeOn names machine other) (value : Token) :
    AgreeOn names (machine.push value) (other.push value) :=
  ⟨congrArg (value :: ·) h.stack, h.aborted, h.printed, h.vars⟩

theorem assign (h : AgreeOn names machine other) (name : String) (value : Token) :
    AgreeOn names { machine with vars := machine.vars.assign name value }
      { other with vars := other.vars.assign name value } := by
  refine ⟨h.stack, h.aborted, h.printed, fun key hkey => ?_⟩
  by_cases heq : key = name
  · subst heq
    simp
  · simp only [Variables.find?_assign_of_ne _ heq]
    exact h.vars key hkey

theorem popAbove (h : AgreeOn names machine other) (base : Nat) :
    AgreedOn names (machine.popAbove base) (other.popAbove base) := by
  rw [popAbove_eq, popAbove_eq, h.stack]
  split
  · exact ⟨rfl, rfl, h.aborted, h.printed, h.vars⟩
  · exact ⟨rfl, h⟩

theorem print (h : AgreeOn names machine other) : AgreeOn names machine.print other.print := by
  rw [print_eq, print_eq, h.stack, h.printed]
  exact ⟨rfl, h.aborted, rfl, h.vars⟩

theorem valueOf (h : AgreeOn names machine other) (htoken : token.NamedIn names) :
    other.valueOf token = machine.valueOf token := by
  unfold Machine.valueOf
  by_cases hkind : token.kind = .identifier
  · rw [if_pos hkind, if_pos hkind, h.vars _ (htoken hkind)]
  · rw [if_neg hkind, if_neg hkind]

theorem operand (h : AgreeOn names machine other) (hbefore : ∀ token ∈ before, token.NamedIn names)
    (i : Nat) (operator side : String) (named : Bool) :
    other.operand before[i]? operator side named =
      machine.operand before[i]? operator side named := by
  unfold Machine.operand
  cases hneighbor : before[i]? with
  | none => rfl
  | some token => simp only [h.valueOf (hbefore token (List.mem_of_getElem? hneighbor))]

theorem apply (h : AgreeOn names machine other) (operator : Operator) (left right : Token) :
    Alike (AgreeOn names) (machine.apply operator left right)
      (other.apply operator left right) := by
  cases operator with
  | assign =>
      simp only [Machine.apply, store]
      split
      · exact .bind_same _ fun _ => .ok (h.assign left.text right)
      · exact .error
  | binary operator => exact .bind_same _ fun value => .ok (h.push value)

theorem perform (h : AgreeOn names machine other) (hbefore : ∀ token ∈ before, token.NamedIn names)
    (operator : Operator) (right? : Option Token) :
    Alike (AgreedOn names) (machine.perform operator right? before)
      (other.perform operator right? before) := by
  have happly : ∀ (used : Nat) (left right : Token),
      Alike (AgreedOn names) (do return (used, ← machine.apply operator left right))
        (do return (used, ← other.apply operator left right)) := fun used left right =>
    (h.apply operator left right).bind fun _ _ hnext => .ok ⟨rfl, hnext⟩
  cases right? with
  | some right =>
      simp only [Machine.perform, h.operand hbefore]
      exact .bind_same _ fun left => happly 1 left right
  | none =>
      simp only [Machine.perform, h.operand hbefore]
      exact .bind_same _ fun right => .bind_same _ fun left => happly 2 left right

theorem operate (h : AgreeOn names machine other) (hbefore : ∀ token ∈ before, token.NamedIn names)
    (symbol : String) (base : Nat) :
    AgreedOn names (machine.operate symbol before base) (other.operate symbol before base) := by
  unfold Machine.operate
  cases Operator.ofSymbol? symbol with
  | none => exact ⟨rfl, h⟩
  | some operator =>
      obtain ⟨hright, hpopped⟩ := h.popAbove base
      simp only [hright]
      obtain ⟨error, hfails, hfails'⟩ | ⟨result, result', hdone, hdone', hused, hnext⟩ :=
        (hpopped.perform hbefore operator (machine.popAbove base).1).exists_eq
      · rw [hfails, hfails']
        exact ⟨rfl, hpopped⟩
      · rw [hdone, hdone']
        exact ⟨congrArg Except.ok hused, hnext⟩

theorem visit (h : AgreeOn names machine other) (htoken : token.NamedIn names) :
    Alike (AgreeOn names) (machine.visit token) (other.visit token) := by
  unfold Machine.visit
  split
  · exact .ok h.print
  · rw [h.valueOf htoken]
    exact .bind_same _ fun value => .ok (h.push value)

theorem takeTurn (h : AgreeOn names machine other) (htoken : token.NamedIn names)
    (hbefore : ∀ token ∈ before, token.NamedIn names) (base : Nat) :
    AgreedOn names (Machine.takeTurn base machine token before)
      (Machine.takeTurn base other token before) := by
  unfold Machine.takeTurn
  cases token.kind with
  | number | string | boolean => exact ⟨rfl, h.push token⟩
  | identifier =>
      obtain ⟨error, hfails, hfails'⟩ | ⟨next, next', hdone, hdone', hnext⟩ :=
        (h.visit htoken).exists_eq
      · simp only [hfails, hfails']
        exact ⟨rfl, h⟩
      · simp only [hdone, hdone']
        exact ⟨rfl, hnext⟩
  | operator => exact h.operate hbefore token.text base
  | symbol => exact ⟨rfl, h⟩

/-- Machines that agree on the names among the tokens go through them alike. -/
theorem evaluate (h : AgreeOn names machine other) (hbefore : ∀ token ∈ before, token.NamedIn names)
    (base skip : Nat) :
    (Machine.evaluate base skip before other).error =
        (Machine.evaluate base skip before machine).error ∧
      AgreeOn names (Machine.evaluate base skip before machine).machine
        (Machine.evaluate base skip before other).machine := by
  induction before generalizing skip machine other with
  | nil => cases skip <;> exact ⟨rfl, h⟩
  | cons token before ih =>
      obtain ⟨htoken, hrest⟩ := List.forall_mem_cons.mp hbefore
      cases skip with
      | succ skip => exact ih h hrest skip
      | zero =>
          obtain ⟨hanswer, hnext⟩ := h.takeTurn htoken hrest base
          rw [evaluate_cons, evaluate_cons]
          match hturn : Machine.takeTurn base machine token before,
              hturn' : Machine.takeTurn base other token before with
          | (.ok used, next), (answer, next') =>
              rw [hturn, hturn'] at hanswer hnext
              subst hanswer
              exact ih hnext hrest used
          | (.error error, next), (answer, next') =>
              rw [hturn, hturn'] at hanswer hnext
              subst hanswer
              exact ⟨rfl, hnext⟩

theorem evaluateLine (h : AgreeOn names machine other) {line : Line}
    (hline : ∀ name, line.Mentions name → names name) :
    (other.evaluateLine line).error = (machine.evaluateLine line).error ∧
      AgreeOn names (machine.evaluateLine line).machine (other.evaluateLine line).machine := by
  have hbefore : ∀ token ∈ line.tokens.reverse, token.NamedIn names := by
    intro token htoken hkind
    exact hline token.text (Line.namedIn_of_mem (List.mem_reverse.mp htoken) hkind)
  obtain ⟨herror, hmachine⟩ := h.evaluate hbefore machine.stack.length 0
  simp only [Machine.evaluateLine, h.stack, herror, true_and]
  exact hmachine

theorem evaluateLines (h : AgreeOn names machine other) {program : List Line}
    (hprogram : ∀ line ∈ program, ∀ name, line.Mentions name → names name) :
    (Machine.evaluateLines program other).error = (Machine.evaluateLines program machine).error ∧
      AgreeOn names (Machine.evaluateLines program machine).machine
        (Machine.evaluateLines program other).machine := by
  induction program generalizing machine other with
  | nil => exact ⟨rfl, h⟩
  | cons line rest ih =>
      obtain ⟨hline, hrest⟩ := List.forall_mem_cons.mp hprogram
      obtain ⟨herror, hmachine⟩ := h.evaluateLine hline
      rw [evaluateLines_cons, evaluateLines_cons, herror]
      cases (machine.evaluateLine line).error with
      | none => exact ih hmachine hrest
      | some fault => exact ⟨herror, hmachine⟩

theorem run (other : Machine) (h : AgreeOn names machine { other with aborted := machine.aborted })
    {program : List Line} (hprogram : ∀ line ∈ program, ∀ name, line.Mentions name → names name) :
    (other.run program).error = (machine.run program).error ∧
      AgreeOn names (machine.run program).machine (other.run program).machine := by
  have hready : AgreeOn names { machine with aborted := false } { other with aborted := false } :=
    ⟨h.stack, rfl, h.printed, h.vars⟩
  obtain ⟨herror, hmachine⟩ := hready.evaluateLines hprogram
  rw [run_error, run_error, run_machine, run_machine, herror]
  refine ⟨rfl, ?_⟩
  split
  · exact hmachine
  · exact ⟨rfl, rfl, hmachine.printed, hmachine.vars⟩

end AgreeOn

end Machine

/-! ### The names that are stored -/

namespace Line

/-- The name stands one or two places before an assignment. -/
def Assigns (line : Line) (name : String) : Prop :=
  ∃ i : Nat, line.tokens[i]? = some ⟨.operator, Operator.assign.symbol⟩ ∧
    (line.neighbor? i (-1) = some ⟨.identifier, name⟩ ∨
      line.neighbor? i (-2) = some ⟨.identifier, name⟩)

theorem assigns_iff {line : Line} {name : String} :
    line.Assigns name ↔
      ∃ i : Fin line.tokens.length, line.tokens[i] = ⟨.operator, Operator.assign.symbol⟩ ∧
        (line.neighbor? i (-1) = some ⟨.identifier, name⟩ ∨
          line.neighbor? i (-2) = some ⟨.identifier, name⟩) := by
  constructor
  · rintro ⟨i, hassign, hname⟩
    obtain ⟨hi, hassign⟩ := List.getElem?_eq_some_iff.mp hassign
    exact ⟨⟨i, hi⟩, hassign, hname⟩
  · rintro ⟨i, hassign, hname⟩
    exact ⟨i, List.getElem?_eq_some_iff.mpr ⟨i.isLt, hassign⟩, hname⟩

instance (line : Line) (name : String) : Decidable (line.Assigns name) :=
  decidable_of_iff _ assigns_iff.symm

theorem exists_index {line : Line} {token : Token} {before : List Token}
    (h : token :: before <:+ line.tokens.reverse) :
    line.tokens[before.length]? = some token ∧ before.length ≤ line.tokens.length ∧
      before = line.before before.length := by
  obtain ⟨after, hsplit⟩ := h
  have htokens : line.tokens = before.reverse ++ token :: after.reverse := by
    rw [← List.reverse_reverse line.tokens, ← hsplit]
    simp
  refine ⟨?_, ?_, ?_⟩
  · simp [htokens]
  · simp [htokens]
  · simp [Line.before, htokens]

theorem assigns_of_operand {line : Line} {before : List Token} {name : String} {k : Nat}
    (hsuffix : (⟨.operator, Operator.assign.symbol⟩ : Token) :: before <:+ line.tokens.reverse)
    (hk : k < 2) (hname : before[k]? = some ⟨.identifier, name⟩) : line.Assigns name := by
  obtain ⟨htoken, hle, hbefore⟩ := exists_index hsuffix
  rw [hbefore, before_getElem? line hle] at hname
  refine ⟨before.length, htoken, ?_⟩
  obtain rfl | rfl : k = 0 ∨ k = 1 := by omega
  · exact Or.inl hname
  · exact Or.inr hname

end Line

/-- The table has all the names it had, and gives none but those named another value. -/
structure Variables.Updates (names : String → Prop) (vars next : Variables) : Prop where
  kept : ∀ name, (vars.find? name).isSome → (next.find? name).isSome
  changed : ∀ name, next.find? name ≠ vars.find? name → names name

namespace Variables.Updates

variable {names names' : String → Prop} {vars next last : Variables}

theorem refl (names : String → Prop) (vars : Variables) : Updates names vars vars :=
  ⟨fun _ h => h, fun _ h => absurd rfl h⟩

theorem trans (h : Updates names vars next) (hnext : Updates names next last) :
    Updates names vars last := by
  refine ⟨fun name hname => hnext.kept name (h.kept name hname), fun name hname => ?_⟩
  by_cases heq : last.find? name = next.find? name
  · exact h.changed name fun hsame => hname (heq.trans hsame)
  · exact hnext.changed name heq

theorem mono (h : Updates names vars next) (hsubset : ∀ name, names name → names' name) :
    Updates names' vars next :=
  ⟨h.kept, fun name hname => hsubset name (h.changed name hname)⟩

theorem assign {name : String} (hname : names name) (vars : Variables) (value : Token) :
    Updates names vars (vars.assign name value) := by
  constructor
  · intro key hkey
    by_cases heq : key = name
    · simp [heq]
    · rwa [find?_assign_of_ne vars heq]
  · intro key hkey
    by_cases heq : key = name
    · rwa [heq]
    · exact absurd (find?_assign_of_ne vars heq value) hkey

end Variables.Updates

namespace Machine

open Variables (Updates)

variable {base used : Nat} {machine popped next : Machine} {token left right : Token}
  {before : List Token} {line : Line} {program : List Line}

theorem operand_named {neighbor? : Option Token} {operator side : String}
    (h : machine.operand neighbor? operator side true = .ok token) : neighbor? = some token := by
  unfold operand at h
  split at h
  · cases h
  · exact congrArg some (Except.ok.inj h)

theorem Operands.vars_eq {operator : Operator}
    (h : machine.Operands base operator before used popped left right) :
    popped.vars = machine.vars := by
  cases h <;> rfl

/-- The target of an assignment is one of the two tokens next to it. -/
theorem Operands.target (h : machine.Operands base .assign before used popped left right) :
    ∃ k < 2, before[k]? = some left := by
  cases h with
  | stacked _ _ hleft => exact ⟨0, by omega, operand_named hleft⟩
  | trailing _ _ hleft => exact ⟨1, by omega, operand_named hleft⟩

theorem symbol_eq_of_ofSymbol?_assign {symbol : String}
    (h : Operator.ofSymbol? symbol = some .assign) : symbol = Operator.assign.symbol := by
  unfold Operator.ofSymbol? at h
  split at h
  · assumption
  · obtain ⟨operator, -, heq⟩ := Option.map_eq_some_iff.mp h
    cases heq

theorem Turn.updates (h : machine.Turn base token before used next)
    (hsuffix : token :: before <:+ line.tokens.reverse) :
    Updates line.Assigns machine.vars next.vars := by
  cases h with
  | literal | fetch | symbol => exact .refl _ _
  | print =>
      rw [print_eq]
      exact .refl _ _
  | @operator operator _ popped _ left right hkind hsymbol hoperands happly =>
      rw [← hoperands.vars_eq]
      cases operator with
      | assign =>
          obtain ⟨hidentifier, -, rfl⟩ := apply_assign_eq_ok_iff.mp happly
          obtain ⟨k, hk, htarget⟩ := hoperands.target
          obtain ⟨kind, text⟩ := token
          obtain rfl := symbol_eq_of_ofSymbol?_assign hsymbol
          obtain rfl : kind = .operator := hkind
          obtain ⟨kind, name⟩ := left
          obtain rfl : kind = .identifier := hidentifier
          exact .assign (Line.assigns_of_operand hsuffix hk htarget) _ _
      | binary operator =>
          obtain ⟨value, -, rfl⟩ := apply_binary_eq_ok_iff.mp happly
          exact .refl _ _

theorem Fails.vars_eq (h : machine.Fails base token next) : next.vars = machine.vars := by
  cases h <;> rfl

theorem evaluateLine_updates (machine : Machine) (line : Line) :
    Updates line.Assigns machine.vars (machine.evaluateLine line).machine.vars := by
  refine evaluateLine_preserves
    (motive := fun next => Updates line.Assigns machine.vars next.vars) (fun q hreaches => ?_)
    fun hfails h => hfails.vars_eq ▸ h
  -- along the way the tokens to come stay the end of the reversed line
  have hreached : Updates line.Assigns machine.vars q.machine.vars ∧
      q.before <:+ line.tokens.reverse := by
    refine hreaches.preserves
      (motive := fun p => Updates line.Assigns machine.vars p.machine.vars ∧
        p.before <:+ line.tokens.reverse) ?_ ⟨.refl _ _, List.suffix_rfl⟩
    rintro p q hstep ⟨hupdates, hsuffix⟩
    cases hstep with
    | skip => exact ⟨hupdates, (List.suffix_cons _ _).trans hsuffix⟩
    | turn hturn =>
        exact ⟨hupdates.trans (hturn.updates hsuffix), (List.suffix_cons _ _).trans hsuffix⟩
  exact hreached.1

/-- A run keeps every name and changes none but the targets of its assignments. -/
theorem run_updates (machine : Machine) (program : List Line) :
    Updates (fun name => ∃ line ∈ program, line.Assigns name) machine.vars
      (machine.run program).machine.vars := by
  have hlines : Updates (fun name => ∃ line ∈ program, line.Assigns name) machine.vars
      (evaluateLines program { machine with aborted := false }).machine.vars := by
    refine evaluateLines_preserves (motive := fun next =>
      Updates (fun name => ∃ line ∈ program, line.Assigns name) machine.vars next.vars) ?_
      (.refl _ _)
    intro line hline next hnext
    exact hnext.trans ((evaluateLine_updates next line).mono fun _ h => ⟨line, hline, h⟩)
  rw [run_machine]
  split <;> exact hlines

end Machine

namespace Interpreter

/-- **Names.** A run has the same outcome, output and report, and leaves the same stack, whatever the variables are that its program does not mention, and those it mentions end alike. It forgets no name, and changes none that does not stand one or two places before an assignment. -/
theorem execute_mentioned (interpreter : Interpreter) (program : List Line) :
    (∀ vars aborted,
        (∀ name, (∃ line ∈ program, line.Mentions name) →
          vars.find? name = interpreter.machine.vars.find? name) →
        let other := { interpreter with
          machine := { interpreter.machine with vars := vars, aborted := aborted } }
        (other.execute program).2 = (interpreter.execute program).2 ∧
          (other.execute program).1.machine.stack =
            (interpreter.execute program).1.machine.stack ∧
          (other.execute program).1.machine.aborted =
            (interpreter.execute program).1.machine.aborted ∧
          ∀ name, (∃ line ∈ program, line.Mentions name) →
            (other.execute program).1.machine.vars.find? name =
              (interpreter.execute program).1.machine.vars.find? name) ∧
      (∀ name, (interpreter.machine.vars.find? name).isSome →
        ((interpreter.execute program).1.machine.vars.find? name).isSome) ∧
      ∀ name, (interpreter.execute program).1.machine.vars.find? name ≠
          interpreter.machine.vars.find? name →
        ∃ line ∈ program, line.Assigns name := by
  have hupdates := interpreter.machine.run_updates program
  refine ⟨fun vars aborted hvars => ?_, hupdates.kept, hupdates.changed⟩
  have hagree : Machine.AgreeOn (fun name => ∃ line ∈ program, line.Mentions name)
      interpreter.machine
      { interpreter.machine with vars := vars, aborted := interpreter.machine.aborted } :=
    ⟨rfl, rfl, rfl, hvars⟩
  obtain ⟨herror, hmachine⟩ :=
    Machine.AgreeOn.run { interpreter.machine with vars := vars, aborted := aborted } hagree
      fun line hline name hname => ⟨line, hline, hname⟩
  refine ⟨?_, hmachine.stack, hmachine.aborted, hmachine.vars⟩
  simp only [execute, herror, Machine.output, hmachine.printed]

/-- The lines `x = y + 1` and `q print x` do not look at `z`: with it or without it the first stores 3, and the second prints that and then fails. -/
theorem execute_mentioned_spare :
    let interpreter := { atPrompt {} false with machine.vars.entries := [("y", ⟨.number, "2"⟩)] }
    let vars : Variables := ⟨[("y", ⟨.number, "2"⟩), ("z", ⟨.boolean, "true"⟩)]⟩
    let program : List Line :=
      [⟨1, [⟨.identifier, "x"⟩, ⟨.operator, "="⟩, ⟨.identifier, "y"⟩, ⟨.operator, "+"⟩,
          ⟨.number, "1"⟩], "x = y + 1"⟩,
        ⟨2, [⟨.identifier, "q"⟩, ⟨.identifier, "print"⟩, ⟨.identifier, "x"⟩], "q print x"⟩]
    let other := { interpreter with
      machine := { interpreter.machine with vars := vars, aborted := true } }
    (∀ name, (∃ line ∈ program, line.Mentions name) →
        vars.find? name = interpreter.machine.vars.find? name) ∧
      (interpreter.execute program).2 =
        { fault := some ⟨.unknownIdentifier "q", 2⟩
          out := "3\n"
          err := "<in>:2: error: unknown identifier 'q'\n" } ∧
      (other.execute program).2 = (interpreter.execute program).2 ∧
      (interpreter.execute program).1.machine.vars.find? "x" = some ⟨.number, "3"⟩ ∧
      ∃ line ∈ program, line.Assigns "x" := by
  intro interpreter vars program other
  have hspare : ∀ line ∈ program, ¬ line.Mentions "z" := by decide
  have hvars : ∀ name, (∃ line ∈ program, line.Mentions name) →
      vars.find? name = interpreter.machine.vars.find? name := by
    rintro name ⟨line, hline, hname⟩
    have hne : (name == "z") = false := beq_false_of_ne fun heq => hspare line hline (heq ▸ hname)
    simp [vars, interpreter, Variables.find?, List.lookup_cons, hne]
  obtain ⟨hagree, -, hchanged⟩ := execute_mentioned interpreter program
  have hstored : (interpreter.execute program).1.machine.vars.find? "x" =
      some ⟨.number, "3"⟩ := by
    decide +kernel
  refine ⟨hvars, by decide +kernel, (hagree vars true hvars).1, hstored, hchanged "x" ?_⟩
  rw [hstored]
  decide +kernel

end Interpreter

end StackScript
