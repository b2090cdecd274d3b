import StackScript.Proofs.Session

/-!
# Where operators take their right operand from

An operator takes its right operand from the stack if the stack is higher than it was when the line
began. What a print takes may have been there before the line, though, and for each such value that
is lost one value of the line goes unnoticed. The origins of the values on the stack tell when the
test is right: it finds a value of the line exactly if the line has more of them there than earlier
values have been lost.
-/

namespace StackScript

/-- Where a value on the stack comes from: the line that is evaluated, or what was evaluated before it. -/
inductive Origin where
  | line
  | earlier
deriving DecidableEq, Repr

def Token.pushed (token : Token) : Nat :=
  match token.kind with
  | .number | .string | .boolean => 1
  | .identifier => if token.text = Machine.printName then 0 else 1
  | .operator => if Operator.ofSymbol? token.text = some .assign then 0 else 1
  | .symbol => 0

namespace Machine

/-- How many values a token takes off the stack in its turn, if there are as many. -/
def taken (base : Nat) (machine : Machine) (token : Token) : Nat :=
  match token.kind with
  | .identifier => if token.text = printName then 1 else 0
  | .operator => if base < machine.stack.length then 1 else 0
  | .number | .string | .boolean | .symbol => 0

variable {base used : Nat} {machine popped next : Machine} {token left right : Token}
  {before : List Token} {operator : Operator}

theorem Operands.stack_eq
    (h : machine.Operands base operator before used popped left right) :
    popped.stack = machine.stack.drop (if base < machine.stack.length then 1 else 0) := by
  cases h with
  | stacked hstack hlt =>
      rw [if_pos hlt, hstack]
      rfl
  | trailing hle => simp [Nat.not_lt.mpr hle]

theorem stack_of_apply (h : machine.apply operator left right = .ok next) :
    ∃ values, values.length = (if operator = .assign then 0 else 1) ∧
      next.stack = values ++ machine.stack := by
  cases operator with
  | assign =>
      obtain ⟨-, -, rfl⟩ := apply_assign_eq_ok_iff.mp h
      exact ⟨[], by simp⟩
  | binary operator =>
      obtain ⟨value, -, rfl⟩ := apply_binary_eq_ok_iff.mp h
      exact ⟨[value], by simp, rfl⟩

/-- A turn takes values off the top of the stack and puts others there. -/
theorem Turn.stack_eq (h : machine.Turn base token before used next) :
    ∃ values, values.length = token.pushed ∧
      next.stack = values ++ machine.stack.drop (machine.taken base token) := by
  cases h with
  | literal hkind =>
      obtain ⟨kind, text⟩ := token
      cases kind <;> simp [TokenKind.literals] at hkind <;> exact ⟨[_], rfl, rfl⟩
  | @fetch value hkind hname =>
      exact ⟨[value], by simp [Token.pushed, hkind, hname], by simp [taken, hkind, hname, push]⟩
  | print hkind hname =>
      refine ⟨[], by simp [Token.pushed, hkind, hname], ?_⟩
      simp [taken, hkind, hname, print_eq]
  | operator hkind hsymbol hoperands happly =>
      obtain ⟨values, hlength, hstack⟩ := stack_of_apply happly
      refine ⟨values, ?_, ?_⟩
      · simp [hlength, Token.pushed, hkind, hsymbol]
      · rw [hstack, hoperands.stack_eq, taken, hkind]
  | symbol hkind =>
      exact ⟨[], by simp [Token.pushed, hkind], by simp [taken, hkind]⟩

end Machine

namespace Point

/-- `Tracks base p q origins`: the evaluation that begins at `p` comes to `q`, where the values on the stack have these origins. -/
inductive Tracks (base : Nat) (p : Point) : Point → List Origin → Prop
  | start : Tracks base p p (List.replicate p.machine.stack.length .earlier)
  | skip {machine : Machine} {skip : Nat} {token : Token} {before : List Token}
      {origins : List Origin} :
      Tracks base p ⟨machine, skip + 1, token :: before⟩ origins →
      Tracks base p ⟨machine, skip, before⟩ origins
  | turn {machine next : Machine} {token : Token} {before : List Token} {used : Nat}
      {origins : List Origin} :
      Tracks base p ⟨machine, 0, token :: before⟩ origins →
      machine.Turn base token before used next →
      Tracks base p ⟨next, used, before⟩
        (List.replicate token.pushed .line ++ origins.drop (machine.taken base token))

variable {base : Nat} {p q : Point} {origins : List Origin}

theorem tracks_of_reaches (h : Reaches base p q) : ∃ origins, Tracks base p q origins := by
  induction h with
  | refl => exact ⟨_, .start⟩
  | tail _ hstep ih =>
      obtain ⟨origins, htracks⟩ := ih
      cases hstep with
      | skip => exact ⟨origins, htracks.skip⟩
      | turn hturn => exact ⟨_, htracks.turn hturn⟩

theorem Tracks.reaches (h : Tracks base p q origins) : Reaches base p q := by
  induction h with
  | start => exact .refl
  | skip _ ih => exact ih.tail .skip
  | turn _ hturn ih => exact ih.tail (.turn hturn)

/-- The values of the line lie on top of the earlier ones. -/
theorem Tracks.layers (h : Tracks base p q origins) :
    ∃ own earlier, origins = List.replicate own .line ++ List.replicate earlier .earlier ∧
      q.machine.stack.length = own + earlier ∧ earlier ≤ p.machine.stack.length := by
  induction h with
  | start => exact ⟨0, p.machine.stack.length, by simp⟩
  | skip _ ih => exact ih
  | @turn machine next token _ _ origins _ hturn ih =>
      -- what a turn takes comes off the values of the line first, and what it puts there is one of them
      obtain ⟨own, earlier, rfl, hlength, hle⟩ := ih
      obtain ⟨values, hpushed, hstack⟩ := hturn.stack_eq
      have htop : (List.replicate own Origin.line ++ List.replicate earlier Origin.earlier).drop
          (machine.taken base token) =
            List.replicate (own - machine.taken base token) .line ++
              List.replicate (earlier - (machine.taken base token - own)) Origin.earlier := by
        simp [List.drop_append]
      refine ⟨token.pushed + (own - machine.taken base token),
        earlier - (machine.taken base token - own), ?_, ?_, by omega⟩
      · rw [htop, ← List.append_assoc, List.replicate_append_replicate]
      · simp only at hlength ⊢
        rw [hstack, List.length_append, List.length_drop, hpushed, hlength]
        omega

/-- How many of the earlier values are no longer on the stack. -/
def lost (base : Nat) (origins : List Origin) : Nat :=
  base - origins.count .earlier

theorem Tracks.base_lt_iff (h : Tracks base p q origins) (hbase : base = p.machine.stack.length) :
    base < q.machine.stack.length ↔ lost base origins < origins.count .line := by
  obtain ⟨own, earlier, rfl, hlength, hle⟩ := h.layers
  have hline : (List.replicate own Origin.line ++ List.replicate earlier Origin.earlier).count
      .line = own := by
    simp [List.count_append, List.count_replicate]
  have hearlier : (List.replicate own Origin.line ++ List.replicate earlier Origin.earlier).count
      .earlier = earlier := by
    simp [List.count_append, List.count_replicate]
  rw [lost, hline, hearlier]
  omega

theorem Tracks.head?_of_mem (h : Tracks base p q origins) (hmem : .line ∈ origins) :
    origins.head? = some .line := by
  obtain ⟨own, earlier, rfl, -, -⟩ := h.layers
  cases own with
  | zero => simp at hmem
  | succ own => rfl

/-- Whatever was on the stack before the line: an operator takes its right operand from there exactly if the line has more values there than earlier values have been lost. So it does what the values of the line ask for, an operand from the stack if there is one of them and else both from its left, exactly if there is none or there are more than that. -/
theorem form_iff {started : Machine} {line : Line}
    (hreaches : Reaches started.stack.length (start started line) q) :
    (∃ origins, Tracks started.stack.length (start started line) q origins) ∧
      ∀ origins, Tracks started.stack.length (start started line) q origins →
        ((q.machine.popAbove started.stack.length).1.isSome ↔
            lost started.stack.length origins < origins.count .line) ∧
          (((q.machine.popAbove started.stack.length).1.isSome ↔ .line ∈ origins) ↔
            .line ∉ origins ∨ lost started.stack.length origins < origins.count .line) ∧
          ∀ symbol operator before, Operator.ofSymbol? symbol = some operator →
            (lost started.stack.length origins < origins.count .line →
              ∃ right rest, q.machine.stack = right :: rest ∧ origins.head? = some .line ∧
                q.machine.operate symbol before started.stack.length =
                  { q.machine with stack := rest }.attempt operator (some right) before) ∧
            (origins.count .line ≤ lost started.stack.length origins →
              q.machine.operate symbol before started.stack.length =
                q.machine.attempt operator none before) := by
  refine ⟨tracks_of_reaches hreaches, fun origins h => ?_⟩
  have hlt := h.base_lt_iff rfl
  have hform : (q.machine.popAbove started.stack.length).1.isSome ↔
      lost started.stack.length origins < origins.count .line := by
    rw [← hlt, Machine.popAbove_isSome_iff]
  have hmem : lost started.stack.length origins < origins.count .line → .line ∈ origins :=
    fun hmore => List.count_pos_iff.mp (Nat.zero_lt_of_lt hmore)
  refine ⟨hform, ?_, fun symbol operator before hsymbol => ⟨fun hmore => ?_, fun hfew => ?_⟩⟩
  -- the stack test can only miss values of the line, never find one where there is none
  · rw [hform]
    constructor
    · intro hagree
      by_cases hline : .line ∈ origins
      · exact Or.inr (hagree.mpr hline)
      · exact Or.inl hline
    · rintro (hnone | hmore)
      · exact ⟨hmem, fun hline => absurd hline hnone⟩
      · exact ⟨hmem, fun _ => hmore⟩
  · have hhigh := hlt.mpr hmore
    obtain ⟨right, rest, hstack⟩ := Machine.exists_top hhigh
    exact ⟨right, rest, hstack, h.head?_of_mem (hmem hmore),
      Machine.operate_of_lt hsymbol hstack hhigh⟩
  · have hlow : q.machine.stack.length ≤ started.stack.length :=
      Nat.not_lt.mp fun hhigh => absurd (hlt.mp hhigh) (Nat.not_lt.mpr hfew)
    exact Machine.operate_of_le hsymbol hlow

theorem form_of_sum_after_leftover :
    ∃ (started : Machine) (line : Line) (q : Point) (origins : List Origin),
      started.stack = [⟨.number, "9"⟩] ∧
      Tracks started.stack.length (start started line) q origins ∧
      lost started.stack.length origins < origins.count .line ∧
      (q.machine.popAbove started.stack.length).1.isSome := by
  let started : Machine := { stack := [⟨.number, "9"⟩] }
  have htracks : Tracks started.stack.length
      (start started ⟨1, [⟨.number, "1"⟩, ⟨.operator, "+"⟩, ⟨.number, "2"⟩], "1 + 2"⟩)
      ⟨started.push ⟨.number, "2"⟩, 0, [⟨.operator, "+"⟩, ⟨.number, "1"⟩]⟩
      [.line, .earlier] :=
    .turn .start (.literal (by decide))
  have hmore : lost started.stack.length [.line, .earlier] <
      [Origin.line, .earlier].count .line := by
    decide
  exact ⟨started, _, _, _, rfl, htracks, hmore,
    ((form_iff htracks.reaches).2 _ htracks).1.mpr hmore⟩

/-- A print that takes an earlier value hides a value of the line: after `9`, the line `1 + 2 print` fails for want of a left operand. -/
theorem exists_hidden_operand :
    ∃ (interpreter : Interpreter) (line : Line) (q : Point) (origins : List Origin),
      interpreter.Reachable ∧ interpreter.program "1 + 2 print" = [line] ∧
      Tracks interpreter.machine.stack.length (start interpreter.machine line) q origins ∧
      q.before = [⟨.operator, "+"⟩, ⟨.number, "1"⟩] ∧ q.skip = 0 ∧ .line ∈ origins ∧
      (q.machine.popAbove interpreter.machine.stack.length).1.isSome = false ∧
      (interpreter.feed "1 + 2 print").2.fault = some ⟨.missingOperand "+" "left", 2⟩ := by
  have hreachable : Interpreter.Reachable
      { Interpreter.atPrompt {} false with machine.stack := [⟨.number, "9"⟩], lineCount := 1 } := by
    have hfed : ((Interpreter.atPrompt {} false).feed "9").1 =
        { Interpreter.atPrompt {} false with
          machine.stack := [⟨.number, "9"⟩], lineCount := 1 } := by
      decide +kernel
    exact hfed ▸ (Interpreter.reachable_atPrompt {} false).fed "9"
  have hprogram : Line.ofText 2 "1 + 2 print" =
      [⟨2, [⟨.number, "1"⟩, ⟨.operator, "+"⟩, ⟨.number, "2"⟩, ⟨.identifier, "print"⟩],
        "1 + 2 print"⟩] := by
    decide +kernel
  have htracks : Tracks 1
      (start { stack := [⟨.number, "9"⟩] }
        ⟨2, [⟨.number, "1"⟩, ⟨.operator, "+"⟩, ⟨.number, "2"⟩, ⟨.identifier, "print"⟩],
          "1 + 2 print"⟩)
      ⟨{ stack := [⟨.number, "2"⟩], printed := [⟨.number, "9"⟩] }, 0,
        [⟨.operator, "+"⟩, ⟨.number, "1"⟩]⟩ [.line] :=
    .turn (.turn .start (.print rfl rfl)) (.literal (by decide))
  refine ⟨_, _, _, _, hreachable, hprogram, htracks, rfl, rfl, by decide, rfl, ?_⟩
  decide +kernel

end Point

end StackScript
