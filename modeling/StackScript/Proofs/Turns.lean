import StackScript.Proofs.Frame
import StackScript.Proofs.Session

/-!
# The turns of a run

The points of a run at which a token has its turn, in order. An error ends them: it is the answer of
the last turn. What the prints among them show is all that the run prints.
-/

namespace StackScript

/-- What a print would show at the point. -/
def Point.shown (point : Point) : Token :=
  point.machine.stack.head?.getD ⟨.string, ""⟩

def Point.isPrint : Point → Bool
  | ⟨_, 0, token :: _⟩ => token.kind = .identifier ∧ token.text = Machine.printName
  | _ => false

theorem Point.isPrint_iff {point : Point} : point.isPrint = true ↔ point.Prints := by
  constructor
  · obtain ⟨machine, skip, before⟩ := point
    intro h
    match skip, before with
    | 0, token :: before =>
        obtain ⟨hkind, hname⟩ := of_decide_eq_true h
        exact .intro hkind hname
  · rintro ⟨hkind, hname⟩
    exact decide_eq_true ⟨hkind, hname⟩

instance : DecidablePred Point.Prints :=
  fun _ => decidable_of_iff _ Point.isPrint_iff

namespace Machine

def turns (base : Nat) : Nat → List Token → Machine → List Point
  | _, [], _ => []
  | skip + 1, _ :: before, machine => turns base skip before machine
  | 0, token :: before, machine =>
    ⟨machine, 0, token :: before⟩ ::
      match takeTurn base machine token before with
      | (.ok used, next) => turns base used before next
      | (.error _, _) => []

/-- The turns of lines that are evaluated in order, up to the first one with an error. -/
def programTurns : List Line → Machine → List Point
  | [], _ => []
  | line :: rest, machine =>
    turns machine.stack.length 0 line.tokens.reverse machine ++
      match (machine.evaluateLine line).error with
      | none => programTurns rest (machine.evaluateLine line).machine
      | some _ => []

def runTurns (machine : Machine) (program : List Line) : List Point :=
  programTurns program { machine with aborted := false }

variable {base skip : Nat} {machine next : Machine} {token : Token} {before : List Token}
  {program : List Line} {q : Point}

theorem reaches_of_mem_turns (h : q ∈ turns base skip before machine) :
    Point.Reaches base ⟨machine, skip, before⟩ q := by
  induction before generalizing skip machine with
  | nil => cases skip <;> cases h
  | cons token before ih =>
      cases skip with
      | succ skip => exact .head .skip (ih h)
      | zero =>
          rcases List.mem_cons.mp h with rfl | hrest
          · exact .refl
          · match hturn : takeTurn base machine token before with
            | (.ok used, next) =>
                rw [hturn] at hrest
                exact .head (.turn (takeTurn_eq_ok_iff.mp hturn)) (ih hrest)
            | (.error error, next) =>
                rw [hturn] at hrest
                cases hrest

/-- An evaluation with an error has come to a turn that has this error for an answer. -/
theorem exists_turn_of_error {error : ScriptError}
    (h : (evaluate base skip before machine).error = some error) :
    ∃ reached token rest next,
      Point.Reaches base ⟨machine, skip, before⟩ ⟨reached, 0, token :: rest⟩ ∧
        takeTurn base reached token rest = (.error error, next) := by
  induction before generalizing skip machine with
  | nil => cases skip <;> cases h
  | cons token before ih =>
      cases skip with
      | succ skip =>
          obtain ⟨reached, failing, rest, next, hreaches, hfails⟩ := ih h
          exact ⟨reached, failing, rest, next, .head .skip hreaches, hfails⟩
      | zero =>
          rw [evaluate_cons] at h
          match hturn : takeTurn base machine token before with
          | (.ok used, next) =>
              rw [hturn] at h
              obtain ⟨reached, failing, rest, last, hreaches, hfails⟩ := ih h
              exact ⟨reached, failing, rest, last,
                .head (.turn (takeTurn_eq_ok_iff.mp hturn)) hreaches, hfails⟩
          | (.error other, next) =>
              rw [hturn] at h
              cases h
              exact ⟨machine, token, before, next, .refl, hturn⟩

theorem visits_of_mem_programTurns (h : q ∈ programTurns program machine) :
    ∃ done line rest started, program = done ++ line :: rest ∧
      evaluateLines done machine = { machine := started } ∧
      Point.Reaches started.stack.length (Point.start started line) q := by
  induction program generalizing machine with
  | nil => cases h
  | cons line program ih =>
      rcases List.mem_append.mp h with hfirst | hrest
      · exact ⟨[], line, program, machine, rfl, rfl, reaches_of_mem_turns hfirst⟩
      · cases herror : (machine.evaluateLine line).error with
        | none =>
            rw [herror] at hrest
            obtain ⟨done, failing, rest, started, rfl, hdone, hreaches⟩ := ih hrest
            refine ⟨line :: done, failing, rest, started, rfl, ?_, hreaches⟩
            rw [evaluateLines_cons, herror]
            exact hdone
        | some fault =>
            rw [herror] at hrest
            cases hrest

theorem exists_visits_of_mem_runTurns (h : q ∈ machine.runTurns program) :
    ∃ base, machine.Visits program base q := by
  obtain ⟨done, line, rest, started, hprogram, hdone, hreaches⟩ := visits_of_mem_programTurns h
  exact ⟨_, done, line, rest, started, hprogram, hdone, rfl, hreaches⟩

/-! ### What is printed -/

theorem takeTurn_of_prints (h : Point.Prints ⟨machine, 0, token :: before⟩) :
    takeTurn base machine token before = (.ok 0, machine.print) := by
  cases h with
  | intro hkind hname => exact takeTurn_eq_ok_iff.mpr (.print hkind hname)

theorem Turn.printed_eq {used : Nat} (h : machine.Turn base token before used next)
    (hprints : ¬ Point.Prints ⟨machine, 0, token :: before⟩) : next.printed = machine.printed := by
  cases h with
  | literal | fetch | symbol => rfl
  | print hkind hname => exact absurd (.intro hkind hname) hprints
  | operator _ _ hoperands happly => exact (hoperands.kept happly).1

theorem Fails.printed_eq (h : machine.Fails base token next) : next.printed = machine.printed := by
  cases h <;> rfl

/-- The values that the prints among these points show, the latest first. -/
def shownAt (points : List Point) : List Token :=
  ((points.filter (·.Prints)).map Point.shown).reverse

theorem shownAt_append (points others : List Point) :
    shownAt (points ++ others) = shownAt others ++ shownAt points := by
  simp [shownAt]

theorem printed_takeTurn (base : Nat) (machine : Machine) (token : Token) (before : List Token) :
    (takeTurn base machine token before).2.printed =
      shownAt [⟨machine, 0, token :: before⟩] ++ machine.printed := by
  by_cases hprints : Point.Prints ⟨machine, 0, token :: before⟩
  · rw [takeTurn_of_prints hprints, print_eq]
    simp [shownAt, hprints, Point.shown]
  · have hprinted : (takeTurn base machine token before).2.printed = machine.printed := by
      match hturn : takeTurn base machine token before with
      | (.ok used, next) => exact (takeTurn_eq_ok_iff.mp hturn).printed_eq hprints
      | (.error error, next) => exact (fails_of_takeTurn hturn).printed_eq
    rw [hprinted]
    simp [shownAt, hprints]

theorem printed_evaluate (base skip : Nat) (before : List Token) (machine : Machine) :
    (evaluate base skip before machine).machine.printed =
      shownAt (turns base skip before machine) ++ machine.printed := by
  induction before generalizing skip machine with
  | nil => cases skip <;> rfl
  | cons token before ih =>
      cases skip with
      | succ skip => exact ih skip machine
      | zero =>
          have hturn := printed_takeTurn base machine token before
          rw [evaluate_cons, turns, ← List.singleton_append, shownAt_append, List.append_assoc,
            ← hturn]
          match takeTurn base machine token before with
          | (.ok used, next) => exact ih used next
          | (.error error, next) => rfl

theorem printed_evaluateLines (program : List Line) (machine : Machine) :
    (evaluateLines program machine).machine.printed =
      shownAt (programTurns program machine) ++ machine.printed := by
  induction program generalizing machine with
  | nil => rfl
  | cons line rest ih =>
      have hline : (machine.evaluateLine line).machine.printed =
          shownAt (turns machine.stack.length 0 line.tokens.reverse machine) ++ machine.printed :=
        printed_evaluate machine.stack.length 0 line.tokens.reverse machine
      rw [evaluateLines_cons, programTurns, shownAt_append, List.append_assoc, ← hline]
      cases (machine.evaluateLine line).error with
      | none => exact ih (machine.evaluateLine line).machine
      | some fault => rfl

/-- What a run prints is what the prints among its turns show. -/
theorem printed_run (program : List Line) (machine : Machine) :
    (machine.run program).machine.printed =
      shownAt (machine.runTurns program) ++ machine.printed := by
  have hlines := printed_evaluateLines program { machine with aborted := false }
  rw [run_machine]
  split <;> exact hlines

end Machine

end StackScript
