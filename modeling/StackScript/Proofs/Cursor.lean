import Mathlib.Computability.StateTransition
import StackScript.Proofs.Tokenization

/-!
# The scanner by positions

A cursor stands at a position of the statement, in a state of the scanner, with the tokens made so
far. It moves on by a character, or over two of them, until a comment or the end of the statement
stops it. Run from the beginning of any statement, it stops with the tokens of the statement, and on
its way it never stands behind the end: over two characters it moves only where there are two. So
the answer given at once for blank statements and for comments is the one the run would give.
-/

namespace StackScript

open Text Scanner StateTransition

/-! ### Statements that are answered at once -/

/-- A statement is void if nothing is left of it without the blanks around it, or a comment. -/
theorem Scanner.isVoid_iff {l : List Char} :
    isVoid l = true ↔ trimChars l = [] ∨ ['/', '/'] <+: trimChars l := by
  obtain ⟨gap, hsplit, hgap⟩ := exists_gap_dropWhile l
  have hhead := List.head?_dropWhile_not isBlank l
  unfold isVoid
  rw [hsplit] at hhead ⊢
  cases htrim : trimChars l with
  | nil =>
      cases gap with
      | nil => simp
      | cons c gap => simp [htrim, hgap c List.mem_cons_self] at hhead
  | cons c rest =>
      simp only [List.cons_append, opensComment_iff, reduceCtorEq, false_or]
      cases rest with
      | nil =>
          have hslash : gap.head? ≠ some '/' := fun h =>
            absurd (hgap '/' (List.mem_of_mem_head? h)) (by decide)
          simp [hslash]
      | cons d rest => simp [eq_comm]

/-! ### Cursors -/

/-- The characters of a statement that count: all but carriage returns. -/
def Scanner.content (statement : String) : List Char :=
  statement.toList.filter (· != '\r')

/-- How many characters a move goes over. -/
def Move.length : Move → Nat
  | next => 1
  | skip => 2
  | stop => 0

/-- Reading takes a step, and goes on behind the characters that it moves over. -/
theorem ScanState.read_cons (state : ScanState) (c : Char) (l : List Char) :
    state.read [] (c :: l) =
      (state.step c l.head?).tokens ++
        if (state.step c l.head?).move = .stop then (state.step c l.head?).state.finish.toList
        else (state.step c l.head?).state.read []
          ((c :: l).drop (state.step c l.head?).move.length) := by
  cases hmove : (state.step c l.head?).move with
  | next => exact read_of_next hmove
  | stop => exact read_of_stop hmove
  | skip =>
      cases l with
      | nil => exact absurd hmove (step_none_move_ne_skip state c)
      | cons d l => exact read_of_skip hmove

/-- A place in the reading of a statement. A cursor that a comment has stopped does not move again. -/
structure Cursor where
  position : Nat
  state : ScanState
  tokens : List Token
  stopped : Bool
deriving DecidableEq, Repr

namespace Cursor

variable {l : List Char} {cursor next last : Cursor}

def start : Cursor :=
  ⟨0, .start, [], false⟩

def follow (cursor : Cursor) (step : Step) : Cursor where
  position := cursor.position + step.move.length
  state := step.state
  tokens := cursor.tokens ++ step.tokens
  stopped := step.move == .stop

/-- Reads the character at the position, with a look at the one after it. -/
def next? (l : List Char) (cursor : Cursor) : Option Cursor :=
  if cursor.stopped then none
  else l[cursor.position]?.map fun c =>
    cursor.follow (cursor.state.step c l[cursor.position + 1]?)

/-- The tokens of the statement if it is not read any further. -/
def finish (cursor : Cursor) : List Token :=
  cursor.tokens ++ cursor.state.finish.toList

theorem next?_eq_some_iff :
    cursor.next? l = some next ↔
      cursor.stopped = false ∧ ∃ c, l[cursor.position]? = some c ∧
        next = cursor.follow (cursor.state.step c l[cursor.position + 1]?) := by
  unfold next?
  cases cursor.stopped with
  | true => simp
  | false => simp [eq_comm]

theorem next?_eq_none_iff :
    cursor.next? l = none ↔ cursor.stopped = true ∨ l.length ≤ cursor.position := by
  unfold next?
  cases cursor.stopped with
  | true => simp
  | false => simp

/-! ### What a move keeps -/

/-- The tokens that are still to be made, the one in progress included. -/
def rest (l : List Char) (cursor : Cursor) : List Token :=
  if cursor.stopped then cursor.state.finish.toList
  else cursor.state.read [] (l.drop cursor.position)

/-- No move goes behind the end of the statement. -/
theorem position_le_of_next? (h : cursor.next? l = some next) : next.position ≤ l.length := by
  obtain ⟨-, c, hc, rfl⟩ := next?_eq_some_iff.mp h
  obtain ⟨hlt, -⟩ := List.getElem?_eq_some_iff.mp hc
  change cursor.position + (cursor.state.step c l[cursor.position + 1]?).move.length ≤ l.length
  cases hmove : (cursor.state.step c l[cursor.position + 1]?).move with
  | next => exact hlt
  | stop => exact Nat.le_of_lt hlt
  | skip =>
      -- the last character has none after it, and so no step over two
      cases hahead : l[cursor.position + 1]? with
      | none =>
          rw [hahead] at hmove
          exact absurd hmove (ScanState.step_none_move_ne_skip _ c)
      | some d => exact (List.getElem?_eq_some_iff.mp hahead).1

theorem tokens_rest_of_next? (h : cursor.next? l = some next) :
    next.tokens ++ next.rest l = cursor.tokens ++ cursor.rest l := by
  obtain ⟨hstopped, c, hc, rfl⟩ := next?_eq_some_iff.mp h
  obtain ⟨hlt, rfl⟩ := List.getElem?_eq_some_iff.mp hc
  have hdrop : l.drop cursor.position = l[cursor.position] :: l.drop (cursor.position + 1) :=
    List.drop_eq_getElem_cons hlt
  have hrest : cursor.rest l = cursor.state.read [] (l.drop cursor.position) := by
    rw [rest, hstopped]
    rfl
  rw [hrest, hdrop, ScanState.read_cons, ← hdrop, List.head?_drop, List.drop_drop]
  simp [rest, follow]

/-! ### A whole run -/

/-- How many characters a cursor may still read. -/
def ahead (l : List Char) (cursor : Cursor) : Nat :=
  if cursor.stopped then 0 else l.length - cursor.position

theorem ahead_lt_of_next? (h : cursor.next? l = some next) : next.ahead l < cursor.ahead l := by
  obtain ⟨hstopped, c, hc, rfl⟩ := next?_eq_some_iff.mp h
  obtain ⟨hlt, -⟩ := List.getElem?_eq_some_iff.mp hc
  have hahead : cursor.ahead l = l.length - cursor.position := by
    rw [ahead, hstopped]
    rfl
  rw [hahead]
  generalize cursor.state.step c l[cursor.position + 1]? = step
  obtain ⟨state, tokens, move⟩ := step
  cases move with
  | next =>
      change l.length - (cursor.position + 1) < l.length - cursor.position
      omega
  | skip =>
      change l.length - (cursor.position + 2) < l.length - cursor.position
      omega
  | stop =>
      change 0 < l.length - cursor.position
      omega

theorem position_le_of_reaches (h : Reaches (next? l) start cursor) :
    cursor.position ≤ l.length := by
  induction h with
  | refl => exact Nat.zero_le _
  | tail _ hstep _ => exact position_le_of_next? hstep

theorem tokens_rest_of_reaches (h : Reaches (next? l) start cursor) :
    cursor.tokens ++ cursor.rest l = ScanState.start.read [] l := by
  induction h with
  | refl => rfl
  | tail _ hstep ih => rw [tokens_rest_of_next? hstep, ih]

/-- Every run ends. -/
theorem exists_mem_eval (l : List Char) (cursor : Cursor) :
    ∃ last, last ∈ eval (next? l) cursor := by
  induction hahead : cursor.ahead l using Nat.strongRecOn generalizing cursor with
  | ind n ih =>
      cases hnext : cursor.next? l with
      | none => exact ⟨cursor, mem_eval.mpr ⟨.refl, hnext⟩⟩
      | some next =>
          obtain ⟨last, hlast⟩ := ih _ (hahead ▸ ahead_lt_of_next? hnext) next rfl
          rw [← reaches_eval (.single hnext)] at hlast
          exact ⟨last, hlast⟩

/-- Where no move is left, the token in progress is all that is still to be made. -/
theorem finish_of_next?_eq_none (h : cursor.next? l = none) :
    cursor.tokens ++ cursor.rest l = cursor.finish := by
  unfold finish rest
  rcases next?_eq_none_iff.mp h with hstopped | hend
  · rw [if_pos hstopped]
  · rw [List.drop_eq_nil_of_le hend, ScanState.read_nil, ite_self]

end Cursor

/-- **A run comes to the same tokens.** From the beginning of any statement the run of the cursor ends, and it ends with the tokens of the statement, also where these are found to be none before any run: that is where nothing is left between the blanks or where two slashes come first. On its way the cursor never stands behind the end of the statement. -/
theorem tokenize_eq_eval (statement : String) :
    (eval (Cursor.next? (content statement)) .start).map Cursor.finish =
        Part.some (tokenize statement) ∧
      (trimChars (content statement) = [] ∨ ['/', '/'] <+: trimChars (content statement) →
        tokenize statement = []) ∧
      ∀ cursor, Reaches (Cursor.next? (content statement)) .start cursor →
        cursor.position ≤ (content statement).length := by
  refine ⟨?_, fun hvoid => ?_, fun cursor => Cursor.position_le_of_reaches⟩
  · obtain ⟨last, hlast⟩ := Cursor.exists_mem_eval (content statement) .start
    obtain ⟨hreaches, hdone⟩ := mem_eval.mp hlast
    have hfinish : last.finish = tokenize statement := by
      rw [← Cursor.finish_of_next?_eq_none hdone, Cursor.tokens_rest_of_reaches hreaches, tokenize,
        tokens_eq_read, content]
    rw [Part.eq_some_iff, ← hfinish]
    exact Part.mem_map Cursor.finish hlast
  · exact if_pos (isVoid_iff.mpr hvoid)

/-- Of three equality signs the first two are a pair, the third is read alone, and the run ends right behind it. A comment behind a blank has no tokens. -/
theorem tokenize_eq_eval_pair :
    let tokens : List Token := [⟨.operator, "=="⟩, ⟨.operator, "="⟩]
    (eval (Cursor.next? (content "==\r=")) .start).map Cursor.finish = Part.some tokens ∧
      Reaches (Cursor.next? (content "==\r=")) .start ⟨3, .start, tokens, false⟩ ∧
      3 ≤ (content "==\r=").length ∧
      ['/', '/'] <+: trimChars (content " //x") ∧ tokenize " //x" = [] := by
  intro tokens
  have htokens : tokenize "==\r=" = tokens := by decide +kernel
  have hpair : Cursor.next? (content "==\r=") .start =
      some ⟨2, .start, [⟨.operator, "=="⟩], false⟩ := by decide +kernel
  have hlast : Cursor.next? (content "==\r=") ⟨2, .start, [⟨.operator, "=="⟩], false⟩ =
      some ⟨3, .start, tokens, false⟩ := by decide +kernel
  have hreaches : Reaches (Cursor.next? (content "==\r=")) .start ⟨3, .start, tokens, false⟩ :=
    .tail (.single hpair) hlast
  have hslashes : ['/', '/'] <+: trimChars (content " //x") := by decide +kernel
  obtain ⟨hrun, -, hwithin⟩ := tokenize_eq_eval "==\r="
  rw [htokens] at hrun
  exact ⟨hrun, hreaches, hwithin _ hreaches, hslashes,
    (tokenize_eq_eval " //x").2.1 (Or.inr hslashes)⟩

end StackScript
