import StackScript.Proofs.Numeral
import StackScript.Scanner

/-!
# Lexemes

What the texts of each kind of token look like, said without the scanner, and the characters a token
takes up in a statement. The classes of characters are disjoint: a bracket, an operator character, a
quote, the mark of a comment, a blank or a character of a name is never two of these at once, and
digits are characters of names.
-/

namespace StackScript

open Text

namespace Scanner

/-- The characters that identifiers are made of: those that nothing else takes. -/
def isNameChar (c : Char) : Bool :=
  !isBlank c && c != '"' && c != '#' && !isBracket c && !isOperatorChar c

/-- Identifiers and the words of the truth values: characters of names, the first one not a digit. -/
def IsName (text : String) : Prop :=
  (∀ c ∈ text.toList, isNameChar c = true) ∧ ∃ c ∈ text.toList.head?, c.isDigit = false

theorem mem_brackets_of_isBracket {c : Char} (h : isBracket c = true) :
    c ∈ ['(', ')', '[', ']', '\x7b', '\x7d'] := by
  simpa [isBracket] using h

theorem mem_operators_of_isOperatorChar {c : Char} (h : isOperatorChar c = true) :
    c ∈ ['=', '+', '-', '*', '/', '^', '!', '>', '<', '&', '|'] := by
  simpa [isOperatorChar] using h

theorem classes_of_isBracket {c : Char} (h : isBracket c = true) :
    isBlank c = false ∧ c ≠ '"' ∧ c ≠ '#' ∧ isOperatorChar c = false ∧ c.isDigit = false := by
  have hmem := mem_brackets_of_isBracket h
  simp only [List.mem_cons, List.not_mem_nil, or_false] at hmem
  rcases hmem with rfl | rfl | rfl | rfl | rfl | rfl <;> decide

theorem classes_of_isOperatorChar {c : Char} (h : isOperatorChar c = true) :
    isBlank c = false ∧ c ≠ '"' ∧ c ≠ '#' ∧ isBracket c = false ∧ c.isDigit = false := by
  have hmem := mem_operators_of_isOperatorChar h
  simp only [List.mem_cons, List.not_mem_nil, or_false] at hmem
  rcases hmem with rfl | rfl | rfl | rfl | rfl | rfl | rfl | rfl | rfl | rfl | rfl <;> decide

theorem isNameChar_iff {c : Char} :
    isNameChar c = true ↔
      isBlank c = false ∧ c ≠ '"' ∧ c ≠ '#' ∧ isBracket c = false ∧ isOperatorChar c = false := by
  simp [isNameChar, and_assoc]

theorem isNameChar_of_isDigit {c : Char} (h : c.isDigit = true) : isNameChar c = true := by
  have hrange := Char.isDigit_iff_toNat.mp h
  have hlow : 48 ≤ c.toNat := hrange.1
  have hhigh : c.toNat ≤ 57 := hrange.2
  refine isNameChar_iff.mpr ⟨?_, ?_, ?_, ?_, ?_⟩
  · simp only [isBlank, Bool.or_eq_false_iff, Bool.and_eq_false_iff, decide_eq_false_iff_not,
      beq_eq_false_iff_ne]
    omega
  · rintro rfl
    exact absurd h (by decide)
  · rintro rfl
    exact absurd h (by decide)
  · refine Bool.eq_false_iff.mpr fun hbracket => ?_
    simp [(classes_of_isBracket hbracket).2.2.2.2] at h
  · refine Bool.eq_false_iff.mpr fun hoperator => ?_
    simp [(classes_of_isOperatorChar hoperator).2.2.2.2] at h

theorem isNameChar_eq_false_of_isBlank {c : Char} (h : isBlank c = true) :
    isNameChar c = false := by
  simp [isNameChar, h]

theorem classes_of_isBlank {c : Char} (h : isBlank c = true) :
    c ≠ '"' ∧ c ≠ '#' ∧ isBracket c = false ∧ isOperatorChar c = false ∧ c.isDigit = false := by
  refine ⟨?_, ?_, ?_, ?_, ?_⟩
  · rintro rfl
    exact absurd h (by decide)
  · rintro rfl
    exact absurd h (by decide)
  · refine Bool.eq_false_iff.mpr fun hbracket => ?_
    simp [(classes_of_isBracket hbracket).1] at h
  · refine Bool.eq_false_iff.mpr fun hoperator => ?_
    simp [(classes_of_isOperatorChar hoperator).1] at h
  · refine Bool.eq_false_iff.mpr fun hdigit => ?_
    have hname := isNameChar_of_isDigit hdigit
    simp [isNameChar_eq_false_of_isBlank h] at hname

theorem opensComment_iff {c : Char} {ahead : Option Char} :
    opensComment c ahead = true ↔ c = '/' ∧ ahead = some '/' := by
  simp [opensComment]

theorem ne_of_isOperatorChar_eq_false {c : Char} (h : isOperatorChar c = false) :
    c ≠ '/' ∧ c ≠ '-' := by
  constructor
  · rintro rfl
    exact absurd h (by decide)
  · rintro rfl
    exact absurd h (by decide)

theorem not_comment {c : Char} (hhash : c ≠ '#') (hoperator : isOperatorChar c = false)
    (ahead : Option Char) : ¬(c = '#' ∨ opensComment c ahead = true) := by
  rintro (heq | hopens)
  · exact hhash heq
  · exact (ne_of_isOperatorChar_eq_false hoperator).1 (opensComment_iff.mp hopens).1

theorem opensComment_eq_false_of_isOperatorPair {c d : Char} (h : isOperatorPair c d = true) :
    opensComment c (some d) = false := by
  refine Bool.eq_false_iff.mpr fun hopens => ?_
  obtain ⟨rfl, hslash⟩ := opensComment_iff.mp hopens
  cases Option.some.inj hslash
  exact absurd h (by decide)

theorem isOperatorChar_of_isOperatorPair {c d : Char} (h : isOperatorPair c d = true) :
    isOperatorChar d = true := by
  simp only [isOperatorPair, Bool.or_eq_true, Bool.and_eq_true, beq_iff_eq] at h
  rcases h with (rfl | ⟨-, rfl⟩) | ⟨-, rfl⟩ <;> decide

/-- What is no operator character carries on neither an operator nor two slashes. -/
theorem parts_of_isOperatorChar_eq_false {d : Char} (h : isOperatorChar d = false) (c : Char) :
    isOperatorPair c d = false ∧ opensComment c (some d) = false := by
  constructor
  · refine Bool.eq_false_iff.mpr fun hpair => ?_
    simp [isOperatorChar_of_isOperatorPair hpair] at h
  · refine Bool.eq_false_iff.mpr fun hopens => ?_
    cases Option.some.inj (opensComment_iff.mp hopens).2
    exact absurd h (by decide)

end Scanner

namespace Token

open Scanner

/-- The texts that the kind of a token allows. A string holds neither a quote nor two slashes in a row. -/
def WellFormed (token : Token) : Prop :=
  match token.kind with
  | .number => isNumeral token.text = true
  | .boolean => token.text = "true" ∨ token.text = "false"
  | .symbol => ∃ c, isBracket c = true ∧ token.text = String.singleton c
  | .operator =>
    ∃ c, isOperatorChar c = true ∧
      (token.text = String.singleton c ∨
        ∃ d, isOperatorPair c d = true ∧ token.text = String.ofList [c, d])
  | .identifier => IsName token.text ∧ token.text ≠ "true" ∧ token.text ≠ "false"
  | .string => '"' ∉ token.text.toList ∧ ¬['/', '/'] <:+: token.text.toList

/-- The characters of a token in a statement: a string stands between quotes. -/
def lexeme (token : Token) : List Char :=
  if token.kind = .string then '"' :: (token.text.toList ++ ['"']) else token.text.toList

/-- Only the character after such a token shows where it ends. -/
def openEnded (token : Token) : Bool :=
  match token.kind with
  | .identifier | .boolean | .number => true
  | .operator | .symbol | .string => false

theorem lexeme_of_ne_string {token : Token} (h : token.kind ≠ .string) :
    token.lexeme = token.text.toList := if_neg h

theorem lexeme_string (text : String) :
    (⟨.string, text⟩ : Token).lexeme = '"' :: (text.toList ++ ['"']) := rfl

theorem isName_of_boolean {text : String} (h : text = "true" ∨ text = "false") : IsName text := by
  rcases h with rfl | rfl
  · exact ⟨List.all_eq_true.mp (by decide), 't', rfl, by decide⟩
  · exact ⟨List.all_eq_true.mp (by decide), 'f', rfl, by decide⟩

theorem mem_lexeme {token : Token} {c : Char} (h : c ∈ token.text.toList) : c ∈ token.lexeme := by
  unfold lexeme
  split
  · exact List.mem_cons_of_mem _ (List.mem_append_left _ h)
  · exact h

end Token

end StackScript
