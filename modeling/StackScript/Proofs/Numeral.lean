import StackScript.Numeral

/-!
# Numerals as texts

A numeral is one or more ASCII digits after an optional minus sign, and nothing else. What integers
are written as are numerals. A numeral can fail to be read as an integer only by its length, and an
integer to be written only by its size.
-/

namespace StackScript

namespace Numeral

theorem isDigits_iff {l : List Char} :
    isDigits l = true ↔ l ≠ [] ∧ ∀ c ∈ l, c.isDigit = true := by
  cases l <;> simp [isDigits]

theorem ofChars?_minus (digits : List Char) :
    ofChars? ('-' :: digits) = if isDigits digits then some ⟨true, digits⟩ else none := rfl

theorem ofChars?_of_head_ne {l : List Char} (h : l.head? ≠ some '-') :
    ofChars? l = if isDigits l then some ⟨false, l⟩ else none := by
  unfold ofChars?
  split
  · exact absurd rfl h
  · rfl

theorem head?_ne_minus_of_isDigits {l : List Char} (h : isDigits l = true) :
    l.head? ≠ some '-' := by
  intro hhead
  have hdigit := (isDigits_iff.mp h).2 '-' (List.mem_of_mem_head? hhead)
  exact absurd hdigit (by decide)

theorem ofChars?_eq_some_iff {l : List Char} {numeral : Numeral} :
    ofChars? l = some numeral ↔
      isDigits numeral.digits = true ∧
        l = if numeral.negative then '-' :: numeral.digits else numeral.digits := by
  obtain ⟨negative, digits⟩ := numeral
  by_cases hhead : l.head? = some '-'
  · obtain ⟨rest, rfl⟩ : ∃ rest, l = '-' :: rest := by
      cases l with
      | nil => simp at hhead
      | cons c rest => exact ⟨rest, by simpa using hhead⟩
    rw [ofChars?_minus]
    cases negative with
    | true =>
      by_cases hdigits : isDigits rest = true
      · simp only [if_pos hdigits, Option.some.injEq, mk.injEq, true_and, if_true, List.cons.injEq]
        constructor
        · rintro rfl
          exact ⟨hdigits, rfl⟩
        · exact fun h => h.2
      · simp only [if_neg hdigits, reduceCtorEq, if_true, List.cons.injEq, true_and, false_iff,
          not_and]
        rintro hother rfl
        exact hdigits hother
    | false =>
      have hne : ¬(isDigits digits = true ∧ '-' :: rest = digits) := fun h =>
        head?_ne_minus_of_isDigits h.1 (h.2 ▸ rfl)
      split <;> simpa using fun h heq => hne ⟨h, heq⟩
  · rw [ofChars?_of_head_ne hhead]
    cases negative with
    | true =>
      have hne : l ≠ '-' :: digits := fun h => hhead (h ▸ rfl)
      split <;> simp [hne]
    | false =>
      by_cases hdigits : isDigits l = true
      · simp only [if_pos hdigits, Option.some.injEq, mk.injEq, true_and, Bool.false_eq_true,
          if_false]
        constructor
        · rintro rfl
          exact ⟨hdigits, rfl⟩
        · exact fun h => h.2
      · simp only [if_neg hdigits, reduceCtorEq, Bool.false_eq_true, if_false, false_iff, not_and]
        rintro hother rfl
        exact hdigits hother

end Numeral

open Numeral

theorem isNumeral_iff {text : String} :
    isNumeral text = true ↔
      ∃ digits, digits ≠ [] ∧ (∀ c ∈ digits, c.isDigit = true) ∧
        (text.toList = digits ∨ text.toList = '-' :: digits) := by
  simp only [isNumeral, ofText?, Option.isSome_iff_exists, ofChars?_eq_some_iff, isDigits_iff]
  constructor
  · rintro ⟨⟨negative, digits⟩, ⟨hne, hdigits⟩, htext⟩
    refine ⟨digits, hne, hdigits, ?_⟩
    cases negative with
    | true => exact Or.inr htext
    | false => exact Or.inl htext
  · rintro ⟨digits, hne, hdigits, htext | htext⟩
    · exact ⟨⟨false, digits⟩, ⟨hne, hdigits⟩, htext⟩
    · exact ⟨⟨true, digits⟩, ⟨hne, hdigits⟩, htext⟩

theorem toList_toString (value : Int) :
    (toString value).toList =
      if value < 0 then '-' :: Nat.toDigits 10 value.natAbs
      else Nat.toDigits 10 value.natAbs := by
  cases value with
  | ofNat n =>
      rw [if_neg (by simp)]
      change (toString n).toList = _
      rw [Nat.toString_eq_ofList_toDigits, String.toList_ofList]
      rfl
  | negSucc n =>
      rw [if_pos (Int.negSucc_lt_zero n)]
      change ("-" ++ toString (n + 1)).toList = _
      rw [Nat.toString_eq_ofList_toDigits]
      simp

theorem isDigits_toDigits (n : Nat) : isDigits (Nat.toDigits 10 n) = true :=
  isDigits_iff.mpr ⟨Nat.toDigits_ne_nil,
    fun _ hc => Nat.isDigit_of_mem_toDigits (by decide) (by decide) hc⟩

theorem ofText?_toString (value : Int) :
    ofText? (toString value) = some ⟨decide (value < 0), Nat.toDigits 10 value.natAbs⟩ := by
  refine ofChars?_eq_some_iff.mpr ⟨isDigits_toDigits _, ?_⟩
  rw [toList_toString]
  simp only [decide_eq_true_eq]

theorem isNumeral_toString (value : Int) : isNumeral (toString value) = true := by
  rw [isNumeral, ofText?_toString, Option.isSome_some]

/-- Reading a text as an integer fails if it is no numeral, and else only by its length. -/
theorem readInt_eq_error_iff {operator text : String} {error : ScriptError} :
    readInt operator text = .error error ↔
      error = .typeMismatch operator "Number" text ∧
        ∀ numeral, ofText? text = some numeral → maxDigits < numeral.digits.length := by
  unfold readInt
  cases hnumeral : ofText? text with
  | none => simp [eq_comm]
  | some numeral =>
    by_cases hlength : numeral.digits.length ≤ maxDigits
    · simp [hlength]
    · simp [hlength, eq_comm, Nat.lt_of_not_le hlength]

theorem writeInt_eq_ok_iff {operator text : String} {value : Int} :
    writeInt operator value = .ok text ↔ value.natAbs < bound ∧ text = toString value := by
  unfold writeInt
  by_cases hbound : value.natAbs < bound
  · simp [hbound, eq_comm]
  · simp [hbound]

theorem writeInt_eq_error_iff {operator : String} {value : Int} {error : ScriptError} :
    writeInt operator value = .error error ↔
      error = .typeMismatch operator "Number" "<integer too long>" ∧ bound ≤ value.natAbs := by
  unfold writeInt
  by_cases hbound : value.natAbs < bound
  · simp [hbound, Nat.not_le.mpr hbound]
  · simp [hbound, Nat.not_lt.mp hbound, eq_comm]

end StackScript
