import Mathlib.Logic.ExistsUnique
import StackScript.Operator
import StackScript.Proofs.Canonical

/-!
# Comparisons of numbers

A comparison reads both numbers and answers for the integers they denote, so padding makes no
difference to it. Equality answers for the texts, and so is finer: two paddings of one integer are
not equal, although neither is less than the other. On canonical numerals, of which each integer has
one, the two agree and make one order.
-/

namespace StackScript

open Numeral

variable {left right text : String} {a b value : Int}

/-! ### Numbers that can be read -/

/-- The text is a numeral of this integer, with no more digits than can be read. -/
structure Denotes (text : String) (value : Int) : Prop where
  integer : integer? text = some value
  short : digitCount text ≤ maxDigits

theorem readInt_eq_ok_iff_denotes {operator : String} :
    readInt operator text = .ok value ↔ Denotes text value := by
  rw [readInt_eq_ok_iff]
  constructor
  · rintro ⟨numeral, hnumeral, hlength, hvalue⟩
    refine ⟨integer?_eq_some_iff.mpr ⟨numeral, hnumeral, hvalue⟩, ?_⟩
    rwa [digitCount_of_ofText? hnumeral]
  · rintro ⟨hinteger, hshort⟩
    obtain ⟨numeral, hnumeral, hvalue⟩ := integer?_eq_some_iff.mp hinteger
    rw [digitCount_of_ofText? hnumeral] at hshort
    exact ⟨numeral, hnumeral, hshort, hvalue⟩

theorem readInt_of_not_denotes (operator : String) (h : ∀ value, ¬ Denotes text value) :
    readInt operator text = .error (.typeMismatch operator "Number" text) := by
  cases hread : readInt operator text with
  | ok value => exact absurd (readInt_eq_ok_iff_denotes.mp hread) (h value)
  | error error => rw [(readInt_eq_error_iff.mp hread).1]

theorem Denotes.canonical (h : Denotes text value) : Denotes (canonicalText text) value := by
  have hread : readInt "" text = .ok value := readInt_eq_ok_iff_denotes.mpr h
  rw [canonicalText_eq_toString h.integer]
  exact ⟨integer?_toString value,
    digitCount_toString_le_iff.mpr (natAbs_lt_bound_of_readInt hread)⟩

theorem Denotes.of_mem {text' : String} (h : Denotes text value)
    (hmem : text' ∈ [text, canonicalText text]) : Denotes text' value := by
  rcases List.mem_cons.mp hmem with rfl | hcanonical
  · exact h
  · exact List.mem_singleton.mp hcanonical ▸ h.canonical

theorem Denotes.eq_toString (h : Denotes text value) (hcanonical : canonicalText text = text) :
    text = toString value := by
  rw [← canonicalText_eq_toString h.integer, hcanonical]

theorem eq_iff_of_canonical (hleft : Denotes left a) (hright : Denotes right b)
    (hcanonicalLeft : canonicalText left = left) (hcanonicalRight : canonicalText right = right) :
    left = right ↔ a = b := by
  constructor
  · rintro rfl
    exact Option.some.inj (hleft.integer.symm.trans hright.integer)
  · rintro rfl
    exact (hleft.eq_toString hcanonicalLeft).trans (hright.eq_toString hcanonicalRight).symm

/-! ### What an operator answers -/

theorem Token.ofBool_eq_true_iff {answer : Bool} : ofBool answer = ofBool true ↔ answer = true := by
  cases answer <;> decide

/-- The relation of integers that a comparison asks for. -/
def Comparison.Relates (a b : Int) : Comparison → Prop
  | greater => a > b
  | less => a < b
  | greaterEqual => a ≥ b
  | lessEqual => a ≤ b

instance (a b : Int) : DecidablePred (Comparison.Relates a b)
  | .greater => inferInstanceAs (Decidable (a > b))
  | .less => inferInstanceAs (Decidable (a < b))
  | .greaterEqual => inferInstanceAs (Decidable (a ≥ b))
  | .lessEqual => inferInstanceAs (Decidable (a ≤ b))

theorem Comparison.holds_eq (comparison : Comparison) (a b : Int) :
    comparison.holds a b = decide (comparison.Relates a b) := by
  cases comparison <;> rfl

namespace BinaryOperator

variable {comparison : Comparison}

theorem apply_compare (comparison : Comparison) (left right : String) :
    (compare comparison).apply ⟨.number, left⟩ ⟨.number, right⟩ = (do
      let a ← readInt comparison.symbol left
      let b ← readInt comparison.symbol right
      return .ofBool (comparison.holds a b)) := rfl

theorem apply_compare_of_denotes (hleft : Denotes left a) (hright : Denotes right b)
    (comparison : Comparison) :
    (compare comparison).apply ⟨.number, left⟩ ⟨.number, right⟩ =
      .ok (.ofBool (decide (comparison.Relates a b))) := by
  rw [apply_compare, readInt_eq_ok_iff_denotes.mpr hleft, readInt_eq_ok_iff_denotes.mpr hright,
    ← comparison.holds_eq]
  rfl

theorem apply_compare_of_left (hleft : ∀ a, ¬ Denotes left a) (right : String)
    (comparison : Comparison) :
    (compare comparison).apply ⟨.number, left⟩ ⟨.number, right⟩ =
      .error (.typeMismatch comparison.symbol "Number" left) := by
  rw [apply_compare, readInt_of_not_denotes _ hleft]
  rfl

theorem apply_compare_of_right (hleft : Denotes left a) (hright : ∀ b, ¬ Denotes right b)
    (comparison : Comparison) :
    (compare comparison).apply ⟨.number, left⟩ ⟨.number, right⟩ =
      .error (.typeMismatch comparison.symbol "Number" right) := by
  rw [apply_compare, readInt_eq_ok_iff_denotes.mpr hleft, readInt_of_not_denotes _ hright]
  rfl

theorem apply_compare_eq_true_iff (hleft : Denotes left a) (hright : Denotes right b) :
    (compare comparison).apply ⟨.number, left⟩ ⟨.number, right⟩ = .ok (.ofBool true) ↔
      comparison.Relates a b := by
  rw [apply_compare_of_denotes hleft hright, Except.ok.injEq, Token.ofBool_eq_true_iff,
    decide_eq_true_iff]

theorem apply_equal_eq_true_iff (left right : String) :
    equal.apply ⟨.number, left⟩ ⟨.number, right⟩ = .ok (.ofBool true) ↔ left = right := by
  have happly : equal.apply ⟨.number, left⟩ ⟨.number, right⟩ =
      .ok (.ofBool (left == right)) := rfl
  rw [happly, Except.ok.injEq, Token.ofBool_eq_true_iff, beq_iff_eq]

/-- On canonical numerals equality takes its place between less and greater. -/
theorem existsUnique_of_canonical (hleft : Denotes left a) (hright : Denotes right b)
    (hcanonicalLeft : canonicalText left = left) (hcanonicalRight : canonicalText right = right) :
    ∃! operator, operator ∈ [compare .less, equal, compare .greater] ∧
      operator.apply ⟨.number, left⟩ ⟨.number, right⟩ = .ok (.ofBool true) := by
  have hless : (compare .less).apply ⟨.number, left⟩ ⟨.number, right⟩ = .ok (.ofBool true) ↔
      a < b := apply_compare_eq_true_iff hleft hright
  have hgreater : (compare .greater).apply ⟨.number, left⟩ ⟨.number, right⟩ = .ok (.ofBool true) ↔
      a > b := apply_compare_eq_true_iff hleft hright
  have hequal : equal.apply ⟨.number, left⟩ ⟨.number, right⟩ = .ok (.ofBool true) ↔ a = b :=
    (apply_equal_eq_true_iff left right).trans
      (eq_iff_of_canonical hleft hright hcanonicalLeft hcanonicalRight)
  simp only [List.mem_cons, List.not_mem_nil, or_false]
  rcases Int.lt_trichotomy a b with hlt | heq | hgt
  · refine ⟨compare .less, ⟨Or.inl rfl, hless.mpr hlt⟩, ?_⟩
    rintro operator ⟨rfl | rfl | rfl, htrue⟩
    · rfl
    · have heq := hequal.mp htrue
      omega
    · have hgt := hgreater.mp htrue
      omega
  · refine ⟨equal, ⟨Or.inr (Or.inl rfl), hequal.mpr heq⟩, ?_⟩
    rintro operator ⟨rfl | rfl | rfl, htrue⟩
    · have hlt := hless.mp htrue
      omega
    · rfl
    · have hgt := hgreater.mp htrue
      omega
  · refine ⟨compare .greater, ⟨Or.inr (Or.inr rfl), hgreater.mpr hgt⟩, ?_⟩
    rintro operator ⟨rfl | rfl | rfl, htrue⟩
    · have hlt := hless.mp htrue
      omega
    · have heq := hequal.mp htrue
      omega
    · rfl

/-- **Comparisons are those of the integers.** A comparison of two numbers that can be read answers for the integers they denote; else it fails on the left number, or on the right one if only that cannot be read. So the answer does not change when padding is dropped on either side, numbers with equal texts are less than or equal to each other both ways, and of two canonical numerals exactly one is less, or they are equal. -/
theorem apply_compare_numbers (left right : String) :
    (∀ comparison : Comparison,
      (∀ a b, Denotes left a → Denotes right b →
        (compare comparison).apply ⟨.number, left⟩ ⟨.number, right⟩ =
          .ok (.ofBool (decide (comparison.Relates a b)))) ∧
      ((∀ a, ¬ Denotes left a) →
        (compare comparison).apply ⟨.number, left⟩ ⟨.number, right⟩ =
          .error (.typeMismatch comparison.symbol "Number" left)) ∧
      ∀ a, Denotes left a → (∀ b, ¬ Denotes right b) →
        (compare comparison).apply ⟨.number, left⟩ ⟨.number, right⟩ =
          .error (.typeMismatch comparison.symbol "Number" right)) ∧
    ∀ a b, Denotes left a → Denotes right b →
      (∀ comparison, ∀ left' ∈ [left, canonicalText left], ∀ right' ∈ [right, canonicalText right],
        (compare comparison).apply ⟨.number, left'⟩ ⟨.number, right'⟩ =
          (compare comparison).apply ⟨.number, left⟩ ⟨.number, right⟩) ∧
      (equal.apply ⟨.number, left⟩ ⟨.number, right⟩ = .ok (.ofBool true) →
        (compare .lessEqual).apply ⟨.number, left⟩ ⟨.number, right⟩ = .ok (.ofBool true) ∧
        (compare .greaterEqual).apply ⟨.number, left⟩ ⟨.number, right⟩ = .ok (.ofBool true)) ∧
      (canonicalText left = left → canonicalText right = right →
        ∃! operator, operator ∈ [compare .less, equal, compare .greater] ∧
          operator.apply ⟨.number, left⟩ ⟨.number, right⟩ = .ok (.ofBool true)) := by
  refine ⟨fun comparison => ⟨fun a b hleft hright => ?_, fun hleft => ?_, fun a hleft hright => ?_⟩,
    fun a b hleft hright => ⟨?_, fun hequal => ?_, existsUnique_of_canonical hleft hright⟩⟩
  · exact apply_compare_of_denotes hleft hright comparison
  · exact apply_compare_of_left hleft right comparison
  · exact apply_compare_of_right hleft hright comparison
  · intro comparison left' hleft' right' hright'
    calc (compare comparison).apply ⟨.number, left'⟩ ⟨.number, right'⟩
        = .ok (.ofBool (decide (comparison.Relates a b))) :=
          apply_compare_of_denotes (hleft.of_mem hleft') (hright.of_mem hright') comparison
      _ = (compare comparison).apply ⟨.number, left⟩ ⟨.number, right⟩ :=
          (apply_compare_of_denotes hleft hright comparison).symm
  · obtain rfl := (apply_equal_eq_true_iff left right).mp hequal
    obtain rfl : a = b := Option.some.inj (hleft.integer.symm.trans hright.integer)
    exact ⟨(apply_compare_eq_true_iff hleft hright).mpr (Int.le_refl a),
      (apply_compare_eq_true_iff hleft hright).mpr (Int.le_refl a)⟩

/-- The padded -007 is less than 3, as -7 is. Of two texts that are no numerals the left one is at fault. A zero with a sign is at most zero, but not equal to it. -/
theorem apply_compare_numbers_padded :
    Denotes "-007" (-7) ∧ Denotes "3" 3 ∧ canonicalText "-007" = "-7" ∧
      (compare .less).apply ⟨.number, "-007"⟩ ⟨.number, "3"⟩ = .ok (.ofBool true) ∧
      (compare .less).apply ⟨.number, "-7"⟩ ⟨.number, "3"⟩ = .ok (.ofBool true) ∧
      (∃! operator, operator ∈ [compare .less, equal, compare .greater] ∧
        operator.apply ⟨.number, "-7"⟩ ⟨.number, "3"⟩ = .ok (.ofBool true)) ∧
      (compare .greaterEqual).apply ⟨.number, "1.5"⟩ ⟨.number, "x"⟩ =
        .error (.typeMismatch ">=" "Number" "1.5") ∧
      (compare .lessEqual).apply ⟨.number, "-0"⟩ ⟨.number, "0"⟩ = .ok (.ofBool true) ∧
      equal.apply ⟨.number, "-0"⟩ ⟨.number, "0"⟩ = .ok (.ofBool false) := by
  have hseven : Denotes "-007" (-7) := ⟨by decide, by decide⟩
  have hplain : Denotes "-7" (-7) := ⟨by decide, by decide⟩
  have hthree : Denotes "3" 3 := ⟨by decide, by decide⟩
  have hzero : Denotes "0" 0 := ⟨by decide, by decide⟩
  have hsigned : Denotes "-0" 0 := ⟨by decide, by decide⟩
  have hnone : ∀ a, ¬ Denotes "1.5" a := by
    intro a h
    have hinteger : integer? "1.5" = none := by decide
    rw [h.integer] at hinteger
    cases hinteger
  have hcanonical : canonicalText "-007" = "-7" := by decide
  have hless : (compare .less).apply ⟨.number, "-007"⟩ ⟨.number, "3"⟩ = .ok (.ofBool true) :=
    ((apply_compare_numbers "-007" "3").1 .less).1 _ _ hseven hthree
  obtain ⟨hpadding, -, -⟩ := (apply_compare_numbers "-007" "3").2 _ _ hseven hthree
  obtain ⟨-, -, hunique⟩ := (apply_compare_numbers "-7" "3").2 _ _ hplain hthree
  refine ⟨hseven, hthree, hcanonical, hless, ?_, hunique (by decide) (by decide),
    ((apply_compare_numbers "1.5" "x").1 .greaterEqual).2.1 hnone,
    ((apply_compare_numbers "-0" "0").1 .lessEqual).1 _ _ hsigned hzero, rfl⟩
  rw [← hless]
  exact hpadding .less "-7" (by simp [hcanonical]) "3" (by simp)

end BinaryOperator

end StackScript
