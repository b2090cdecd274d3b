import StackScript.Proofs.Canonical

/-!
# Integers and their texts

Writing is the inverse of reading on canonical numerals: the text that an integer is written as is
the one canonical numeral that is read as it. The limits of the two are counted differently. Reading
counts the digits of the text, padding included, and writing those of the integer. As padding only
adds digits, what has been read can always be written, as the text without its padding.
-/

namespace StackScript

open Numeral

variable {operator writer text : String} {value : Int}

/-! ### What can be written and what can be read -/

theorem exists_writeInt_iff :
    (∃ text, writeInt operator value = .ok text) ↔ value.natAbs < bound := by
  constructor
  · rintro ⟨text, hwrite⟩
    exact (writeInt_eq_ok_iff.mp hwrite).1
  · exact fun hbound => ⟨_, writeInt_eq_ok_iff.mpr ⟨hbound, rfl⟩⟩

/-- What can be read are numerals, by the number of their digits. -/
theorem exists_readInt_iff :
    (∃ value, readInt operator text = .ok value) ↔
      ∃ digits, digits ≠ [] ∧ (∀ c ∈ digits, c.isDigit = true) ∧
        (text.toList = digits ∨ text.toList = '-' :: digits) ∧ digits.length ≤ maxDigits := by
  constructor
  · rintro ⟨value, hread⟩
    obtain ⟨⟨negative, digits⟩, hnumeral, hlength, -⟩ := readInt_eq_ok_iff.mp hread
    obtain ⟨hdigits, htext⟩ := ofChars?_eq_some_iff.mp hnumeral
    obtain ⟨hne, hall⟩ := isDigits_iff.mp hdigits
    refine ⟨digits, hne, hall, ?_, hlength⟩
    cases negative with
    | true => exact Or.inr htext
    | false => exact Or.inl htext
  · rintro ⟨digits, hne, hall, htext, hlength⟩
    have hdigits : isDigits digits = true := isDigits_iff.mpr ⟨hne, hall⟩
    obtain ⟨negative, hnumeral⟩ : ∃ negative, ofText? text = some ⟨negative, digits⟩ := by
      rcases htext with htext | htext
      · exact ⟨false, ofChars?_eq_some_iff.mpr ⟨hdigits, htext⟩⟩
      · exact ⟨true, ofChars?_eq_some_iff.mpr ⟨hdigits, htext⟩⟩
    exact ⟨_, readInt_eq_ok_iff.mpr ⟨_, hnumeral, hlength, rfl⟩⟩

theorem readInt_toString (h : value.natAbs < bound) (reader : String) :
    readInt reader (toString value) = .ok value := by
  rw [readInt_of_integer? (integer?_toString value),
    if_neg (Nat.not_lt.mpr (digitCount_toString_le_iff.mpr h))]

/-! ### From one to the other -/

/-- What has been read can be written, and loses its padding. -/
theorem writeInt_of_readInt (h : readInt operator text = .ok value) (writer : String) :
    writeInt writer value = .ok (canonicalText text) :=
  writeInt_eq_ok_iff.mpr
    ⟨natAbs_lt_bound_of_readInt h, canonicalText_eq_toString (integer?_of_readInt h)⟩

/-- An integer is written as the canonical numeral that is read as it. -/
theorem writeInt_eq_ok_iff_readInt (reader : String) :
    writeInt writer value = .ok text ↔
      canonicalText text = text ∧ readInt reader text = .ok value := by
  constructor
  · intro hwrite
    obtain ⟨hbound, rfl⟩ := writeInt_eq_ok_iff.mp hwrite
    exact ⟨canonicalText_eq_toString (integer?_toString value), readInt_toString hbound reader⟩
  · rintro ⟨hcanonical, hread⟩
    rw [writeInt_of_readInt hread, hcanonical]

/-- **Reading and writing integers.** An integer can be written if it is less than the bound either way. Its text is a numeral without padding that every operator reads as this integer, and no other text is. A text can be read if it is a numeral with no more digits than may be read, padding included, and the integer it is read as can be written again. All that fails is a mismatch of types for the operator that reads or writes. -/
theorem writeInt_readInt (operator : String) :
    (∀ value : Int,
      ((∃ text, writeInt operator value = .ok text) ↔ value.natAbs < bound) ∧
      (∀ text, writeInt operator value = .ok text ↔
        isNumeral text = true ∧ canonicalText text = text ∧
          ∀ reader, readInt reader text = .ok value) ∧
      ∀ error, writeInt operator value = .error error →
        error = .typeMismatch operator "Number" "<integer too long>") ∧
    ∀ text : String,
      ((∃ value, readInt operator text = .ok value) ↔
        ∃ digits, digits ≠ [] ∧ (∀ c ∈ digits, c.isDigit = true) ∧
          (text.toList = digits ∨ text.toList = '-' :: digits) ∧ digits.length ≤ maxDigits) ∧
      (∀ value, readInt operator text = .ok value →
        ∀ writer, writeInt writer value = .ok (canonicalText text)) ∧
      ∀ error, readInt operator text = .error error →
        error = .typeMismatch operator "Number" text := by
  refine ⟨fun value => ⟨exists_writeInt_iff, fun text => ?_, fun error herror => ?_⟩,
    fun text => ⟨exists_readInt_iff, fun value hread => ?_, fun error herror => ?_⟩⟩
  · constructor
    · intro hwrite
      have hback := fun reader => (writeInt_eq_ok_iff_readInt reader).mp hwrite
      refine ⟨?_, (hback operator).1, fun reader => (hback reader).2⟩
      exact isNumeral_iff_integer?.mpr ⟨value, integer?_of_readInt (hback operator).2⟩
    · rintro ⟨-, hcanonical, hread⟩
      exact (writeInt_eq_ok_iff_readInt operator).mpr ⟨hcanonical, hread operator⟩
  · exact (writeInt_eq_error_iff.mp herror).1
  · exact writeInt_of_readInt hread
  · exact (readInt_eq_error_iff.mp herror).1

/-- Of two integers next to each other only the lower one can be written, and what it is written as can be read. Padding counts when a text is read: a zero can be too long. -/
theorem writeInt_readInt_limits :
    let largest : Int := bound - 1
    let zeros := String.ofList (List.replicate (maxDigits + 1) '0')
    (∃ text, writeInt "+" largest = .ok text ∧ readInt "<" text = .ok largest) ∧
      writeInt "+" (largest + 1) = .error (.typeMismatch "+" "Number" "<integer too long>") ∧
      readInt "+" "-007" = .ok (-7) ∧ writeInt "-" (-7) = .ok "-7" ∧
      readInt "+" zeros = .error (.typeMismatch "+" "Number" zeros) := by
  intro largest zeros
  have hpos : 0 < bound := lt_bound_iff.mpr (by decide)
  obtain ⟨hwrites, hreads⟩ := writeInt_readInt "+"
  obtain ⟨text, htext⟩ := (hwrites largest).1.mpr (by omega)
  obtain ⟨-, -, hback⟩ := ((hwrites largest).2.1 text).mp htext
  have hpadded : readInt "+" "-007" = .ok (-7) := rfl
  refine ⟨⟨text, htext, hback "<"⟩, ?_, hpadded, (hreads "-007").2.1 (-7) hpadded "-", ?_⟩
  · cases hnext : writeInt "+" (largest + 1) with
    | ok text =>
        have hlt : (largest + 1).natAbs < bound := (hwrites _).1.mp ⟨text, hnext⟩
        omega
    | error error => rw [(hwrites _).2.2 error hnext]
  · cases hzeros : readInt "+" zeros with
    | ok value =>
        obtain ⟨digits, -, -, hdigits, hlength⟩ := (hreads zeros).1.mp ⟨value, hzeros⟩
        rw [String.toList_ofList, List.replicate_succ] at hdigits
        rcases hdigits with hdigits | hdigits
        · rw [← hdigits, List.length_cons, List.length_replicate] at hlength
          exact absurd hlength (Nat.not_succ_le_self _)
        · cases (List.cons.inj hdigits).1
    | error error => rw [(hreads zeros).2.2 error hzeros]

end StackScript
