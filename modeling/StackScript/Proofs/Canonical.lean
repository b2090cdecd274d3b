import StackScript.Proofs.Numeral

/-!
# The shortest form of a numeral

Every integer has one numeral without padding, the one it is written as. Dropping the padding of a
text finds that numeral without any arithmetic, so the length of the text does not matter. That it is
the right one rests on a property of digits: if they do not begin with a zero, they are what their
value is written with.
-/

namespace StackScript

namespace Numeral

variable {l : List Char}

/-! ### Digits and their value -/

theorem toNat_sub_lt_ten {c : Char} (h : c.isDigit = true) : c.toNat - '0'.toNat < 10 := by
  have hhigh : c.toNat ≤ 57 := (Char.isDigit_iff_toNat.mp h).2
  change c.toNat - 48 < 10
  omega

theorem digitChar_toNat_sub {c : Char} (h : c.isDigit = true) :
    (c.toNat - '0'.toNat).digitChar = c := by
  have hlow : 48 ≤ c.toNat := (Char.isDigit_iff_toNat.mp h).1
  apply Char.toNat_inj.mp
  rw [Nat.toNat_digitChar_of_lt_ten (toNat_sub_lt_ten h)]
  change 48 + (c.toNat - 48) = c.toNat
  omega

theorem ofDigitChars_pos (l : List Char) {sofar : Nat} (h : 0 < sofar) :
    0 < Nat.ofDigitChars 10 l sofar := by
  rw [Nat.ofDigitChars_eq_ofDigitChars_zero]
  have hpos : 0 < 10 ^ l.length * sofar := Nat.mul_pos (Nat.pow_pos (by decide)) h
  omega

theorem toDigits_ofDigitChars (h : ∀ c ∈ l, c.isDigit = true) {sofar : Nat} (hpos : 0 < sofar) :
    Nat.toDigits 10 (Nat.ofDigitChars 10 l sofar) = Nat.toDigits 10 sofar ++ l := by
  induction l generalizing sofar with
  | nil => simp
  | cons c l ih =>
      have hdigit : c.isDigit = true := h c List.mem_cons_self
      have hlt := toNat_sub_lt_ten hdigit
      rw [Nat.ofDigitChars_cons, ih (fun d hd => h d (List.mem_cons_of_mem _ hd)) (by omega),
        ← Nat.toDigits_append_toDigits (by decide) hpos hlt, Nat.toDigits_of_lt_base hlt,
        digitChar_toNat_sub hdigit]
      simp

/-- Digits that do not begin with a zero are those that their value is written with. -/
theorem toDigits_of_head?_ne_zero (hdigits : isDigits l = true) (hhead : l.head? ≠ some '0') :
    0 < Nat.ofDigitChars 10 l 0 ∧ Nat.toDigits 10 (Nat.ofDigitChars 10 l 0) = l := by
  obtain ⟨hne, hall⟩ := isDigits_iff.mp hdigits
  obtain ⟨c, rest, rfl⟩ := List.exists_cons_of_ne_nil hne
  have hdigit : c.isDigit = true := hall c List.mem_cons_self
  have hfirst : 0 < c.toNat - '0'.toNat := by
    have hlow : 48 ≤ c.toNat := (Char.isDigit_iff_toNat.mp hdigit).1
    have hzero : c.toNat ≠ 48 := fun h => hhead (congrArg some (Char.toNat_inj.mp h))
    change 0 < c.toNat - 48
    omega
  rw [Nat.ofDigitChars_cons, Nat.mul_zero, Nat.zero_add]
  refine ⟨ofDigitChars_pos rest hfirst, ?_⟩
  rw [toDigits_ofDigitChars (fun d hd => hall d (List.mem_cons_of_mem _ hd)) hfirst,
    Nat.toDigits_of_lt_base (toNat_sub_lt_ten hdigit), digitChar_toNat_sub hdigit]
  rfl

theorem ofDigitChars_dropWhile (l : List Char) :
    Nat.ofDigitChars 10 (l.dropWhile (· == '0')) 0 = Nat.ofDigitChars 10 l 0 := by
  induction l with
  | nil => rfl
  | cons c l ih =>
      by_cases hzero : c = '0'
      · subst hzero
        rw [List.dropWhile_cons_of_pos (by simp), ih, Nat.ofDigitChars_cons]
        rfl
      · rw [List.dropWhile_cons_of_neg (by simpa using hzero)]

theorem isDigits_dropWhile (hdigits : isDigits l = true) (hne : l.dropWhile (· == '0') ≠ []) :
    isDigits (l.dropWhile (· == '0')) = true :=
  isDigits_iff.mpr ⟨hne, fun c hc =>
    (isDigits_iff.mp hdigits).2 c ((List.dropWhile_subset _) hc)⟩

theorem head?_dropWhile_ne_zero (l : List Char) : (l.dropWhile (· == '0')).head? ≠ some '0' := by
  intro hhead
  have hnot := List.head?_dropWhile_not (· == '0') l
  rw [hhead] at hnot
  exact absurd hnot (by decide)

/-- The value of digits is written with no more of them. -/
theorem length_toDigits_le (hdigits : isDigits l = true) :
    (Nat.toDigits 10 (Nat.ofDigitChars 10 l 0)).length ≤ l.length := by
  rw [← ofDigitChars_dropWhile]
  by_cases hnil : l.dropWhile (· == '0') = []
  · rw [hnil, Nat.ofDigitChars_nil, Nat.toDigits_zero]
    exact List.length_pos_iff.mpr (isDigits_iff.mp hdigits).1
  · have hrest := isDigits_dropWhile hdigits hnil
    rw [(toDigits_of_head?_ne_zero hrest (head?_dropWhile_ne_zero l)).2]
    exact (List.dropWhile_suffix _).length_le

theorem value_dropWhile (negative : Bool) (digits : List Char) :
    (⟨negative, digits.dropWhile (· == '0')⟩ : Numeral).value =
      (⟨negative, digits⟩ : Numeral).value := by
  simp only [value, ofDigitChars_dropWhile]

theorem natAbs_value (numeral : Numeral) :
    numeral.value.natAbs = Nat.ofDigitChars 10 numeral.digits 0 := by
  unfold value
  cases numeral.negative with
  | true => simp
  | false => simp

theorem value_lt_zero_iff {numeral : Numeral} (h : 0 < Nat.ofDigitChars 10 numeral.digits 0) :
    numeral.value < 0 ↔ numeral.negative = true := by
  unfold value
  cases numeral.negative with
  | true => exact iff_of_true (by simpa using h) rfl
  | false => exact iff_of_false (by simp) (by simp)

end Numeral

open Numeral

/-! ### Canonical numerals -/

/-- The integer that a text is a numeral of, with whatever padding. -/
def integer? (text : String) : Option Int :=
  (ofText? text).map Numeral.value

/-- There is no zero in front except for zero itself, and a minus sign exactly for what is negative. -/
structure IsCanonical (text : String) (value : Int) : Prop where
  integer : integer? text = some value
  padding : ∀ numeral, ofText? text = some numeral → numeral.digits.head? = some '0' → text = "0"
  sign : text.toList.head? = some '-' ↔ value < 0

theorem integer?_eq_some_iff {text : String} {value : Int} :
    integer? text = some value ↔ ∃ numeral, ofText? text = some numeral ∧ numeral.value = value := by
  simp [integer?]

theorem isNumeral_iff_integer? {text : String} :
    isNumeral text = true ↔ ∃ value, integer? text = some value := by
  simp only [isNumeral, integer?, ← Option.isSome_iff_exists, Option.isSome_map]

theorem integer?_toString (value : Int) : integer? (toString value) = some value := by
  rw [integer?, ofText?_toString, Option.map_some, Numeral.value, Nat.ofDigitChars_ten_toDigits]
  by_cases hsign : value < 0
  · simp only [hsign, decide_true, if_true, Option.some.injEq]
    omega
  · simp only [hsign, decide_false, Bool.false_eq_true, if_false, Option.some.injEq]
    omega

theorem IsCanonical.eq_toString {text : String} {value : Int} (h : IsCanonical text value) :
    text = toString value := by
  obtain ⟨⟨negative, digits⟩, hnumeral, hvalue⟩ := integer?_eq_some_iff.mp h.integer
  obtain ⟨hdigits, htext⟩ : isDigits digits = true ∧
      text.toList = if negative then '-' :: digits else digits := ofChars?_eq_some_iff.mp hnumeral
  by_cases hhead : digits.head? = some '0'
  · obtain rfl := h.padding _ hnumeral hhead
    have hzero : integer? "0" = some 0 := integer?_toString 0
    have hvalue : (0 : Int) = value := Option.some.inj (hzero.symm.trans h.integer)
    rw [← hvalue]
    rfl
  · obtain ⟨hpos, hwritten⟩ := toDigits_of_head?_ne_zero hdigits hhead
    have hsign : value < 0 ↔ negative = true := hvalue ▸ value_lt_zero_iff hpos
    apply String.toList_inj.mp
    rw [toList_toString, htext, ← hvalue, natAbs_value, hwritten, hvalue]
    simp only [hsign]

theorem canonicalText_of_ofText? {text : String} {numeral : Numeral}
    (h : ofText? text = some numeral) : canonicalText text = numeral.canonical := by
  rw [canonicalText, h]

theorem isCanonical_canonicalText {text : String} {value : Int} (h : integer? text = some value) :
    IsCanonical (canonicalText text) value := by
  obtain ⟨⟨negative, digits⟩, hnumeral, rfl⟩ := integer?_eq_some_iff.mp h
  have hdigits : isDigits digits = true := (ofChars?_eq_some_iff.mp hnumeral).1
  have hsame := value_dropWhile negative digits
  rw [canonicalText_of_ofText? hnumeral, canonical]
  cases hrest : digits.dropWhile (· == '0') with
  | nil =>
      -- Zeros only: the sign goes with the padding.
      have hzero : (⟨negative, digits⟩ : Numeral).value = 0 := by
        rw [← Int.natAbs_eq_zero, ← hsame, natAbs_value, hrest, Nat.ofDigitChars_nil]
      rw [hzero]
      refine ⟨integer?_toString 0, fun _ _ _ => rfl, ?_⟩
      simp
  | cons c rest =>
      have hdigits : isDigits (c :: rest) = true := by
        have hdropped := isDigits_dropWhile hdigits
        rw [hrest] at hdropped
        exact hdropped (List.cons_ne_nil _ _)
      have hhead : (c :: rest).head? ≠ some '0' := hrest ▸ head?_dropWhile_ne_zero digits
      have hpos := (toDigits_of_head?_ne_zero hdigits hhead).1
      rw [hrest] at hsame
      have hread : ofText? (String.ofList (if negative then '-' :: c :: rest else c :: rest)) =
          some ⟨negative, c :: rest⟩ :=
        ofChars?_eq_some_iff.mpr ⟨hdigits, String.toList_ofList⟩
      refine ⟨?_, ?_, ?_⟩
      · rw [integer?, hread, Option.map_some, hsame]
      · intro numeral hother hpadded
        obtain rfl := Option.some.inj (hread.symm.trans hother)
        exact absurd hpadded hhead
      · rw [String.toList_ofList, ← hsame, value_lt_zero_iff hpos]
        cases negative with
        | true => exact iff_of_true rfl rfl
        | false => exact iff_of_false (head?_ne_minus_of_isDigits hdigits) (by simp)

theorem canonicalText_eq_toString {text : String} {value : Int} (h : integer? text = some value) :
    canonicalText text = toString value :=
  (isCanonical_canonicalText h).eq_toString

theorem isCanonical_iff {text : String} {value : Int} :
    IsCanonical text value ↔ text = toString value := by
  constructor
  · exact IsCanonical.eq_toString
  · rintro rfl
    have hread := integer?_toString value
    have hcanonical := isCanonical_canonicalText hread
    rwa [canonicalText_eq_toString hread] at hcanonical

/-! ### Reading and writing -/

theorem readInt_eq_ok_iff {operator text : String} {value : Int} :
    readInt operator text = .ok value ↔
      ∃ numeral, ofText? text = some numeral ∧ numeral.digits.length ≤ maxDigits ∧
        numeral.value = value := by
  unfold readInt
  cases hnumeral : ofText? text with
  | none => simp
  | some numeral =>
    by_cases hlength : numeral.digits.length ≤ maxDigits
    · simp [hlength]
    · simp [hlength]

theorem lt_bound_iff {n : Nat} : n < bound ↔ (Nat.toDigits 10 n).length ≤ maxDigits := by
  have hpos : 0 < maxDigits := by decide
  unfold bound
  -- as it stands, the power would be computed
  generalize maxDigits = k at hpos ⊢
  exact (Nat.length_toDigits_le_iff (by decide) hpos).symm

theorem natAbs_lt_bound_of_readInt {operator text : String} {value : Int}
    (h : readInt operator text = .ok value) : value.natAbs < bound := by
  obtain ⟨numeral, hnumeral, hlength, rfl⟩ := readInt_eq_ok_iff.mp h
  obtain ⟨hdigits, -⟩ := ofChars?_eq_some_iff.mp hnumeral
  rw [lt_bound_iff, natAbs_value]
  exact Nat.le_trans (length_toDigits_le hdigits) hlength

theorem integer?_of_readInt {operator text : String} {value : Int}
    (h : readInt operator text = .ok value) : integer? text = some value := by
  obtain ⟨numeral, hnumeral, -, hvalue⟩ := readInt_eq_ok_iff.mp h
  exact integer?_eq_some_iff.mpr ⟨numeral, hnumeral, hvalue⟩

/-- How many digits a text has, padding included and a sign left out. -/
def digitCount (text : String) : Nat :=
  text.toList.countP Char.isDigit

theorem digitCount_of_ofText? {text : String} {numeral : Numeral}
    (h : ofText? text = some numeral) : digitCount text = numeral.digits.length := by
  obtain ⟨hdigits, htext⟩ := ofChars?_eq_some_iff.mp h
  have hall : numeral.digits.countP Char.isDigit = numeral.digits.length :=
    List.countP_eq_length.mpr (isDigits_iff.mp hdigits).2
  rw [digitCount, htext]
  split
  · rw [List.countP_cons_of_neg (by decide), hall]
  · exact hall

theorem readInt_of_integer? {text : String} {value : Int} (h : integer? text = some value)
    (operator : String) :
    readInt operator text =
      if maxDigits < digitCount text then .error (.typeMismatch operator "Number" text)
      else .ok value := by
  obtain ⟨numeral, hnumeral, rfl⟩ := integer?_eq_some_iff.mp h
  rw [readInt, hnumeral, digitCount_of_ofText? hnumeral]
  simp only [← Nat.not_lt, ite_not]

/-- What can be written can be read again. -/
theorem digitCount_toString_le_iff {value : Int} :
    digitCount (toString value) ≤ maxDigits ↔ value.natAbs < bound := by
  rw [digitCount_of_ofText? (ofText?_toString value), lt_bound_iff]

/-- **Dropping the padding.** What is left of a numeral, however long, is the one canonical numeral of the integer it denotes. So nothing is left to drop, two numerals become one text if and only if they denote the same integer, and a numeral that can be read is written as just that text. Any other text stays as it is. -/
theorem canonicalText_canonical (text : String) :
    (isNumeral text = true → ∃ value, integer? text = some value ∧
      (∀ candidate, IsCanonical candidate value ↔ candidate = canonicalText text) ∧
      integer? (canonicalText text) = some value ∧
      canonicalText (canonicalText text) = canonicalText text ∧
      (∀ other, isNumeral other = true →
        (canonicalText text = canonicalText other ↔ integer? text = integer? other)) ∧
      ∀ operator read, readInt operator text = .ok read →
        writeInt operator read = .ok (canonicalText text)) ∧
    (isNumeral text = false → canonicalText text = text) := by
  constructor
  · intro htext
    obtain ⟨value, hvalue⟩ := isNumeral_iff_integer?.mp htext
    have hcanonical := canonicalText_eq_toString hvalue
    refine ⟨value, hvalue, ?_, ?_, ?_, ?_, ?_⟩
    · intro candidate
      rw [hcanonical]
      exact isCanonical_iff
    · rw [hcanonical]
      exact integer?_toString _
    · rw [hcanonical]
      exact canonicalText_eq_toString (integer?_toString _)
    · intro other hother
      obtain ⟨otherValue, hotherValue⟩ := isNumeral_iff_integer?.mp hother
      rw [hcanonical, canonicalText_eq_toString hotherValue, hvalue, hotherValue]
      constructor
      · intro hsame
        rw [← integer?_toString, hsame, integer?_toString]
      · intro hsame
        rw [Option.some.inj hsame]
    · intro operator read hread
      obtain rfl := Option.some.inj (hvalue.symm.trans (integer?_of_readInt hread))
      rw [writeInt, if_pos (natAbs_lt_bound_of_readInt hread), hcanonical]
  · intro htext
    have hnone : ofText? text = none := by
      simpa [isNumeral] using htext
    rw [canonicalText, hnone]

/-- Zeros lose their sign with their padding; a sign at the end makes no numeral. -/
theorem canonicalText_canonical_zeros :
    isNumeral "-000" = true ∧ isNumeral "0" = true ∧ isNumeral "1-" = false ∧
      IsCanonical (canonicalText "-000") 0 ∧ canonicalText "-000" = canonicalText "0" ∧
      readInt "+" "-000" = .ok 0 ∧ writeInt "+" 0 = .ok (canonicalText "-000") ∧
      canonicalText "1-" = "1-" := by
  have hzeros : isNumeral "-000" = true := by decide
  have hzero : isNumeral "0" = true := by decide
  have hnone : isNumeral "1-" = false := by decide
  have hread : readInt "+" "-000" = .ok 0 := rfl
  obtain ⟨value, hvalue, hcanonical, -, -, hsame, hwrite⟩ :=
    (canonicalText_canonical "-000").1 hzeros
  obtain rfl : 0 = value := Option.some.inj ((integer?_of_readInt hread).symm.trans hvalue)
  exact ⟨hzeros, hzero, hnone, (hcanonical _).mpr rfl, (hsame "0" hzero).mpr rfl, hread,
    hwrite "+" 0 hread, (canonicalText_canonical "1-").2 hnone⟩

end StackScript
