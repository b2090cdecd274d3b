/-!
Blank characters: the Unicode characters of bidirectional class B, S or WS and of category Zs. They separate tokens and are what `trim` removes.
-/

namespace StackScript.Text

def isBlank (c : Char) : Bool :=
  let n := c.toNat
  (0x09 ≤ n && n ≤ 0x0D) || (0x1C ≤ n && n ≤ 0x20) || n == 0x85 || n == 0xA0 || n == 0x1680 ||
    (0x2000 ≤ n && n ≤ 0x200A) || n == 0x2028 || n == 0x2029 || n == 0x202F || n == 0x205F ||
    n == 0x3000

def trimChars (l : List Char) : List Char :=
  ((l.dropWhile isBlank).reverse.dropWhile isBlank).reverse

theorem dropWhile_isBlank_eq_self {l : List Char} (hhead : ∀ c ∈ l.head?, isBlank c = false) :
    l.dropWhile isBlank = l := by
  cases l with
  | nil => rfl
  | cons c rest => simp [hhead c rfl]

theorem trimChars_eq_self {l : List Char} (hhead : ∀ c ∈ l.head?, isBlank c = false)
    (hlast : ∀ c ∈ l.getLast?, isBlank c = false) : trimChars l = l := by
  have hreverse : ∀ c ∈ l.reverse.head?, isBlank c = false := by
    rwa [List.head?_reverse]
  rw [trimChars, dropWhile_isBlank_eq_self hhead, dropWhile_isBlank_eq_self hreverse,
    List.reverse_reverse]

/-- Without the blanks in front, what is cut off are the blanks at the end. -/
theorem exists_gap_dropWhile (l : List Char) :
    ∃ gap, l.dropWhile isBlank = trimChars l ++ gap ∧ ∀ c ∈ gap, isBlank c = true := by
  refine ⟨((l.dropWhile isBlank).reverse.takeWhile isBlank).reverse, ?_, ?_⟩
  · rw [trimChars, ← List.reverse_append, List.takeWhile_append_dropWhile, List.reverse_reverse]
  · exact fun c hc => List.all_eq_true.mp List.all_takeWhile c (List.mem_reverse.mp hc)

/-- What is cut off at either end are blanks. -/
theorem exists_blanks_trimChars (l : List Char) :
    ∃ indent gap, l = indent ++ (trimChars l ++ gap) ∧ (∀ c ∈ indent, isBlank c = true) ∧
      ∀ c ∈ gap, isBlank c = true := by
  obtain ⟨gap, hsplit, hgap⟩ := exists_gap_dropWhile l
  refine ⟨l.takeWhile isBlank, gap, ?_, ?_, hgap⟩
  · rw [← hsplit, List.takeWhile_append_dropWhile]
  · exact fun c hc => List.all_eq_true.mp List.all_takeWhile c hc

/-- What is left of a text has no blank at its end. -/
theorem isBlank_getLast?_trimChars {l : List Char} {c : Char} (h : c ∈ (trimChars l).getLast?) :
    isBlank c = false := by
  rw [trimChars, List.getLast?_reverse] at h
  have hhead := List.head?_dropWhile_not isBlank (l.dropWhile isBlank).reverse
  rw [Option.mem_def.mp h] at hhead
  simpa using hhead

def trim (s : String) : String :=
  String.ofList (trimChars s.toList)

end StackScript.Text
