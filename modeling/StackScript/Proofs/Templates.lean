import StackScript.Reporter

/-!
# Templates that can be filled

A template made of texts with a field between any two of them is filled with the texts as they are
and the expressions in order, if there is an expression for each field. The texts have their braces
doubled in the template; the expressions are never read. With too few of them the template cannot be
filled.
-/

namespace StackScript

namespace Template

/-- A text as it is written in a template. -/
def literal (text : List Char) : List Char :=
  text.flatMap fun c => if c = '\x7b' ∨ c = '\x7d' then [c, c] else [c]

/-- The template with these texts, and a field before each of them but the first. -/
def fields (first : List Char) : List (List Char) → List Char
  | [] => literal first
  | text :: rest => literal first ++ '\x7b' :: '\x7d' :: fields text rest

/-- A text, and then expressions that have a text after them. -/
def pieces (first : List Char) : List (String × List Char) → Message
  | [] => [.words (String.ofList first)]
  | (expr, text) :: rest => .words (String.ofList first) :: .expr expr :: pieces text rest

theorem fields_cons (first text : List Char) (texts : List (List Char)) :
    fields first (text :: texts) = literal first ++ '\x7b' :: '\x7d' :: fields text texts := rfl

variable {exprs : List String} {next : Nat} {words rest : List Char}

theorem fillFrom_char {c : Char} (hopen : c ≠ '\x7b') (hclose : c ≠ '\x7d') :
    fillFrom exprs next words none (c :: rest) = fillFrom exprs next (c :: words) none rest := by
  rw [fillFrom.eq_def]
  grind

theorem fillFrom_literal (text : List Char) :
    fillFrom exprs next words none (literal text ++ rest) =
      fillFrom exprs next (text.reverse ++ words) none rest := by
  induction text generalizing words with
  | nil => rfl
  | cons c text ih =>
      rw [literal, List.flatMap_cons, List.append_assoc, List.reverse_cons, List.append_assoc,
        List.singleton_append, ← ih]
      by_cases hopen : c = '\x7b'
      · subst hopen
        rfl
      · by_cases hclose : c = '\x7d'
        · subst hclose
          rfl
        · rw [if_neg (by simp [hopen, hclose]), List.singleton_append,
            fillFrom_char hopen hclose]
          rfl

theorem fillFrom_braces :
    fillFrom exprs next words none ('\x7b' :: '\x7d' :: rest) = (do
      let piece ← expr exprs next
      let message ← fillFrom exprs (next + 1) [] none rest
      return .words (String.ofList words.reverse) :: piece :: message) := rfl

theorem fillFrom_field {piece : Piece} {message : Message} (hpiece : expr exprs next = .ok piece)
    (hrest : fillFrom exprs (next + 1) [] none rest = .ok message) :
    fillFrom exprs next words none ('\x7b' :: '\x7d' :: rest) =
      .ok (.words (String.ofList words.reverse) :: piece :: message) := by
  rw [fillFrom_braces, hpiece, hrest]
  rfl

theorem fillFrom_fields (entries : List (String × List Char)) (used others : List String)
    (words first : List Char) :
    fillFrom (used ++ (entries.map (·.1) ++ others)) used.length words none
        (fields first (entries.map (·.2))) =
      .ok (pieces (words.reverse ++ first) entries) := by
  induction entries generalizing used words first with
  | nil =>
      have hliteral := @fillFrom_literal (used ++ others) used.length words [] first
      rw [List.append_nil] at hliteral
      simpa [fields, pieces, fillFrom] using hliteral
  | cons entry entries ih =>
      obtain ⟨next, text⟩ := entry
      have hexpr : expr (used ++ (next :: entries.map (·.1) ++ others)) used.length =
          .ok (.expr next) := by
        simp [expr]
      have hrest := ih (used ++ [next]) [] text
      rw [List.append_assoc, List.singleton_append, List.length_append] at hrest
      rw [List.map_cons, List.map_cons, fields_cons, fillFrom_literal, fillFrom_field hexpr hrest]
      simp [pieces]

/-- The expressions that are left over are not used. -/
theorem fill_fields (first : List Char) (entries : List (String × List Char))
    (others : List String) :
    fill (String.ofList (fields first (entries.map (·.2)))) (entries.map (·.1) ++ others) =
      .ok (pieces first entries) := by
  rw [fill, String.toList_ofList]
  exact fillFrom_fields entries [] others [] first

theorem fill_fields_of_le (first : List Char) {texts : List (List Char)}
    (h : texts.length ≤ exprs.length) :
    fill (String.ofList (fields first texts)) exprs = .ok (pieces first (exprs.zip texts)) := by
  have hlength : (exprs.take texts.length).length = texts.length := by
    rw [List.length_take, Nat.min_eq_left h]
  have hzip : exprs.zip texts = (exprs.take texts.length).zip texts := by
    rw [List.zip_eq_zip_take_min, Nat.min_eq_right h, List.take_length]
  have hfill := fill_fields first ((exprs.take texts.length).zip texts) (exprs.drop texts.length)
  rw [List.map_fst_zip (Nat.le_of_eq hlength), List.map_snd_zip (Nat.le_of_eq hlength.symm),
    List.take_append_drop] at hfill
  rw [hfill, hzip]

/-- Where the expressions run out is the fault. -/
theorem fillFrom_fields_of_lt (texts : List (List Char)) {first : List Char}
    (hused : next ≤ exprs.length) (hshort : exprs.length < next + texts.length) :
    fillFrom exprs next words none (fields first texts) =
      .error (.noExpression exprs.length) := by
  induction texts generalizing next words first with
  | nil =>
      rw [List.length_nil] at hshort
      omega
  | cons text texts ih =>
      rw [fields_cons, fillFrom_literal, fillFrom_braces]
      rcases Nat.lt_or_eq_of_le hused with hnext | rfl
      · have hexpr : expr exprs next = .ok (.expr exprs[next]) := by
          rw [expr, List.getElem?_eq_getElem hnext]
        rw [List.length_cons] at hshort
        rw [hexpr, ih hnext (by omega)]
        rfl
      · have hexpr : expr exprs exprs.length = .error (.noExpression exprs.length) := by
          rw [expr, List.getElem?_eq_none (Nat.le_refl _)]
        rw [hexpr]
        rfl

theorem fill_fields_of_lt (first : List Char) {texts : List (List Char)}
    (h : exprs.length < texts.length) :
    fill (String.ofList (fields first texts)) exprs = .error (.noExpression exprs.length) := by
  rw [fill, String.toList_ofList]
  exact fillFrom_fields_of_lt texts (Nat.zero_le _) (by omega)

end Template

namespace ScriptError

/-- The expressions in the message of an error, in order. -/
def exprs : ScriptError → List String
  | unknownIdentifier name => [name]
  | missingOperand operator side => [operator, side]
  | typeMismatch operator expected got => [operator, expected, got]
  | unknownOperator operator => [operator]

def template : ScriptError → String
  | unknownIdentifier _ => "unknown identifier '\x7b\x7d'"
  | missingOperand _ _ => "'\x7b\x7d' needs a \x7b\x7d operand"
  | typeMismatch _ _ _ => "'\x7b\x7d' expected \x7b\x7d, got '\x7b\x7d'"
  | unknownOperator _ => "unknown operator '\x7b\x7d'"

/-- The texts of a template, with the message that they make with the expressions of the error. -/
theorem exists_fields (error : ScriptError) :
    ∃ first texts, error.template = String.ofList (Template.fields first texts) ∧
      texts.length = error.exprs.length ∧
      error.message = Template.pieces first (error.exprs.zip texts) := by
  cases error with
  | unknownIdentifier name => exact ⟨"unknown identifier '".toList, [['\x27']], rfl, rfl, rfl⟩
  | missingOperand operator side =>
      exact ⟨['\x27'], ["' needs a ".toList, " operand".toList], rfl, rfl, rfl⟩
  | typeMismatch operator expected got =>
      exact ⟨['\x27'], ["' expected ".toList, ", got '".toList, ['\x27']], rfl, rfl, rfl⟩
  | unknownOperator operator => exact ⟨"unknown operator '".toList, [['\x27']], rfl, rfl, rfl⟩

/-- The message of an error is its template with the expressions put in, whatever they are. -/
theorem fill_template (error : ScriptError) :
    Template.fill error.template error.exprs = .ok error.message := by
  obtain ⟨first, texts, htemplate, hlength, hmessage⟩ := error.exists_fields
  rw [htemplate, hmessage]
  exact Template.fill_fields_of_le first (Nat.le_of_eq hlength)

theorem ofTemplate_template (error : ScriptError) (line : Option Int) :
    Diagnostic.ofTemplate error.template error.exprs line false = .ok (error.diagnostic line) := by
  have hsubject : error.exprs.headD "" = error.subject := by cases error <;> rfl
  rw [Diagnostic.ofTemplate, fill_template, hsubject]
  rfl

end ScriptError

end StackScript
