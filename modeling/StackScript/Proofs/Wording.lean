import StackScript.Proofs.Templates

/-!
# Messages that quote what they are about

A diagnostic is worded by a template and expressions, which come from scripts and can be any text. It
shows the texts of the template as they are and the expressions as they are, in bold if there is a
style, and nothing in either is read as a field. So no error of a script can fail to be worded.
-/

namespace StackScript

open Text

namespace Template

/-- A text, and then expressions that have a text after them, as they are shown. -/
def shown (style : Style) (first : List Char) : List (String × List Char) → String
  | [] => String.ofList first
  | (expr, text) :: rest => String.ofList first ++ style.bold expr ++ shown style text rest

theorem render_pieces (style : Style) (first : List Char) (entries : List (String × List Char)) :
    (pieces first entries).render style = shown style first entries := by
  induction entries generalizing first with
  | nil => simp [pieces, shown, Message.render, Piece.render]
  | cons entry entries ih =>
      obtain ⟨expr, text⟩ := entry
      calc (pieces first ((expr, text) :: entries)).render style
          = String.ofList first ++ (style.bold expr ++ (pieces text entries).render style) := by
            simp only [pieces, Message.render, List.map_cons, String.join_cons, Piece.render]
        _ = shown style first ((expr, text) :: entries) := by
            rw [ih, shown, String.append_assoc]

theorem exists_shown_append {style : Style} {first text : List Char} {expr : String}
    {entries : List (String × List Char)} (h : (expr, text) ∈ entries) :
    ∃ before after, shown style first entries = before ++ style.bold expr ++ after := by
  induction entries generalizing first with
  | nil => cases h
  | cons entry entries ih =>
      rcases List.mem_cons.mp h with rfl | hrest
      · exact ⟨_, _, rfl⟩
      · obtain ⟨before, after, hshown⟩ := @ih entry.2 hrest
        refine ⟨String.ofList first ++ style.bold entry.1 ++ before, after, ?_⟩
        rw [shown, hshown]
        simp only [String.append_assoc]

end Template

namespace Diagnostic

open Template

/-- **Templates are filled verbatim.** With an expression for each field the message shows the texts and the expressions in turn, whatever characters they have; those left over are not shown. With too few the fault is the first field that has none. The errors of a script all have what their templates need, so each is worded, and shows its expressions. -/
theorem ofTemplate_fields (first : List Char) (texts : List (List Char)) (exprs : List String)
    (line : Option Int) (internal : Bool) :
    (texts.length ≤ exprs.length →
      ∃ message,
        ofTemplate (String.ofList (fields first texts)) exprs line internal =
          .ok { message, subject := exprs.headD "", line, internal } ∧
        message.text = shown .plain first (exprs.zip texts) ∧
        ∀ style, message.render style = shown style first (exprs.zip texts)) ∧
      (exprs.length < texts.length →
        ofTemplate (String.ofList (fields first texts)) exprs line internal =
          .error (.noExpression exprs.length)) ∧
      ∀ error : ScriptError,
        ofTemplate error.template error.exprs line false = .ok (error.diagnostic line) ∧
        ∃ first texts, error.template = String.ofList (fields first texts) ∧
          texts.length = error.exprs.length ∧
          ∀ style,
            (error.diagnostic line).message.render style =
              shown style first (error.exprs.zip texts) ∧
            ∀ expr ∈ error.exprs, ∃ before after,
              (error.diagnostic line).message.render style =
                before ++ style.bold expr ++ after := by
  refine ⟨fun hle => ⟨pieces first (exprs.zip texts), ?_, render_pieces .plain _ _, fun style =>
    render_pieces style _ _⟩, fun hlt => ?_, fun error => ⟨error.ofTemplate_template line, ?_⟩⟩
  · rw [ofTemplate, fill_fields_of_le first hle]
    rfl
  · rw [ofTemplate, fill_fields_of_lt first hlt]
    rfl
  · obtain ⟨first, texts, htemplate, hlength, hmessage⟩ := error.exists_fields
    refine ⟨first, texts, htemplate, hlength, fun style => ?_⟩
    have hrender : (error.diagnostic line).message.render style =
        shown style first (error.exprs.zip texts) := by
      rw [← render_pieces, ← hmessage]
      rfl
    refine ⟨hrender, fun expr hexpr => ?_⟩
    rw [hrender]
    rw [← List.map_fst_zip (Nat.le_of_eq hlength.symm)] at hexpr
    obtain ⟨entry, hentry, rfl⟩ := List.mem_map.mp hexpr
    exact exists_shown_append hentry

/-- Braces in a text are doubled in the template, and those in an expression are left alone; the third field of `\x7b\x7d\x7b\x7d-\x7b\x7d` finds no expression if there are two. -/
theorem ofTemplate_fields_braces :
    (∃ message,
      ofTemplate "a\x7b\x7b\x7b\x7d\x7d\x7d\x7b\x7d" ["\x7b0\x7d", "\x7d", "spare"] (some 3) false =
        .ok { message, subject := "\x7b0\x7d", line := some 3, internal := false } ∧
      message.text = "a\x7b\x7b0\x7d\x7d\x7d" ∧
      message.render .ansi = "a\x7b\x1b[1m\x7b0\x7d\x1b[0m\x7d\x1b[1m\x7d\x1b[0m") ∧
    ofTemplate "\x7b\x7d\x7b\x7d-\x7b\x7d" ["\x7b0\x7d", "\x7d"] none false =
      .error (.noExpression 2) ∧
    (TemplateError.noExpression 2).interruption =
      .unexpected "IndexError" "Replacement index 2 out of range for positional args tuple" ∧
    ofTemplate "'\x7b\x7d' needs a \x7b\x7d operand" ["\x7b", "left"] none false =
      .ok ((ScriptError.missingOperand "\x7b" "left").diagnostic none) := by
  have hfilled := (ofTemplate_fields ['a', '\x7b'] [['\x7d'], []] ["\x7b0\x7d", "\x7d", "spare"]
    (some 3) false).1 (by decide)
  have hshort := (ofTemplate_fields [] [[], ['-'], []] ["\x7b0\x7d", "\x7d"] none false).2.1
    (by decide)
  have hworded := ((ofTemplate_fields [] [] [] none false).2.2 (.missingOperand "\x7b" "left")).1
  obtain ⟨message, hmessage, htext, hrender⟩ := hfilled
  exact ⟨⟨message, hmessage, htext, hrender .ansi⟩, hshort, rfl, hworded⟩

end Diagnostic

end StackScript
