import SchemaBindings.Proofs.Source.Place
import SchemaBindings.Proofs.Template.Render
import SchemaBindings.Proofs.Text.LineEnd
import SchemaBindings.Source.Statement
/-!
# The tokens of the prelude

A generated module begins with a string that describes it and with an import, whatever stands
behind them. So a text behind the prelude is a module when its own tokens can stand behind those of
the prelude (`isModule_prelude_append`).
-/

set_option autoImplicit false
set_option relaxedAutoImplicit false

namespace SchemaBindings.Template

open SchemaBindings.Source SchemaBindings.Text

/-- The tokens of what a generated module begins with: the string that describes it, and the
import. -/
def preludeTokens : List Token :=
  [.string false [], .newline, .keyword "import", .name "enum".toList, .newline]

/-- The prelude holds neither a carriage return nor a NUL. -/
theorem ne_of_mem_prelude {c : Char} (hc : c ∈ prelude) : c ≠ '\r' ∧ c ≠ '\x00' := by
  have hall : (prelude.all fun c ↦ c != '\r' && c != '\x00') = true := by
    rw [preludeChars.2]
    decide
  simpa using List.all_eq_true.mp hall c hc

theorem tokens?_prelude_append (behind : List Char) :
    tokens? (prelude ++ behind) =
      ((Place.line []).tokens behind).map (preludeTokens ++ ·) := by
  obtain ⟨inside, htext, hlong, htoken⟩ : ∃ inside, prelude = '"' :: '"' :: '"' :: inside ∧
      untilLongQuote '"' inside = some (inside.take 126, "\n\nimport enum\n\n\n".toList) ∧
      stringToken? "" (inside.take 126) = some (.string false []) := by
    rw [preludeChars.2]
    exact ⟨preludeChars.1.drop 3, by decide +kernel⟩
  have hstring : lexeme? ('"' :: '"' :: '"' :: (inside ++ behind)) =
      some (.string false [], "\n\nimport enum\n\n\n".toList ++ behind) := by
    rw [lexeme?, if_pos (by decide), string?, stringText?, if_pos (by decide),
      untilLongQuote_append hlong, Option.bind_some]
    simp only [htoken, Option.map_some]
  have himport := IsPassage.tokens_of_through (by decide : IsPassage "\n\nimport enum\n\n\n".toList)
    (by decide : (Place.inside [] []).through 20 "\n\nimport enum\n\n\n".toList =
      some ([.newline, .keyword "import", .name "enum".toList, .newline], .line [])) behind
  calc tokens? (prelude ++ behind)
      = (Place.line []).tokens ('"' :: '"' :: '"' :: (inside ++ behind)) := by
        rw [htext]
        rfl
    _ = ((Place.line []).tokens behind).map (preludeTokens ++ ·) := by
        rw [tokens_lineStart (by decide) _ rfl, tokens_token (by decide) hstring rfl, himport,
          Option.map_map, Option.map_map]
        rfl

/-- A text behind the prelude is read from the start of a line. -/
theorem isModule_prelude_append (text : List Char) :
    isModule (prelude ++ text) =
      match (Place.line []).tokens (unifyLineEnds text) with
      | none => false
      | some tokens => areModule (preludeTokens ++ tokens) := by
  have hreturn : '\r' ∉ prelude := fun hmem ↦ (ne_of_mem_prelude hmem).1 rfl
  have hlast : prelude.getLast? ≠ some '\r' := fun heq ↦ hreturn (List.mem_of_getLast? heq)
  rw [isModule, unifyLineEnds_append hlast, unifyLineEnds_eq_self hreturn, tokens?_prelude_append]
  cases (Place.line []).tokens (unifyLineEnds text) <;> rfl

end SchemaBindings.Template
