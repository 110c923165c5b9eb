import SchemaBindings.Proofs.Template.EnumLines
import SchemaBindings.Proofs.Template.Prelude
/-!
# The lines of a module

With the built-in templates the declarations of some types are a text of lines, those of the enums
one after the other (`declarations_eq`); the other types have none. A module is the prelude and
these lines, without the blank ones at the end (`moduleAround_declarations`).
-/

set_option autoImplicit false
set_option relaxedAutoImplicit false

namespace SchemaBindings.ModuleLines

open SchemaBindings.Text SchemaBindings.Template

/-! ### Declarations -/

/-- The lines that declare a type. -/
def declaration (type : NamedType) : List (List Char) :=
  match type.body with
  | .enum values => EnumLines.all type.name.toList values
  | .scalar | .object _ _ | .interface _ _ | .union _ | .inputObject _ => []

theorem typeText_eq (type : NamedType) :
    ({} : Templates).typeText 0 type = .ok (ended (declaration type)) := by
  obtain ⟨name, description, body⟩ := type
  cases body with
  | enum values => rw [EnumLines.typeText_enum, EnumLines.enumText_eq, declaration]
  | scalar => rfl
  | object fields interfaces => rfl
  | interface fields possibleTypes => rfl
  | union possibleTypes => rfl
  | inputObject inputFields => rfl

theorem declarations_eq (types : List NamedType) :
    ({} : Templates).declarations types = .ok (ended (types.flatMap declaration)) := by
  have hpure : ({} : Templates).typeText 0 = fun type ↦ pure (ended (declaration type)) :=
    funext typeText_eq
  rw [Templates.declarations, hpure, List.mapM_pure, ended_flatMap]
  rfl

/-- The declarations of types that can be sorted are those of the sorted types. -/
theorem typesText_eq_ok_iff {types : List NamedType} {body : List Char} :
    ({} : Templates).typesText types = .ok body ↔
      ∃ sorted, sortTypes types = .ok sorted ∧ body = ended (sorted.flatMap declaration) := by
  rw [Templates.typesText]
  cases sortTypes types with
  | error error =>
    constructor
    · intro hbody
      cases hbody
    · rintro ⟨sorted, hsorted, -⟩
      cases hsorted
  | ok sorted =>
    change (({} : Templates).declarations sorted).mapError GenerationError.notRendered = _ ↔ _
    rw [declarations_eq]
    constructor
    · intro hbody
      cases hbody
      exact ⟨sorted, rfl, rfl⟩
    · rintro ⟨other, hother, rfl⟩
      cases hother
      rfl

/-- Declarations end in a closing brace and two blank lines, if there are any. -/
theorem flatMap_declaration_cases (types : List NamedType) :
    types.flatMap declaration = [] ∨
      ∃ front, types.flatMap declaration = front ++ ["\x7d".toList, [], []] := by
  induction types with
  | nil => exact .inl rfl
  | cons type types ih =>
    rw [List.flatMap_cons]
    rcases ih with hempty | ⟨front, hfront⟩
    · rw [hempty, List.append_nil, declaration]
      split
      · next values hbody =>
        exact .inr ⟨_, rfl⟩
      all_goals exact .inl rfl
    · exact .inr ⟨declaration type ++ front, by rw [hfront, List.append_assoc]⟩

/-! ### Modules -/

/-- The lines that a module begins with. -/
def preludeLines : List (List Char) :=
  ["\"\"\"Types generated from a GraphQL introspection result by gql-typegen.".toList, [],
    "Do not edit by hand; regenerate from the schema instead.".toList, "\"\"\"".toList, [],
    "import enum".toList, [], []]

theorem ended_preludeLines : ended preludeLines = prelude := by
  rw [preludeChars.2]
  decide

/-- Types that can be sorted are declared in their order. -/
theorem generate_of_sortTypes {types sorted : List NamedType}
    (hsorted : sortTypes types = .ok sorted) (path : String) :
    ({} : Templates).generate path types =
      ({} : Templates).render path (ended (sorted.flatMap declaration)) := by
  rw [Templates.generate, typesText_eq_ok_iff.mpr ⟨sorted, hsorted, rfl⟩]
  rfl

/-- Around declarations that are not blank, the text of a module is checked. -/
theorem render_of_moduleAround {templates : Templates} {body text : List Char}
    (hbody : isAllBlank body = false) (hmodule : templates.moduleAround body = .ok text)
    (path : String) :
    templates.render path body =
      if '\x00' ∈ text then .error .nullCharacter
      else if Source.isModule text = true then .ok text
      else .error (.notModule path) := by
  rw [Templates.render, hbody, if_neg Bool.false_ne_true, hmodule]
  change (if text.contains '\x00' = true then _ else _) = _
  simp only [List.contains_iff_mem]

theorem moduleAround_eq (body : List Char) :
    ({} : Templates).moduleAround body = .ok (prelude ++ (trimRight body ++ ['\n'])) := by
  have hbody : ({ name := "body" } : Expr).eval (moduleScope body) = .ok (.text (trimRight body)) :=
    rfl
  change renderAll (moduleScope body) moduleText = _
  rw [moduleText, renderAll_cons (render_text _), renderAll_cons (render_output hbody),
    renderAll_cons (render_text _), renderAll_nil]
  rfl

/-- A module consists of the prelude and the lines of its declarations, but for blank lines. -/
theorem moduleAround_declarations (types : List NamedType) :
    ∃ lines, ({} : Templates).moduleAround (ended (types.flatMap declaration)) =
        .ok (ended (preludeLines ++ lines)) ∧
      lines.filter (!·.isEmpty) = (types.flatMap declaration).filter (!·.isEmpty) := by
  rw [moduleAround_eq, ← ended_preludeLines]
  rcases flatMap_declaration_cases types with hempty | ⟨front, hfront⟩
  · refine ⟨[[]], ?_, by rw [hempty]; rfl⟩
    rw [hempty, ended_append]
    rfl
  · refine ⟨front ++ ["\x7d".toList], ?_, by rw [hfront]; simp⟩
    have htrimmed : trimRight (ended (types.flatMap declaration)) =
        ended front ++ "\x7d".toList := by
      rw [hfront, ended_append]
      exact trimRight_append (by decide) (ended front) (by decide)
    rw [htrimmed, ended_append, ended_append, List.append_assoc]
    rfl

end SchemaBindings.ModuleLines
