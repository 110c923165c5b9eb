import Mathlib.Data.List.Basic
import SchemaBindings.Template.Builtin
import SchemaBindings.Template.Parse
/-!
# Rendering part by part

What a template renders to is put together from its parts: the rules below give the text of each
kind of part from the values of its expressions and the texts of its body. A loop goes through the
members in order, so its text is that of its body at the first member, then at the second one, and
so on (`render_forMembers`).

The parts of the standing templates are what their texts are read as (`parse?_enumSource`,
`parse?_moduleSource`).
-/

set_option autoImplicit false
set_option relaxedAutoImplicit false

namespace SchemaBindings.Template

@[simp] theorem Value.shown_text (value : List Char) : (Value.text value).shown = value := rfl

@[simp] theorem Value.shown_number (value : Nat) :
    (Value.number value).shown = Nat.toDigits 10 value := rfl

@[simp] theorem Value.isTruthy_text (value : List Char) :
    (Value.text value).isTruthy = !value.isEmpty := rfl

variable {scope : Scope}

theorem renderAll_nil : renderAll scope [] = .ok [] := by
  rw [renderAll]

theorem renderAll_cons {node : Node} {text : List Char} (htext : node.render scope = .ok text)
    (nodes : List Node) :
    renderAll scope (node :: nodes) = (renderAll scope nodes).map (text ++ ·) := by
  rw [renderAll, htext]
  cases renderAll scope nodes with
  | error fault => rfl
  | ok rest => rfl

theorem render_text (value : List Char) : (Node.text value).render scope = .ok value := by
  rw [Node.render]

theorem render_output {expr : Expr} {value : Value} (hvalue : expr.eval scope = .ok value) :
    (Node.output expr).render scope = .ok value.shown := by
  rw [Node.render, hvalue]
  rfl

theorem render_whenTrue {condition : Expr} {value : Value} {body : List Node} {text : List Char}
    (hvalue : condition.eval scope = .ok value)
    (hbody : renderAll scope body = .ok text) :
    (Node.whenTrue condition body).render scope = .ok (if value.isTruthy then text else []) := by
  rw [Node.render, hvalue]
  change (if value.isTruthy = true then renderAll scope body else .ok []) = _
  rw [hbody]
  split_ifs
  · rfl
  · rfl

/-- A loop whose body renders at every member and place renders to the texts in a row. -/
theorem render_forMembers {body : List Node} {texts : Member → Nat → List Char}
    (hbody : ∀ member index,
      renderAll (scope.atMember scope.loopMembers.length index member) body =
        .ok (texts member index)) :
    (Node.forMembers body).render scope =
      .ok (scope.loopMembers.zipIdx.flatMap fun (member, index) ↦ texts member index) := by
  have hpure : (fun entry : Member × Nat ↦
      renderAll (scope.atMember scope.loopMembers.length entry.2 entry.1) body) =
      fun entry ↦ pure (texts entry.1 entry.2) :=
    funext fun entry ↦ hbody entry.1 entry.2
  rw [Node.render]
  simp only [hpure, List.mapM_pure, pure_bind]
  rfl

/-! ### The texts of the standing templates -/

/-- The characters of the prelude, one by one. The literal itself is slow to take apart. -/
def preludeChars : { chars : List Char // prelude = chars } :=
  ⟨_, String.toList_append.trans
    (congrArg₂ HAppend.hAppend String.toList_ofList String.toList_ofList)⟩

set_option maxRecDepth 4000 in
/-- The text of the template for an enum is read as the declaration of an enum. -/
theorem parse?_enumSource : parse? enumSource = some enumDeclaration := by
  simp only [enumSource, enumDeclaration, memberLines, tableLines, textOfLines, List.flatMap_cons,
    List.flatMap_nil, String.toList_append, String.reduceToList, List.cons_append, List.nil_append]
  rfl

set_option maxRecDepth 4000 in
/-- The text of the template for a module is read as a module. -/
theorem parse?_moduleSource : parse? moduleSource = some moduleText := by
  rw [moduleSource, moduleText, preludeChars.2]
  simp only [textOfLines, List.flatMap_cons, List.flatMap_nil, String.reduceToList,
    List.cons_append, List.nil_append]
  rfl

end SchemaBindings.Template
