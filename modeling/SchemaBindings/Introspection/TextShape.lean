import SchemaBindings.Introspection.Shape
/-!
# The shape of a document in a text

A document that is read from a text is held to the same models as one that is loaded, but by rules
of its own. The integers of a text are told apart by their size as they are read, and one of more
than 64 bits is no flag. What is read cannot hold itself, so the levels of references are not
counted. And what should be an object or an array is called so.
-/

set_option autoImplicit false
set_option relaxedAutoImplicit false

namespace SchemaBindings.Introspection

/-- The breach of a value from a text that stands for a flag. -/
def readFlagBreach? : Json → Option Breach
  | .bool _ => none
  | .str text => textFlagBreach? text
  | .int value => if isWideInteger value then integerFlagBreach? value else some .notFlag
  | .float value => doubleFlagBreach? value
  | .null | .arr _ | .obj _ => some .notFlag

/-- The breach of a value from a text under a rule, leaving aside what is inside it. -/
def Rule.readBreach? (rule : Rule) (json : Json) : Option Breach :=
  match json with
  | .null =>
    match rule with
    | nullableText | nullableRecord _ | nullableList _ => none
    | text => some .notText
    | kind => some .notKind
    | flag => some .notFlag
    | record _ => some .notObject
    | list _ => some .notArray
  | .bool _ | .int _ | .float _ =>
    match rule with
    | text | nullableText => some .notText
    | kind => some .notKind
    | flag => readFlagBreach? json
    | record _ | nullableRecord _ => some .notObject
    | list _ | nullableList _ => some .notArray
  | .str label =>
    match rule with
    | text | nullableText => none
    | kind => if (TypeKind.ofLabel? label).isSome then none else some .notKind
    | flag => readFlagBreach? json
    | record _ | nullableRecord _ => some .notObject
    | list _ | nullableList _ => some .notArray
  | .arr _ =>
    match rule with
    | text | nullableText => some .notText
    | kind => some .notKind
    | flag => some .notFlag
    | record _ | nullableRecord _ => some .notObject
    | list _ | nullableList _ => none
  | .obj _ =>
    match rule with
    | text | nullableText => some .notText
    | kind => some .notKind
    | flag => some .notFlag
    | record _ | nullableRecord _ => none
    | list _ | nullableList _ => some .notArray

mutual

/-- Every place of a value from a text that breaks a rule: the value itself, or else places inside
it. -/
def Rule.readProblems (rule : Rule) (json : Json) : List Problem :=
  match rule.readBreach? json with
  | some breach => [⟨[], breach⟩]
  | none =>
    match rule.model?, json with
    | some model, .obj members => model.entries.flatMap fun entry => entry.readProblems members
    | some model, .arr items => model.readItemProblems 0 items
    | _, _ => []
termination_by (sizeOf json, 0)

/-- The problems of one entry of an object with the given members. -/
def Entry.readProblems (entry : Entry) (members : List (String × Json)) : List Problem :=
  match _h : entry.key.find? members with
  | some (key, value) => (entry.rule.readProblems value).map (Problem.under (.key key))
  | none => if entry.required then [⟨[.key entry.key.name], .missing⟩] else []
termination_by (sizeOf members, 0)
decreasing_by
  have := Key.sizeOf_find_lt _h
  simp only [Prod.lex_def]
  left
  simpa using this

/-- The problems of the items of an array from a place on. -/
def Model.readItemProblems (model : Model) (place : Nat) : List Json → List Problem
  | [] => []
  | item :: items =>
    ((Rule.record model).readProblems item).map (Problem.under (.index place)) ++
      model.readItemProblems (place + 1) items
termination_by items => (sizeOf items, 0)

end

end SchemaBindings.Introspection
