import SchemaBindings.Proofs.Except
import SchemaBindings.Sdl.Introspection
/-!
# Where a text of the schema language is refused

A text passes three gates on its way to an introspection document: it must be a document that obeys
the rules on documents, the document must build a schema (`Declares` says that both hold), and the
schema must be valid. The last gate refuses a text exactly when the text declares a schema with
problems (`introspect_eq_invalidSchema_iff`), and a text passes all of them exactly when it declares
a schema without (`introspect_eq_ok_iff`). A schema without a query root always has a problem
(`problems_ne_nil_of_root?_eq_none`).
-/

set_option autoImplicit false
set_option relaxedAutoImplicit false

namespace SchemaBindings.Sdl

/-- A text is a document that obeys the rules on documents and builds the given schema, valid or
not. -/
def Declares (text : List Char) (declared : Declared) : Prop :=
  ∃ document, parse text = .ok document ∧ document.problems = [] ∧
    document.buildFault? = none ∧ document.declared = declared

/-! ### Problems of a schema -/

/-- A schema is valid when none of its parts has a problem. -/
theorem Declared.problems_eq_nil_iff (declared : Declared) :
    declared.problems = [] ↔ declared.rootProblems = [] ∧ declared.directivesProblems = [] ∧
      declared.typesProblems {} declared.types = [] ∧ declared.endlessProblems = [] := by
  rw [Declared.problems]
  split
  · next problem hfound =>
    have hmem := List.mem_of_find?_eq_some hfound
    constructor
    · intro hnil
      cases hnil
    · rintro ⟨hroot, hdirectives, htypes, hendless⟩
      rw [hroot, hdirectives, htypes, hendless] at hmem
      exact absurd hmem List.not_mem_nil
  · simp only [List.append_eq_nil_iff, and_assoc]

theorem Declared.problems_ne_nil_of_root?_eq_none {declared : Declared}
    (hroot : declared.root? .query = none) : declared.problems ≠ [] := by
  rw [ne_eq, Declared.problems_eq_nil_iff, Declared.rootProblems, hroot]
  rintro ⟨hnil, -⟩
  cases hnil

/-! ### Gates -/

section Gates

variable {text : List Char}

/-- The gates behind the grammar, in order. -/
theorem introspect_of_parse {document : Document} (hparse : parse text = .ok document) :
    introspect text =
      match document.problems, document.buildFault?, document.declared.problems with
      | [], none, [] => .ok document.declared.introspection
      | [], none, problems => .error (.invalidSchema problems)
      | [], some fault, _ => .error (.notBuilt text fault)
      | problems, _, _ => .error (.brokenRules problems) := by
  rw [introspect, hparse]
  change (if document.problems.isEmpty = true then _ else _) = _
  cases document.problems with
  | cons problem problems => rfl
  | nil =>
    cases document.buildFault? with
    | some fault => rfl
    | none =>
      change (if document.declared.problems.isEmpty = true then _ else _) = _
      cases document.declared.problems with
      | cons problem problems => rfl
      | nil => rfl

/-- A text declares at most one schema. -/
theorem Declares.unique {declared other : Declared} (hdeclares : Declares text declared)
    (hother : Declares text other) : declared = other := by
  obtain ⟨document, hparse, -, -, rfl⟩ := hdeclares
  obtain ⟨document', hparse', -, -, rfl⟩ := hother
  rw [hparse] at hparse'
  rw [Except.ok.inj hparse']

/-- A text that declares a schema comes to the last gate. -/
theorem introspect_of_declares {declared : Declared} (hdeclares : Declares text declared) :
    introspect text =
      match declared.problems with
      | [] => .ok declared.introspection
      | problems => .error (.invalidSchema problems) := by
  obtain ⟨document, hparse, hrules, hbuilt, rfl⟩ := hdeclares
  rw [introspect_of_parse hparse, hrules, hbuilt]
  cases document.declared.problems <;> rfl

/-- A text that declares no schema is refused before the last gate. -/
theorem exists_refusal_of_not_declares (hnone : ∀ declared, ¬ Declares text declared) :
    ∃ refusal, introspect text = .error refusal ∧
      ∀ problems, refusal ≠ .invalidSchema problems := by
  cases hparse : parse text with
  | error fault =>
    refine ⟨.notDocument fault, ?_, nofun⟩
    rw [introspect, hparse]
    rfl
  | ok document =>
    rw [introspect_of_parse hparse]
    cases hrules : document.problems with
    | cons problem problems => exact ⟨.brokenRules (problem :: problems), rfl, nofun⟩
    | nil =>
      cases hbuilt : document.buildFault? with
      | some fault => exact ⟨.notBuilt text fault, rfl, nofun⟩
      | none => exact absurd ⟨document, hparse, hrules, hbuilt, rfl⟩ (hnone document.declared)

/-- A text has an introspection document when it declares a valid schema. -/
theorem introspect_eq_ok_iff {json : Json} :
    introspect text = .ok json ↔
      ∃ declared, Declares text declared ∧ declared.problems = [] ∧
        declared.introspection = json := by
  by_cases hsome : ∃ declared, Declares text declared
  · obtain ⟨declared, hdeclares⟩ := hsome
    rw [introspect_of_declares hdeclares]
    constructor
    · intro hok
      split at hok
      · next hvalid =>
        cases hok
        exact ⟨declared, hdeclares, hvalid, rfl⟩
      · cases hok
    · rintro ⟨other, hother, hvalid, rfl⟩
      rw [hdeclares.unique hother, hvalid]
  · obtain ⟨refusal, hrefused, -⟩ := exists_refusal_of_not_declares (not_exists.mp hsome)
    rw [hrefused]
    refine iff_of_false nofun ?_
    rintro ⟨declared, hdeclares, -⟩
    exact hsome ⟨declared, hdeclares⟩

/-- A text is refused for its schema when it declares one that is not valid. -/
theorem introspect_eq_invalidSchema_iff {problems : List SchemaProblem} :
    introspect text = .error (.invalidSchema problems) ↔
      ∃ declared, Declares text declared ∧ declared.problems = problems ∧ problems ≠ [] := by
  by_cases hsome : ∃ declared, Declares text declared
  · obtain ⟨declared, hdeclares⟩ := hsome
    rw [introspect_of_declares hdeclares]
    constructor
    · intro hrefused
      split at hrefused
      · cases hrefused
      · next hinvalid =>
        cases hrefused
        exact ⟨declared, hdeclares, rfl, hinvalid⟩
    · rintro ⟨other, hother, rfl, hinvalid⟩
      rw [hdeclares.unique hother]
      split
      · next hvalid => exact absurd hvalid hinvalid
      · rfl
  · obtain ⟨refusal, hrefused, hother⟩ := exists_refusal_of_not_declares (not_exists.mp hsome)
    rw [hrefused]
    constructor
    · intro heq
      exact absurd (Except.error.inj heq) (hother problems)
    · rintro ⟨declared, hdeclares, -⟩
      exact absurd ⟨declared, hdeclares⟩ hsome

end Gates

end SchemaBindings.Sdl
