import SchemaBindings.Command.Generate
import SchemaBindings.Proofs.Input
/-!
# The command on files of the schema language

A file that yields no schema ends the command in one of two ways (`generate_of_schemaAt_error`):
with one line about the error (`Reports`), or without a word on an error that the command does not
expect (`BreaksOff`). For a file of the schema language `schemaAt_sdl_cases` says which: every fault
of the text is reported, but for a text that declares a schema which is built and then found
invalid.
-/

set_option autoImplicit false
set_option relaxedAutoImplicit false

namespace SchemaBindings

open Command

/-- The command ends with one line about an error and has changed no file. -/
structure Reports (tree : FileTree) (outcome : Outcome) (message : String) : Prop where
  status : outcome.status = failureStatus
  line : outcome.complaints.getLast? = some (errorLine message)
  fault : outcome.fault = none
  tree_eq : outcome.tree = tree

/-- The command ends on an error that it does not expect; all that it complains of are the events of
the run, if it was asked for them. -/
structure BreaksOff (tree : FileTree) (outcome : Outcome) (error : RunError) : Prop where
  status : outcome.status = failureStatus
  lines : ∃ events : List Event, outcome.complaints = events.map Event.line
  fault : outcome.fault = some (.run error)
  tree_eq : outcome.tree = tree

/-- What the command makes of a file without a schema. -/
theorem generate_of_schemaAt_error (engine : Template.Engine) {tree : FileTree} {path : String}
    {error : RunError} (herror : schemaAt tree (some path) = .error error)
    (options : Generate.Options) :
    (error.isReported = true →
        Reports tree (Generate.generate engine tree options path) (error.message?.getD "")) ∧
      (error.isReported = false →
        BreaksOff tree (Generate.generate engine tree options path) error) := by
  obtain ⟨events, hrun⟩ := generateFile_of_schemaAt_error engine
    { schema := some path
      output := FileTree.pathText (tree.resolve options.output)
      templateDirectory := options.templateDirectory
      hooks := Generate.hooksOf options } herror
  constructor
  · intro hreported
    simp only [Generate.generate, hrun, if_pos hreported]
    exact ⟨rfl, List.getLast?_concat, rfl, rfl⟩
  · intro hreported
    have hnot : ¬ error.isReported = true := Bool.eq_false_iff.mp hreported
    simp only [Generate.generate, hrun, if_neg hnot]
    refine ⟨rfl, ?_, rfl, rfl⟩
    cases options.verbose
    · exact ⟨[], rfl⟩
    · exact ⟨events, rfl⟩

/-- A file of the schema language yields a schema, or its fault is reported, unless its text
declares a schema that is built and not valid. Such a schema is refused for its problems, which is
no report about the document: the command breaks off on it. -/
theorem schemaAt_sdl_cases (engine : Template.Engine) {tree : FileTree} {path : String}
    {bytes : List UInt8} (hpath : isSdlPath path = true) (hread : tree.readFile path = .ok bytes)
    (options : Generate.Options) :
    ((∀ problems, ¬ DeclaresInvalid bytes problems) ↔
      (∃ schema, schemaAt tree (some path) = .ok schema) ∨
        ∃ error, schemaAt tree (some path) = .error (.input error) ∧ error.isReported = true ∧
          Reports tree (Generate.generate engine tree options path) error.message) ∧
    ∀ problems, DeclaresInvalid bytes problems ↔
      schemaAt tree (some path) = .error (.input (.refused (.invalidSchema problems))) ∧
        BreaksOff tree (Generate.generate engine tree options path)
          (.input (.refused (.invalidSchema problems))) := by
  have hat := schemaAt_eq hread
  have hinvalid : ∀ problems, DeclaresInvalid bytes problems ↔
      schemaAt tree (some path) = .error (.input (.refused (.invalidSchema problems))) := by
    intro problems
    rw [← schemaOfFile_eq_invalidSchema_iff hpath, hat]
    cases schemaOfFile path bytes <;> simp [Except.mapError]
  refine ⟨⟨fun hvalid ↦ ?_, ?_⟩, fun problems ↦ ?_⟩
  · cases hfile : schemaOfFile path bytes with
    | ok schema => exact .inl ⟨schema, by rw [hat, hfile]; rfl⟩
    | error error =>
      have herror : schemaAt tree (some path) = .error (.input error) := by rw [hat, hfile]; rfl
      have hreported : error.isReported = true := by
        by_contra hnot
        obtain ⟨problems, rfl⟩ :=
          InputError.isReported_eq_false_iff.mp (Bool.eq_false_iff.mpr hnot)
        exact hvalid problems ((hinvalid problems).mpr herror)
      exact .inr ⟨error, herror, hreported,
        (generate_of_schemaAt_error engine herror options).1 hreported⟩
  · rintro (⟨schema, hschema⟩ | ⟨error, herror, hreported, -⟩) problems hdeclares
    · rw [(hinvalid problems).mp hdeclares] at hschema
      cases hschema
    · rw [(hinvalid problems).mp hdeclares] at herror
      cases herror
      cases hreported
  · rw [hinvalid]
    exact ⟨fun herror ↦ ⟨herror, (generate_of_schemaAt_error engine herror options).2 rfl⟩,
      And.left⟩

/-! ### A schema without a query root -/

/-- A text that declares a scalar and nothing else. -/
def rootlessText : List Char := "scalar S".toList

/-- A working directory with that text in a file. -/
def rootlessTree : FileTree where
  entries := [(["schema.graphql"], .file (Text.utf8 rootlessText))]

theorem isSdlPath_rootless : isSdlPath "schema.graphql" = true := by
  decide

theorem readFile_rootlessTree :
    rootlessTree.readFile "schema.graphql" = .ok (Text.utf8 rootlessText) := by
  decide

/-- The text obeys the rules on documents, and its schema has no query root. -/
theorem exists_declaresInvalid_rootlessText :
    ∃ problems, DeclaresInvalid (Text.utf8 rootlessText) problems := by
  have hchecked : (match Sdl.parse rootlessText with
      | .ok document => document.problems.isEmpty && document.buildFault?.isNone &&
          (document.declared.root? .query).isNone
      | .error _ => false) = true := by
    decide +kernel
  split at hchecked
  · next document hparse =>
    simp only [Bool.and_eq_true, List.isEmpty_iff, Option.isNone_iff_eq_none] at hchecked
    obtain ⟨⟨hrules, hbuilt⟩, hroot⟩ := hchecked
    exact ⟨document.declared.problems, rootlessText, document.declared, by decide +kernel,
      ⟨document, hparse, hrules, hbuilt, rfl⟩, rfl,
      Sdl.Declared.problems_ne_nil_of_root?_eq_none hroot⟩
  · cases hchecked

theorem schemaAt_sdl_cases_rootlessTree :
    isSdlPath "schema.graphql" = true ∧
      rootlessTree.readFile "schema.graphql" = .ok (Text.utf8 rootlessText) ∧
      ∃ error, schemaAt rootlessTree (some "schema.graphql") = .error error ∧
        BreaksOff rootlessTree (Generate.generate .none rootlessTree {} "schema.graphql")
          error := by
  obtain ⟨problems, hinvalid⟩ := exists_declaresInvalid_rootlessText
  obtain ⟨-, hcases⟩ := schemaAt_sdl_cases .none isSdlPath_rootless readFile_rootlessTree {}
  obtain ⟨herror, hbreaks⟩ := (hcases problems).mp hinvalid
  exact ⟨isSdlPath_rootless, readFile_rootlessTree, _, herror, hbreaks⟩

/-- There is a file of the schema language whose error is not reported: neither does it yield a
schema, nor is its error one about the document. -/
theorem schemaAt_rootlessTree_not_isReported :
    isSdlPath "schema.graphql" = true ∧
      ∃ error, schemaAt rootlessTree (some "schema.graphql") = .error error ∧
        error.isReported = false ∧
        (Generate.generate .none rootlessTree {} "schema.graphql").fault = some (.run error) := by
  obtain ⟨problems, hinvalid⟩ := exists_declaresInvalid_rootlessText
  have herror : schemaAt rootlessTree (some "schema.graphql") =
      .error (.input (.refused (.invalidSchema problems))) := by
    rw [schemaAt_eq readFile_rootlessTree,
      (schemaOfFile_eq_invalidSchema_iff isSdlPath_rootless).mpr hinvalid]
    rfl
  exact ⟨isSdlPath_rootless, _, herror, rfl,
    ((generate_of_schemaAt_error .none herror {}).2 rfl).fault⟩

end SchemaBindings
