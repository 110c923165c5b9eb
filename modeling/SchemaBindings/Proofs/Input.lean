import SchemaBindings.Proofs.Introspection.EntryPoints
import SchemaBindings.Proofs.Json.RoundTrip
import SchemaBindings.Proofs.Sdl.Refusal
import SchemaBindings.Proofs.Text.Utf8
import SchemaBindings.Run
/-!
# Schemas from files

The schema at a path is the schema in the bytes of the file there (`schemaAt_eq`), and a file
without one ends every run on it (`generateFile_of_schemaAt_error`). Of the errors of an input only
one is no report about the document: a schema that is built and then found invalid. A file of the
schema language meets it exactly when its text declares such a schema
(`schemaOfFile_eq_invalidSchema_iff`).
-/

set_option autoImplicit false
set_option relaxedAutoImplicit false

namespace SchemaBindings

/-! ### Reading -/

/-- Nothing strikes the reading of a schema; it gives the schema in the bytes of the file. -/
theorem schemaAt_eq {tree : FileTree} {path : String} {bytes : List UInt8}
    (hread : tree.readFile path = .ok bytes) :
    schemaAt tree (some path) = (schemaOfFile path bytes).mapError .input := by
  rw [schemaAt, readSchema, hread, schemaOfFile]
  simp only [unlessStruck, Strikes.none, orFail, pure_bind]
  cases textOfFile path bytes with
  | error error => rfl
  | ok text =>
    simp only [pure_bind]
    cases schemaOfText path text <;> cases isSdlPath path <;> rfl

/-- A run whose schema cannot be read fails with that error and touches nothing. -/
theorem generateFile_of_schemaAt_error (engine : Template.Engine) {tree : FileTree}
    (options : RunOptions) {error : RunError}
    (herror : schemaAt tree options.schema = .error error) :
    ∃ events, generateFile engine Strikes.none tree options = ⟨[tree], events, .error error⟩ := by
  rw [schemaAt] at herror
  cases hrun : (readSchema Strikes.none tree options.schema).run.run [] with
  | mk outcome events =>
    rw [hrun] at herror
    have hcontent : (contentOfRun engine Strikes.none tree options).run.run [] =
        (.error error, events) := by
      rw [contentOfRun, ExceptT.run_bind, StateT.run_bind, hrun]
      cases herror
      rfl
    exact ⟨events, by rw [generateFile, hcontent]⟩

/-! ### Files of the schema language -/

theorem InputError.isReported_eq_false_iff {error : InputError} :
    error.isReported = false ↔ ∃ problems, error = .refused (.invalidSchema problems) := by
  cases error with
  | malformed cause => simp [isReported]
  | refused refusal => cases refusal <;> simp [isReported]

theorem schemaOfSdl_eq_invalidSchema_iff {text : List Char} {problems : List Sdl.SchemaProblem} :
    schemaOfSdl text = .error (.refused (.invalidSchema problems)) ↔
      Sdl.introspect text = .error (.invalidSchema problems) := by
  rw [schemaOfSdl]
  cases Sdl.introspect text with
  | error refusal => simp
  | ok document =>
    dsimp only
    rw [schemaOfDocument]
    cases Introspection.decode document <;> simp [ofMalformed]

/-- Some bytes are the text of a schema that is built but not valid, having the given problems. -/
def DeclaresInvalid (bytes : List UInt8) (problems : List Sdl.SchemaProblem) : Prop :=
  ∃ text declared, Text.decodeUtf8 bytes = .ok text ∧ Sdl.Declares text declared ∧
    declared.problems = problems ∧ problems ≠ []

theorem schemaOfFile_eq_invalidSchema_iff {path : String} (hpath : isSdlPath path = true)
    {bytes : List UInt8} {problems : List Sdl.SchemaProblem} :
    schemaOfFile path bytes = .error (.refused (.invalidSchema problems)) ↔
      DeclaresInvalid bytes problems := by
  rw [schemaOfFile, textOfFile, DeclaresInvalid]
  cases Text.decodeUtf8 bytes with
  | error error => simp
  | ok text =>
    dsimp only
    rw [schemaOfText, if_pos hpath, schemaOfSdl_eq_invalidSchema_iff,
      Sdl.introspect_eq_invalidSchema_iff]
    constructor
    · rintro ⟨declared, hdeclared⟩
      exact ⟨text, declared, rfl, hdeclared⟩
    · rintro ⟨other, declared, hother, hdeclared⟩
      cases hother
      exact ⟨declared, hdeclared⟩

/-! ### Written documents -/

open Introspection in
/-- The results of decoding a document from its text and as a value, when they agree: the same
schema, corresponding problems of its shape, or the same rule that it breaks. -/
inductive Agrees : Except InputError Schema → Except InputError Schema → Prop
  | schema (schema : Schema) : Agrees (.ok schema) (.ok schema)
  | shape {inText inValue : List Problem} (hsome : inText ≠ [])
      (hproblems : Correspond inText inValue) :
      Agrees (.error (.malformed (.wrongShape inText))) (.error (.malformed (.wrongShape inValue)))
  | rule (cause : Malformed) : Agrees (.error (.malformed cause)) (.error (.malformed cause))

theorem Agrees.eq_ok {result : Except InputError Schema} {schema : Schema}
    (hagrees : Agrees result (.ok schema)) : result = .ok schema := by
  cases hagrees
  rfl

theorem agrees_of_read {text : List Char} {document : Json}
    (hread : Json.read (some Introspection.maxDepth) text = .ok document) :
    Agrees (schemaOfJson text) (schemaOfDocument document) := by
  rw [schemaOfJson, schemaOfDocument]
  by_cases hconforms : Introspection.Conforms (.record .document) document
  · rw [Introspection.decodeText_of_conforms hread hconforms,
      Introspection.decode_of_conforms hconforms]
    cases Introspection.schemaOf document with
    | ok schema => exact .schema schema
    | error cause => exact .rule cause
  · obtain ⟨problems, hsome, htext, hsame⟩ :=
      Introspection.decodeText_of_not_conforms hread hconforms
    rw [htext, Introspection.decode_of_not_conforms hconforms]
    exact .shape hsome hsame

/-- What comes of a file with the text of a document: it is decoded like the document, or refused
because the document nests too deep or has an integer that is too long. -/
inductive ReadsLike (document : Json) (result : Except InputError Schema) : Prop
  | agrees (hnesting : document.nesting ≤ Introspection.maxDepth)
      (hshort : document.HasShortIntegers) (hagrees : Agrees result (schemaOfDocument document))
  | tooDeep (hnesting : Introspection.maxDepth < document.nesting) (place : Json.Place)
      (hresult : result = .error (.malformed (.notJson .tooDeep place)))
  | outOfRange (hlong : ¬ document.HasShortIntegers) (place : Json.Place)
      (hresult : result = .error (.malformed (.notJson .outOfRange place)))

theorem ReadsLike.agrees_of {document : Json} {result : Except InputError Schema}
    (hreads : ReadsLike document result) (hnesting : document.nesting ≤ Introspection.maxDepth)
    (hshort : document.HasShortIntegers) : Agrees result (schemaOfDocument document) := by
  cases hreads with
  | agrees _ _ hagrees => exact hagrees
  | tooDeep hdeep place hresult => exact absurd hnesting (Nat.not_le_of_lt hdeep)
  | outOfRange hlong place hresult => exact absurd hshort hlong

theorem ReadsLike.eq_tooDeep {document : Json} {result : Except InputError Schema}
    (hreads : ReadsLike document result) (hnesting : Introspection.maxDepth < document.nesting)
    (hshort : document.HasShortIntegers) :
    ∃ place, result = .error (.malformed (.notJson .tooDeep place)) := by
  cases hreads with
  | agrees hshallow _ _ => exact absurd hshallow (Nat.not_le_of_lt hnesting)
  | tooDeep _ place hresult => exact ⟨place, hresult⟩
  | outOfRange hlong place hresult => exact absurd hshort hlong

/-- A file with the text of a document is decoded like the document itself if the reader admits its
nesting and its integers. -/
theorem schemaOfFile_write {path : String} (hpath : isSdlPath path = false) {document : Json}
    (hregular : document.IsRegular) (layout : Json.Layout) :
    ReadsLike document (schemaOfFile path (Text.utf8 (Json.write layout 0 document))) := by
  have hfile : schemaOfFile path (Text.utf8 (Json.write layout 0 document)) =
      schemaOfJson (Json.write layout 0 document) := by
    rw [schemaOfFile, textOfFile, Text.decodeUtf8_utf8]
    dsimp only
    rw [schemaOfText, hpath, if_neg Bool.false_ne_true]
  rw [hfile]
  cases Json.read_write hregular (some Introspection.maxDepth) layout with
  | ok hadmitted hshort hread =>
    exact .agrees (Json.Depth.admits_some_iff.mp hadmitted) hshort (agrees_of_read hread)
  | tooDeep hdeep place hread =>
    exact .tooDeep (not_le.mp (mt Json.Depth.admits_some_iff.mpr hdeep)) _
      (congrArg ofMalformed (Introspection.decodeText_of_fault hread))
  | outOfRange hlong place hread =>
    exact .outOfRange hlong _ (congrArg ofMalformed (Introspection.decodeText_of_fault hread))

end SchemaBindings
