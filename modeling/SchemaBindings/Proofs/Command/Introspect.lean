import SchemaBindings.Command.Introspect
import SchemaBindings.Proofs.Fetch.Response
import SchemaBindings.Proofs.Files.Replacement
import SchemaBindings.Proofs.Input
import SchemaBindings.Proofs.Introspection.Written
/-!
# The command that fetches a document

The document that the command writes is read back from its file (`readFile_introspect`). The schema
from that file is therefore the schema of the document that was fetched, with the same problems
where there is none, as long as the reader admits the nesting of the document and its integers
(`schemaAt_introspect`). A document that nests deeper is decoded as it is and refused in its file
(`introspect_deepDocument`).
-/

set_option autoImplicit false
set_option relaxedAutoImplicit false

namespace SchemaBindings

open Command Command.Introspect Fetch

/-! ### The file -/

/-- A document that is written stands at its place. -/
theorem contentAt?_of_writeDocument {tree next : FileTree} {place : Place} {document : WideJson}
    (hwrite : writeDocument tree place document = .ok next) :
    next.contentAt? place = some (Text.utf8 document.toIndentedText) := by
  rw [writeDocument] at hwrite
  split at hwrite
  · cases hwrite
  · next made _ =>
    have hplace : place ≠ [] := by
      rintro rfl
      cases hwrite
    rw [FileTree.contentAt?_eq_some_iff, eq_put_of_writeFile hwrite,
      FileTree.entry?_put_self hplace]

section Written

variable {transport : Request → Reply} {tree : FileTree} {url output path : String}
  {headers : Headers}

section

variable {document : WideJson}

/-- A command that fetches a document and meets no fault has written it. -/
theorem contentAt?_introspect (hfetch : fetch transport url headers = .ok document)
    (hfault : (introspect transport tree url output headers).fault = none) :
    (introspect transport tree url output headers).tree.contentAt? (tree.resolve output) =
      some (Text.utf8 document.toIndentedText) := by
  rw [introspect, hfetch] at hfault ⊢
  dsimp only at hfault ⊢
  split at hfault
  · cases hfault
  · next next hwrite =>
    exact contentAt?_of_writeDocument hwrite

/-- Every path to the place that the command wrote leads to the text of the document. -/
theorem readFile_introspect (hfetch : fetch transport url headers = .ok document)
    (hfault : (introspect transport tree url output headers).fault = none)
    (hleads : (introspect transport tree url output headers).tree.locate path =
      .ok (tree.resolve output)) :
    (introspect transport tree url output headers).tree.readFile path =
      .ok (Text.utf8 document.toIndentedText) := by
  rw [FileTree.readFile_eq_ok_iff, FileTree.resolve_eq_of_locate hleads]
  exact ⟨hleads, contentAt?_introspect hfetch hfault⟩

end

variable {document : Json}

/-- Decoding reads the text of the document from the file that the command wrote. -/
theorem schemaAt_introspect_eq (hfetch : fetch transport url headers = .ok (.ofJson document))
    (hfault : (introspect transport tree url output headers).fault = none)
    (hleads : (introspect transport tree url output headers).tree.locate path =
      .ok (tree.resolve output)) :
    schemaAt (introspect transport tree url output headers).tree (some path) =
      (schemaOfFile path (Text.utf8 (Json.write (.indented 2) 0 document))).mapError .input :=
  schemaAt_eq (readFile_introspect hfetch hfault hleads)

/-- The schema from the file that the command writes is the schema of the document that it fetched:
decoding agrees on both if at most so many arrays and objects with something in them nest in the
document as the reader admits, and no integer in it is written with more characters than the reader
admits. In the file of another document there is no schema. -/
theorem schemaAt_introspect (hfetch : fetch transport url headers = .ok (.ofJson document))
    (hfault : (introspect transport tree url output headers).fault = none)
    (hleads : (introspect transport tree url output headers).tree.locate path =
      .ok (tree.resolve output))
    (hpath : isSdlPath path = false) :
    ∃ result : Except InputError Schema,
      schemaAt (introspect transport tree url output headers).tree (some path) =
          result.mapError .input ∧
        ReadsLike document result := by
  have hregular := (isRegular_of_fetch hfetch).of_ofJson rfl
  exact ⟨_, schemaAt_introspect_eq hfetch hfault hleads,
    schemaOfFile_write hpath hregular (.indented 2)⟩

end Written

/-! ### Documents with extensions -/

/-- A document of a schema without types, with an entry beside the data that decoding leaves out. -/
def extendedDocument (extensions : Json) : Json :=
  .obj [("data", .obj [("__schema", .obj [("types", .arr [])])]), ("extensions", extensions)]

/-- A server that sends the text of that document. -/
def extendedReply (extensions : Json) : Reply :=
  .arrived { body := Text.utf8 (Json.write .oneLine 0 (extendedDocument extensions)) }

theorem hasShortIntegers_extendedDocument {extensions : Json}
    (hshort : extensions.HasShortIntegers) : (extendedDocument extensions).HasShortIntegers := by
  refine .obj ?_
  rw [List.forall_mem_cons, List.forall_mem_singleton]
  exact ⟨by simp [Json.hasShortIntegers_obj_iff, Json.hasShortIntegers_arr_iff], hshort⟩

theorem isRegular_extendedDocument {extensions : Json} (hregular : extensions.IsRegular) :
    (extendedDocument extensions).IsRegular := by
  refine .obj (by simp) ?_
  rw [List.forall_mem_cons, List.forall_mem_singleton]
  refine ⟨.obj (by simp) ?_, hregular⟩
  rw [List.forall_mem_singleton]
  refine .obj (by simp) ?_
  rw [List.forall_mem_singleton]
  exact .arr nofun

/-- The entry for extensions has no part in the shape. -/
theorem conforms_extendedDocument (extensions : Json) :
    Introspection.Conforms (.record .document) (extendedDocument extensions) := by
  have hschema : Introspection.Conforms (.record .schema) (.obj [("types", .arr [])]) :=
    .record_of_forall rfl ⟨.lacks rfl ⟨rfl, rfl⟩, .lacks rfl ⟨rfl, rfl⟩, .lacks rfl ⟨rfl, rfl⟩,
      .holds (.inl rfl) (.list nofun)⟩
  have hdata : Introspection.Conforms (.record .data)
      (.obj [("__schema", .obj [("types", .arr [])])]) :=
    .record_of_forall rfl (.holds (.inl rfl) hschema)
  exact .record_of_forall rfl (.holds (.inl rfl) hdata)

/-- In such a document the extensions may nest deepest, or the list of types. -/
theorem nestingWith_extendedDocument (empty : Nat) (extensions : Json) :
    Json.nestingWith empty (extendedDocument extensions) =
      max (empty + 2) (Json.nestingWith empty extensions) + 1 := by
  simp [extendedDocument, Json.nestingWith, Json.membersNesting]

theorem schemaOfDocument_extendedDocument (extensions : Json) :
    schemaOfDocument (extendedDocument extensions) = .ok {} := by
  rw [schemaOfDocument, Introspection.decode_of_conforms (conforms_extendedDocument extensions)]
  rfl

theorem fetch_extendedDocument {extensions : Json} (hregular : extensions.IsRegular)
    (hshort : extensions.HasShortIntegers) :
    fetch (fun _ ↦ extendedReply extensions) "http://localhost/" [] =
      .ok (.ofJson (extendedDocument extensions)) := by
  obtain ⟨request, hrequest, habsolute⟩ := exists_request_localhost
  have hbytes :
      WideJson.ofBytes? (Text.utf8 (Json.write .oneLine 0 (extendedDocument extensions))) =
        some (.ofJson (extendedDocument extensions)) :=
    WideJson.ofBytes?_write (isRegular_extendedDocument hregular)
      (hasShortIntegers_extendedDocument hshort)
  rw [fetch_of_arrived hrequest habsolute rfl, documentOf, hbytes]
  rfl

/-- The command writes such a document into an empty tree. -/
theorem introspect_extendedDocument {extensions : Json}
    (hfetch : fetch (fun _ ↦ extendedReply extensions) "http://localhost/" [] =
      .ok (.ofJson (extendedDocument extensions))) :
    let outcome := introspect (fun _ ↦ extendedReply extensions) {} "http://localhost/"
      "schema.json" []
    outcome.fault = none ∧
      outcome.tree.locate "schema.json" = .ok (FileTree.resolve {} "schema.json") := by
  have hwrite : writeDocument {} (FileTree.resolve {} "schema.json")
      (.ofJson (extendedDocument extensions)) = .ok (FileTree.put {} ["schema.json"]
        (.file (Text.utf8 (WideJson.ofJson (extendedDocument extensions)).toIndentedText))) := rfl
  rw [introspect, hfetch]
  dsimp only
  rw [hwrite]
  exact ⟨rfl, rfl⟩

/-- Extensions with a number, and with characters that are escaped in one unit and in two. -/
def markedExtensions : Json :=
  .obj [("cost", .float .one), ("note", .str "\"é😀")]

theorem isRegular_markedExtensions : markedExtensions.IsRegular := by
  refine .obj (by simp) ?_
  rw [List.forall_mem_cons, List.forall_mem_singleton]
  have hcanonical : Binary64.IsCanonical (1 <<< 52) (-52) :=
    ⟨by decide, by decide, by decide, .inl (by decide)⟩
  exact ⟨.float hcanonical, .str _⟩

theorem hasShortIntegers_markedExtensions : markedExtensions.HasShortIntegers := by
  refine .obj ?_
  rw [List.forall_mem_cons, List.forall_mem_singleton]
  exact ⟨.float _, .str _⟩

theorem schemaAt_introspect_markedExtensions :
    let transport : Request → Reply := fun _ ↦ extendedReply markedExtensions
    let outcome := introspect transport {} "http://localhost/" "schema.json" []
    fetch transport "http://localhost/" [] = .ok (.ofJson (extendedDocument markedExtensions)) ∧
      outcome.fault = none ∧
      outcome.tree.locate "schema.json" = .ok (FileTree.resolve {} "schema.json") ∧
      isSdlPath "schema.json" = false ∧
      schemaAt outcome.tree (some "schema.json") = .ok {} := by
  have hfetch := fetch_extendedDocument isRegular_markedExtensions hasShortIntegers_markedExtensions
  obtain ⟨hfault, hleads⟩ := introspect_extendedDocument hfetch
  have hpath : isSdlPath "schema.json" = false := by decide
  obtain ⟨result, hresult, hreads⟩ := schemaAt_introspect hfetch hfault hleads hpath
  have hschema := hreads.agrees_of (by decide)
    (hasShortIntegers_extendedDocument hasShortIntegers_markedExtensions)
  rw [schemaOfDocument_extendedDocument] at hschema
  refine ⟨hfetch, hfault, hleads, hpath, ?_⟩
  rw [hresult]
  cases hschema
  rfl

/-- So many arrays around an integer. -/
def nestedArrays : Nat → Json
  | 0 => .int 1
  | levels + 1 => .arr [nestedArrays levels]

theorem isRegular_nestedArrays (levels : Nat) : (nestedArrays levels).IsRegular := by
  induction levels with
  | zero => exact .int 1
  | succ levels ih => exact .arr (List.forall_mem_singleton.mpr ih)

theorem nestingWith_nestedArrays (empty levels : Nat) :
    Json.nestingWith empty (nestedArrays levels) = levels := by
  induction levels with
  | zero => rfl
  | succ levels ih => rw [nestedArrays, Json.nestingWith, ih, Json.itemsNesting, Nat.max_zero]

theorem hasShortIntegers_nestedArrays (levels : Nat) :
    (nestedArrays levels).HasShortIntegers := by
  induction levels with
  | zero => exact .int (by decide)
  | succ levels ih => exact .arr (List.forall_mem_singleton.mpr ih)

/-- A document in which 201 arrays and objects nest, with an integer in the innermost. -/
def deepDocument : Json :=
  extendedDocument (nestedArrays 200)

/-- The command writes a file from which there is no schema, though there is one from the document
that it fetched. -/
theorem introspect_deepDocument :
    let transport : Request → Reply := fun _ ↦ extendedReply (nestedArrays 200)
    let outcome := introspect transport {} "http://localhost/" "schema.json" []
    fetch transport "http://localhost/" [] = .ok (.ofJson deepDocument) ∧
      deepDocument.fullNesting = 201 ∧
      outcome.fault = none ∧
      outcome.tree.locate "schema.json" = .ok (FileTree.resolve {} "schema.json") ∧
      isSdlPath "schema.json" = false ∧
      schemaOfDocument deepDocument = .ok {} ∧
      ∃ place, schemaAt outcome.tree (some "schema.json") =
        .error (.input (.malformed (.notJson .tooDeep place))) := by
  have hregular := isRegular_nestedArrays 200
  have hshort := hasShortIntegers_nestedArrays 200
  have hfetch := fetch_extendedDocument hregular hshort
  obtain ⟨hfault, hleads⟩ := introspect_extendedDocument hfetch
  have hpath : isSdlPath "schema.json" = false := by decide
  have hfull : deepDocument.fullNesting = 201 := by
    rw [Json.fullNesting, deepDocument, nestingWith_extendedDocument, nestingWith_nestedArrays]
    rfl
  have hdeep : Introspection.maxDepth < (extendedDocument (nestedArrays 200)).nesting := by
    rw [Json.nesting, nestingWith_extendedDocument, nestingWith_nestedArrays]
    decide
  have hreads := schemaOfFile_write hpath (isRegular_extendedDocument hregular) (.indented 2)
  obtain ⟨place, hplace⟩ := hreads.eq_tooDeep hdeep (hasShortIntegers_extendedDocument hshort)
  refine ⟨hfetch, hfull, hfault, hleads, hpath, schemaOfDocument_extendedDocument _, place, ?_⟩
  rw [schemaAt_introspect_eq hfetch hfault hleads, hplace]
  rfl

end SchemaBindings
