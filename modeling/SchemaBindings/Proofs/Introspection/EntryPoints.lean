import SchemaBindings.Input
import SchemaBindings.Proofs.Introspection.Report
import SchemaBindings.Proofs.Introspection.TextShape
import SchemaBindings.Proofs.Json.RoundTrip
/-!
# Documents as text and as values

A document is decoded from its text or from the value that the text is read as. The shape is checked
by two sets of rules, and what follows the check is the same. A text that can be read nests too
little for the guard of loaded values, so that the two sets of rules find the same problems
(`forall₂_sameProblem_of_read`). It therefore decodes exactly when its value does, to the same
schema; the errors are the same as well, but that a problem of the shape speaks of arrays and
objects in a text, and of lists and instances of a model in a value (`schemaOfJson_agrees`).
-/

set_option autoImplicit false
set_option relaxedAutoImplicit false

namespace SchemaBindings

namespace Introspection

/-! ### Messages -/

/-- Two messages that are the same but for their words for a container. -/
inductive SameButContainer : String → String → Prop
  | same (message : String) : SameButContainer message message
  | list : SameButContainer "Input should be a valid array" "Input should be a valid list"
  | object (model : Model) : SameButContainer "Input should be an object"
      ("Input should be a valid dictionary or instance of " ++ model.label)

theorem SameBreach.sameButContainer_message {inText inValue : Breach}
    (hsame : SameBreach inText inValue) : SameButContainer inText.message inValue.message := by
  cases hsame with
  | same breach => exact .same _
  | object model => exact .object model
  | array => exact .list

/-- Problems at the same places in the same order, in the same words but those for containers. -/
def Correspond (inText inValue : List Problem) : Prop :=
  List.Forall₂ (fun first second : Problem ↦ first.location = second.location ∧
    SameButContainer first.breach.message second.breach.message) inText inValue

/-! ### Decoding -/

/-- A text that cannot be read is refused for the first fault in it. -/
theorem decodeText_of_fault {text : List Char} {fault : Json.FaultAt}
    (hread : Json.read (some maxDepth) text = .error fault) :
    decodeText text = .error (.notJson fault.fault (fault.place text)) := by
  rw [decodeText, hread]

section Read

variable {text : List Char} {document : Json}
  (hread : Json.read (some maxDepth) text = .ok document)

include hread

/-- What a text may nest is less than what the guard of loaded values allows. -/
theorem forall₂_sameProblem_of_read :
    List.Forall₂ SameProblem ((Rule.record .document).readProblems document)
      ((Rule.record .document).problems document) := by
  have hnesting : document.nesting ≤ maxDepth :=
    Json.Depth.admits_some_iff.mp (Json.admits_nesting_of_read hread)
  refine forall₂_readProblems _ document ?_
  rw [show (Rule.record .document).level = 0 from rfl, Nat.zero_add]
  exact hnesting.trans (by decide)

/-- The text of a document of the right shape decodes to what is in it. -/
theorem decodeText_of_conforms (hconforms : Conforms (.record .document) document) :
    decodeText text = schemaOf document := by
  have hsame := forall₂_sameProblem_of_read hread
  rw [(problems_eq_nil_iff _ _).mpr hconforms, List.forall₂_nil_right_iff] at hsame
  rw [decodeText, hread]
  dsimp only
  rw [hsame]

/-- The text of a document of the wrong shape is refused with problems that correspond to those of
the document. -/
theorem decodeText_of_not_conforms (hconforms : ¬ Conforms (.record .document) document) :
    ∃ problems, problems ≠ [] ∧ decodeText text = .error (.wrongShape problems) ∧
      Correspond problems ((Rule.record .document).problems document) := by
  have hsame := forall₂_sameProblem_of_read hread
  rw [← problems_eq_nil_iff] at hconforms
  rw [decodeText, hread]
  dsimp only
  split
  · next hnil =>
    rw [hnil, List.forall₂_nil_left_iff] at hsame
    exact absurd hsame hconforms
  · next problems hsome =>
    exact ⟨_, hsome, rfl, hsame.imp fun first second hproblem ↦
      ⟨hproblem.location, hproblem.breach.sameButContainer_message⟩⟩

end Read

end Introspection

open Introspection

/-- The schema in a text is the schema in the value that the text is read as. When there is none
because the shape is wrong, the problems are at the same places in the same order, in the same words
but for those for containers, and any other error is the same. In the value no object holds a key
twice, since the last member with a key counts. -/
theorem schemaOfJson_agrees {text : List Char} {document : Json}
    (hread : Json.read (some maxDepth) text = .ok document) :
    document.HasDistinctKeys ∧
      (∀ members key, (Json.object members).get? key = members.reverse.lookup key) ∧
      (∀ schema, schemaOfJson text = .ok schema ↔ schemaOfDocument document = .ok schema) ∧
      (Conforms (.record .document) document → schemaOfJson text = schemaOfDocument document) ∧
      (¬ Conforms (.record .document) document → ∃ inText inValue : List Problem,
        inText ≠ [] ∧
        schemaOfJson text = .error (.malformed (.wrongShape inText)) ∧
        schemaOfDocument document = .error (.malformed (.wrongShape inValue)) ∧
        Correspond inText inValue) ∧
      ∀ problems, (InputError.malformed (.wrongShape problems)).message =
        Malformed.report (problems.map fun problem ↦
          locationText problem.location ++ ": " ++ problem.breach.message) := by
  have hconforming (hconforms : Conforms (.record .document) document) :
      schemaOfJson text = schemaOfDocument document := by
    rw [schemaOfJson, schemaOfDocument, decodeText_of_conforms hread hconforms,
      decode_of_conforms hconforms]
  refine ⟨Json.hasDistinctKeys_of_read hread, Json.get?_object, fun schema ↦ ?_, hconforming,
    fun hconforms ↦ ?_, fun problems ↦ rfl⟩
  · by_cases hconforms : Conforms (.record .document) document
    · rw [hconforming hconforms]
    · obtain ⟨problems, -, htext, -⟩ := decodeText_of_not_conforms hread hconforms
      rw [schemaOfJson, schemaOfDocument, htext, decode_of_not_conforms hconforms]
      simp [ofMalformed]
  · obtain ⟨problems, hsome, htext, hsame⟩ := decodeText_of_not_conforms hread hconforms
    refine ⟨problems, _, hsome, ?_, ?_, hsame⟩
    · rw [schemaOfJson, htext, ofMalformed]
    · rw [schemaOfDocument, decode_of_not_conforms hconforms, ofMalformed]

namespace Introspection

theorem read_write_oneLine {document : Json} (hregular : document.IsRegular)
    (hnesting : document.nesting ≤ maxDepth) (hshort : document.HasShortIntegers) :
    Json.read (some maxDepth) (Json.write .oneLine 0 document) = .ok document :=
  (Json.read_write hregular (some maxDepth) .oneLine).eq_ok
    (Json.Depth.admits_some_iff.mpr hnesting) hshort

theorem isRegular_episodeDocument : episodeDocument.IsRegular := by
  simp [episodeDocument, queryObject, enumObject, valueObject, fieldObject, wrappedObject,
    argumentObject, namedObject, Json.isRegular_obj_iff, Json.isRegular_arr_iff,
    Json.IsRegular.str, Json.IsRegular.int, Json.IsRegular.null]

theorem hasShortIntegers_episodeDocument : episodeDocument.HasShortIntegers := by
  have hseven : (Json.writeInt 7).length ≤ Json.maxWholeLength := by decide
  simp [episodeDocument, queryObject, enumObject, valueObject, fieldObject, wrappedObject,
    argumentObject, namedObject, Json.hasShortIntegers_obj_iff, Json.hasShortIntegers_arr_iff,
    Json.hasShortIntegers_int_iff, Json.HasShortIntegers.str, Json.HasShortIntegers.null, hseven]

/-- A document with one type. -/
def documentOf (type : Json) : Json :=
  .obj [("data", .obj [("__schema", .obj [("types", .arr [type])])])]

/-- A type with two broken entries: its fields are no list, and one of its values has no name. -/
def misshapenType : Json :=
  .obj [("kind", .str "ENUM"), ("name", .str "Color"), ("fields", .obj []),
    ("enumValues", .arr [.obj [("description", .null)]])]

/-- The document of that type. -/
def misshapenDocument : Json :=
  documentOf misshapenType

/-- A document whose type has a kind that only references have. -/
def wrapperDocument : Json :=
  documentOf (.obj [("kind", .str "LIST"), ("name", .str "Colors")])

theorem leads_documentOf (type : Json) :
    Leads (.record .document) (documentOf type)
      [.key "data", .key "__schema", .key "types", .index 0] (.record .type) type :=
  .step (enters_name (.needed .data (.record .data)) (.record rfl _) rfl (by decide) rfl) <|
  .step (enters_name (.needed .schema (.record .schema)) (.record rfl _) rfl (by decide) rfl) <|
  .step (enters_name (.needed .types (.list .type)) (.record rfl _) rfl (by decide) rfl) <|
  .step (.item (.list _ _) rfl rfl) <| .here _ _

/-- What is wrong with the type is reported of the document. -/
theorem mem_problems_misshapenDocument {problem : Problem}
    (hproblem : Violates (.record .type) misshapenType problem) :
    ⟨[.key "data", .key "__schema", .key "types", .index 0] ++ problem.location, problem.breach⟩ ∈
      (Rule.record .document).problems misshapenDocument :=
  (leads_documentOf misshapenType).mem_problems (mem_problems_iff_violates.mpr hproblem)

theorem notList_mem_problems_misshapenDocument :
    ⟨[.key "data", .key "__schema", .key "types", .index 0, .key "fields"], .notList⟩ ∈
      (Rule.record .document).problems misshapenDocument := by
  have henters : Enters (.record .type) misshapenType (.key "fields") (.nullableList .field)
      (.obj []) :=
    enters_name (.spare .fields (.nullableList .field)) (.record rfl _) rfl (by decide) rfl
  exact mem_problems_misshapenDocument (.breach (.step henters (.here _ _)) rfl)

theorem missing_mem_problems_misshapenDocument :
    ⟨[.key "data", .key "__schema", .key "types", .index 0, .key "enumValues", .index 0,
      .key "name"], .missing⟩ ∈ (Rule.record .document).problems misshapenDocument := by
  have hwants : Wants (.record .enumValue) (.obj [("description", .null)]) .ownName :=
    @Wants.intro _ _ .enumValue (.needed .ownName .text) (.record rfl _) rfl (by decide) rfl
      ⟨rfl, rfl⟩
  have hleads : Leads (.record .type) misshapenType [.key "enumValues", .index 0]
      (.record .enumValue) (.obj [("description", .null)]) :=
    .step (enters_name (.spare .enumValues (.nullableList .enumValue)) (.record rfl _) rfl
      (by decide) rfl) (.step (.item (.nullableList _ _) rfl rfl) (.here _ _))
  exact mem_problems_misshapenDocument (.want hleads hwants)

theorem read_misshapenDocument :
    Json.read (some maxDepth) (Json.write .oneLine 0 misshapenDocument) =
      .ok misshapenDocument := by
  refine read_write_oneLine ?_ (by decide) ?_
  · simp [misshapenDocument, misshapenType, documentOf, Json.isRegular_obj_iff,
      Json.isRegular_arr_iff, Json.IsRegular.str, Json.IsRegular.null]
  · simp [misshapenDocument, misshapenType, documentOf, Json.hasShortIntegers_obj_iff,
      Json.hasShortIntegers_arr_iff, Json.HasShortIntegers.str, Json.HasShortIntegers.null]

theorem read_wrapperDocument :
    Json.read (some maxDepth) (Json.write .oneLine 0 wrapperDocument) = .ok wrapperDocument := by
  refine read_write_oneLine ?_ (by decide) ?_
  · simp [wrapperDocument, documentOf, Json.isRegular_obj_iff, Json.isRegular_arr_iff,
      Json.IsRegular.str]
  · simp [wrapperDocument, documentOf, Json.hasShortIntegers_obj_iff,
      Json.hasShortIntegers_arr_iff, Json.HasShortIntegers.str]

theorem conforms_wrapperDocument : Conforms (.record .document) wrapperDocument := by
  have htype : Conforms (.record .type) (.obj [("kind", .str "LIST"), ("name", .str "Colors")]) :=
    .record_of_forall rfl ⟨.holds (.inl rfl) (.kind .list), .holds (.inl rfl) (.text _),
      .lacks rfl ⟨rfl, rfl⟩, .lacks rfl ⟨rfl, rfl⟩, .lacks rfl ⟨rfl, rfl⟩, .lacks rfl ⟨rfl, rfl⟩,
      .lacks rfl ⟨rfl, rfl⟩, .lacks rfl ⟨rfl, rfl⟩⟩
  have hschema : Conforms (.record .schema) (.obj [("types", .arr [_])]) :=
    .record_of_forall rfl ⟨.lacks rfl ⟨rfl, rfl⟩, .lacks rfl ⟨rfl, rfl⟩, .lacks rfl ⟨rfl, rfl⟩,
      .holds (.inl rfl) (.list (List.forall_mem_singleton.mpr htype))⟩
  have hdata : Conforms (.record .data) (.obj [("__schema", _)]) :=
    .record_of_forall rfl (.holds (.inl rfl) hschema)
  exact .record_of_forall rfl (.holds (.inl rfl) hdata)

end Introspection

/-- A text that decodes, one that is refused for its shape at two places inside the document, and
one that is refused for the kind of its type. -/
theorem schemaOfJson_agrees_documents :
    schemaOfJson (Json.write .oneLine 0 episodeDocument) = .ok episodeSchema ∧
      (∃ inText inValue : List Problem,
        schemaOfJson (Json.write .oneLine 0 misshapenDocument) =
          .error (.malformed (.wrongShape inText)) ∧
        schemaOfDocument misshapenDocument = .error (.malformed (.wrongShape inValue)) ∧
        Correspond inText inValue ∧
        ⟨[.key "data", .key "__schema", .key "types", .index 0, .key "fields"], .notList⟩ ∈
          inValue ∧
        ⟨[.key "data", .key "__schema", .key "types", .index 0, .key "enumValues", .index 0,
          .key "name"], .missing⟩ ∈ inValue) ∧
      schemaOfJson (Json.write .oneLine 0 wrapperDocument) =
        .error (.malformed (.wrapperType "Colors" .list)) := by
  refine ⟨?_, ?_, ?_⟩
  · have hread := read_write_oneLine isRegular_episodeDocument (by decide)
      hasShortIntegers_episodeDocument
    obtain ⟨-, -, hschema, -⟩ := schemaOfJson_agrees hread
    rw [hschema, schemaOfDocument, writesDocument_episodeDocument.decode_eq nodup_episodeSchema
      wellFormed_episodeSchema shallow_episodeSchema, ofMalformed]
  · have hfields := notList_mem_problems_misshapenDocument
    have hname := missing_mem_problems_misshapenDocument
    have hconforms : ¬ Conforms (.record .document) misshapenDocument := by
      rw [← problems_eq_nil_iff]
      exact List.ne_nil_of_mem hfields
    obtain ⟨-, -, -, -, hshape, -⟩ := schemaOfJson_agrees read_misshapenDocument
    obtain ⟨inText, inValue, -, htext, hvalue, hsame⟩ := hshape hconforms
    have hproblems : inValue = (Rule.record .document).problems misshapenDocument := by
      rw [schemaOfDocument, decode_of_not_conforms hconforms] at hvalue
      cases hvalue
      rfl
    rw [← hproblems] at hfields hname
    exact ⟨inText, inValue, htext, hvalue, hsame, hfields, hname⟩
  · obtain ⟨-, -, -, hequal, -⟩ := schemaOfJson_agrees read_wrapperDocument
    rw [hequal conforms_wrapperDocument, schemaOfDocument,
      decode_of_conforms conforms_wrapperDocument]
    with_unfolding_all rfl

end SchemaBindings
