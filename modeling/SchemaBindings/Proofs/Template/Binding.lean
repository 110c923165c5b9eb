import Mathlib.Data.List.Nodup
import Mathlib.Data.List.Perm.Basic
import SchemaBindings.Proofs.Naming.Table
import SchemaBindings.Proofs.Order.Sorted
import SchemaBindings.Proofs.Template.ModuleLines
/-!
# The names that a module binds

At its top level a module binds the name it imports, the class of each enum and the table of each
enum. `topLevelNames` reads these names off the lines of a text, and on a generated module it finds
exactly those (`topLevelNames_moduleAround`).

All of them stand in one namespace, and nothing keeps them apart. `boundNames_nodup_iff` says when
they happen to be distinct: the class of an enum is always apart from its own table, and no table is
named like the import, but an enum may be named like the import or like the table of another enum,
and two enums may agree in upper case (`topLevelNames_clash`).
-/

set_option autoImplicit false
set_option relaxedAutoImplicit false

namespace SchemaBindings

open SchemaBindings.Text SchemaBindings.Naming SchemaBindings.Template

namespace ModuleLines

/-! ### Reading names -/

/-- The name that a line binds at the top level of a module, if any: the one that it imports, the
class that it opens, or the one that it assigns to. -/
def boundName? (line : List Char) : Option (List Char) :=
  let word := line.takeWhile Source.isWordChar
  let after := line.dropWhile Source.isWordChar
  if word = "import".toList ∨ word = "class".toList then
    some ((after.drop 1).takeWhile Source.isWordChar)
  else if !word.isEmpty && " = ".toList.isPrefixOf after then some word
  else none

/-- The names that a text binds at its top level. -/
def topLevelNames (text : List Char) : List (List Char) :=
  ((splitLines text).map lineBody).filterMap boundName?

/-- The name of the module that a generated module imports. -/
def importedName : List Char := "enum".toList

/-- The enums among some types. -/
def enums (types : List NamedType) : List NamedType :=
  types.filter fun type ↦ type.kind = .enum

/-- The names that a module of some types binds: the import, and for each enum its class and its
table. -/
def boundNames (types : List NamedType) : List (List Char) :=
  importedName :: (enums types).flatMap fun type ↦
    [type.name.toList, tableName type.name.toList]

/-- A line that begins with white space or a mark binds nothing. -/
theorem boundName?_cons {c : Char} (hc : Source.isWordChar c = false) (rest : List Char) :
    boundName? (c :: rest) = none := by
  rw [boundName?, List.takeWhile_cons_of_neg (by rw [hc]; exact Bool.false_ne_true)]
  rfl

theorem isWordChar_of_isNameChar {c : Char} (hc : Sdl.isNameChar c = true) :
    Source.isWordChar c = true := by
  rw [Sdl.isNameChar, Sdl.isNameStart] at hc
  rw [Source.isWordChar]
  grind

section Enum

variable {name : List Char} {values : List EnumValue} (hname : IsSchemaName name)

include hname

theorem boundName?_header : boundName? (EnumLines.header name) = some name := by
  have hword : ∀ c ∈ name, Source.isWordChar c = true := fun c hc ↦
    isWordChar_of_isNameChar (hname.2 c hc)
  have htake : (name ++ "(enum.IntEnum):".toList).takeWhile Source.isWordChar = name := by
    rw [List.takeWhile_append_of_pos hword]
    exact List.append_nil name
  have hfront : (EnumLines.header name).takeWhile Source.isWordChar = "class".toList := rfl
  have hbehind : (EnumLines.header name).dropWhile Source.isWordChar =
      ' ' :: (name ++ "(enum.IntEnum):".toList) := rfl
  rw [boundName?, hfront, hbehind, if_pos (.inr rfl), List.drop_succ_cons, List.drop_zero, htake]

theorem boundName?_tableHeader :
    boundName? (EnumLines.tableHeader name) = some (tableName name) := by
  have hword : ∀ c ∈ tableName name, Source.isWordChar c = true := fun c hc ↦
    isWordChar_of_isNameChar (hname.tableName.2 c hc)
  have hline : EnumLines.tableHeader name = tableName name ++ " = \x7b".toList := by
    rw [EnumLines.tableHeader, tableName, List.append_assoc]
    rfl
  have htake : (tableName name ++ " = \x7b".toList).takeWhile Source.isWordChar =
      tableName name := by
    rw [List.takeWhile_append_of_pos hword]
    exact List.append_nil _
  have hdrop : (tableName name ++ " = \x7b".toList).dropWhile Source.isWordChar =
      " = \x7b".toList := by
    rw [List.dropWhile_append_of_pos hword]
    rfl
  have hlong := hname.length_add_le_tableName
  have hother (word : String) (hshort : word.length < 11) : tableName name ≠ word.toList := by
    intro heq
    rw [heq, String.length_toList] at hlong
    omega
  rw [hline, boundName?, htake, hdrop]
  rw [if_neg (not_or.mpr ⟨hother "import" (by decide), hother "class" (by decide)⟩), if_pos]
  simp [hname.tableName.ne_nil]

theorem filterMap_boundName?_all :
    (EnumLines.all name values).filterMap boundName? = [name, tableName name] := by
  have hspace (rest : List Char) : boundName? (' ' :: rest) = none :=
    boundName?_cons (by decide) rest
  have hclass {entries : List (Member × Nat)} {lines : Member × Nat → List (List Char)}
      (hlines : ∀ entry, lines entry = EnumLines.classLines entry.1 entry.2) :
      (entries.flatMap lines).filterMap boundName? = [] := by
    rw [List.filterMap_eq_nil_iff]
    intro line hline
    obtain ⟨⟨current, index⟩, -, hmem⟩ := List.mem_flatMap.mp hline
    rw [hlines, EnumLines.classLines, List.mem_append, List.mem_singleton] at hmem
    rcases hmem with hcomment | rfl
    · rw [EnumLines.comments] at hcomment
      split_ifs at hcomment
      · exact absurd hcomment List.not_mem_nil
      · rw [List.mem_singleton.mp hcomment]
        exact hspace _
    · exact hspace _
  have htable : ((EnumLines.members values).map (EnumLines.tableLine name)).filterMap boundName? =
      [] := by
    rw [List.filterMap_eq_nil_iff]
    intro line hline
    obtain ⟨current, -, rfl⟩ := List.mem_map.mp hline
    exact hspace _
  have hplaceholder : boundName? "    Unknown = -1".toList = none := hspace _
  have hentry : boundName? (EnumLines.placeholderEntry name) = none := hspace _
  have hfooter : boundName? "\x7d".toList = none := boundName?_cons (by decide) []
  have hblank : boundName? [] = none := rfl
  simp only [EnumLines.all, List.filterMap_append, htable, List.filterMap_cons,
    List.filterMap_nil, boundName?_header hname, boundName?_tableHeader hname, hplaceholder, hentry,
    hfooter, hblank]
  rw [hclass]
  · rfl
  · exact fun _ ↦ rfl

end Enum

/-! ### The names of a module -/

/-- Blank lines bind nothing. -/
theorem filterMap_boundName?_filter (lines : List (List Char)) :
    (lines.filter (!·.isEmpty)).filterMap boundName? = lines.filterMap boundName? := by
  rw [List.filterMap_filter]
  refine List.filterMap_congr fun line _ ↦ ?_
  cases line with
  | nil => rfl
  | cons c rest => rfl

theorem filterMap_boundName?_declarations {types : List NamedType}
    (hnames : ∀ type ∈ types, IsSchemaName type.name.toList) :
    (types.flatMap declaration).filterMap boundName? =
      (enums types).flatMap fun type ↦ [type.name.toList, tableName type.name.toList] := by
  induction types with
  | nil => rfl
  | cons type types ih =>
    rw [List.forall_mem_cons] at hnames
    rw [List.flatMap_cons, List.filterMap_append, ih hnames.2]
    obtain ⟨name, description, body⟩ := type
    cases body with
    | enum values =>
      rw [declaration, filterMap_boundName?_all hnames.1, enums, enums,
        List.filter_cons_of_pos (by rfl)]
      rfl
    | scalar => rfl
    | object fields interfaces => rfl
    | interface fields possibleTypes => rfl
    | union possibleTypes => rfl
    | inputObject inputFields => rfl

theorem topLevelNames_ended {lines : List (List Char)}
    (hlines : ∀ line ∈ lines, ∀ c ∈ line, isBreak c = false) :
    topLevelNames (ended lines) = lines.filterMap boundName? := by
  rw [topLevelNames, map_lineBody_splitLines_ended hlines]

/-- The names of values in which no line can end or turn into a comment. -/
def HasPlainValues (type : NamedType) : Prop :=
  ∀ values, type.body = .enum values → ∀ value ∈ values, IsPlainText value.name.toList

theorem hasPlainValues_enum_iff {name description : String} {values : List EnumValue} :
    HasPlainValues ⟨name, description, .enum values⟩ ↔
      ∀ value ∈ values, IsPlainText value.name.toList := by
  simp [HasPlainValues]

theorem isBreak_of_mem_declaration {type : NamedType} (hname : IsSchemaName type.name.toList)
    (hvalues : HasPlainValues type) {line : List Char} (hline : line ∈ declaration type) {c : Char}
    (hc : c ∈ line) : isBreak c = false := by
  rw [declaration] at hline
  split at hline
  · next values hbody =>
    exact EnumLines.isBreak_of_mem_all hname.isPlainText (hvalues values hbody) hline hc
  all_goals exact absurd hline List.not_mem_nil

/-- A generated module binds its import, and the class and the table of each enum. -/
theorem topLevelNames_moduleAround {types : List NamedType} {module : List Char}
    (hnames : ∀ type ∈ types, IsSchemaName type.name.toList)
    (hvalues : ∀ type ∈ types, HasPlainValues type)
    (hmodule : ({} : Templates).moduleAround (ended (types.flatMap declaration)) = .ok module) :
    topLevelNames module = boundNames types := by
  obtain ⟨lines, hlines, hfilter⟩ := moduleAround_declarations types
  rw [hmodule] at hlines
  cases hlines
  have hprelude : ∀ line ∈ preludeLines, ∀ c ∈ line, isBreak c = false := by
    have hall : (preludeLines.all fun line ↦ line.all fun c ↦ !isBreak c) = true := by
      decide
    simpa [List.all_eq_true] using hall
  have hbreaks : ∀ line ∈ lines, ∀ c ∈ line, isBreak c = false := by
    intro line hline c hc
    have hkept : line ∈ lines.filter (!·.isEmpty) := by
      refine List.mem_filter.mpr ⟨hline, ?_⟩
      cases line with
      | nil => exact absurd hc List.not_mem_nil
      | cons d rest => rfl
    rw [hfilter] at hkept
    obtain ⟨type, htype, hmem⟩ := List.mem_flatMap.mp (List.mem_of_mem_filter hkept)
    exact isBreak_of_mem_declaration (hnames type htype) (hvalues type htype) hmem hc
  have himport : preludeLines.filterMap boundName? = [importedName] := by decide
  rw [topLevelNames_ended (List.forall_mem_append.mpr ⟨hprelude, hbreaks⟩), List.filterMap_append,
    himport, ← filterMap_boundName?_filter lines, hfilter, filterMap_boundName?_filter,
    filterMap_boundName?_declarations hnames]
  rfl

/-! ### When the names are distinct -/

theorem mem_enums_iff {types : List NamedType} {type : NamedType} :
    type ∈ enums types ↔ type ∈ types ∧ type.kind = .enum := by
  rw [enums, List.mem_filter, decide_eq_true_eq]

/-- The names are distinct when no enum is named like the import, no two enums have one name in
upper case, and no enum is named like a table. -/
theorem boundNames_nodup_iff {types : List NamedType}
    (hnodup : (types.map NamedType.name).Nodup)
    (hnames : ∀ type ∈ types, IsSchemaName type.name.toList) :
    (boundNames types).Nodup ↔
      (∀ type ∈ enums types, type.name ≠ "enum") ∧
      (∀ first ∈ enums types, ∀ second ∈ enums types,
        upperSnake first.name.toList = upperSnake second.name.toList → first = second) ∧
      ∀ first ∈ enums types, ∀ second ∈ enums types,
        first.name.toList ≠ tableName second.name.toList := by
  have hsplit : (boundNames types).Perm (importedName ::
      ((enums types).map (fun type ↦ type.name.toList) ++
        (enums types).map fun type ↦ tableName type.name.toList)) := by
    refine List.Perm.cons _ ?_
    rw [List.map_eq_flatMap, List.map_eq_flatMap]
    exact (List.flatMap_append_perm (enums types) (fun type ↦ [type.name.toList])
      fun type ↦ [tableName type.name.toList]).symm
  have henums : (enums types).Nodup :=
    (hnodup.sublist (List.filter_sublist.map NamedType.name)).of_map NamedType.name
  have hclasses : ((enums types).map fun type ↦ type.name.toList).Nodup := by
    rw [List.nodup_map_iff_inj_on henums]
    intro first hfirst second hsecond hsame
    exact eq_of_name_eq hnodup (mem_enums_iff.mp hfirst).1 (mem_enums_iff.mp hsecond).1
      (String.toList_inj.mp hsame)
  have himport : importedName ∉ (enums types).map fun type ↦ tableName type.name.toList := by
    intro hmem
    obtain ⟨type, htype, heq⟩ := List.mem_map.mp hmem
    have hlong := (hnames type (mem_enums_iff.mp htype).1).length_add_le_tableName
    rw [heq] at hlong
    exact absurd hlong (by simp [importedName])
  have hfree : importedName ∉ (enums types).map (fun type ↦ type.name.toList) ↔
      ∀ type ∈ enums types, type.name ≠ "enum" := by
    simp only [importedName, List.mem_map, String.toList_inj, not_exists, not_and, ne_eq]
  have htables : ((enums types).map fun type ↦ tableName type.name.toList).Nodup ↔
      ∀ first ∈ enums types, ∀ second ∈ enums types,
        upperSnake first.name.toList = upperSnake second.name.toList → first = second := by
    rw [List.nodup_map_iff_inj_on henums]
    simp only [tableName_inj]
  rw [hsplit.nodup_iff, List.nodup_cons, List.mem_append, not_or, List.nodup_append,
    and_iff_left himport, and_iff_right hclasses, hfree, htables]
  simp only [List.forall_mem_map]

/-- At its top level the module of a schema binds the import, and the class and the table of each
enum. These names are distinct exactly when no enum is named like the import, no two enums have one
name in upper case, and no enum is named like a table. -/
theorem topLevelNames_distinct_iff {types : List NamedType} {body : List Char}
    (hnodup : (types.map NamedType.name).Nodup)
    (hnames : ∀ type ∈ types, IsSchemaName type.name.toList)
    (hbody : ({} : Templates).typesText types = .ok body) :
    ∃ module sorted, ({} : Templates).moduleAround body = .ok module ∧
      sortTypes types = .ok sorted ∧
      ((∀ type ∈ types, HasPlainValues type) → topLevelNames module = boundNames sorted) ∧
      ((boundNames sorted).Nodup ↔
        (∀ type ∈ enums types, type.name ≠ "enum") ∧
        (∀ first ∈ enums types, ∀ second ∈ enums types,
          upperSnake first.name.toList = upperSnake second.name.toList → first = second) ∧
        ∀ first ∈ enums types, ∀ second ∈ enums types,
          first.name.toList ≠ tableName second.name.toList) := by
  obtain ⟨sorted, hsorted, rfl⟩ := typesText_eq_ok_iff.mp hbody
  have hmem {type : NamedType} (htype : type ∈ sorted) : type ∈ types :=
    (mem_of_mem_sorted hsorted htype).1
  have hsortedNames : ∀ type ∈ sorted, IsSchemaName type.name.toList :=
    fun type htype ↦ hnames type (hmem htype)
  have henums (type : NamedType) : type ∈ enums sorted ↔ type ∈ enums types := by
    rw [mem_enums_iff, mem_enums_iff, mem_sorted_iff_of_nodup hnodup hsorted]
    constructor
    · rintro ⟨⟨htype, -⟩, hkind⟩
      exact ⟨htype, hkind⟩
    · rintro ⟨htype, hkind⟩
      refine ⟨⟨htype, ?_⟩, hkind⟩
      rw [NamedType.isCustom, hkind]
      rfl
  refine ⟨prelude ++ (trimRight (ended (sorted.flatMap declaration)) ++ ['\n']), sorted,
    moduleAround_eq _, hsorted, fun hvalues ↦ ?_, ?_⟩
  · exact topLevelNames_moduleAround hsortedNames (fun type htype ↦ hvalues type (hmem htype))
      (moduleAround_eq _)
  · rw [boundNames_nodup_iff (nodup_name_sorted hsorted) hsortedNames]
    simp only [henums]

/-- Two enums with different names, which are different in upper case too. -/
def apartEnums : List NamedType :=
  [{ name := "HTTPStatus", body := .enum [{ name := "OK" }] },
   { name := "UnitOf_length", body := .enum [] }]

theorem topLevelNames_distinct_iff_apartEnums :
    ∃ body module, ({} : Templates).typesText apartEnums = .ok body ∧
      ({} : Templates).moduleAround body = .ok module ∧
      topLevelNames module =
        ["enum", "HTTPStatus", "HTTP_STATUS_WIRE_NAMES", "UnitOf_length",
          "UNIT_OF_LENGTH_WIRE_NAMES"].map String.toList ∧
      (topLevelNames module).Nodup := by
  have hsorted : sortTypes apartEnums = .ok apartEnums := rfl
  have hbody := typesText_eq_ok_iff.mpr ⟨apartEnums, hsorted, rfl⟩
  obtain ⟨module, sorted, hmodule, hsame, hnames, hiff⟩ :=
    topLevelNames_distinct_iff (by decide) (by decide) hbody
  rw [hsorted] at hsame
  cases hsame
  have hplain : ∀ type ∈ apartEnums, HasPlainValues type := by
    rw [apartEnums, List.forall_mem_cons, List.forall_mem_singleton]
    exact ⟨hasPlainValues_enum_iff.mpr (by decide), hasPlainValues_enum_iff.mpr (by decide)⟩
  refine ⟨_, module, hbody, hmodule, ?_, ?_⟩
  · rw [hnames hplain]
    decide
  · rw [hnames hplain, hiff]
    decide

/-- Two enums whose names differ in nothing but the case of letters. -/
def clashingEnums : List NamedType :=
  [{ name := "HTTPStatus", body := .enum [{ name := "OK" }] },
   { name := "HttpStatus", body := .enum [{ name := "NOT_FOUND" }] }]

/-- The second table takes the name of the first one, though the names of the enums are distinct. -/
theorem topLevelNames_clash :
    (clashingEnums.map NamedType.name).Nodup ∧
      (∀ type ∈ clashingEnums, IsSchemaName type.name.toList) ∧
      ∃ body module, ({} : Templates).typesText clashingEnums = .ok body ∧
        ({} : Templates).moduleAround body = .ok module ∧
        topLevelNames module =
          ["enum", "HTTPStatus", "HTTP_STATUS_WIRE_NAMES", "HttpStatus",
            "HTTP_STATUS_WIRE_NAMES"].map String.toList ∧
        ¬ (topLevelNames module).Nodup := by
  have hnames : ∀ type ∈ clashingEnums, IsSchemaName type.name.toList := by decide
  have hplain : ∀ type ∈ clashingEnums, HasPlainValues type := by
    rw [clashingEnums, List.forall_mem_cons, List.forall_mem_singleton]
    exact ⟨hasPlainValues_enum_iff.mpr (by decide), hasPlainValues_enum_iff.mpr (by decide)⟩
  have hsorted : sortTypes clashingEnums = .ok clashingEnums := rfl
  have hbody := typesText_eq_ok_iff.mpr ⟨clashingEnums, hsorted, rfl⟩
  have hmodule := moduleAround_eq (ended (clashingEnums.flatMap declaration))
  have hbound : topLevelNames _ = _ := topLevelNames_moduleAround hnames hplain hmodule
  refine ⟨by decide, hnames, _, _, hbody, hmodule, ?_, ?_⟩
  · rw [hbound]
    decide
  · rw [hbound]
    decide

end ModuleLines

end SchemaBindings
