import SchemaBindings.Proofs.Except
import SchemaBindings.Proofs.Hook
import SchemaBindings.Proofs.Template.Binding
/-!
# The text of a generated module

An enum depends on nothing, so the queue lets the enums through before every type that waits, and in
document order (`enums_sorted`). The other types leave no text. The declarations of some types are
therefore those of the enums that count, whatever the types around them
(`flatMap_declaration_sorted`).

Each declaration is a block, which begins with its class and ends in a brace, and two blank lines
after it (`exists_isBlock`). Cut off behind the last brace, the blocks in a row are separated by two
blank lines, and a module is the prelude, the blocks and one line feed
(`typesText_filterSchema`).
-/

set_option autoImplicit false
set_option relaxedAutoImplicit false

namespace SchemaBindings.ModuleLines

open SchemaBindings.Text SchemaBindings.Template

variable {types sorted : List NamedType}

/-! ### The enums of a sorted list -/

theorem exists_values_of_enum {type : NamedType} (hkind : type.kind = .enum) :
    ∃ values, type.body = .enum values := by
  unfold NamedType.kind at hkind
  cases hbody : type.body with
  | enum values => exact ⟨values, rfl⟩
  | _ => simp [hbody, TypeBody.kind] at hkind

theorem declaration_of_ne_enum {type : NamedType} (hkind : type.kind ≠ .enum) :
    declaration type = [] := by
  unfold declaration
  cases hbody : type.body with
  | enum values => exact absurd (congrArg TypeBody.kind hbody) hkind
  | _ => rfl

/-- An enum depends on nothing. -/
theorem dependencies_of_enum {type : NamedType} (hkind : type.kind = .enum) :
    type.dependencies = [] := by
  obtain ⟨values, hbody⟩ := exists_values_of_enum hkind
  simp [NamedType.dependencies, NamedType.dependencyRefs, hbody]

/-- Sorting leaves the enums in the order of the types that count. -/
theorem enums_sorted (hsorted : sortTypes types = .ok sorted) :
    enums sorted = enums (countedTypes types) := by
  have hwaiting :
      enums (releasedAfter (countedTypes types) [] (sorted.map NamedType.name)) = [] := by
    refine List.filter_eq_nil_iff.mpr fun type htype hkind ↦ ?_
    exact dependencies_ne_nil_of_mem_releasedAfter htype
      (dependencies_of_enum (of_decide_eq_true hkind))
  have hsources : enums (sources (countedTypes types)) = enums (countedTypes types) := by
    unfold enums sources
    rw [List.filter_filter]
    refine List.filter_congr fun type _ ↦ ?_
    by_cases hkind : type.kind = .enum
    · simp [hkind, dependencies_of_enum hkind]
    · simp [hkind]
  have harrivals : enums sorted = enums (sources (countedTypes types)) ++
      enums (releasedAfter (countedTypes types) [] (sorted.map NamedType.name)) := by
    conv_lhs => rw [sorted_eq_arrivals hsorted]
    exact List.filter_append ..
  rw [harrivals, hsources, hwaiting, List.append_nil]

/-- Only enums are declared. -/
theorem flatMap_declaration_enums (types : List NamedType) :
    (enums types).flatMap declaration = types.flatMap declaration := by
  induction types with
  | nil => rfl
  | cons type rest ih =>
    unfold enums at ih ⊢
    by_cases hkind : type.kind = .enum
    · rw [List.filter_cons_of_pos (by simpa using hkind), List.flatMap_cons, List.flatMap_cons, ih]
    · rw [List.filter_cons_of_neg (by simpa using hkind), List.flatMap_cons,
        declaration_of_ne_enum hkind, List.nil_append, ih]

/-- The lines that declare sorted types are those of the enums that count. -/
theorem flatMap_declaration_sorted (hsorted : sortTypes types = .ok sorted) :
    sorted.flatMap declaration = (enums (countedTypes types)).flatMap declaration := by
  rw [← flatMap_declaration_enums sorted, enums_sorted hsorted]

/-- The enums that count after filters are those that counted before and are kept. -/
theorem enums_countedTypes_filter (hooks : Hooks) (types : List NamedType) :
    enums (countedTypes (types.filter hooks.keeps)) =
      (enums (countedTypes types)).filter hooks.keeps := by
  unfold enums
  rw [countedTypes_filter_keeps, List.filter_filter, List.filter_filter]
  simp only [Bool.and_comm]

/-! ### Blocks -/

/-- The line feed at the end of a block and the two blank lines behind it. -/
def blockEnd : List Char := "\n\n\n".toList

/-- A text that begins with the word of a class and ends in a brace. -/
def IsBlock (text : List Char) : Prop :=
  (∃ rest, text = "class ".toList ++ rest) ∧ ∃ front, text = front ++ ['\x7d']

/-- The declaration of an enum is a block with two blank lines behind it. -/
theorem exists_isBlock {type : NamedType} (hkind : type.kind = .enum) :
    ∃ block, IsBlock block ∧ ended (declaration type) = block ++ blockEnd := by
  obtain ⟨values, hbody⟩ := exists_values_of_enum hkind
  have hlines : ∃ lines, declaration type =
      EnumLines.header type.name.toList :: lines ++ ["\x7d".toList, [], []] := by
    simp only [declaration, hbody, EnumLines.all, List.singleton_append]
    exact ⟨_, rfl⟩
  obtain ⟨lines, hlines⟩ := hlines
  have hblock : ended (declaration type) =
      (ended (EnumLines.header type.name.toList :: lines) ++ ['\x7d']) ++ blockEnd := by
    rw [hlines, ended_append, List.append_assoc]
    rfl
  refine ⟨_, ⟨?_, _, rfl⟩, hblock⟩
  have hheader : EnumLines.header type.name.toList =
      "class ".toList ++ [type.name.toList, "(enum.IntEnum):".toList].flatten :=
    List.flatten_cons
  rw [ended_cons, hheader]
  simp only [List.append_assoc]
  exact ⟨_, rfl⟩

/-- Enums are declared by blocks with two blank lines behind each. -/
theorem exists_blocks {types : List NamedType} (hkinds : ∀ type ∈ types, type.kind = .enum) :
    ∃ blocks : List (List Char), (∀ block ∈ blocks, IsBlock block) ∧
      types.map (fun type ↦ ended (declaration type)) = blocks.map (· ++ blockEnd) := by
  have hexists : ∀ type ∈ types, ∃ block, IsBlock block ∧
      ended (declaration type) = block ++ blockEnd :=
    fun type htype ↦ exists_isBlock (hkinds type htype)
  choose! block hisBlock htext using hexists
  refine ⟨types.map block, List.forall_mem_map.mpr hisBlock, ?_⟩
  rw [List.map_map]
  exact List.map_congr_left htext

/-- Trimming stops behind the last block. -/
theorem IsBlock.trimRight_append {block : List Char} (hblock : IsBlock block) (front : List Char) :
    trimRight (front ++ (block ++ blockEnd)) = front ++ block := by
  obtain ⟨-, before, rfl⟩ := hblock
  have hblank : isAllBlank blockEnd = true := by decide
  have htrim := Text.trimRight_append (c := '\x7d') (by decide) (front ++ before) hblank
  simpa using htrim

/-- The texts in a row are the blocks with two blank lines between any two of them, and two more. -/
theorem flatten_map_append_blockEnd {blocks : List (List Char)} (hblocks : blocks ≠ []) :
    (blocks.map (· ++ blockEnd)).flatten = blockEnd.intercalate blocks ++ blockEnd := by
  induction blocks with
  | nil => exact absurd rfl hblocks
  | cons block rest ih =>
    by_cases hrest : rest = []
    · subst hrest
      simp
    · rw [List.map_cons, List.flatten_cons, ih hrest, List.intercalate_cons_of_ne_nil hrest]
      simp only [List.append_assoc]

/-- Blocks with two blank lines between any two of them end like the last. -/
theorem exists_intercalate_eq {blocks : List (List Char)} (hblocks : blocks ≠ []) :
    ∃ front last, last ∈ blocks ∧ blockEnd.intercalate blocks = front ++ last := by
  induction blocks with
  | nil => exact absurd rfl hblocks
  | cons block rest ih =>
    by_cases hrest : rest = []
    · subst hrest
      exact ⟨[], block, List.mem_cons_self, by simp⟩
    · obtain ⟨front, last, hlast, heq⟩ := ih hrest
      refine ⟨block ++ blockEnd ++ front, last, List.mem_cons_of_mem _ hlast, ?_⟩
      rw [List.intercalate_cons_of_ne_nil hrest, heq]
      simp only [List.append_assoc]

/-! ### Modules of blocks -/

/-- A checked module is the prelude and the trimmed declarations, when these are not blank. -/
theorem eq_of_render_eq_ok {path : String} {body text : List Char}
    (hbody : isAllBlank body = false) (hrender : ({} : Templates).render path body = .ok text) :
    text = prelude ++ (trimRight body ++ ['\n']) := by
  rw [render_of_moduleAround hbody (moduleAround_eq body)] at hrender
  split_ifs at hrender
  exact (Except.ok.inj hrender).symm

section Blocks

variable {blocks : List (List Char)} (hisBlock : ∀ block ∈ blocks, IsBlock block)

include hisBlock

theorem map_trimRight_blocks : (blocks.map (· ++ blockEnd)).map trimRight = blocks := by
  rw [List.map_map]
  calc blocks.map (trimRight ∘ (· ++ blockEnd)) = blocks.map id :=
        List.map_congr_left fun block hblock ↦ (hisBlock block hblock).trimRight_append []
    _ = blocks := List.map_id blocks

/-- A checked module of blocks is the prelude, the blocks with two blank lines between any two of
them, and one line feed. -/
theorem eq_of_render_blocks (hblocks : blocks ≠ []) {path : String} {text : List Char}
    (hrender : ({} : Templates).render path (blocks.map (· ++ blockEnd)).flatten = .ok text) :
    text = prelude ++ blockEnd.intercalate blocks ++ ['\n'] := by
  obtain ⟨front, last, hlast, heq⟩ := exists_intercalate_eq hblocks
  have hbody : (blocks.map (· ++ blockEnd)).flatten = front ++ (last ++ blockEnd) := by
    rw [flatten_map_append_blockEnd hblocks, heq, List.append_assoc]
  have hvisible : isAllBlank (front ++ (last ++ blockEnd)) = false := by
    obtain ⟨-, before, rfl⟩ := hisBlock last hlast
    exact (isAllBlank_eq_false_iff _).mpr ⟨'\x7d', by simp, by decide⟩
  rw [hbody] at hrender
  rw [eq_of_render_eq_ok hvisible hrender, (hisBlock last hlast).trimRight_append, heq]
  simp only [List.append_assoc]

end Blocks

/-! ### Declarations and modules -/

/-- The declarations of the types that are left after any filters are those of the enums among the
types that count which pass every filter, in document order. A module of them is empty when there is
no such enum, and else consists of the prelude, the declarations without the blank lines behind
them, with two blank lines between any two, and one line feed. -/
theorem typesText_filterSchema (hooks : Hooks) {schema : Schema} {sorted : List NamedType}
    (hsorted : sortTypes (hooks.filterSchema schema).types = .ok sorted) (path : String) :
    let kept := (enums (countedTypes schema.types)).filter hooks.keeps
    ∃ texts,
      List.Forall₂ (fun type text ↦ ({} : Templates).typeText 0 type = .ok text) kept texts ∧
      ({} : Templates).typesText (hooks.filterSchema schema).types = .ok texts.flatten ∧
      (∀ text ∈ texts, IsBlock (trimRight text) ∧ text = trimRight text ++ blockEnd) ∧
      (kept = [] → ({} : Templates).render path texts.flatten = .ok []) ∧
      ∀ text, kept ≠ [] → ({} : Templates).render path texts.flatten = .ok text →
        text = prelude ++ blockEnd.intercalate (texts.map trimRight) ++ ['\n'] := by
  intro kept
  rw [hooks.types_filterSchema] at hsorted ⊢
  have hkinds : ∀ type ∈ kept, type.kind = .enum := by
    intro type htype
    exact of_decide_eq_true (List.mem_filter.mp (List.mem_of_mem_filter htype)).2
  obtain ⟨blocks, hisBlock, htexts⟩ := exists_blocks hkinds
  refine ⟨blocks.map (· ++ blockEnd), ?_, ?_, ?_, ?_, ?_⟩
  · rw [← htexts, List.forall₂_map_right_iff, List.forall₂_same]
    exact fun type _ ↦ typeText_eq type
  · rw [← htexts, typesText_eq_ok_iff, ← List.flatMap_def, ← ended_flatMap]
    refine ⟨sorted, hsorted, ?_⟩
    rw [flatMap_declaration_sorted hsorted, enums_countedTypes_filter]
  · intro text htext
    obtain ⟨block, hblock, rfl⟩ := List.mem_map.mp htext
    have htrim : trimRight (block ++ blockEnd) = block :=
      (hisBlock block hblock).trimRight_append []
    rw [htrim]
    exact ⟨hisBlock block hblock, rfl⟩
  · intro hnone
    rw [← htexts, hnone]
    rfl
  · intro text hsome hrender
    have hblocks : blocks ≠ [] := by
      rintro rfl
      exact hsome (List.map_eq_nil_iff.mp htexts)
    rw [map_trimRight_blocks hisBlock]
    exact eq_of_render_blocks hisBlock hblocks hrender

/-- A schema with a meta kind, an enum that is declared twice, and an object that depends on both of
its enums. -/
def colorSchema : Schema where
  types :=
    [{ name := "__TypeKind", body := .enum [{ name := "SCALAR" }] },
     { name := "Size", body := .enum [{ name := "OLD" }] },
     { name := "Color", body := .enum [{ name := "RED" }] },
     { name := "Query"
       body := .object [{ name := "color", type := .plain .enum (some "Color") },
         { name := "size", type := .plain .enum (some "Size") }] [] },
     { name := "Size", body := .enum [{ name := "S", description := "small" }] }]

/-- The block of the second declaration of `Size`. -/
def sizeBlock : List Char :=
  ended ["class Size(enum.IntEnum):".toList, "    # small".toList, "    S = 0".toList,
    "    Unknown = -1".toList, [], [], "SIZE_WIRE_NAMES = \x7b".toList,
    "    Size.Unknown: None,".toList, "    Size.S: 'S',".toList] ++ ['\x7d']

/-- The block of `Color`. -/
def colorBlock : List Char :=
  ended ["class Color(enum.IntEnum):".toList, "    Red = 0".toList, "    Unknown = -1".toList,
    [], [], "COLOR_WIRE_NAMES = \x7b".toList, "    Color.Unknown: None,".toList,
    "    Color.Red: 'RED',".toList] ++ ['\x7d']

/-- The two blocks are a module behind the prelude. -/
theorem exists_render_colors :
    ∃ text, ({} : Templates).render "types.py"
      (sizeBlock ++ blockEnd ++ (colorBlock ++ blockEnd)) = .ok text := by
  rw [render_of_moduleAround _ (moduleAround_eq _), if_neg, if_pos]
  · exact ⟨_, rfl⟩
  all_goals
    unfold sizeBlock colorBlock
    -- The characters of a literal are taken at once, and not each when it is looked at.
    repeat rewrite [String.toList_ofList]
  · rw [isModule_prelude_append]
    decide +kernel
  · rw [List.mem_append, not_or]
    exact ⟨fun hmem ↦ (ne_of_mem_prelude hmem).2 rfl, by decide +kernel⟩
  · decide

theorem typesText_filterSchema_colorSchema :
    let left := Hooks.filterSchema { filters := [{ excludedStart := some "__" }] } colorSchema
    let body := sizeBlock ++ blockEnd ++ (colorBlock ++ blockEnd)
    (∃ sorted, sortTypes left.types = .ok sorted ∧
      sorted.map NamedType.name = ["Size", "Color", "Query"]) ∧
      ({} : Templates).typesText left.types = .ok body ∧
      ({} : Templates).render "types.py" body =
        .ok (prelude ++ (sizeBlock ++ blockEnd ++ colorBlock) ++ ['\n']) := by
  intro left body
  have hnames : (sortTypes left.types).toOption.map (List.map NamedType.name) =
      some ["Size", "Color", "Query"] := by
    decide
  obtain ⟨sorted, hsuccess, hnames⟩ := Option.map_eq_some_iff.mp hnames
  have hsorted : sortTypes left.types = .ok sorted := toOption_eq_some_iff.mp hsuccess
  obtain ⟨texts, htexts, hbody, hblocks, -, hmodule⟩ :=
    typesText_filterSchema _ hsorted "types.py"
  have hkept : (enums (countedTypes colorSchema.types)).filter
      (Hooks.keeps { filters := [{ excludedStart := some "__" }] }) =
      [{ name := "Size", body := .enum [{ name := "S", description := "small" }] },
       { name := "Color", body := .enum [{ name := "RED" }] }] := by
    decide
  rw [hkept] at htexts hmodule
  have hsize : ({} : Templates).typeText 0
      { name := "Size", body := .enum [{ name := "S", description := "small" }] } =
        .ok (sizeBlock ++ blockEnd) := by
    unfold sizeBlock
    repeat rewrite [String.toList_ofList]
    decide
  have hcolor : ({} : Templates).typeText 0 { name := "Color", body := .enum [{ name := "RED" }] } =
      .ok (colorBlock ++ blockEnd) := by
    unfold colorBlock
    repeat rewrite [String.toList_ofList]
    decide
  have hpair : texts = [sizeBlock ++ blockEnd, colorBlock ++ blockEnd] := by
    obtain ⟨first, _, hfirst, hrest, rfl⟩ := List.forall₂_cons_left_iff.mp htexts
    obtain ⟨second, _, hsecond, hnil, rfl⟩ := List.forall₂_cons_left_iff.mp hrest
    obtain rfl := List.forall₂_nil_left_iff.mp hnil
    rw [hsize] at hfirst
    rw [hcolor] at hsecond
    rw [Except.ok.inj hfirst, Except.ok.inj hsecond]
  have hflatten : texts.flatten = body := by
    rw [hpair, List.flatten_cons, List.flatten_cons, List.flatten_nil, List.append_nil]
  have hblanks : blockEnd.intercalate (texts.map trimRight) =
      sizeBlock ++ blockEnd ++ colorBlock := by
    rw [hpair, List.forall_mem_cons, List.forall_mem_singleton] at hblocks
    rw [hpair, List.map_cons, List.map_cons, ← List.append_cancel_right hblocks.1.2,
      ← List.append_cancel_right hblocks.2.2]
    simp [List.intercalate]
  obtain ⟨text, hrender⟩ : ∃ text, ({} : Templates).render "types.py" body = .ok text :=
    exists_render_colors
  rw [hflatten] at hbody hmodule
  refine ⟨⟨sorted, hsorted, hnames⟩, hbody, ?_⟩
  rw [hrender, hmodule text (List.cons_ne_nil _ _) hrender, hblanks]

end SchemaBindings.ModuleLines
