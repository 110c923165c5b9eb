import SchemaBindings.Proofs.Naming.Identifier
import SchemaBindings.Proofs.Order.Sorted
import SchemaBindings.Proofs.Source.Lines
import SchemaBindings.Proofs.Template.Description
import SchemaBindings.Proofs.Template.Prelude
/-!
# Descriptions and the outcome of generation

A module with comments and the same module without them leave the same tokens
(`linesAlike_trimmedLines`), as long as no name opens a long string, in which a comment would not be
one. Then descriptions do not decide whether the module is accepted, but for one thing: comments
keep every NUL, and a module with a NUL is refused before anyone looks at its tokens
(`generate_undescribed_outcome`). With names of the schema language no long string is opened
(`not_hasLongQuote_of_isSchemaName`), so that for them nothing but a NUL matters
(`generate_undescribed_of_isSchemaName`).
-/

set_option autoImplicit false
set_option relaxedAutoImplicit false

namespace SchemaBindings

open SchemaBindings.Text SchemaBindings.Template SchemaBindings.Source

namespace EnumLines

/-! ### Lines that end themselves -/

/-- A line ends itself when its last part does. -/
theorem endsItself_flatten (parts : List (List Char)) {last : List Char} {c : Char}
    (hlast : last.getLast? = some c) (hc : c ≠ '\\' ∧ c ≠ '\r')
    (hquotes : ¬ HasLongQuote (parts ++ [last]).flatten) :
    EndsItself (parts ++ [last]).flatten := by
  have hwhole : (parts ++ [last]).flatten.getLast? = some c := by
    rw [List.flatten_append, List.flatten_singleton, List.getLast?_append, hlast]
    rfl
  refine ⟨fun heq ↦ hc.1 ?_, fun heq ↦ hc.2 ?_, hquotes⟩
  · exact Option.some.inj (hwhole.symm.trans heq)
  · exact Option.some.inj (hwhole.symm.trans heq)

theorem endsItself_header {name : List Char} (hquotes : ¬ HasLongQuote (header name)) :
    EndsItself (header name) :=
  endsItself_flatten (c := ':') ["class ".toList, name] (by decide) (by decide) hquotes

theorem endsItself_member {name : List Char} {index : Nat}
    (hquotes : ¬ HasLongQuote (member name index)) : EndsItself (member name index) := by
  obtain ⟨c, hlast⟩ : ∃ c, (Nat.toDigits 10 index).getLast? = some c :=
    Option.ne_none_iff_exists'.mp (mt List.getLast?_eq_none_iff.mp Nat.toDigits_ne_nil)
  have hdigit := Nat.isDigit_of_mem_toDigits (by decide) (by decide) (List.mem_of_getLast? hlast)
  refine endsItself_flatten ["    ".toList, name, " = ".toList] hlast ⟨?_, ?_⟩ hquotes
  · rintro rfl
    exact absurd hdigit (by decide)
  · rintro rfl
    exact absurd hdigit (by decide)

theorem endsItself_tableHeader {name : List Char} (hquotes : ¬ HasLongQuote (tableHeader name)) :
    EndsItself (tableHeader name) :=
  endsItself_flatten (c := '\x7b') [Naming.upperSnake name] (by decide) (by decide) hquotes

theorem endsItself_placeholderEntry {name : List Char}
    (hquotes : ¬ HasLongQuote (placeholderEntry name)) : EndsItself (placeholderEntry name) :=
  endsItself_flatten (c := ',') ["    ".toList, name] (by decide) (by decide) hquotes

theorem endsItself_entry {name member literal : List Char}
    (hquotes : ¬ HasLongQuote (entry name member literal)) :
    EndsItself (entry name member literal) :=
  endsItself_flatten (c := ',')
    ["    ".toList, name, ".".toList, member, ": ".toList, literal] (by decide) (by decide) hquotes

/-! ### The lines of an enum -/

/-- The lines of a declaration in front of its closing brace. -/
def front (name : List Char) (values : List EnumValue) : List (List Char) :=
  [header name] ++
    ((members values).zipIdx.flatMap fun (current, index) ↦ classLines current index) ++
    ["    Unknown = -1".toList, [], [], tableHeader name, placeholderEntry name] ++
    (members values).map (tableLine name)

theorem all_eq (name : List Char) (values : List EnumValue) :
    all name values = front name values ++ ["\x7d".toList, [], []] := rfl

/-- A member leaves the same tokens with and without its comment. -/
theorem linesAlike_classLines {current : Member} {index : Nat}
    (hquotes : ¬ HasLongQuote (member current.name index)) :
    LinesAlike (classLines current index) [member current.name index] := by
  have hmember : LinesAlike [member current.name index] [member current.name index] :=
    .of_endsItself (List.forall_mem_singleton.mpr (endsItself_member hquotes))
  have hcomments : LinesAlike (comments current.value.description.toList) [] := by
    unfold comments
    split_ifs
    · exact .nil
    · exact .comment fun c ↦ Comment.isBreak_of_mem_ofDescription
  exact hcomments.append hmember

/-- The lines in front of the brace leave the same tokens with and without comments. -/
theorem linesAlike_front {name : List Char} {values : List EnumValue}
    (hquotes : ∀ line ∈ front name (values.map EnumValue.undescribed), ¬ HasLongQuote line) :
    LinesAlike (front name values) (front name (values.map EnumValue.undescribed)) := by
  unfold front at hquotes ⊢
  rw [ModuleLines.members_undescribed, List.zipIdx_map, List.flatMap_map, List.map_map] at hquotes ⊢
  simp only [List.forall_mem_append, List.forall_mem_cons, List.forall_mem_flatMap,
    List.forall_mem_map] at hquotes
  obtain ⟨⟨⟨⟨hheader, -⟩, hclass⟩, -, -, -, htable, hplaceholder, -⟩, hentries⟩ := hquotes
  refine .append (.append (.append ?_ (.flatMap fun (current, index) hcurrent ↦ ?_)) ?_) ?_
  · exact .of_endsItself (List.forall_mem_singleton.mpr (endsItself_header hheader))
  · exact linesAlike_classLines (hclass (current, index) hcurrent _ List.mem_cons_self)
  · refine .of_endsItself ?_
    simp only [List.forall_mem_cons]
    exact ⟨by decide, by decide, by decide, endsItself_tableHeader htable,
      endsItself_placeholderEntry hplaceholder, List.forall_mem_nil _⟩
  · exact .of_endsItself (List.forall_mem_map.mpr fun current hcurrent ↦
      endsItself_entry (hentries current hcurrent))

/-- Without descriptions a declaration has no comments. -/
theorem all_undescribed (name : List Char) (values : List EnumValue) :
    all name (values.map EnumValue.undescribed) =
      [header name] ++
        ((members values).zipIdx.flatMap fun (current, index) ↦ [member current.name index]) ++
        ["    Unknown = -1".toList, [], [], tableHeader name, placeholderEntry name] ++
        (members values).map (tableLine name) ++ ["\x7d".toList, [], []] := by
  rw [all, ModuleLines.members_undescribed, List.zipIdx_map, List.flatMap_map, List.map_map]
  rfl

/-- What holds of each kind of line holds of all lines of a declaration without comments. -/
theorem forall_mem_all_undescribed {p : List Char → Prop} {name : List Char}
    {values : List EnumValue} (hheader : p (header name))
    (hmember : ∀ current ∈ members values, ∀ index, p (member current.name index))
    (hplaceholder : p "    Unknown = -1".toList) (hempty : p [])
    (htable : p (tableHeader name)) (hunknown : p (placeholderEntry name))
    (hentry : ∀ current ∈ members values, p (tableLine name current))
    (hclose : p "\x7d".toList) :
    ∀ line ∈ all name (values.map EnumValue.undescribed), p line := by
  rw [all_undescribed]
  simp only [List.forall_mem_append, List.forall_mem_flatMap, List.forall_mem_map,
    List.forall_mem_cons]
  refine ⟨⟨⟨⟨⟨hheader, List.forall_mem_nil _⟩, fun (current, index) hcurrent ↦ ?_⟩, ?_⟩, hentry⟩,
    hclose, hempty, hempty, List.forall_mem_nil _⟩
  · exact ⟨hmember current (List.fst_mem_of_mem_zipIdx hcurrent) index, List.forall_mem_nil _⟩
  · exact ⟨hplaceholder, hempty, hempty, htable, hunknown, List.forall_mem_nil _⟩

/-- The lines of a declaration are those without descriptions, and the comments. -/
theorem mem_all_iff {name : List Char} {values : List EnumValue} {line : List Char} :
    line ∈ all name values ↔ line ∈ all name (values.map EnumValue.undescribed) ∨
      ∃ value ∈ values, line ∈ comments value.description.toList := by
  have hmove (front own comment middle table ending : Prop) :
      ((((front ∨ own ∨ comment) ∨ middle) ∨ table) ∨ ending) ↔
        ((((front ∨ own) ∨ middle) ∨ table) ∨ ending) ∨ comment := by
    tauto
  have hcomments : (∃ value ∈ values, line ∈ comments value.description.toList) ↔
      ∃ entry ∈ (members values).zipIdx, line ∈ comments entry.1.value.description.toList := by
    conv_lhs => rw [← map_value_members values, ← List.zipIdx_map_fst 0 (members values)]
    simp only [List.mem_map, exists_exists_and_eq_and]
  have hclass :
      (line ∈ (members values).zipIdx.flatMap fun (current, index) ↦ classLines current index) ↔
        (line ∈ (members values).zipIdx.flatMap fun (current, index) ↦
          [member current.name index]) ∨
        ∃ entry ∈ (members values).zipIdx, line ∈ comments entry.1.value.description.toList := by
    simp only [List.mem_flatMap, classLines, List.mem_append, and_or_left, exists_or]
    exact or_comm
  rw [hcomments, all_undescribed, all]
  simp only [List.mem_append, hclass]
  exact hmove ..

end EnumLines

namespace ModuleLines

open EnumLines

/-! ### The lines of a module -/

/-- The lines of the declarations of some types without the two blank lines at the end. -/
def trimmedLines (types : List NamedType) : List (List Char) :=
  (types.flatMap declaration).dropLast.dropLast

theorem dropLast_dropLast_append {first second : List (List Char)} (hlength : 2 < second.length) :
    (first ++ second).dropLast.dropLast = first ++ second.dropLast.dropLast := by
  have hsecond : second ≠ [] := by
    rintro rfl
    exact absurd hlength (by decide)
  have hrest : second.dropLast ≠ [] := by
    rw [← List.length_pos_iff, List.length_dropLast]
    omega
  rw [List.dropLast_append_of_ne_nil hsecond, List.dropLast_append_of_ne_nil hrest]

theorem length_declarations {types : List NamedType} (hsome : types.flatMap declaration ≠ []) :
    2 < (types.flatMap declaration).length := by
  rcases flatMap_declaration_cases types with hnone | ⟨front, heq⟩
  · exact absurd hnone hsome
  · rw [heq, List.length_append]
    simp

theorem trimmedLines_cons {type : NamedType} {types : List NamedType}
    (hsome : types.flatMap declaration ≠ []) :
    trimmedLines (type :: types) = declaration type ++ trimmedLines types := by
  rw [trimmedLines, List.flatMap_cons, dropLast_dropLast_append (length_declarations hsome)]
  rfl

theorem flatMap_declaration_eq_nil_iff {types : List NamedType} :
    (types.map NamedType.undescribed).flatMap declaration = [] ↔
      types.flatMap declaration = [] := by
  rw [List.flatMap_map, List.flatMap_eq_nil_iff, List.flatMap_eq_nil_iff]
  refine forall₂_congr fun type _ ↦ ?_
  obtain ⟨name, description, body⟩ := type
  cases body with
  | enum values => exact iff_of_false (List.cons_ne_nil _ _) (List.cons_ne_nil _ _)
  | _ => exact Iff.rfl

/-- A declaration leaves the same tokens with and without comments, and so it does without the
blank lines at its end. -/
theorem linesAlike_declaration {type : NamedType}
    (hquotes : ∀ line ∈ declaration type.undescribed, ¬ HasLongQuote line) :
    LinesAlike (declaration type) (declaration type.undescribed) ∧
      LinesAlike (trimmedLines [type]) (trimmedLines [type.undescribed]) := by
  obtain ⟨name, description, body⟩ := type
  cases body with
  | enum values =>
    have hfront := linesAlike_front fun line hline ↦ hquotes line (List.mem_append_left _ hline)
    have htrimmed (description : String) (values : List EnumValue) :
        trimmedLines [⟨name, description, .enum values⟩] =
          front name.toList values ++ ["\x7d".toList] := by
      simp [trimmedLines, declaration, all_eq]
    refine ⟨hfront.append (.of_endsItself (by decide)), ?_⟩
    rw [NamedType.undescribed, TypeBody.undescribed, htrimmed, htrimmed]
    exact hfront.append (.of_endsItself (by decide))
  | _ => exact ⟨.nil, .nil⟩

theorem linesAlike_trimmedLines {types : List NamedType}
    (hquotes : ∀ type ∈ types, ∀ line ∈ declaration type.undescribed, ¬ HasLongQuote line) :
    LinesAlike (trimmedLines types) (trimmedLines (types.map NamedType.undescribed)) := by
  induction types with
  | nil => exact .nil
  | cons type types ih =>
    rw [List.forall_mem_cons] at hquotes
    by_cases hnone : types.flatMap declaration = []
    · have hlast := (linesAlike_declaration hquotes.1).2
      unfold trimmedLines at hlast ⊢
      rw [List.map_cons, List.flatMap_cons, List.flatMap_cons, hnone,
        flatMap_declaration_eq_nil_iff.mpr hnone]
      exact hlast
    · rw [List.map_cons, trimmedLines_cons hnone,
        trimmedLines_cons (mt flatMap_declaration_eq_nil_iff.mp hnone)]
      exact (linesAlike_declaration hquotes.1).1.append (ih hquotes.2)

/-! ### Checked modules -/

/-- The declarations of some types are empty, or they end in two blank lines. -/
theorem flatMap_declaration_eq (types : List NamedType) :
    types.flatMap declaration = [] ∧ trimmedLines types = [] ∨
      types.flatMap declaration = trimmedLines types ++ [[], []] ∧
        ∃ front, trimmedLines types = front ++ ["\x7d".toList] := by
  rcases flatMap_declaration_cases types with hnone | ⟨front, heq⟩
  · exact .inl ⟨hnone, by rw [trimmedLines, hnone]; rfl⟩
  · have htrimmed : trimmedLines types = front ++ ["\x7d".toList] := by
      simp [trimmedLines, heq]
    refine .inr ⟨?_, front, htrimmed⟩
    rw [htrimmed, heq, List.append_assoc]
    rfl

theorem isAllBlank_ended_declarations {types : List NamedType} :
    isAllBlank (ended (types.flatMap declaration)) = true ↔ types.flatMap declaration = [] := by
  refine ⟨fun hblank ↦ ?_, fun hnone ↦ by rw [hnone]; rfl⟩
  rcases flatMap_declaration_cases types with hnone | ⟨front, heq⟩
  · exact hnone
  · have hmem : '\x7d' ∈ ended (types.flatMap declaration) := by
      rw [heq, ended_append]
      exact List.mem_append_right _ (by decide)
    exact absurd ((isAllBlank_iff _).mp hblank _ hmem) (by decide)

/-- The text of a module of some types. -/
def moduleOf (types : List NamedType) : List Char :=
  prelude ++ ended (trimmedLines types)

theorem moduleAround_trimmedLines {types : List NamedType}
    (hsome : types.flatMap declaration ≠ []) :
    ({} : Templates).moduleAround (ended (types.flatMap declaration)) = .ok (moduleOf types) := by
  obtain ⟨hnone, -⟩ | ⟨hlines, front, htrimmed⟩ := flatMap_declaration_eq types
  · exact absurd hnone hsome
  · have htrim : trimRight (ended (types.flatMap declaration)) = ended front ++ ['\x7d'] := by
      rw [hlines, htrimmed, List.append_assoc, ended_append]
      exact trimRight_append (by decide) (ended front) (by decide)
    have hbrace : ended ["\x7d".toList] = ['\x7d'] ++ ['\n'] := rfl
    rw [moduleAround_eq, htrim, moduleOf, htrimmed, ended_append, hbrace, List.append_assoc]

/-- Comments do not decide whether a text is a module. -/
theorem isModule_moduleOf_undescribed {types : List NamedType}
    (hquotes : ∀ type ∈ types, ∀ line ∈ declaration type.undescribed, ¬ HasLongQuote line) :
    isModule (moduleOf (types.map NamedType.undescribed)) = isModule (moduleOf types) := by
  have hsame := linesAlike_trimmedLines hquotes [] [] (.refl []) (.line []) trivial
  rw [List.append_nil, List.append_nil] at hsame
  rw [moduleOf, moduleOf, isModule_prelude_append, isModule_prelude_append, hsame]

theorem null_mem_moduleOf {types : List NamedType} :
    '\x00' ∈ moduleOf types ↔ '\x00' ∈ ended (trimmedLines types) := by
  rw [moduleOf, List.mem_append, or_iff_right fun hmem ↦ (ne_of_mem_prelude hmem).2 rfl]

/-- A type is an enum with a value whose description has a NUL in its comment. -/
def HasNullComment (type : NamedType) : Prop :=
  ∃ values, type.body = .enum values ∧
    ∃ value ∈ values, '\x00' ∈ Comment.ofDescription value.description.toList

theorem mem_ended_iff {c : Char} (hc : c ≠ '\n') {lines : List (List Char)} :
    c ∈ ended lines ↔ ∃ line ∈ lines, c ∈ line := by
  simp [ended, hc]

theorem null_mem_declaration_iff (type : NamedType) :
    (∃ line ∈ declaration type, '\x00' ∈ line) ↔
      (∃ line ∈ declaration type.undescribed, '\x00' ∈ line) ∨ HasNullComment type := by
  obtain ⟨name, description, body⟩ := type
  cases body with
  | enum values =>
    have hcomment (value : EnumValue) :
        (∃ line ∈ comments value.description.toList, '\x00' ∈ line) ↔
          '\x00' ∈ Comment.ofDescription value.description.toList := by
      unfold comments
      by_cases hempty : Comment.ofDescription value.description.toList = [] <;> simp [hempty]
    have hlines (line : List Char) : line ∈ declaration ⟨name, description, .enum values⟩ ↔
        line ∈ declaration (NamedType.undescribed ⟨name, description, .enum values⟩) ∨
          ∃ value ∈ values, line ∈ comments value.description.toList :=
      mem_all_iff
    have hnull : HasNullComment ⟨name, description, .enum values⟩ ↔
        ∃ value ∈ values, ∃ line ∈ comments value.description.toList, '\x00' ∈ line := by
      simp [HasNullComment, hcomment]
    rw [hnull]
    grind
  | _ => simp [HasNullComment, declaration, NamedType.undescribed, TypeBody.undescribed]

theorem null_mem_moduleOf_iff {types : List NamedType} :
    '\x00' ∈ moduleOf types ↔
      '\x00' ∈ moduleOf (types.map NamedType.undescribed) ∨
        ∃ type ∈ types, HasNullComment type := by
  have hmem (types : List NamedType) : '\x00' ∈ moduleOf types ↔
      ∃ type ∈ types, ∃ line ∈ declaration type, '\x00' ∈ line := by
    have htrimmed : '\x00' ∈ ended (trimmedLines types) ↔
        '\x00' ∈ ended (types.flatMap declaration) := by
      rcases flatMap_declaration_eq types with ⟨hnone, htrimmed⟩ | ⟨hlines, -⟩
      · rw [hnone, htrimmed]
      · rw [hlines, ended_append, List.mem_append]
        exact (or_iff_left (by decide)).symm
    rw [null_mem_moduleOf, htrimmed, mem_ended_iff (by decide)]
    simp only [List.mem_flatMap]
    grind
  rw [hmem, hmem]
  constructor
  · rintro ⟨type, htype, hline⟩
    rcases (null_mem_declaration_iff type).mp hline with hline | hnull
    · exact .inl ⟨_, List.mem_map_of_mem htype, hline⟩
    · exact .inr ⟨type, htype, hnull⟩
  · rintro (⟨_, hmem, hline⟩ | ⟨type, htype, hnull⟩)
    · obtain ⟨type, htype, rfl⟩ := List.mem_map.mp hmem
      exact ⟨type, htype, (null_mem_declaration_iff type).mpr (.inl hline)⟩
    · exact ⟨type, htype, (null_mem_declaration_iff type).mpr (.inr hnull)⟩

/-! ### Names of the schema language -/

/-- A line with too few quotes for three in a row. -/
def HasFewQuotes (line : List Char) : Prop :=
  line.count '\'' ≤ 2 ∧ line.count '"' = 0

instance (line : List Char) : Decidable (HasFewQuotes line) :=
  inferInstanceAs (Decidable (_ ∧ _))

theorem HasFewQuotes.not_hasLongQuote {line : List Char} (hfew : HasFewQuotes line) :
    ¬ HasLongQuote line := by
  obtain ⟨hsingle, hdouble⟩ := hfew
  rintro (hwithin | hwithin)
  · have hcount : 3 ≤ line.count '\'' := hwithin.sublist.count_le '\''
    omega
  · have hcount : 3 ≤ line.count '"' := hwithin.sublist.count_le '"'
    omega

/-- A part of a line without quotes. -/
def IsQuoteFree (part : List Char) : Prop :=
  part.count '\'' = 0 ∧ part.count '"' = 0

theorem ne_of_isNameChar {c d : Char} (hc : Sdl.isNameChar c = true)
    (hd : Sdl.isNameChar d = false) : c ≠ d := by
  rintro rfl
  rw [hc] at hd
  cases hd

theorem isQuoteFree_of_isNameChar {text : List Char}
    (htext : ∀ c ∈ text, Sdl.isNameChar c = true) : IsQuoteFree text :=
  ⟨List.count_eq_zero.mpr fun hmem ↦ ne_of_isNameChar (htext _ hmem) (by decide) rfl,
    List.count_eq_zero.mpr fun hmem ↦ ne_of_isNameChar (htext _ hmem) (by decide) rfl⟩

theorem isQuoteFree_toDigits (index : Nat) : IsQuoteFree (Nat.toDigits 10 index) := by
  have hdigit {c : Char} (hmem : c ∈ Nat.toDigits 10 index) : c.isDigit = true :=
    Nat.isDigit_of_mem_toDigits (by decide) (by decide) hmem
  exact ⟨List.count_eq_zero.mpr fun hmem ↦ absurd (hdigit hmem) (by decide),
    List.count_eq_zero.mpr fun hmem ↦ absurd (hdigit hmem) (by decide)⟩

theorem quoted_eq_of_isNameChar {name : List Char} (hname : ∀ c ∈ name, Sdl.isNameChar c = true) :
    quoted name = '\'' :: (name ++ ['\'']) := by
  have hchar : ∀ c ∈ name, quoteChar '\'' c = [c] := by
    intro c hc
    have hne {d : Char} := ne_of_isNameChar (hname c hc) (d := d)
    have hprintable : isPrintable c = true := by
      have hcode := hname c hc
      rw [Naming.isNameChar_iff, Naming.isNameStart_iff] at hcode
      simp only [isPrintable]
      rw [if_pos (by omega), Bool.and_eq_true, decide_eq_true_eq, decide_eq_true_eq]
      omega
    simp [quoteChar, hne (d := '\'') (by decide), hne (d := '\\') (by decide),
      hne (d := '\t') (by decide), hne (d := '\n') (by decide), hne (d := '\r') (by decide),
      hprintable]
  have hquote : quoteFor name = '\'' := by
    have hnone : name.contains '\'' = false := by
      rw [List.contains_eq_mem, decide_eq_false_iff_not]
      exact fun hmem ↦ ne_of_isNameChar (hname _ hmem) (by decide) rfl
    rw [quoteFor, hnone]
    rfl
  rw [quoted, hquote, List.flatMap_congr hchar]
  simp

theorem count_quoted_of_isNameChar {name : List Char}
    (hname : ∀ c ∈ name, Sdl.isNameChar c = true) :
    (quoted name).count '\'' = 2 ∧ (quoted name).count '"' = 0 := by
  obtain ⟨hsingle, hdouble⟩ := isQuoteFree_of_isNameChar hname
  rw [quoted_eq_of_isNameChar hname]
  simp [hsingle, hdouble]

theorem isNameChar_of_mem_enumMembers {values : List EnumValue}
    (hvalues : ∀ value ∈ values, Naming.IsSchemaName value.name.toList) {member : List Char}
    (hmember : member ∈ enumMembers values) : ∀ c ∈ member, Sdl.isNameChar c = true := by
  obtain ⟨wire, hwire, count, rfl⟩ := Naming.mem_memberNames hmember
  obtain ⟨value, hvalue, rfl⟩ := List.mem_map.mp hwire
  exact fun c hc ↦ Naming.isNameChar_of_mem_underscored_memberName (hvalues value hvalue) hc

section Lines

variable {name : List Char}

theorem hasFewQuotes_header (hname : IsQuoteFree name) : HasFewQuotes (header name) := by
  unfold HasFewQuotes header
  simp only [List.count_flatten, List.map_cons, List.map_nil, hname.1, hname.2]
  decide

theorem hasFewQuotes_member (hname : IsQuoteFree name) (index : Nat) :
    HasFewQuotes (member name index) := by
  obtain ⟨hsingle, hdouble⟩ := isQuoteFree_toDigits index
  unfold HasFewQuotes member
  simp only [List.count_flatten, List.map_cons, List.map_nil, hname.1, hname.2, hsingle, hdouble]
  decide

theorem hasFewQuotes_tableHeader (htable : IsQuoteFree (Naming.upperSnake name)) :
    HasFewQuotes (tableHeader name) := by
  unfold HasFewQuotes tableHeader
  simp only [List.count_flatten, List.map_cons, List.map_nil, htable.1, htable.2]
  decide

theorem hasFewQuotes_placeholderEntry (hname : IsQuoteFree name) :
    HasFewQuotes (placeholderEntry name) := by
  unfold HasFewQuotes placeholderEntry
  simp only [List.count_flatten, List.map_cons, List.map_nil, hname.1, hname.2]
  decide

/-- An entry of the table holds the two quotes of its wire value. -/
theorem hasFewQuotes_entry {member wire : List Char} (hname : IsQuoteFree name)
    (hmember : IsQuoteFree member) (hwire : ∀ c ∈ wire, Sdl.isNameChar c = true) :
    HasFewQuotes (entry name member (quoted wire)) := by
  obtain ⟨hsingle, hdouble⟩ := count_quoted_of_isNameChar hwire
  unfold HasFewQuotes entry
  simp only [List.count_flatten, List.map_cons, List.map_nil, hname.1, hname.2, hmember.1,
    hmember.2, hsingle, hdouble]
  decide

end Lines

/-- Without comments no line of an enum holds three quotes. -/
theorem hasFewQuotes_all_undescribed {name : List Char} {values : List EnumValue}
    (hname : Naming.IsSchemaName name)
    (hvalues : ∀ value ∈ values, Naming.IsSchemaName value.name.toList) :
    ∀ line ∈ all name (values.map EnumValue.undescribed), HasFewQuotes line := by
  have hclass := isQuoteFree_of_isNameChar hname.2
  have htable := isQuoteFree_of_isNameChar hname.upperSnake.2
  have hmember {current : Member} (hcurrent : current ∈ members values) :
      IsQuoteFree current.name := by
    have hletters := isNameChar_of_mem_enumMembers hvalues (name_mem_enumMembers hcurrent)
    exact isQuoteFree_of_isNameChar hletters
  refine forall_mem_all_undescribed (hasFewQuotes_header hclass) (fun current hcurrent index ↦ ?_)
    (by decide) (by decide) (hasFewQuotes_tableHeader htable)
    (hasFewQuotes_placeholderEntry hclass) (fun current hcurrent ↦ ?_) (by decide)
  · exact hasFewQuotes_member (hmember hcurrent) index
  · exact hasFewQuotes_entry hclass (hmember hcurrent) (hvalues _ (value_mem hcurrent)).2

/-- With names of the schema language no line of a declaration opens a long string but a comment. -/
theorem not_hasLongQuote_of_isSchemaName {type : NamedType}
    (hname : Naming.IsSchemaName type.name.toList)
    (hvalues : ∀ values, type.body = .enum values →
      ∀ value ∈ values, Naming.IsSchemaName value.name.toList)
    {line : List Char} (hline : line ∈ declaration type.undescribed) : ¬ HasLongQuote line := by
  obtain ⟨name, description, body⟩ := type
  cases body with
  | enum values =>
    exact (hasFewQuotes_all_undescribed hname (hvalues values rfl) line hline).not_hasLongQuote
  | _ => exact absurd hline List.not_mem_nil

/-! ### The outcome -/

/-- What comes of generation for types that can be sorted. -/
theorem generate_eq {types sorted : List NamedType} (path : String)
    (hsorted : sortTypes types = .ok sorted) :
    ({} : Templates).generate path types =
      if sorted.flatMap declaration = [] then .ok []
      else if '\x00' ∈ moduleOf sorted then .error .nullCharacter
      else if isModule (moduleOf sorted) = true then .ok (moduleOf sorted)
      else .error (.notModule path) := by
  rw [generate_of_sortTypes hsorted]
  by_cases hnone : sorted.flatMap declaration = []
  · rw [if_pos hnone, Templates.render, if_pos (isAllBlank_ended_declarations.mpr hnone)]
  · have hsome := Bool.eq_false_iff.mpr (mt isAllBlank_ended_declarations.mp hnone)
    rw [if_neg hnone, render_of_moduleAround hsome (moduleAround_trimmedLines hnone)]

/-- The outcome for types that can be sorted: a NUL in the comment of a value is an error, and
otherwise descriptions change no more than the text. -/
theorem generate_undescribed_of_sortTypes {types sorted : List NamedType} (path : String)
    (hsorted : sortTypes types = .ok sorted)
    (hquotes : ∀ type ∈ types, ∀ line ∈ declaration type.undescribed, ¬ HasLongQuote line) :
    ((∃ type ∈ sorted, HasNullComment type) →
      ({} : Templates).generate path types = .error .nullCharacter) ∧
    ((¬ ∃ type ∈ sorted, HasNullComment type) →
      (({} : Templates).generate path types).map (fun _ ↦ ()) =
        (({} : Templates).generate path (types.map NamedType.undescribed)).map fun _ ↦ ()) := by
  have hother : sortTypes (types.map NamedType.undescribed) =
      .ok (sorted.map NamedType.undescribed) := by
    rw [keepsGraph_undescribed.sortTypes_map, hsorted]
    rfl
  have hmodule := isModule_moduleOf_undescribed fun type htype ↦
    hquotes type (mem_of_mem_sorted hsorted htype).1
  have hnull := @null_mem_moduleOf_iff sorted
  refine ⟨fun hcomment ↦ ?_, fun hcomment ↦ ?_⟩
  · have hsome : sorted.flatMap declaration ≠ [] := by
      obtain ⟨type, htype, values, hbody, -⟩ := hcomment
      intro hnone
      have hlines := List.flatMap_eq_nil_iff.mp hnone type htype
      rw [declaration, hbody] at hlines
      exact absurd hlines (List.cons_ne_nil _ _)
    rw [generate_eq path hsorted, if_neg hsome, if_pos (hnull.mpr (.inr hcomment))]
  · rw [or_iff_left hcomment] at hnull
    rw [generate_eq path hsorted, generate_eq path hother, hmodule]
    simp only [flatMap_declaration_eq_nil_iff, hnull]
    split_ifs <;> simp only [Except.map]

/-- With names of the schema language no string of three quotes is open before a comment, so
descriptions change no more than the text, unless the comment of a value holds a NUL. -/
theorem generate_undescribed_of_isSchemaName {types sorted : List NamedType} (path : String)
    (hsorted : sortTypes types = .ok sorted)
    (hnames : ∀ type ∈ types, Naming.IsSchemaName type.name.toList)
    (hvalues : ∀ type ∈ types, ∀ values, type.body = .enum values →
      ∀ value ∈ values, Naming.IsSchemaName value.name.toList) :
    ((∃ type ∈ sorted, HasNullComment type) →
      ({} : Templates).generate path types = .error .nullCharacter) ∧
    ((¬ ∃ type ∈ sorted, HasNullComment type) →
      (({} : Templates).generate path types).map (fun _ ↦ ()) =
        (({} : Templates).generate path (types.map NamedType.undescribed)).map fun _ ↦ ()) :=
  generate_undescribed_of_sortTypes path hsorted fun type htype _ ↦
    not_hasLongQuote_of_isSchemaName (hnames type htype) (hvalues type htype)

/-- Apart from its text, the outcome of generation is the same with and without descriptions,
unless the comment of a value holds a NUL. -/
theorem generate_undescribed_outcome {types : List NamedType} (path : String)
    (hquotes : ∀ type ∈ types, ∀ line ∈ declaration type.undescribed, ¬ HasLongQuote line) :
    (∀ sorted, sortTypes types = .ok sorted → (∃ type ∈ sorted, HasNullComment type) →
      ({} : Templates).generate path types = .error .nullCharacter) ∧
    ((∀ sorted, sortTypes types = .ok sorted → ¬ ∃ type ∈ sorted, HasNullComment type) →
      (({} : Templates).generate path types).map (fun _ ↦ ()) =
        (({} : Templates).generate path (types.map NamedType.undescribed)).map fun _ ↦ ()) := by
  cases hsorted : sortTypes types with
  | error error =>
    have hother : sortTypes (types.map NamedType.undescribed) = .error error := by
      rw [keepsGraph_undescribed.sortTypes_map, hsorted]
      rfl
    refine ⟨fun sorted heq ↦ (nomatch heq), fun _ ↦ ?_⟩
    rw [Templates.generate, Templates.typesText, hsorted, Templates.generate, Templates.typesText,
      hother]
  | ok sorted =>
    obtain ⟨herror, hsame⟩ := generate_undescribed_of_sortTypes path hsorted hquotes
    refine ⟨fun other heq ↦ ?_, fun hcomment ↦ hsame (hcomment sorted rfl)⟩
    cases heq
    exact herror

/-- An enum with three quotes and a backslash in one description, and another description. -/
def remarkedSize (description : String) : NamedType :=
  { name := "Size"
    body := .enum [{ name := "S", description := "\"\"\" small \\" },
      { name := "M", description := description }] }

theorem sortTypes_remarkedSize (description : String) :
    sortTypes [remarkedSize description] = .ok [remarkedSize description] :=
  rfl

theorem generate_undescribed_outcome_remarkedSize :
    (∀ description, ∀ type ∈ [remarkedSize description],
      ∀ line ∈ declaration type.undescribed, ¬ HasLongQuote line) ∧
    Templates.generate {} "out.py" [remarkedSize "a\x00"] = .error .nullCharacter ∧
    (Templates.generate {} "out.py" [remarkedSize "'''"]).map (fun _ ↦ ()) =
      (Templates.generate {} "out.py" [(remarkedSize "'''").undescribed]).map fun _ ↦ () := by
  have hquotes : ∀ description, ∀ type ∈ [remarkedSize description],
      ∀ line ∈ declaration type.undescribed, ¬ HasLongQuote line := by
    intro description type htype
    rw [List.mem_singleton.mp htype]
    exact (by decide : ∀ line ∈ declaration (remarkedSize "").undescribed, ¬ HasLongQuote line)
  refine ⟨hquotes, ?_, ?_⟩
  · refine (generate_undescribed_outcome "out.py" (hquotes _)).1 _ (sortTypes_remarkedSize _) ?_
    exact ⟨_, List.mem_singleton_self _, _, rfl, _, List.mem_cons_of_mem _ List.mem_cons_self,
      by decide⟩
  · refine (generate_undescribed_outcome "out.py" (hquotes _)).2 fun sorted hsorted ↦ ?_
    rw [← Except.ok.inj ((sortTypes_remarkedSize _).symm.trans hsorted)]
    rintro ⟨type, htype, values, hbody, hnull⟩
    obtain rfl := List.mem_singleton.mp htype
    cases hbody
    exact absurd hnull (by decide)

/-- An enum with a value in whose description there is a NUL. -/
def nullSize : NamedType :=
  { name := "Size", body := .enum [{ name := "S", description := "\x00" }] }

/-- An enum with a name in which three quotes open a string, and with three quotes in a description,
which close it. -/
def openSize : NamedType :=
  { name := "A:\"\"\",\nX", body := .enum [{ name := "M", description := "\"\"\"" }] }

theorem sortTypes_singleton_size :
    ∀ type ∈ [nullSize, nullSize.undescribed, openSize, openSize.undescribed],
      sortTypes [type] = .ok [type] ∧ [type].flatMap declaration ≠ [] := by
  decide

/-- Descriptions make generation fail: one with a NUL whatever the names are, and one with three
quotes when a name opens a string with three. -/
theorem generate_described_fails :
    (Templates.generate {} "out.py" [nullSize] = .error .nullCharacter ∧
      (Templates.generate {} "out.py" [nullSize.undescribed]).toOption.isSome = true) ∧
    Templates.generate {} "out.py" [openSize] = .error (.notModule "out.py") ∧
      (Templates.generate {} "out.py" [openSize.undescribed]).toOption.isSome = true := by
  have hsorted {type : NamedType}
      (htype : type ∈ [nullSize, nullSize.undescribed, openSize, openSize.undescribed]) :
      ({} : Templates).generate "out.py" [type] =
        if '\x00' ∈ ended (trimmedLines [type]) then .error .nullCharacter
        else if isModule (prelude ++ ended (trimmedLines [type])) = true then
          .ok (moduleOf [type])
        else .error (.notModule "out.py") := by
    obtain ⟨hsorted, hsome⟩ := sortTypes_singleton_size type htype
    rw [generate_eq "out.py" hsorted, if_neg hsome]
    simp only [null_mem_moduleOf]
    rfl
  simp only [isModule_prelude_append] at hsorted
  refine ⟨⟨?_, ?_⟩, ?_, ?_⟩
  · rw [hsorted (by decide), if_pos (by decide)]
  · rw [hsorted (by decide), if_neg (by decide), if_pos (by decide +kernel)]
    rfl
  · rw [hsorted (by decide), if_neg (by decide), if_neg (by decide +kernel)]
  · rw [hsorted (by decide), if_neg (by decide), if_pos (by decide +kernel)]
    rfl

end ModuleLines

end SchemaBindings
