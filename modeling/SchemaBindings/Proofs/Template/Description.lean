import SchemaBindings.Proofs.Schema.Undescribed
import SchemaBindings.Proofs.Template.ModuleLines
/-!
# Descriptions in generated code

The only descriptions that generated code shows are those of the values of enums, each in at most
one comment line right in front of the line of the member (`describedLines`). The other lines read
names only, so two schemas that are equal without their descriptions give the same lines apart from
comments, or the same error (`typesText_of_undescribed_eq`). Nothing is asked of the names: a name
with line breaks of its own makes several lines, the same ones for both schemas.
-/

set_option autoImplicit false
set_option relaxedAutoImplicit false

namespace SchemaBindings.ModuleLines

open SchemaBindings.Text SchemaBindings.Template SchemaBindings.EnumLines

/-! ### Comment lines -/

/-- The comment line of a description, if a character of it is neither white space nor an
asterisk. -/
def commentLine? (description : List Char) : Option (List Char) :=
  if description.any fun c ↦ !isBlank c && c != '*' then
    some ("    # ".toList ++ Comment.ofDescription description ++ ['\n'])
  else none

/-- The comment of a description is one line, whatever breaks the description holds. -/
theorem splitLines_comments (description : List Char) :
    splitLines (ended (comments description)) = (commentLine? description).toList := by
  rw [splitLines_ended fun line hline c ↦ isBreak_of_mem_comments hline]
  unfold comments commentLine?
  have hpresent : (description.any fun c ↦ !isBlank c && c != '*') = true ↔
      Comment.ofDescription description ≠ [] := by
    rw [Comment.ofDescription_ne_nil_iff, List.any_eq_true]
    simp
  by_cases hvisible : (description.any fun c ↦ !isBlank c && c != '*') = true
  · have hsome := hpresent.mp hvisible
    rw [if_pos hvisible]
    simp [hsome]
  · have hnone := not_not.mp (mt hpresent.mpr hvisible)
    rw [if_neg hvisible]
    simp [hnone]

theorem isComment_of_commentLine?_eq_some {description line : List Char}
    (hline : commentLine? description = some line) : isComment line = true := by
  unfold commentLine? at hline
  split at hline
  · have hindent : isAllBlank "    ".toList = true := by decide
    rw [← Option.some.inj hline]
    exact isComment_append hindent (' ' :: (Comment.ofDescription description ++ ['\n']))
  · cases hline

/-! ### The lines of a type -/

/-- The lines that declare a type: those of the class word, for each value of an enum its comment
line, if any, and the lines of its member, and then the lines of the table. -/
def describedLines (type : NamedType) : List (List Char) :=
  match type.body with
  | .enum values =>
    splitLines (ended [header type.name.toList]) ++
      ((members values).zipIdx.flatMap fun (current, index) ↦
        (commentLine? current.value.description.toList).toList ++
          splitLines (ended [member current.name index])) ++
      splitLines (ended (["    Unknown = -1".toList, [], [], tableHeader type.name.toList,
        placeholderEntry type.name.toList] ++
        (members values).map (tableLine type.name.toList) ++ ["\x7d".toList, [], []]))
  | .scalar | .object _ _ | .interface _ _ | .union _ | .inputObject _ => []

theorem splitLines_declaration (type : NamedType) :
    splitLines (ended (declaration type)) = describedLines type := by
  obtain ⟨name, description, body⟩ := type
  cases body with
  | enum values =>
    simp only [declaration, describedLines, EnumLines.all, List.append_assoc]
    rw [splitLines_ended_append, splitLines_ended_append, splitLines_ended_flatMap]
    simp only [classLines, splitLines_ended_append, splitLines_comments]
  | scalar | object _ _ | interface _ _ | union _ | inputObject _ => rfl

theorem splitLines_declarations (types : List NamedType) :
    splitLines (ended (types.flatMap declaration)) = types.flatMap describedLines := by
  rw [splitLines_ended_flatMap]
  exact List.flatMap_congr fun type _ ↦ splitLines_declaration type

/-! ### Lines without comments -/

theorem members_undescribed (values : List EnumValue) :
    members (values.map EnumValue.undescribed) =
      (members values).map fun current ↦ ⟨current.value.undescribed, current.name⟩ := by
  have hnames : enumMembers (values.map EnumValue.undescribed) = enumMembers values := by
    unfold enumMembers
    rw [List.map_map]
    rfl
  unfold members
  rw [hnames, List.zip_map_left, List.map_map, List.map_map]
  rfl

/-- Without comments the lines of a type read no description. -/
theorem filter_describedLines_undescribed (type : NamedType) :
    (describedLines type.undescribed).filter (fun line ↦ !isComment line) =
      (describedLines type).filter fun line ↦ !isComment line := by
  obtain ⟨name, description, body⟩ := type
  cases body with
  | enum values =>
    have hcomment (description : List Char) :
        (commentLine? description).toList.filter (fun line ↦ !isComment line) = [] := by
      rw [List.filter_eq_nil_iff]
      intro line hline
      rw [isComment_of_commentLine?_eq_some (Option.mem_toList.mp hline)]
      exact Bool.false_ne_true
    have htable : ((members values).map fun current ↦
        (⟨current.value.undescribed, current.name⟩ : Member)).map (tableLine name.toList) =
          (members values).map (tableLine name.toList) := by
      rw [List.map_map]
      rfl
    simp only [describedLines, NamedType.undescribed, TypeBody.undescribed, members_undescribed,
      htable, List.zipIdx_map, List.flatMap_map, List.filter_append, List.filter_flatMap, hcomment]
    rfl
  | scalar | object _ _ | interface _ _ | union _ | inputObject _ => rfl

theorem filter_flatMap_describedLines {types others : List NamedType}
    (hsame : types.map NamedType.undescribed = others.map NamedType.undescribed) :
    (types.flatMap describedLines).filter (fun line ↦ !isComment line) =
      (others.flatMap describedLines).filter fun line ↦ !isComment line := by
  have hundescribed (types : List NamedType) :
      (types.flatMap describedLines).filter (fun line ↦ !isComment line) =
        (types.map NamedType.undescribed).flatMap fun type ↦
          (describedLines type).filter fun line ↦ !isComment line := by
    rw [List.filter_flatMap, List.flatMap_map]
    exact List.flatMap_congr fun type _ ↦ (filter_describedLines_undescribed type).symm
  rw [hundescribed, hundescribed, hsame]

/-! ### Schemas that differ in their descriptions -/

/-- Schemas that are equal without their descriptions have the same error, or their declarations
have the same lines apart from comments. Each value of an enum adds its comment line, if any, right
in front of the lines of its member. -/
theorem typesText_of_undescribed_eq {first second : Schema}
    (hsame : first.undescribed = second.undescribed) :
    (∃ error, ({} : Templates).typesText first.types = .error error ∧
        ({} : Templates).typesText second.types = .error error) ∨
      ∃ body other sorted,
        ({} : Templates).typesText first.types = .ok body ∧
        ({} : Templates).typesText second.types = .ok other ∧
        uncommented body = uncommented other ∧
        sortTypes first.types = .ok sorted ∧
        splitLines body = sorted.flatMap describedLines ∧
        ∀ description line, commentLine? description = some line → isComment line = true := by
  have htypes : first.types.map NamedType.undescribed = second.types.map NamedType.undescribed :=
    congrArg Schema.types hsame
  rcases keepsGraph_undescribed.sortTypes_eq_of_map_eq htypes with
    ⟨error, hfirst, hsecond⟩ | ⟨sorted, others, hfirst, hsecond, hsorted⟩
  · refine .inl ⟨.unordered error, ?_, ?_⟩
    · rw [Templates.typesText, hfirst]
      rfl
    · rw [Templates.typesText, hsecond]
      rfl
  · refine .inr ⟨_, _, sorted, typesText_eq_ok_iff.mpr ⟨sorted, hfirst, rfl⟩,
      typesText_eq_ok_iff.mpr ⟨others, hsecond, rfl⟩, ?_, hfirst, splitLines_declarations sorted,
      fun _ _ ↦ isComment_of_commentLine?_eq_some⟩
    unfold uncommented
    rw [splitLines_declarations, splitLines_declarations, filter_flatMap_describedLines hsorted]

/-- An enum whose first value has a description with a line separator, a number sign and an
asterisk, and an object with a description. -/
def remarkedSchema : Schema where
  types :=
    [{ name := "Size", description := "How large",
       body := .enum [{ name := "S", description := "small\u2028S = 1 # *" }, { name := "M" }] },
     { name := "Query"
       body := .object [{ name := "size", type := .plain .enum (some "Size"), description := "#" }]
         [] }]

/-- The same types with a remark on the other value only, which begins with a carriage return. -/
def otherwiseRemarkedSchema : Schema where
  types :=
    [{ name := "Size",
       body := .enum [{ name := "S", description := "**\n" },
         { name := "M", description := "\rUnknown" }] },
     { name := "Query", description := "The root",
       body := .object [{ name := "size", type := .plain .enum (some "Size") }] [] }]

theorem typesText_of_undescribed_eq_remarkedSchema :
    remarkedSchema.undescribed = otherwiseRemarkedSchema.undescribed ∧
      (∃ body other,
        ({} : Templates).typesText remarkedSchema.types = .ok body ∧
        ({} : Templates).typesText otherwiseRemarkedSchema.types = .ok other ∧
        uncommented body = uncommented other ∧
        splitLines body = remarkedSchema.types.flatMap describedLines) ∧
      commentLine? "small\u2028S = 1 # *".toList = some "    # small S = 1 #\n".toList ∧
      commentLine? "**\n".toList = none ∧
      commentLine? "\rUnknown".toList = some "    # Unknown\n".toList := by
  have hsame : remarkedSchema.undescribed = otherwiseRemarkedSchema.undescribed := by decide
  have hsorted : sortTypes remarkedSchema.types = .ok remarkedSchema.types := by decide
  have hsuccess := typesText_eq_ok_iff.mpr ⟨_, hsorted, rfl⟩
  refine ⟨hsame, ?_, by decide, by decide, by decide⟩
  rcases typesText_of_undescribed_eq hsame with
    ⟨error, herror, -⟩ | ⟨body, other, types, hbody, hother, huncommented, htypes, hlines, -⟩
  · rw [hsuccess] at herror
    cases herror
  · obtain rfl := Except.ok.inj (hsorted.symm.trans htypes)
    exact ⟨body, other, hbody, hother, huncommented, hlines⟩

end SchemaBindings.ModuleLines
