import SchemaBindings.Proofs.Template.EnumTokens
/-!
# Modules that are accepted

A module of types with names of the schema language, whose members are names of the generated
language, consists of the statements of its prelude and two for each enum (`tokens_trimmedLines`).
It is accepted unless an enum is named by a keyword, which nothing escapes in the line that opens
the class, or an enum has so many values that the number of a member has more digits than a number
may have (`isModule_moduleOf_iff`). So it is decided whether types that can be sorted are generated
(`generate_of_isSchemaName`).
-/

set_option autoImplicit false
set_option relaxedAutoImplicit false

namespace SchemaBindings.ModuleLines

open SchemaBindings.Text SchemaBindings.Template SchemaBindings.Source EnumLines

/-! ### The tokens of a module -/

/-- If a type is an enum, it has no more values than there are numbers with few enough digits. -/
def HasFewValues (type : NamedType) : Prop :=
  ∀ values, type.body = .enum values → values.length ≤ 10 ^ maxDigits

/-- If a type is an enum, its members are names of the generated language. -/
def HasMemberNames (type : NamedType) : Prop :=
  ∀ values, type.body = .enum values → ∀ member ∈ enumMembers values, isName member = true

/-- The tokens of the statements that declare a type. -/
def statements (type : NamedType) : List (List Token) :=
  match type.body with
  | .enum values => statementTokens type.name.toList (enumMembers values)
  | .scalar | .object _ _ | .interface _ _ | .union _ | .inputObject _ => []

/-- A type is an enum, or it is not declared at all. -/
theorem isEnum_or_undeclared (type : NamedType) :
    (∃ values, type.body = .enum values) ∨
      (∀ values, type.body ≠ .enum values) ∧ declaration type = [] ∧ statements type = [] := by
  obtain ⟨name, description, body⟩ := type
  cases body with
  | enum values => exact .inl ⟨values, rfl⟩
  | _ => exact .inr ⟨fun _ heq ↦ (nomatch heq), rfl, rfl⟩

section Enum

variable {type : NamedType} {values : List EnumValue} (hbody : type.body = .enum values)
include hbody

theorem hasFewValues_iff : HasFewValues type ↔ values.length ≤ 10 ^ maxDigits := by
  simp [HasFewValues, hbody]

theorem declaration_of_enum :
    declaration type = front type.name.toList values ++ ["\x7d".toList] ++ [[], []] := by
  simp [declaration, hbody, all_eq]

/-- An enum leaves the tokens of its statements, unless it has too many values. -/
theorem tokens_enum (hname : Naming.IsSchemaName type.name.toList) (hmembers : HasMemberNames type)
    (behind : List Char) :
    (Place.line []).tokens
        (ended (front type.name.toList values ++ ["\x7d".toList]) ++ behind) =
      if values.length ≤ 10 ^ maxDigits then
        ((Place.line []).tokens behind).map ((statements type).flatten ++ ·)
      else none := by
  have hstatements : statements type = statementTokens type.name.toList (enumMembers values) := by
    simp [statements, hbody]
  rw [hstatements, tokens_front hname (hmembers values hbody)]

/-- Behind the brace of an enum come blank lines, which leave no tokens, and the other types. -/
theorem ended_trimmedLines_cons (types : List NamedType) :
    ∃ behind, ended (trimmedLines (type :: types)) =
        ended (front type.name.toList values ++ ["\x7d".toList]) ++ behind ∧
      (Place.line []).tokens behind = (Place.line []).tokens (ended (trimmedLines types)) := by
  have hfresh : (Place.line []).IsFresh := trivial
  have hdeclaration := declaration_of_enum hbody
  by_cases hothers : types.flatMap declaration = []
  · refine ⟨[], ?_, ?_⟩
    · rw [trimmedLines, List.flatMap_cons, hothers, hdeclaration]
      simp
    · rw [trimmedLines, hothers]
      rfl
  · refine ⟨'\n' :: '\n' :: ended (trimmedLines types), ?_, ?_⟩
    · rw [trimmedLines_cons hothers, hdeclaration]
      simp
    · rw [tokens_lineFeed hfresh, tokens_lineFeed hfresh]

end Enum

/-- Types leave the tokens of their statements, unless one has too many values. -/
theorem tokens_trimmedLines {types : List NamedType}
    (hnames : ∀ type ∈ types, Naming.IsSchemaName type.name.toList)
    (hmembers : ∀ type ∈ types, HasMemberNames type) :
    ((∀ type ∈ types, HasFewValues type) → (Place.line []).tokens (ended (trimmedLines types)) =
        some (types.flatMap statements).flatten) ∧
      (¬ (∀ type ∈ types, HasFewValues type) →
        (Place.line []).tokens (ended (trimmedLines types)) = none) := by
  induction types with
  | nil => exact ⟨fun _ ↦ rfl, fun hmany ↦ absurd (List.forall_mem_nil _) hmany⟩
  | cons type types ih =>
    rw [List.forall_mem_cons] at hnames hmembers
    obtain ⟨hall, hsome⟩ := ih hnames.2 hmembers.2
    rw [List.forall_mem_cons, List.flatMap_cons, List.flatten_append]
    rcases isEnum_or_undeclared type with ⟨values, hbody⟩ | ⟨hbody, hnone, hstatements⟩
    · have hread := tokens_enum hbody hnames.1 hmembers.1
      obtain ⟨behind, htext, hbehind⟩ := ended_trimmedLines_cons hbody types
      rw [htext, hread, hbehind, hasFewValues_iff hbody]
      constructor
      · rintro ⟨hfew, hothers⟩
        rw [if_pos hfew, hall hothers, Option.map_some]
      · intro hmany
        split_ifs with hfew
        · rw [hsome fun hothers ↦ hmany ⟨hfew, hothers⟩, Option.map_none]
        · rfl
    · have hfew : HasFewValues type := fun values heq ↦ absurd heq (hbody values)
      have hlines : trimmedLines (type :: types) = trimmedLines types := by
        rw [trimmedLines, List.flatMap_cons, hnone, List.nil_append, trimmedLines]
      rw [hlines, hstatements, and_iff_right hfew]
      exact ⟨hall, hsome⟩

/-! ### Characters of a module -/

/-- Neither a carriage return, which ends a line, nor a NUL, which no text may hold. -/
def IsHarmless (text : List Char) : Prop :=
  '\r' ∉ text ∧ '\x00' ∉ text

instance (text : List Char) : Decidable (IsHarmless text) :=
  inferInstanceAs (Decidable (_ ∧ _))

theorem isHarmless_append_iff {front back : List Char} :
    IsHarmless (front ++ back) ↔ IsHarmless front ∧ IsHarmless back := by
  simp only [IsHarmless, List.mem_append]
  tauto

theorem isHarmless_of_isWordChar {text : List Char} (htext : ∀ c ∈ text, isWordChar c = true) :
    IsHarmless text :=
  ⟨fun hmem ↦ absurd (htext _ hmem) (by decide), fun hmem ↦ absurd (htext _ hmem) (by decide)⟩

theorem isHarmless_quoted (text : List Char) : IsHarmless (quoted text) :=
  ⟨fun hmem ↦ absurd (isPrintable_of_mem_quoted hmem) (by decide),
    fun hmem ↦ absurd (isPrintable_of_mem_quoted hmem) (by decide)⟩

/-- Apart from its comments a declaration holds neither a carriage return nor a NUL. -/
theorem isHarmless_of_mem_declaration {type : NamedType}
    (hname : Naming.IsSchemaName type.name.toList) (hmembers : HasMemberNames type) :
    ∀ line ∈ declaration type.undescribed, IsHarmless line := by
  obtain ⟨name, description, body⟩ := type
  cases body with
  | enum values =>
    have hword {word : List Char} (hword : isIdentifier word = true) : IsHarmless word :=
      isHarmless_of_isWordChar (isWordChar_of_isIdentifier hword).1
    have hmember {current : Member} (hcurrent : current ∈ members values) :
        IsHarmless current.name :=
      hword (isIdentifier_of_isName (hmembers values rfl _ (name_mem_enumMembers hcurrent)))
    have hself := hword hname.isIdentifier
    have hupper := hword hname.upperSnake.isIdentifier
    refine forall_mem_all_undescribed ?_ (fun current hcurrent index ↦ ?_) (by decide) (by decide)
      ?_ ?_ (fun current hcurrent ↦ ?_) (by decide)
    · unfold header
      simp only [List.flatten_cons, isHarmless_append_iff]
      exact ⟨by decide, hself, by decide, by decide⟩
    · have hdigits : IsHarmless (Nat.toDigits 10 index) :=
        isHarmless_of_isWordChar fun c hc ↦ by
          simp [isWordChar, Json.allDigits_digitChars index c hc]
      unfold member
      simp only [List.flatten_cons, isHarmless_append_iff]
      exact ⟨by decide, hmember hcurrent, by decide, hdigits, by decide⟩
    · unfold tableHeader
      simp only [List.flatten_cons, isHarmless_append_iff]
      exact ⟨hupper, by decide, by decide⟩
    · unfold placeholderEntry
      simp only [List.flatten_cons, isHarmless_append_iff]
      exact ⟨by decide, hself, by decide, by decide⟩
    · unfold tableLine entry
      simp only [List.flatten_cons, isHarmless_append_iff]
      exact ⟨by decide, hself, by decide, hmember hcurrent, by decide, isHarmless_quoted _,
        by decide, by decide⟩
  | _ => exact List.forall_mem_nil _

theorem exists_mem_declaration {types : List NamedType} {c : Char} (hc : c ≠ '\n')
    (hmem : c ∈ ended (trimmedLines types)) :
    ∃ type ∈ types, ∃ line ∈ declaration type, c ∈ line := by
  obtain ⟨line, hline, hc⟩ := (mem_ended_iff hc).mp hmem
  obtain ⟨type, htype, hline⟩ :=
    List.mem_flatMap.mp (List.dropLast_subset _ (List.dropLast_subset _ hline))
  exact ⟨type, htype, line, hline, hc⟩

/-- Comments hold no carriage return either, so that the lines of a module are lines as they
stand. -/
theorem return_notMem_trimmedLines {types : List NamedType}
    (hnames : ∀ type ∈ types, Naming.IsSchemaName type.name.toList)
    (hmembers : ∀ type ∈ types, HasMemberNames type) : '\r' ∉ ended (trimmedLines types) := by
  intro hmem
  obtain ⟨type, htype, line, hline, hreturn⟩ := exists_mem_declaration (by decide) hmem
  have hcode := isHarmless_of_mem_declaration (hnames type htype) (hmembers type htype)
  rcases isEnum_or_undeclared type with ⟨values, hbody⟩ | ⟨-, hnone, -⟩
  · obtain ⟨name, description, body⟩ := type
    obtain rfl : body = .enum values := hbody
    rcases mem_all_iff.mp hline with hline | ⟨value, -, hcomment⟩
    · exact (hcode line hline).1 hreturn
    · exact absurd (isBreak_of_mem_comments hcomment hreturn) (by decide)
  · rw [hnone] at hline
    exact List.not_mem_nil hline

theorem not_hasNullComment {type : NamedType}
    (hnull : ∀ values, type.body = .enum values →
      ∀ value ∈ values, '\x00' ∉ value.description.toList) : ¬ HasNullComment type := by
  rintro ⟨values, hbody, value, hvalue, hcomment⟩
  rcases Comment.mem_of_mem_ofDescription hcomment (by decide) with hmem | heq
  · exact hnull values hbody value hvalue hmem
  · cases heq

theorem null_notMem_moduleOf {types : List NamedType}
    (hnames : ∀ type ∈ types, Naming.IsSchemaName type.name.toList)
    (hmembers : ∀ type ∈ types, HasMemberNames type)
    (hcomments : ∀ type ∈ types, ¬ HasNullComment type) : '\x00' ∉ moduleOf types := by
  rw [null_mem_moduleOf_iff, not_or, null_mem_moduleOf]
  refine ⟨fun hmem ↦ ?_, fun ⟨type, htype, hcomment⟩ ↦ hcomments type htype hcomment⟩
  obtain ⟨_, hundescribed, line, hline, hnull⟩ := exists_mem_declaration (by decide) hmem
  obtain ⟨type, htype, rfl⟩ := List.mem_map.mp hundescribed
  exact (isHarmless_of_mem_declaration (hnames type htype) (hmembers type htype) line hline).2 hnull

/-! ### Acceptance -/

/-- If a type is an enum, its name is not a keyword. -/
def HasFreeName (type : NamedType) : Prop :=
  ∀ values, type.body = .enum values → isKeyword type.name.toList = false

/-- The statements that a module begins with. -/
def preludeStatements : List (List Token) :=
  [[.string false [], .newline], [.keyword "import", .name "enum".toList, .newline]]

theorem flatten_preludeStatements : preludeStatements.flatten = preludeTokens := rfl

theorem formsStatement_of_mem_preludeStatements :
    ∀ tokens ∈ preludeStatements, FormsStatement tokens := by
  rw [preludeStatements, List.forall_mem_cons, List.forall_mem_singleton]
  exact ⟨formsStatement_string, formsStatement_import _⟩

theorem formsStatement_of_mem_statements {type : NamedType}
    (hname : Naming.IsSchemaName type.name.toList) (hfree : HasFreeName type) :
    ∀ tokens ∈ statements type, FormsStatement tokens := by
  rcases isEnum_or_undeclared type with ⟨values, hbody⟩ | ⟨-, -, hnone⟩
  · have hisName : isName type.name.toList = true := by
      rw [isName, hname.isIdentifier, hfree values hbody]
      rfl
    rw [statements, hbody]
    exact formsStatement_of_mem_statementTokens hisName
  · rw [hnone]
    exact List.forall_mem_nil _

/-- An enum that is named by a keyword is refused behind whatever statements. -/
theorem areModule_append_of_not_hasFreeName {body : List (List Token)}
    (hbody : ∀ tokens ∈ body, FormsStatement tokens) {type : NamedType}
    (hfree : ¬ HasFreeName type) (rest : List Token) :
    areModule (body.flatten ++ (statements type).flatten ++ rest) = false := by
  obtain ⟨values, henum, hkeyword⟩ :
      ∃ values, type.body = .enum values ∧ isKeyword type.name.toList = true := by
    simpa [HasFreeName] using hfree
  obtain ⟨others, hothers⟩ :=
    flatten_statementTokens_of_isKeyword hkeyword (enumMembers values)
  rw [statements, henum]
  simp only [hothers, List.append_assoc, List.cons_append]
  exact areModule_append_keyword hbody _ _

/-- Behind statements that are taken, those of some types are accepted unless an enum is named by a
keyword. -/
theorem areModule_statements_iff {types : List NamedType}
    (hnames : ∀ type ∈ types, Naming.IsSchemaName type.name.toList) {body : List (List Token)}
    (hbody : ∀ tokens ∈ body, FormsStatement tokens) :
    areModule (body.flatten ++ (types.flatMap statements).flatten) = true ↔
      ∀ type ∈ types, HasFreeName type := by
  induction types generalizing body with
  | nil =>
    rw [List.flatMap_nil, List.flatten_nil, List.append_nil]
    exact iff_of_true (areModule_flatten hbody) (List.forall_mem_nil _)
  | cons type types ih =>
    rw [List.forall_mem_cons] at hnames
    rw [List.flatMap_cons, List.flatten_append, ← List.append_assoc, List.forall_mem_cons]
    by_cases hfree : HasFreeName type
    · have htaken : ∀ tokens ∈ body ++ statements type, FormsStatement tokens :=
        List.forall_mem_append.mpr ⟨hbody, formsStatement_of_mem_statements hnames.1 hfree⟩
      rw [← List.flatten_append, ih hnames.2 htaken, and_iff_right hfree]
    · rw [areModule_append_of_not_hasFreeName hbody hfree]
      exact iff_of_false Bool.false_ne_true fun hall ↦ hfree hall.1

theorem isModule_moduleOf_iff {types : List NamedType}
    (hnames : ∀ type ∈ types, Naming.IsSchemaName type.name.toList)
    (hmembers : ∀ type ∈ types, HasMemberNames type) :
    isModule (moduleOf types) = true ↔
      ∀ type ∈ types, HasFreeName type ∧ HasFewValues type := by
  obtain ⟨hfew, hmany⟩ := tokens_trimmedLines hnames hmembers
  rw [forall₂_and, moduleOf, isModule_prelude_append,
    unifyLineEnds_eq_self (return_notMem_trimmedLines hnames hmembers)]
  by_cases hvalues : ∀ type ∈ types, HasFewValues type
  · rw [hfew hvalues, and_iff_left hvalues]
    have haccepted := areModule_statements_iff hnames formsStatement_of_mem_preludeStatements
    rwa [flatten_preludeStatements] at haccepted
  · rw [hmany hvalues]
    exact iff_of_false Bool.false_ne_true fun hall ↦ hvalues hall.2

/-- With names of the schema language, members that are names of the generated language and no NUL
in a description, types that can be sorted are generated, unless an enum is named by a keyword or
has so many values that the number of one has too many digits; then the module is refused. -/
theorem generate_of_isSchemaName {types sorted : List NamedType} (path : String)
    (hnames : ∀ type ∈ types, Naming.IsSchemaName type.name.toList)
    (hsorted : sortTypes types = .ok sorted)
    (hmembers : ∀ type ∈ types, ∀ values, type.body = .enum values →
      ∀ member ∈ enumMembers values, isName member = true)
    (hnull : ∀ type ∈ types, ∀ values, type.body = .enum values →
      ∀ value ∈ values, '\x00' ∉ value.description.toList) :
    ((∀ type ∈ sorted, HasFreeName type ∧ HasFewValues type) →
        ({} : Templates).generate path types =
          .ok (if sorted.flatMap declaration = [] then [] else moduleOf sorted)) ∧
      ((∃ type ∈ sorted, ¬ (HasFreeName type ∧ HasFewValues type)) →
        ({} : Templates).generate path types = .error (.notModule path)) := by
  have hmem {type : NamedType} (htype : type ∈ sorted) : type ∈ types :=
    (mem_of_mem_sorted hsorted htype).1
  have hnotNull : '\x00' ∉ moduleOf sorted :=
    null_notMem_moduleOf (fun type htype ↦ hnames type (hmem htype))
      (fun type htype ↦ hmembers type (hmem htype))
      fun type htype ↦ not_hasNullComment (hnull type (hmem htype))
  have haccepted := isModule_moduleOf_iff (fun type htype ↦ hnames type (hmem htype))
    fun type htype ↦ hmembers type (hmem htype)
  rw [generate_eq path hsorted, if_neg hnotNull]
  constructor
  · intro hall
    rw [if_pos (haccepted.mpr hall)]
    split_ifs <;> rfl
  · rintro ⟨type, htype, hrefused⟩
    have hsome : sorted.flatMap declaration ≠ [] := by
      intro hnone
      have hlines := List.flatMap_eq_nil_iff.mp hnone type htype
      rcases isEnum_or_undeclared type with ⟨values, hbody⟩ | ⟨hbody, -, -⟩
      · rw [declaration_of_enum hbody] at hlines
        exact absurd hlines (by simp)
      · exact hrefused ⟨fun values heq ↦ absurd heq (hbody values),
          fun values heq ↦ absurd heq (hbody values)⟩
    rw [if_neg hsome, if_neg fun hmodule ↦ hrefused (haccepted.mp hmodule type htype)]

/-- An enum that is named by a keyword. -/
def reservedEnum : NamedType := { name := "class", body := .enum [{ name := "A" }] }

theorem sortTypes_reservedEnum :
    sortTypes [reservedEnum] = .ok [reservedEnum] ∧ [reservedEnum].flatMap declaration ≠ [] := by
  decide

theorem generate_of_isSchemaName_remarkedSize :
    (∀ type ∈ [remarkedSize "a", reservedEnum], Naming.IsSchemaName type.name.toList ∧
      (∀ values, type.body = .enum values →
        (∀ member ∈ enumMembers values, isName member = true) ∧
          ∀ value ∈ values, '\x00' ∉ value.description.toList) ∧ HasFewValues type) ∧
      ({} : Templates).generate "out.py" [remarkedSize "a"] = .ok (moduleOf [remarkedSize "a"]) ∧
      ({} : Templates).generate "out.py" [reservedEnum] = .error (.notModule "out.py") := by
  have hall : ∀ type ∈ [remarkedSize "a", reservedEnum], Naming.IsSchemaName type.name.toList ∧
      (∀ values, type.body = .enum values →
        (∀ member ∈ enumMembers values, isName member = true) ∧
          ∀ value ∈ values, '\x00' ∉ value.description.toList) ∧ HasFewValues type := by
    have htwo : 2 ≤ 10 ^ maxDigits :=
      Nat.le_trans (by decide) (Nat.le_self_pow (by decide : maxDigits ≠ 0) 10)
    rw [List.forall_mem_cons, List.forall_mem_singleton]
    refine ⟨⟨by decide, ?_, ?_⟩, by decide, ?_, ?_⟩
    · rintro values ⟨⟩
      decide
    · rintro values ⟨⟩
      exact htwo
    · rintro values ⟨⟩
      decide
    · rintro values ⟨⟩
      exact Nat.le_trans (by decide) htwo
  have houtcome {type : NamedType} (htype : type ∈ [remarkedSize "a", reservedEnum])
      (hsorted : sortTypes [type] = .ok [type]) :=
    generate_of_isSchemaName "out.py" (List.forall_mem_singleton.mpr (hall type htype).1) hsorted
      (List.forall_mem_singleton.mpr fun values hbody ↦ ((hall type htype).2.1 values hbody).1)
      (List.forall_mem_singleton.mpr fun values hbody ↦ ((hall type htype).2.1 values hbody).2)
  refine ⟨hall, ?_, ?_⟩
  · have hfree : HasFreeName (remarkedSize "a") := by
      rintro values ⟨⟩
      decide
    exact (houtcome List.mem_cons_self (sortTypes_remarkedSize "a")).1
      (List.forall_mem_singleton.mpr ⟨hfree, (hall _ List.mem_cons_self).2.2⟩)
  · refine (houtcome (List.mem_cons_of_mem _ List.mem_cons_self) sortTypes_reservedEnum.1).2
      ⟨reservedEnum, List.mem_cons_self, fun haccepted ↦ ?_⟩
    exact absurd (haccepted.1 _ rfl) (by decide)

/-- An enum may be named by a keyword, and then generation fails. -/
theorem generate_reservedEnum_fails :
    Naming.IsSchemaName reservedEnum.name.toList ∧ sortTypes [reservedEnum] = .ok [reservedEnum] ∧
      (∀ values, reservedEnum.body = .enum values →
        (∀ member ∈ enumMembers values, isName member = true) ∧
          ∀ value ∈ values, '\x00' ∉ value.description.toList) ∧
      ({} : Templates).generate "out.py" [reservedEnum] = .error (.notModule "out.py") := by
  obtain ⟨hsorted, hsome⟩ := sortTypes_reservedEnum
  refine ⟨by decide, hsorted, ?_, ?_⟩
  · rintro values ⟨⟩
    decide
  · have hnull : '\x00' ∉ moduleOf [reservedEnum] := by
      rw [null_mem_moduleOf]
      decide
    have hrefused : ¬ isModule (moduleOf [reservedEnum]) = true := by
      rw [moduleOf, isModule_prelude_append]
      decide +kernel
    rw [generate_eq "out.py" hsorted, if_neg hsome, if_neg hnull, if_neg hrefused]

end SchemaBindings.ModuleLines
