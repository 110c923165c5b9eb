import SchemaBindings.Proofs.Source.Recognition
import SchemaBindings.Proofs.Source.Spelling
import SchemaBindings.Proofs.Template.Outcome
/-!
# The tokens of an enum

The lines of an enum leave the tokens of two statements, the class and the table
(`tokens_front`), when the name of the enum is one of the schema language and those of the members
are names of the generated language. Each line is read from a place that the line before it leads
to, part by part; the comments leave no tokens. The first line of the class is the one that opens a
level of indentation, be it that of a member or, without members, that of the placeholder, so that
the lines of the class are read from any levels on which four spaces lead to that one
(`tokens_classLines`).
-/

set_option autoImplicit false
set_option relaxedAutoImplicit false

namespace SchemaBindings.EnumLines

open SchemaBindings.Text SchemaBindings.Template SchemaBindings.Source

/-! ### Tokens of the lines -/

/-- The tokens of the line that opens the class of an enum. -/
def headerTokens (name : List Char) : List Token :=
  [.keyword "class", wordToken name, .op "(", .name "enum".toList, .op ".",
    .name "IntEnum".toList, .op ")", .op ":", .newline]

/-- The tokens of the line that declares a member. -/
def memberTokens (name : List Char) : List Token :=
  [.name name, .op "=", .number false, .newline]

/-- The tokens of the line that declares the placeholder. -/
def placeholderTokens : List Token :=
  [.name "Unknown".toList, .op "=", .op "-", .number false, .newline]

/-- The indentation of the lines of a class. -/
def bodyLevels : List Indentation := [⟨4, 4⟩]

theorem tokens_header {name : List Char} (hname : isIdentifier name = true) (behind : List Char) :
    (Place.line []).tokens (header name ++ '\n' :: behind) =
      ((Place.line []).tokens behind).map (headerTokens name ++ ·) := by
  have hbase := IsPassage.tokens_of_through (by decide : IsPassage "(enum.IntEnum):\n".toList)
    (by decide : (Place.inside [] []).through 20 "(enum.IntEnum):\n".toList =
      some ([.op "(", .name "enum".toList, .op ".", .name "IntEnum".toList, .op ")", .op ":",
        .newline], .line [])) behind
  calc (Place.line []).tokens (header name ++ '\n' :: behind)
      = (Place.line []).tokens
          ("class".toList ++ ' ' :: (name ++ '(' :: ("enum.IntEnum):\n".toList ++ behind))) := by
        unfold header
        simp
    _ = ((Place.line []).tokens behind).map (headerTokens name ++ ·) := by
        rw [tokens_firstWord (by decide) (by decide) _ rfl, tokens_space,
          tokens_word hname (by decide)]
        change Option.map _ (Option.map _
          ((Place.inside [] []).tokens ("(enum.IntEnum):\n".toList ++ behind))) = _
        rw [hbase, Option.map_map, Option.map_map]
        rfl

section Body

variable {levels : List Indentation} {changes : List Token}
  (hlevels : adjust ⟨4, 4⟩ levels = some (changes, bodyLevels))
include hlevels

theorem tokens_member {name : List Char} (hname : isName name = true) (index : Nat)
    (behind : List Char) :
    (Place.line levels).tokens (member name index ++ '\n' :: behind) =
      if index < 10 ^ maxDigits then
        ((Place.line bodyLevels).tokens behind).map (changes ++ memberTokens name ++ ·)
      else none := by
  have hequals (rest : List Char) : lexeme? ('=' :: ' ' :: rest) = some (.op "=", ' ' :: rest) :=
    rfl
  have hend : (Place.inside bodyLevels []).tokens ('\n' :: behind) =
      ((Place.line bodyLevels).tokens behind).map ([.newline] ++ ·) := by
    rw [Place.tokens_eq]
    rfl
  calc (Place.line levels).tokens (member name index ++ '\n' :: behind)
      = (Place.line levels).tokens ("    ".toList ++ (name ++ ' ' :: '=' :: ' ' ::
          (Nat.toDigits 10 index ++ '\n' :: behind))) := by
        unfold member
        simp
    _ = _ := by
        rw [tokens_indentedWord (isIdentifier_of_isName hname) (by decide) _ hlevels, tokens_space,
          tokens_token (by decide) (hequals _) rfl, tokens_space, tokens_toDigits,
          wordToken_of_isName hname]
        split_ifs
        · rw [hend, Option.map_map, Option.map_map, Option.map_map]
          simp [Function.comp_def, memberTokens]
        · rfl

theorem tokens_placeholder (behind : List Char) :
    (Place.line levels).tokens ("    Unknown = -1\n".toList ++ behind) =
      ((Place.line bodyLevels).tokens behind).map (changes ++ placeholderTokens ++ ·) := by
  have hvalue := IsPassage.tokens_of_through (by decide : IsPassage " = -1\n".toList)
    (by decide : (Place.inside bodyLevels []).through 20 " = -1\n".toList =
      some ([.op "=", .op "-", .number false, .newline], .line bodyLevels)) behind
  have hname : isIdentifier "Unknown".toList = true := by decide
  calc (Place.line levels).tokens ("    Unknown = -1\n".toList ++ behind)
      = (Place.line levels).tokens
          ("    ".toList ++ ("Unknown".toList ++ ' ' :: ("= -1\n".toList ++ behind))) := rfl
    _ = _ := by
        rw [tokens_indentedWord hname (by decide) _ hlevels]
        change Option.map _ ((Place.inside bodyLevels []).tokens (" = -1\n".toList ++ behind)) = _
        rw [hvalue, Option.map_map]
        simp only [Function.comp_def, List.append_assoc]
        rfl

omit hlevels in
theorem tokens_comments {place : Source.Place} (hfresh : place.IsFresh)
    (description behind : List Char) :
    place.tokens (ended (comments description) ++ behind) = place.tokens behind := by
  unfold comments
  split_ifs
  · rfl
  · have hfeed : '\n' ∉ ' ' :: Comment.ofDescription description := by
      rw [List.mem_cons, not_or]
      exact ⟨by decide, fun hmem ↦ absurd (Comment.isBreak_of_mem_ofDescription hmem) (by decide)⟩
    have hcomment := tokens_comment hfresh hfeed behind
    have hline : ended ["    # ".toList ++ Comment.ofDescription description] ++ behind =
        "    #".toList ++ (' ' :: Comment.ofDescription description) ++ '\n' :: behind := by
      simp
    rw [hline, hcomment]

/-- The tokens of the members of a class and of the placeholder behind them. The members are counted
from `index` on; a number with too many digits is refused. -/
theorem tokens_classLines {members : List Member}
    (hmembers : ∀ current ∈ members, isName current.name = true) {index : Nat}
    (hindex : index ≤ 10 ^ maxDigits) (behind : List Char) :
    (Place.line levels).tokens
        (ended ((members.zipIdx index).flatMap fun (current, index) ↦ classLines current index) ++
          ("    Unknown = -1\n".toList ++ behind)) =
      if index + members.length ≤ 10 ^ maxDigits then
        ((Place.line bodyLevels).tokens behind).map
          (changes ++ members.flatMap (fun current ↦ memberTokens current.name) ++
            placeholderTokens ++ ·)
      else none := by
  induction members generalizing levels changes index with
  | nil =>
    rw [List.zipIdx_nil, List.flatMap_nil, ended_nil, List.nil_append, tokens_placeholder hlevels,
      if_pos (by simpa using hindex), List.flatMap_nil, List.append_nil]
  | cons current members ih =>
    rw [List.forall_mem_cons] at hmembers
    have hothers := @ih bodyLevels [] rfl hmembers.2 (index + 1)
    have hfresh : (Place.line levels).IsFresh := trivial
    rw [List.length_cons, ← Nat.add_assoc, Nat.add_right_comm]
    calc _ = (Place.line levels).tokens (ended (comments current.value.description.toList) ++
          (member current.name index ++ '\n' :: (ended ((members.zipIdx (index + 1)).flatMap
            fun (current, index) ↦ classLines current index) ++
              ("    Unknown = -1\n".toList ++ behind)))) := by
          rw [List.zipIdx_cons, List.flatMap_cons, ended_append]
          simp [classLines]
      _ = _ := by
          rw [tokens_comments hfresh, tokens_member hlevels hmembers.1]
          split_ifs with hless hbound hbound
          · rw [hothers (by omega), if_pos hbound, Option.map_map]
            simp [Function.comp_def]
          · rw [hothers (by omega), if_neg hbound]
            rfl
          · omega
          · rfl

end Body

/-! ### Tables -/

/-- The tokens of the line that opens the table of an enum, and of the line of the placeholder. -/
def tableHeaderTokens (name : List Char) : List Token :=
  [.name (Naming.tableName name), .op "=", .op "\x7b", wordToken name, .op ".",
    .name "Unknown".toList, .op ":", .keyword "None", .op ","]

/-- The tokens of the line of a member in the table. -/
def lineTokens (name member : List Char) : List Token :=
  [wordToken name, .op ".", .name member, .op ":", .string false [], .op ","]

/-- The tokens of the table of an enum. -/
def tableTokens (name : List Char) (members : List (List Char)) : List Token :=
  tableHeaderTokens name ++ members.flatMap (lineTokens name) ++ [.op "\x7d", .newline]

/-- In a table the spaces in front of a line leave no token. -/
theorem tokens_tableIndent (text : List Char) :
    (Place.inside [] ["\x7d"]).tokens ("    ".toList ++ text) =
      (Place.inside [] ["\x7d"]).tokens text := by
  change (Place.inside [] ["\x7d"]).tokens (' ' :: ' ' :: ' ' :: ' ' :: text) = _
  rw [tokens_space, tokens_space, tokens_space, tokens_space]

section Table

variable {name : List Char} (hname : Naming.IsSchemaName name)
include hname

omit hname in
theorem length_le_of_isKeyword {word : List Char} (hword : isKeyword word = true) :
    word.length ≤ 8 := by
  have hall : ∀ keyword ∈ keywords, keyword.toList.length ≤ 8 := by decide
  obtain ⟨keyword, hkeyword, heq⟩ := List.any_eq_true.mp hword
  rw [← eq_of_beq heq]
  exact hall keyword hkeyword

theorem isName_tableName : isName (Naming.tableName name) = true := by
  have hlong : isKeyword (Naming.tableName name) = false := by
    rw [Bool.eq_false_iff]
    intro hkeyword
    have hshort := length_le_of_isKeyword hkeyword
    have hlength := hname.length_add_le_tableName
    omega
  rw [isName, hname.tableName.isIdentifier, hlong]
  rfl

theorem tokens_tableHeader (behind : List Char) :
    (Place.line bodyLevels).tokens
        (ended [[], [], tableHeader name, placeholderEntry name] ++ behind) =
      ((Place.inside [] ["\x7d"]).tokens behind).map
        ([.dedent] ++ tableHeaderTokens name ++ ·) := by
  have htable := isName_tableName hname
  have hidentifier := hname.tableName.isIdentifier
  have hopen := IsPassage.tokens_of_through (by decide : IsPassage " = \x7b\n".toList)
    (by decide : (Place.inside [] []).through 20 " = \x7b\n".toList =
      some ([.op "=", .op "\x7b"], .inside [] ["\x7d"]))
  have hfresh : (Place.line bodyLevels).IsFresh := trivial
  have hnone := IsPassage.tokens_of_through (by decide : IsPassage ".Unknown: None,\n".toList)
    (by decide : (Place.inside [] ["\x7d"]).through 20 ".Unknown: None,\n".toList =
      some ([.op ".", .name "Unknown".toList, .op ":", .keyword "None", .op ","],
        .inside [] ["\x7d"])) behind
  calc (Place.line bodyLevels).tokens
          (ended [[], [], tableHeader name, placeholderEntry name] ++ behind)
      = (Place.line bodyLevels).tokens ('\n' :: '\n' :: (Naming.tableName name ++ ' ' ::
          ("= \x7b\n".toList ++ ("    ".toList ++ (name ++ '.' ::
            ("Unknown: None,\n".toList ++ behind)))))) := by
        unfold tableHeader placeholderEntry Naming.tableName Naming.tableEnding
        simp
    _ = _ := by
        rw [tokens_lineFeed hfresh, tokens_lineFeed hfresh,
          tokens_firstWord hidentifier (by decide) _ rfl, wordToken_of_isName htable]
        change Option.map _ ((Place.inside [] []).tokens (" = \x7b\n".toList ++ _)) = _
        rw [hopen, tokens_tableIndent, tokens_word hname.isIdentifier (by decide)]
        change Option.map _ (Option.map _ (Option.map _
          ((Place.inside [] ["\x7d"]).tokens (".Unknown: None,\n".toList ++ behind)))) = _
        rw [hnone, Option.map_map, Option.map_map, Option.map_map]
        rfl

theorem tokens_tableLine {current : Member} (hcurrent : isName current.name = true)
    (behind : List Char) :
    (Place.inside [] ["\x7d"]).tokens (tableLine name current ++ '\n' :: behind) =
      ((Place.inside [] ["\x7d"]).tokens behind).map (lineTokens name current.name ++ ·) := by
  have hmember := isIdentifier_of_isName hcurrent
  have hend := IsPassage.tokens_of_through (by decide : IsPassage ",\n".toList)
    (by decide : (Place.inside [] ["\x7d"]).through 20 ",\n".toList =
      some ([.op ","], .inside [] ["\x7d"])) behind
  have hcolon (rest : List Char) : lexeme? (':' :: ' ' :: rest) = some (.op ":", ' ' :: rest) :=
    rfl
  have hpoint (rest : List Char) :
      (Place.inside [] ["\x7d"]).tokens ('.' :: (current.name ++ rest)) =
        ((Place.inside [] ["\x7d"]).tokens (current.name ++ rest)).map ([.op "."] ++ ·) := by
    obtain ⟨hchars, c, others, hcons, hdigit⟩ := isWordChar_of_isIdentifier hmember
    rw [hcons, List.forall_mem_cons] at hchars
    rw [hcons]
    exact tokens_point hchars.1 hdigit _ _ _
  calc (Place.inside [] ["\x7d"]).tokens (tableLine name current ++ '\n' :: behind)
      = (Place.inside [] ["\x7d"]).tokens ("    ".toList ++ (name ++ '.' ::
          (current.name ++ ':' :: ' ' :: (quoted current.value.name.toList ++ ',' ::
            ("\n".toList ++ behind))))) := by
        unfold tableLine entry
        simp
    _ = _ := by
        rw [tokens_tableIndent, tokens_word hname.isIdentifier (by decide),
          hpoint, tokens_word hmember (by decide), wordToken_of_isName hcurrent,
          tokens_token (by decide) (hcolon _) rfl, tokens_space, tokens_quoted _ (by decide)]
        change Option.map _ (Option.map _ (Option.map _ (Option.map _ (Option.map _
          ((Place.inside [] ["\x7d"]).tokens (",\n".toList ++ behind)))))) = _
        rw [hend, Option.map_map, Option.map_map, Option.map_map, Option.map_map, Option.map_map]
        rfl

theorem tokens_tableLines {members : List Member}
    (hmembers : ∀ current ∈ members, isName current.name = true) (behind : List Char) :
    (Place.inside [] ["\x7d"]).tokens
        (ended (members.map (tableLine name)) ++ ("\x7d\n".toList ++ behind)) =
      ((Place.line []).tokens behind).map
        (members.flatMap (fun current ↦ lineTokens name current.name) ++
          [.op "\x7d", .newline] ++ ·) := by
  induction members with
  | nil =>
    exact IsPassage.tokens_of_through (by decide : IsPassage "\x7d\n".toList)
      (by decide : (Place.inside [] ["\x7d"]).through 20 "\x7d\n".toList =
        some ([.op "\x7d", .newline], .line [])) behind
  | cons current members ih =>
    rw [List.forall_mem_cons] at hmembers
    rw [List.map_cons, ended_cons, List.append_assoc, List.cons_append,
      tokens_tableLine hname hmembers.1, ih hmembers.2, Option.map_map, List.flatMap_cons]
    simp only [Function.comp_def, List.append_assoc]

end Table

/-! ### Statements -/

/-- The tokens of the class of an enum. -/
def classTokens (name : List Char) (members : List (List Char)) : List Token :=
  headerTokens name ++ [.indent] ++ (members.map memberTokens ++ [placeholderTokens]).flatten ++
    [.dedent]

/-- The tokens of the two statements that an enum is declared with, its class and its table. -/
def statementTokens (name : List Char) (members : List (List Char)) : List (List Token) :=
  [classTokens name members, tableTokens name members]

/-- An enum leaves the tokens of its two statements, unless it has so many values that the number of
one has too many digits. -/
theorem tokens_front {name : List Char} (hname : Naming.IsSchemaName name)
    {values : List EnumValue} (hmembers : ∀ member ∈ enumMembers values, isName member = true)
    (behind : List Char) :
    (Place.line []).tokens (ended (front name values ++ ["\x7d".toList]) ++ behind) =
      if values.length ≤ 10 ^ maxDigits then
        ((Place.line []).tokens behind).map
          ((statementTokens name (enumMembers values)).flatten ++ ·)
      else none := by
  have hcurrent : ∀ current ∈ members values, isName current.name = true := by
    rw [← map_name_members, List.forall_mem_map] at hmembers
    exact hmembers
  have hlength : (members values).length = values.length := by
    rw [← length_enumMembers, ← map_name_members, List.length_map]
  have hflat (tokens : List Char → List Token) :
      ((members values).flatMap fun current ↦ tokens current.name) =
        (enumMembers values).flatMap tokens := by
    rw [← map_name_members, List.flatMap_map]
  calc (Place.line []).tokens (ended (front name values ++ ["\x7d".toList]) ++ behind)
      = (Place.line []).tokens (header name ++ '\n' ::
          (ended ((members values).zipIdx.flatMap
            fun (current, index) ↦ classLines current index) ++
              ("    Unknown = -1\n".toList ++
              (ended [[], [], tableHeader name, placeholderEntry name] ++
                (ended ((members values).map (tableLine name)) ++
                  ("\x7d\n".toList ++ behind)))))) := by
        unfold front
        simp
    _ = _ := by
        rw [tokens_header hname.isIdentifier,
          tokens_classLines rfl hcurrent (Nat.zero_le _), hlength, Nat.zero_add]
        split_ifs
        · rw [tokens_tableHeader hname, tokens_tableLines hname hcurrent, Option.map_map,
            Option.map_map, Option.map_map, hflat, hflat]
          simp [Function.comp_def, statementTokens, classTokens, tableTokens, List.flatMap]
        · rfl

/-- The statements of an enum whose name is not a keyword are taken. -/
theorem formsStatement_of_mem_statementTokens {name : List Char} (hname : isName name = true)
    {members : List (List Char)} :
    ∀ tokens ∈ statementTokens name members, FormsStatement tokens := by
  have hbody : ∀ tokens ∈ members.map memberTokens ++ [placeholderTokens],
      FormsStatement tokens := by
    rw [List.forall_mem_append, List.forall_mem_map, List.forall_mem_singleton]
    exact ⟨fun member _ ↦ formsStatement_number member, formsStatement_negativeNumber _⟩
  have hclass := formsStatement_class name "enum".toList "IntEnum".toList
    (List.concat_ne_nil _ _ : _ ++ [_] ≠ []) hbody
  have htable := formsStatement_table (Naming.tableName name) name "Unknown".toList members
  have hentries : lineTokens name = entryTokens name := by
    funext member
    rw [lineTokens, wordToken_of_isName hname, entryTokens]
  rw [statementTokens, List.forall_mem_cons, List.forall_mem_singleton, classTokens, headerTokens,
    tableTokens, tableHeaderTokens, hentries, wordToken_of_isName hname]
  exact ⟨hclass, htable⟩

/-- The statements of an enum whose name is a keyword begin with a class of this name. -/
theorem flatten_statementTokens_of_isKeyword {name : List Char} (hname : isKeyword name = true)
    (members : List (List Char)) :
    ∃ rest, (statementTokens name members).flatten =
      .keyword "class" :: .keyword (String.ofList name) :: rest := by
  have hword : wordToken name = .keyword (String.ofList name) := if_pos hname
  exact ⟨_, by rw [statementTokens, List.flatten_cons, classTokens, headerTokens, hword]; rfl⟩

end SchemaBindings.EnumLines
