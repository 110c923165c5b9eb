import Mathlib.Data.List.Basic
import SchemaBindings.Generation
import SchemaBindings.Proofs.Comment
import SchemaBindings.Proofs.Naming.Plain
import SchemaBindings.Proofs.Template.Render
import SchemaBindings.Proofs.Text.Quoted
/-!
# The lines of an enum

The built-in template declares an enum in two loops over its values, one for the members of the
class and one for the table of names. `all` lists the lines that come out, comments and blank lines
included, and the declaration consists of exactly these lines (`enumText_eq`).

When the names of the enum and its values are plain, the lines are also those into which the text
splits, and the lines of code among them are the statements of the declaration
(`codeLines_typeText`): a comment never swallows or breaks a member line, whatever the description
holds. Both loops name the members alike, and every entry of the table holds a literal that denotes
the name of its value in documents.
-/

set_option autoImplicit false
set_option relaxedAutoImplicit false

namespace SchemaBindings.EnumLines

open SchemaBindings.Text SchemaBindings.Template

/-! ### The lines -/

/-- The line that opens the class of an enum. -/
def header (name : List Char) : List Char :=
  ["class ".toList, name, "(enum.IntEnum):".toList].flatten

/-- The comment line in front of a member; there is none when the description leaves nothing. -/
def comments (description : List Char) : List (List Char) :=
  if (Comment.ofDescription description).isEmpty then []
  else ["    # ".toList ++ Comment.ofDescription description]

/-- The line that declares a member. -/
def member (name : List Char) (index : Nat) : List Char :=
  ["    ".toList, name, " = ".toList, Nat.toDigits 10 index].flatten

/-- The line that opens the table of an enum. -/
def tableHeader (name : List Char) : List Char :=
  [Naming.upperSnake name, "_WIRE_NAMES = \x7b".toList].flatten

/-- The line of the placeholder member in the table. -/
def placeholderEntry (name : List Char) : List Char :=
  ["    ".toList, name, ".Unknown: None,".toList].flatten

/-- The line of a member in the table, with the literal of its name in documents. -/
def entry (name member literal : List Char) : List Char :=
  ["    ".toList, name, ".".toList, member, ": ".toList, literal, ",".toList].flatten

/-- The values of an enum with their member names. -/
def members (values : List EnumValue) : List Member :=
  (values.zip (enumMembers values)).map fun (value, name) ↦ ⟨value, name⟩

/-- What the class holds for a member: its comment line, if any, and its declaration. -/
def classLines (current : Member) (index : Nat) : List (List Char) :=
  comments current.value.description.toList ++ [member current.name index]

/-- What the table holds for a member. -/
def tableLine (name : List Char) (current : Member) : List Char :=
  entry name current.name (quoted current.value.name.toList)

/-- All lines of the declaration of an enum. -/
def all (name : List Char) (values : List EnumValue) : List (List Char) :=
  [header name] ++
    ((members values).zipIdx.flatMap fun (current, index) ↦ classLines current index) ++
    ["    Unknown = -1".toList, [], [], tableHeader name, placeholderEntry name] ++
    (members values).map (tableLine name) ++
    ["\x7d".toList, [], []]

/-! ### Rendering -/

theorem filtered_comment (text : List Char) :
    Value.filtered (.text text) .comment = .ok (.text (Comment.ofDescription text)) := by
  cases text with
  | nil => rfl
  | cons c rest => rfl

section Loops

variable {scope : Scope} {current : Member} {index : Nat}

theorem eval_valueComment (hvalue : scope.get "value" = .enumValue current.value) :
    valueComment.eval scope =
      .ok (.text (Comment.ofDescription current.value.description.toList)) := by
  have heval : valueComment.eval scope =
      ((scope.get "value").part "description" >>= pure) >>= fun value ↦
        (value.filtered .comment >>= pure) := rfl
  rw [heval, hvalue]
  change (Value.filtered (.text current.value.description.toList) .comment >>= pure) = _
  rw [filtered_comment]
  rfl

/-- In a loop, the body of the class gives the comment line, if any, and the line of the member. -/
theorem renderAll_memberLines (hvalue : scope.get "value" = .enumValue current.value)
    (hname : memberName.eval scope = .ok (.text current.name))
    (hindex : memberIndex.eval scope = .ok (.number index)) :
    renderAll scope memberLines = .ok (ended (classLines current index)) := by
  have hcomment := eval_valueComment hvalue
  have hbody : renderAll scope
      [.text "    # ".toList, .output valueComment, .text "\n".toList] = .ok (ended
        ["    # ".toList ++ Comment.ofDescription current.value.description.toList]) := by
    rw [renderAll_cons (render_text _), renderAll_cons (render_output hcomment),
      renderAll_cons (render_text _), renderAll_nil]
    simp [Except.map]
  rw [memberLines, renderAll_cons (render_whenTrue hcomment hbody), renderAll_cons (render_text _),
    renderAll_cons (render_output hname), renderAll_cons (render_text _),
    renderAll_cons (render_output hindex), renderAll_cons (render_text _), renderAll_nil]
  unfold classLines member
  by_cases hempty : (Comment.ofDescription current.value.description.toList).isEmpty = true
  · simp [Except.map, comments, hempty]
  · simp [Except.map, comments, hempty]

theorem renderAll_tableLines {name : List Char} (henum : enumName.eval scope = .ok (.text name))
    (hname : memberName.eval scope = .ok (.text current.name))
    (hliteral : valueLiteral.eval scope = .ok (.text (quoted current.value.name.toList))) :
    renderAll scope tableLines = .ok (ended [tableLine name current]) := by
  rw [tableLines, renderAll_cons (render_text _), renderAll_cons (render_output henum),
    renderAll_cons (render_text _), renderAll_cons (render_output hname),
    renderAll_cons (render_text _), renderAll_cons (render_output hliteral),
    renderAll_cons (render_text _), renderAll_nil]
  unfold tableLine entry
  simp [Except.map]

end Loops

section Declaration

variable (name description : String) (values : List EnumValue)

theorem loopMembers_enumScope :
    (enumScope name description values).loopMembers = members values := rfl

theorem render_memberLoop :
    (Node.forMembers memberLines).render (enumScope name description values) =
      .ok (ended ((members values).zipIdx.flatMap fun (current, index) ↦
        classLines current index)) := by
  rw [render_forMembers fun current index ↦
    @renderAll_memberLines _ current index rfl rfl rfl, ended_flatMap, loopMembers_enumScope]

theorem render_tableLoop :
    (Node.forMembers tableLines).render (enumScope name description values) =
      .ok (ended ((members values).map (tableLine name.toList))) := by
  rw [render_forMembers fun current index ↦
    @renderAll_tableLines _ current name.toList rfl rfl rfl, loopMembers_enumScope]
  refine congrArg Except.ok ?_
  -- The table does not count its members, so the places in the loop drop out.
  calc ((members values).zipIdx.flatMap fun (current, _) ↦ ended [tableLine name.toList current])
      = ((members values).zipIdx.map Prod.fst).flatMap fun current ↦
          ended [tableLine name.toList current] := by
        rw [List.flatMap_map]
    _ = ended ((members values).map (tableLine name.toList)) := by
        rw [List.zipIdx_map_fst, ended, List.flatMap_map]
        simp only [ended_cons, ended_nil]

/-- The declaration of an enum consists of its lines, each ended by a line feed. -/
theorem enumText_eq :
    ({} : Templates).enumText name description values = .ok (ended (all name.toList values)) := by
  have henum : enumName.eval (enumScope name description values) = .ok (.text name.toList) := rfl
  have hplaceholder : placeholderName.eval (enumScope name description values) =
      .ok (.text "Unknown".toList) := rfl
  have hupper : ({ enumName with filters := [.upperCase] } : Expr).eval
      (enumScope name description values) = .ok (.text (Naming.upperSnake name.toList)) := rfl
  change renderAll (enumScope name description values) enumDeclaration = _
  rw [enumDeclaration, renderAll_cons (render_text _), renderAll_cons (render_output henum),
    renderAll_cons (render_text _), renderAll_cons (render_memberLoop name description values),
    renderAll_cons (render_text _), renderAll_cons (render_output hplaceholder),
    renderAll_cons (render_text _), renderAll_cons (render_output hupper),
    renderAll_cons (render_text _), renderAll_cons (render_output henum),
    renderAll_cons (render_text _), renderAll_cons (render_output hplaceholder),
    renderAll_cons (render_text _), renderAll_cons (render_tableLoop name description values),
    renderAll_cons (render_text _), renderAll_nil]
  simp only [Except.map, Value.shown_text, all, ended_append]
  refine congrArg Except.ok ?_
  unfold header tableHeader placeholderEntry
  simp

end Declaration

/-- An enum that is not moved to the right is its declaration. -/
theorem typeText_enum (templates : Templates) (name description : String)
    (values : List EnumValue) :
    templates.typeText 0 ⟨name, description, .enum values⟩ =
      templates.enumText name description values := by
  change (templates.enumText name description values >>= pure) = _
  exact bind_pure _

/-! ### Members and values -/

theorem length_enumMembers (values : List EnumValue) :
    (enumMembers values).length = values.length := by
  rw [enumMembers, Naming.length_memberNames, List.length_map]

theorem map_name_members (values : List EnumValue) :
    (members values).map Member.name = enumMembers values := by
  rw [members, List.map_map]
  exact List.map_snd_zip (Nat.le_of_eq (length_enumMembers values))

theorem map_value_members (values : List EnumValue) :
    (members values).map Member.value = values := by
  rw [members, List.map_map]
  exact List.map_fst_zip (Nat.le_of_eq (length_enumMembers values).symm)

theorem name_mem_enumMembers {values : List EnumValue} {current : Member}
    (hcurrent : current ∈ members values) : current.name ∈ enumMembers values := by
  rw [← map_name_members]
  exact List.mem_map_of_mem hcurrent

theorem value_mem {values : List EnumValue} {current : Member}
    (hcurrent : current ∈ members values) : current.value ∈ values := by
  have hvalue := List.mem_map_of_mem (f := Member.value) hcurrent
  rwa [map_value_members] at hvalue

theorem map_member_members (values : List EnumValue) :
    ((members values).zipIdx.map fun (current, index) ↦ member current.name index) =
      (enumMembers values).mapIdx fun index name ↦ member name index := by
  rw [List.mapIdx_eq_zipIdx_map, ← map_name_members, List.zipIdx_map, List.map_map]
  rfl

theorem map_tableLine_members (name : List Char) (values : List EnumValue) :
    (members values).map (tableLine name) =
      List.zipWith (entry name) (enumMembers values)
        (values.map fun value ↦ quoted value.name.toList) := by
  have hliterals : (values.map fun value ↦ quoted value.name.toList) =
      (members values).map fun current ↦ quoted current.value.name.toList := by
    conv_lhs => rw [← map_value_members values]
    rw [List.map_map]
    rfl
  rw [hliterals, ← map_name_members, List.zipWith_map, List.zipWith_self]
  rfl

/-! ### Lines of code -/

theorem isPlainText_quoted {text : List Char} (htext : IsPlainText text) :
    IsPlainText (quoted text) := by
  have hmarks : IsPlainText literalMarks := by decide
  intro c hc
  rcases mem_quoted hc with hmem | hmark
  · exact htext c hmem
  · exact hmarks c hmark

theorem isPlainText_toDigits (number : Nat) : IsPlainText (Nat.toDigits 10 number) := by
  intro c hc
  have hdigit := Nat.isDigit_of_mem_toDigits (by decide) (by decide) hc
  rw [Char.isDigit_iff_toNat] at hdigit
  obtain ⟨hlow, hhigh⟩ := hdigit
  change 0x30 ≤ c.toNat at hlow
  change c.toNat ≤ 0x39 at hhigh
  rw [← Char.ofNat_toNat c]
  exact isPlain_ofNat_of_ascii (by omega) (by omega)

/-- A line put together from plain parts is a statement when it is not all white space. -/
theorem isStatement_flatten {parts : List (List Char)} (hparts : parts.Forall IsPlainText)
    {c : Char} (hmem : c ∈ parts.flatten) (hblank : isBlank c = false) :
    IsStatement parts.flatten := by
  refine ⟨fun d hd ↦ ?_, c, hmem, hblank⟩
  obtain ⟨part, hpart, hin⟩ := List.mem_flatten.mp hd
  exact List.forall_iff_forall_mem.mp hparts part hpart d hin

section Lines

variable {name : List Char} (hname : IsPlainText name)
include hname

theorem isStatement_header : IsStatement (header name) := by
  have hmem : 'c' ∈ header name := by
    unfold header
    simp
  exact isStatement_flatten ⟨by decide, hname, by decide⟩ hmem (by decide)

theorem isStatement_member (index : Nat) : IsStatement (member name index) := by
  have hmem : '=' ∈ member name index := by
    unfold member
    simp
  exact isStatement_flatten ⟨by decide, hname, by decide, isPlainText_toDigits index⟩ hmem
    (by decide)

theorem isStatement_tableHeader : IsStatement (tableHeader name) := by
  have hmem : '=' ∈ tableHeader name := by
    unfold tableHeader
    simp
  exact isStatement_flatten ⟨Naming.isPlainText_upperSnake hname, by decide⟩ hmem (by decide)

theorem isStatement_placeholderEntry : IsStatement (placeholderEntry name) := by
  have hmem : ':' ∈ placeholderEntry name := by
    unfold placeholderEntry
    simp
  exact isStatement_flatten ⟨by decide, hname, by decide⟩ hmem (by decide)

theorem isStatement_tableLine {current : Member} (hcurrent : IsPlainText current.name)
    (hvalue : IsPlainText current.value.name.toList) : IsStatement (tableLine name current) := by
  have hmem : ':' ∈ tableLine name current := by
    unfold tableLine entry
    simp
  exact isStatement_flatten
    ⟨by decide, hname, by decide, hcurrent, by decide, isPlainText_quoted hvalue, by decide⟩ hmem
    (by decide)

end Lines

theorem isStatement_placeholder : IsStatement "    Unknown = -1".toList :=
  ⟨by decide, 'U', by simp, by decide⟩

theorem isStatement_footer : IsStatement "\x7d".toList :=
  ⟨by decide, '\x7d', by simp, by decide⟩

/-! ### The lines of the declaration -/

theorem isBreak_of_mem_comments {description line : List Char} (hline : line ∈ comments description)
    {c : Char} (hc : c ∈ line) : isBreak c = false := by
  have hindent : "    # ".toList.all (fun d ↦ !isBreak d) = true := by decide
  unfold comments at hline
  split_ifs at hline
  · exact absurd hline List.not_mem_nil
  · rw [List.mem_singleton.mp hline] at hc
    rcases List.mem_append.mp hc with hfront | hcomment
    · simpa using List.all_eq_true.mp hindent c hfront
    · exact Comment.isBreak_of_mem_ofDescription hcomment

theorem filter_isCode_comments (description : List Char) :
    (comments description).filter isCode = [] := by
  rw [List.filter_eq_nil_iff]
  intro line hline
  unfold comments at hline
  split_ifs at hline
  · exact absurd hline List.not_mem_nil
  · rw [List.mem_singleton.mp hline, Bool.not_eq_true]
    have hindent : isAllBlank "    ".toList = true := by decide
    exact isCode_comment hindent (' ' :: Comment.ofDescription description)

theorem filter_isCode_classLines {current : Member} (hcurrent : IsPlainText current.name)
    (index : Nat) : (classLines current index).filter isCode = [member current.name index] := by
  have hcode := (isStatement_member hcurrent index).isCode
  rw [classLines, List.filter_append, filter_isCode_comments, List.nil_append,
    List.filter_cons_of_pos hcode, List.filter_nil]

section Declaration

variable {name : List Char} {values : List EnumValue} (hname : IsPlainText name)
  (hvalues : ∀ value ∈ values, IsPlainText value.name.toList)

include hvalues in
theorem isPlainText_of_mem_members {current : Member} (hcurrent : current ∈ members values) :
    IsPlainText current.name ∧ IsPlainText current.value.name.toList := by
  refine ⟨Naming.isPlainText_of_mem_memberNames ?_ (name_mem_enumMembers hcurrent),
    hvalues _ (value_mem hcurrent)⟩
  intro wire hwire
  obtain ⟨value, hmem, rfl⟩ := List.mem_map.mp hwire
  exact hvalues value hmem

include hname hvalues

theorem isBreak_of_mem_all {line : List Char} (hline : line ∈ all name values) {c : Char}
    (hc : c ∈ line) : isBreak c = false := by
  simp only [all, classLines, List.mem_append, List.mem_cons, List.mem_flatMap, List.mem_map,
    List.not_mem_nil, or_false] at hline
  rcases hline with (((rfl | ⟨⟨current, index⟩, hcurrent, hcomment | rfl⟩) | rfl | rfl | rfl |
    rfl | rfl) | ⟨current, hcurrent, rfl⟩) | rfl | rfl | rfl
  · exact (isStatement_header hname).isBreak_eq_false hc
  · exact isBreak_of_mem_comments hcomment hc
  · have hplain := isPlainText_of_mem_members hvalues (List.fst_mem_of_mem_zipIdx hcurrent)
    exact (isStatement_member hplain.1 index).isBreak_eq_false hc
  · exact isStatement_placeholder.isBreak_eq_false hc
  · exact absurd hc List.not_mem_nil
  · exact absurd hc List.not_mem_nil
  · exact (isStatement_tableHeader hname).isBreak_eq_false hc
  · exact (isStatement_placeholderEntry hname).isBreak_eq_false hc
  · have hplain := isPlainText_of_mem_members hvalues hcurrent
    exact (isStatement_tableLine hname hplain.1 hplain.2).isBreak_eq_false hc
  · exact isStatement_footer.isBreak_eq_false hc
  · exact absurd hc List.not_mem_nil
  · exact absurd hc List.not_mem_nil

theorem filter_isCode_all :
    (all name values).filter isCode =
      [header name] ++
        ((members values).zipIdx.map fun (current, index) ↦ member current.name index) ++
        ["    Unknown = -1".toList, tableHeader name, placeholderEntry name] ++
        (members values).map (tableLine name) ++ ["\x7d".toList] := by
  have hclass :
      ((members values).zipIdx.flatMap fun (current, index) ↦ classLines current index).filter
        isCode = (members values).zipIdx.map fun (current, index) ↦ member current.name index := by
    rw [List.filter_flatMap, List.map_eq_flatMap]
    refine List.flatMap_congr fun (current, index) hcurrent ↦ ?_
    have hplain := isPlainText_of_mem_members hvalues (List.fst_mem_of_mem_zipIdx hcurrent)
    exact filter_isCode_classLines hplain.1 index
  have htable : ((members values).map (tableLine name)).filter isCode =
      (members values).map (tableLine name) := by
    rw [List.filter_eq_self]
    intro line hline
    obtain ⟨current, hcurrent, rfl⟩ := List.mem_map.mp hline
    have hplain := isPlainText_of_mem_members hvalues hcurrent
    exact (isStatement_tableLine hname hplain.1 hplain.2).isCode
  simp only [all, List.filter_append, hclass, htable, List.filter_cons, List.filter_nil,
    (isStatement_header hname).isCode, isStatement_placeholder.isCode,
    (isStatement_tableHeader hname).isCode, (isStatement_placeholderEntry hname).isCode,
    isStatement_footer.isCode, isCode_nil, if_true, Bool.false_eq_true, if_false]

end Declaration

/-- The lines of code in the declaration of an enum: the class with a member for each value, counted
from zero, and the table, which gives for each member a literal of the name of its value. -/
theorem codeLines_typeText (name description : String) (values : List EnumValue)
    (hname : IsPlainText name.toList) (hvalues : ∀ value ∈ values, IsPlainText value.name.toList) :
    ∃ text literals,
      ({} : Templates).typeText 0 ⟨name, description, .enum values⟩ = .ok text ∧
      literals.map readLiteral = values.map (fun value ↦ some value.name.toList) ∧
      codeLines text =
        [header name.toList] ++ (enumMembers values).mapIdx (fun index name ↦ member name index) ++
          ["    Unknown = -1".toList, tableHeader name.toList, placeholderEntry name.toList] ++
          List.zipWith (entry name.toList) (enumMembers values) literals ++ ["\x7d".toList] ∧
      (enumMembers values).length = values.length ∧ (enumMembers values).Nodup ∧
      "Unknown".toList ∉ enumMembers values := by
  refine ⟨ended (all name.toList values), values.map fun value ↦ quoted value.name.toList,
    ?_, ?_, ?_, length_enumMembers values, Naming.nodup_memberNames _,
    Naming.placeholder_notMem_memberNames _⟩
  · rw [typeText_enum, enumText_eq]
  · rw [List.map_map]
    exact List.map_congr_left fun value _ ↦ readLiteral_quoted value.name.toList
  · rw [codeLines_ended fun line hline c ↦ isBreak_of_mem_all hname hvalues hline,
      filter_isCode_all hname hvalues, map_member_members, map_tableLine_members]

/-- Two values that ask for one member name, of which the first has a description with a number sign
and a line feed, and a value with both quotes, a backslash, a tab and a letter beyond ASCII. -/
def markValues : List EnumValue :=
  [{ name := "A_B", description := "# one\nline" }, { name := "A__B" },
   { name := "it's \"\\\té\"" }]

theorem codeLines_typeText_markValues :
    (IsPlainText "Mark".toList ∧ ∀ value ∈ markValues, IsPlainText value.name.toList) ∧
      ∃ text literals,
        ({} : Templates).typeText 0 ⟨"Mark", "", .enum markValues⟩ = .ok text ∧
        literals.map readLiteral = markValues.map (fun value ↦ some value.name.toList) ∧
        codeLines text =
          ["class Mark(enum.IntEnum):".toList, "    AB = 0".toList, "    AB_ = 1".toList,
            "    It's \"\\\té\" = 2".toList, "    Unknown = -1".toList,
            "MARK_WIRE_NAMES = \x7b".toList, "    Mark.Unknown: None,".toList] ++
          List.zipWith (entry "Mark".toList)
            ["AB".toList, "AB_".toList, "It's \"\\\té\"".toList] literals ++
          ["\x7d".toList] := by
  obtain ⟨text, literals, htext, hread, hlines, -⟩ :=
    codeLines_typeText "Mark" "" markValues (by decide) (by decide)
  have hmembers : enumMembers markValues =
      ["AB".toList, "AB_".toList, "It's \"\\\té\"".toList] := by
    decide
  refine ⟨⟨by decide, by decide⟩, text, literals, htext, hread, ?_⟩
  rw [hlines, hmembers]
  rfl

end SchemaBindings.EnumLines
