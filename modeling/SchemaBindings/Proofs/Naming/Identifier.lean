import Mathlib.Data.Nat.Find
import SchemaBindings.Proofs.Naming.Table
import SchemaBindings.Proofs.Template.ModuleLines
/-!
# Member names as identifiers

A member is the name of its value with the fewest underscores that set it apart
(`enumMembers_fewest_underscores`): no reserved word ends with an underscore, and neither does the
placeholder, so only the members before it can ask for more. For values that are names of the schema
language a member goes on like an identifier, and all members of an enum are names of the generated
language exactly when each value has a letter behind its leading underscores
(`enumMembers_isName_iff`). A value without one begins with a digit there, or becomes the empty
name.
-/

set_option autoImplicit false
set_option relaxedAutoImplicit false

namespace SchemaBindings

namespace Naming

open SchemaBindings.Text SchemaBindings.Sdl

/-! ### Names that end with an underscore -/

/-- A name that does not end with an underscore is none that does. -/
theorem ne_append_underscore {name : List Char} (hlast : name.getLast? ≠ some '_')
    (front : List Char) : front ++ ['_'] ≠ name := by
  rintro rfl
  exact hlast List.getLast?_concat

theorem isKeyword_append_underscore (name : List Char) : isKeyword (name ++ ['_']) = false := by
  have hlast : ∀ word ∈ keywords, word.toList.getLast? ≠ some '_' := by decide
  rw [isKeyword, List.any_eq_false]
  intro word hword heq
  exact ne_append_underscore (hlast word hword) name (beq_iff_eq.mp heq).symm

theorem isKeyword_memberName (value : List Char) : isKeyword (memberName value) = false := by
  simp only [memberName, safe]
  split_ifs with hplaceholder hkeyword
  · exact isKeyword_append_underscore _
  · exact isKeyword_append_underscore _
  · exact Bool.eq_false_iff.mpr hkeyword

theorem isKeyword_underscored_memberName (value : List Char) (count : Nat) :
    isKeyword (underscored (memberName value) count) = false := by
  cases count with
  | zero => rw [underscored_zero, isKeyword_memberName]
  | succ count => rw [underscored_succ, isKeyword_append_underscore]

theorem underscored_memberName_ne_placeholder (value : List Char) (count : Nat) :
    underscored (memberName value) count ≠ placeholder := by
  have hlast : placeholder.getLast? ≠ some '_' := by decide
  cases count with
  | succ count =>
    rw [underscored_succ]
    exact ne_append_underscore hlast _
  | zero =>
    rw [underscored_zero]
    simp only [memberName, safe]
    split_ifs with hplaceholder hkeyword
    · exact ne_append_underscore hlast _
    · exact ne_append_underscore hlast _
    · exact hplaceholder

/-- The placeholder is out of reach, so there are no more underscores than members before. -/
theorem leastFree_memberName (before : List (List Char)) (value : List Char) :
    ∃ count ≤ before.length,
      leastFree (before.reverse ++ [placeholder]) (memberName value) =
        underscored (memberName value) count ∧
      underscored (memberName value) count ∉ placeholder :: before ∧
      ∀ fewer < count, underscored (memberName value) fewer ∈ placeholder :: before := by
  have hmem : ∀ name, name ∈ before.reverse ++ [placeholder] ↔ name ∈ placeholder :: before := by
    intro name
    rw [List.mem_append, List.mem_reverse, List.mem_singleton, List.mem_cons, or_comm]
  obtain ⟨other, hother, hotherFree⟩ := exists_underscored_notMem before (memberName value)
  have hfree : underscored (memberName value) other ∉ placeholder :: before :=
    List.not_mem_cons_of_ne_of_not_mem (underscored_memberName_ne_placeholder value other)
      hotherFree
  have hexists : ∃ count, underscored (memberName value) count ∉ placeholder :: before :=
    ⟨other, hfree⟩
  have hfewer (fewer : Nat) (hlt : fewer < Nat.find hexists) :
      underscored (memberName value) fewer ∈ placeholder :: before :=
    not_not.mp (Nat.find_min hexists hlt)
  refine ⟨Nat.find hexists, (Nat.find_min' hexists hfree).trans hother, ?_,
    Nat.find_spec hexists, hfewer⟩
  rw [leastFree_eq_of_forall_lt fun fewer hlt ↦ (hmem _).mpr (hfewer fewer hlt),
    leastFree_eq_ite, if_neg ((hmem _).not.mpr (Nat.find_spec hexists))]

/-! ### Pascal case of names of the schema language -/

theorem pascal_underscore_cons (name : List Char) : pascal ('_' :: name) = pascal name := by
  rw [pascal, splitWords, if_pos rfl, List.flatMap_cons, capitalize, List.nil_append, pascal]

/-- Underscores in front of a name leave no trace. -/
theorem pascal_dropWhile (name : List Char) : pascal (name.dropWhile (· == '_')) = pascal name := by
  induction name with
  | nil => rfl
  | cons c rest ih =>
    rw [List.dropWhile_cons]
    split_ifs with hc
    · rw [ih, beq_iff_eq.mp hc, pascal_underscore_cons]
    · rfl

/-- A name that does not begin with an underscore keeps its first character, in upper case. -/
theorem head?_pascal_cons {c : Char} (rest : List Char) (hc : isNameChar c = true)
    (hmark : c ≠ '_') : (pascal (c :: rest)).head? = some (upperLetter c) := by
  rw [pascal, splitWords, if_neg hmark]
  split <;>
    rw [List.flatMap_cons, capitalize, upperChar, if_pos (lt_of_isNameChar hc)] <;> rfl

theorem isNameChar_of_mem_pascal {name : List Char} (hname : ∀ c ∈ name, isNameChar c = true)
    {c : Char} (hc : c ∈ pascal name) : isNameChar c = true := by
  obtain ⟨word, hword, hmem⟩ := List.mem_flatMap.mp hc
  have hchars : ∀ d ∈ word, isNameChar d = true :=
    fun d hd ↦ hname d (mem_of_mem_splitWords hword hd)
  cases word with
  | nil => exact absurd hmem List.not_mem_nil
  | cons first rest =>
    rw [List.forall_mem_cons] at hchars
    rw [capitalize, upperChar, if_pos (lt_of_isNameChar hchars.1), lower_eq_map hchars.2,
      List.singleton_append, List.mem_cons, List.mem_map] at hmem
    rcases hmem with rfl | ⟨d, hd, rfl⟩
    · exact (keepsClasses_upperLetter first).2.mpr hchars.1
    · exact (keepsClasses_lowerLetter d).2.mpr (hchars.2 d hd)

/-! ### Identifiers -/

/-- In a name of the schema language the first character behind the leading underscores, if there
is one, is a letter or a digit; here it is a letter. -/
def OpensWithLetter (name : List Char) : Prop :=
  (name.dropWhile (· == '_')).head?.any (!isDigit ·) = true

instance (name : List Char) : Decidable (OpensWithLetter name) :=
  inferInstanceAs (Decidable (_ = true))

theorem isIdentifierStart_of_isNameStart {c : Char} (hc : isNameStart c = true) :
    isIdentifierStart c = true := by
  have hchar := lt_of_isNameChar ((isNameChar_iff c).mpr (.inl hc))
  rw [isNameStart, Bool.or_comm (isLowerLetter c)] at hc
  rw [isIdentifierStart, if_pos hchar, hc]

theorem isIdentifierContinue_of_isNameChar {c : Char} (hc : isNameChar c = true) :
    isIdentifierContinue c = true := by
  rw [isIdentifierContinue, if_pos (lt_of_isNameChar hc)]
  rw [isNameChar, isNameStart] at hc
  revert hc
  cases isUpperLetter c <;> cases isLowerLetter c <;> cases isDigit c <;> cases c == '_' <;> decide

theorem isIdentifier_of_isNameStart {c : Char} {rest : List Char} (hc : isNameStart c = true)
    (hrest : ∀ d ∈ rest, isNameChar d = true) : isIdentifier (c :: rest) = true := by
  rw [isIdentifier, isIdentifierStart_of_isNameStart hc, Bool.true_and, List.all_eq_true]
  exact fun d hd ↦ isIdentifierContinue_of_isNameChar (hrest d hd)

theorem IsSchemaName.isIdentifier {name : List Char} (hname : IsSchemaName name) :
    isIdentifier name = true := by
  obtain ⟨hstart, hchars⟩ := hname
  cases name with
  | nil => cases hstart
  | cons c rest => exact isIdentifier_of_isNameStart hstart (List.forall_mem_cons.mp hchars).2

theorem isIdentifier_cons_of_isDigit {c : Char} (hc : isDigit c = true) (rest : List Char) :
    isIdentifier (c :: rest) = false := by
  have hcode : 0x30 ≤ c.toNat ∧ c.toNat ≤ 0x39 := by
    rw [isDigit, Bool.and_eq_true, decide_eq_true_eq, decide_eq_true_eq] at hc
    exact hc
  have hmark : c ≠ '_' := by
    rintro rfl
    exact absurd hcode.2 (by decide)
  have hupper : isUpperLetter c = false := by
    rw [Bool.eq_false_iff, ne_eq, isUpperLetter_iff]
    omega
  have hlower : isLowerLetter c = false := by
    rw [Bool.eq_false_iff, ne_eq, isLowerLetter_iff]
    omega
  rw [isIdentifier, isIdentifierStart, if_pos (by omega), hupper, hlower,
    beq_eq_false_iff_ne.mpr hmark]
  rfl

/-! ### Members of values that are names of the schema language -/

theorem memberName_eq_underscored (value : List Char) :
    ∃ count, memberName value = underscored (pascal value) count := by
  simp only [memberName, safe]
  split_ifs
  · exact ⟨1, rfl⟩
  · exact ⟨1, rfl⟩
  · exact ⟨0, (underscored_zero _).symm⟩

theorem underscored_underscored (name : List Char) (first second : Nat) :
    underscored (underscored name first) second = underscored name (first + second) := by
  rw [underscored, underscored, underscored, List.append_assoc, List.replicate_append_replicate]

section Value

variable {value : List Char} (hvalue : IsSchemaName value)

include hvalue

theorem isNameChar_of_mem_underscored_memberName {count : Nat} {c : Char}
    (hc : c ∈ underscored (memberName value) count) : isNameChar c = true := by
  obtain ⟨marks, heq⟩ := memberName_eq_underscored value
  rw [heq, underscored_underscored, underscored, List.mem_append] at hc
  rcases hc with hpascal | hmark
  · exact isNameChar_of_mem_pascal hvalue.2 hpascal
  · rw [List.eq_of_mem_replicate hmark]
    decide

/-- A value with nothing but underscores has the empty name; any other name opens with the first
character behind the underscores, in upper case. -/
theorem memberName_cases :
    value.dropWhile (· == '_') = [] ∧ memberName value = [] ∨
      ∃ c rest, value.dropWhile (· == '_') = c :: rest ∧ isNameChar c = true ∧ c ≠ '_' ∧
        (memberName value).head? = some (upperLetter c) := by
  rcases hbehind : value.dropWhile (· == '_') with - | ⟨c, rest⟩
  · refine .inl ⟨rfl, ?_⟩
    have hpascal : pascal value = [] := by
      rw [← pascal_dropWhile, hbehind]
      rfl
    rw [memberName, hpascal]
    decide
  · have hmem : c ∈ value :=
      (List.dropWhile_sublist _).mem (hbehind ▸ List.mem_cons_self)
    have hchar := hvalue.2 c hmem
    have hmark : c ≠ '_' := by
      have hhead := List.head?_dropWhile_not (· == '_') value
      rw [hbehind] at hhead
      simpa using hhead
    refine .inr ⟨c, rest, rfl, hchar, hmark, ?_⟩
    obtain ⟨marks, heq⟩ := memberName_eq_underscored value
    have hpascal := head?_pascal_cons rest hchar hmark
    rw [← hbehind, pascal_dropWhile] at hpascal
    rw [heq, underscored, List.head?_append, hpascal]
    rfl

/-- With a letter behind its leading underscores a value has an identifier for its name. -/
theorem isName_underscored_memberName (hletter : OpensWithLetter value) (count : Nat) :
    isName (underscored (memberName value) count) = true := by
  rw [isName, isKeyword_underscored_memberName, Bool.not_false, Bool.and_true]
  have hchars : ∀ c ∈ underscored (memberName value) count, isNameChar c = true :=
    fun c hc ↦ isNameChar_of_mem_underscored_memberName hvalue hc
  rcases memberName_cases hvalue with ⟨hnone, -⟩ | ⟨c, rest, hbehind, hchar, -, hhead⟩
  · rw [OpensWithLetter, hnone] at hletter
    exact absurd hletter (by decide)
  · have hstart : isNameStart c = true := by
      rw [OpensWithLetter, hbehind, List.head?_cons, Option.any_some, Bool.not_eq_true'] at hletter
      rwa [isNameChar, hletter, Bool.or_false] at hchar
    obtain ⟨tail, htail⟩ := List.head?_eq_some_iff.mp hhead
    rw [htail, underscored, List.cons_append] at hchars ⊢
    rw [List.forall_mem_cons] at hchars
    exact isIdentifier_of_isNameStart ((keepsClasses_upperLetter c).1.mpr hstart) hchars.2

/-- Without such a letter the name is empty or begins with a digit. -/
theorem memberName_of_not_opensWithLetter (hletter : ¬ OpensWithLetter value) :
    memberName value = [] ∨
      ∀ count, isIdentifier (underscored (memberName value) count) = false := by
  rcases memberName_cases hvalue with ⟨-, hnone⟩ | ⟨c, rest, hbehind, -, -, hhead⟩
  · exact .inl hnone
  · have hdigit : isDigit c = true := by
      rw [OpensWithLetter, hbehind, List.head?_cons, Option.any_some] at hletter
      simpa using hletter
    have hupper : upperLetter c = c := by
      have hlower : isLowerLetter c = false := by
        rw [isDigit, Bool.and_eq_true, decide_eq_true_eq, decide_eq_true_eq] at hdigit
        have hcode : c.toNat ≤ 0x39 := hdigit.2
        rw [Bool.eq_false_iff, ne_eq, isLowerLetter_iff]
        omega
      rw [upperLetter, hlower]
      rfl
    refine .inr fun count ↦ ?_
    obtain ⟨tail, htail⟩ := List.head?_eq_some_iff.mp hhead
    rw [htail, underscored, List.cons_append, hupper]
    exact isIdentifier_cons_of_isDigit hdigit _

end Value

end Naming

open Naming Text

/-! ### Members of an enum -/

theorem getElem?_enumMembers (values : List EnumValue) (place : Nat) :
    (enumMembers values)[place]? = values[place]?.map fun value ↦
      leastFree (((enumMembers values).take place).reverse ++ [placeholder])
        (memberName value.name.toList) := by
  rw [enumMembers, memberNames, getElem?_memberNamesAfter, List.getElem?_map, Option.map_map]
  rfl

/-- The member at a place is the name of the value there with the fewest underscores that set it
apart from the placeholder and the members before it, and no more than there are such members. So
the members are pairwise different, none is the placeholder or a reserved word, and values that are
added at the end change none of them. -/
theorem enumMembers_fewest_underscores (values : List EnumValue) :
    (enumMembers values).length = values.length ∧
      (∀ (place : Nat) (value : EnumValue), values[place]? = some value →
        let name := memberName value.name.toList
        let before := (enumMembers values).take place
        ∃ count ≤ place, (enumMembers values)[place]? = some (underscored name count) ∧
          underscored name count ∉ placeholder :: before ∧
          ∀ fewer < count, underscored name fewer ∈ placeholder :: before) ∧
      (enumMembers values).Nodup ∧ placeholder ∉ enumMembers values ∧
      (∀ member ∈ enumMembers values, isKeyword member = false) ∧
      ∀ more, enumMembers values <+: enumMembers (values ++ more) := by
  refine ⟨?_, fun place value hvalue ↦ ?_, nodup_memberNames _, placeholder_notMem_memberNames _,
    fun member hmember ↦ ?_, fun more ↦ ?_⟩
  · rw [enumMembers, length_memberNames, List.length_map]
  · obtain ⟨count, hcount, heq, hfree, hfewer⟩ :=
      leastFree_memberName ((enumMembers values).take place) value.name.toList
    refine ⟨count, hcount.trans (List.length_take_le _ _), ?_, hfree, hfewer⟩
    rw [getElem?_enumMembers, hvalue, Option.map_some, heq]
  · obtain ⟨value, -, count, rfl⟩ := mem_memberNames hmember
    exact isKeyword_underscored_memberName value count
  · rw [enumMembers, enumMembers, List.map_append]
    exact memberNames_prefix _ _

/-- The members of an enum with names that collide with each other, with the placeholder and with a
reserved word. -/
def crowdedValues : List EnumValue :=
  [{ name := "UNKNOWN" }, { name := "UNKNOWN_" }, { name := "NONE" }, { name := "FOO_BAR" },
    { name := "FOO__BAR" }, { name := "FOO_BAR" }]

theorem enumMembers_fewest_underscores_crowdedValues :
    crowdedValues[5]? = some { name := "FOO_BAR" } ∧
      enumMembers crowdedValues = ["Unknown_".toList, "Unknown__".toList, "None_".toList,
        "FooBar".toList, "FooBar_".toList, "FooBar__".toList] ∧
      ∃ count ≤ 5, (enumMembers crowdedValues)[5]? = some (underscored "FooBar".toList count) := by
  have hvalue : crowdedValues[5]? = some { name := "FOO_BAR" } := rfl
  have hname : memberName "FOO_BAR".toList = "FooBar".toList := by decide
  obtain ⟨-, hplace, -⟩ := enumMembers_fewest_underscores crowdedValues
  obtain ⟨count, hcount, heq, -⟩ := hplace 5 _ hvalue
  exact ⟨hvalue, by decide, count, hcount, hname ▸ heq⟩

/-- For values that are names of the schema language no member is a reserved word, and every
character of a member may stand inside an identifier. A value with a letter behind its leading
underscores has an identifier for its member, whatever the other values are; so all members are
names of the generated language exactly when every value has such a letter. -/
theorem enumMembers_isName_iff {values : List EnumValue}
    (hnames : ∀ value ∈ values, IsSchemaName value.name.toList) :
    (∀ member ∈ enumMembers values, isKeyword member = false ∧
        ∀ c ∈ member, isIdentifierContinue c = true) ∧
      (∀ (place : Nat) (value : EnumValue), values[place]? = some value →
        OpensWithLetter value.name.toList →
        ∃ member, (enumMembers values)[place]? = some member ∧ isName member = true) ∧
      ((∀ member ∈ enumMembers values, isName member = true) ↔
        ∀ value ∈ values, OpensWithLetter value.name.toList) := by
  have hmembers : ∀ member ∈ enumMembers values, ∃ value : EnumValue, value ∈ values ∧
      ∃ count, member = underscored (memberName value.name.toList) count := by
    intro member hmember
    obtain ⟨name, hname, count, heq⟩ := mem_memberNames hmember
    obtain ⟨value, hvalue, rfl⟩ := List.mem_map.mp hname
    exact ⟨value, hvalue, count, heq⟩
  have hplaces : ∀ (place : Nat) (value : EnumValue), values[place]? = some value → ∃ count,
      (enumMembers values)[place]? = some (underscored (memberName value.name.toList) count) ∧
        ∀ fewer < count, underscored (memberName value.name.toList) fewer ∈
          placeholder :: (enumMembers values).take place := by
    intro place value hvalue
    obtain ⟨count, -, heq, -, hfewer⟩ :=
      leastFree_memberName ((enumMembers values).take place) value.name.toList
    refine ⟨count, ?_, hfewer⟩
    rw [getElem?_enumMembers, hvalue, Option.map_some, heq]
  refine ⟨fun member hmember ↦ ?_, fun place value hvalue hletter ↦ ?_,
    fun hall value hvalue ↦ ?_, fun hall member hmember ↦ ?_⟩
  · obtain ⟨value, hvalue, count, rfl⟩ := hmembers member hmember
    refine ⟨isKeyword_underscored_memberName _ count, fun c hc ↦ ?_⟩
    exact isIdentifierContinue_of_isNameChar
      (isNameChar_of_mem_underscored_memberName (hnames value hvalue) hc)
  · obtain ⟨count, heq, -⟩ := hplaces place value hvalue
    have hschema := hnames value (List.mem_of_getElem? hvalue)
    exact ⟨_, heq, isName_underscored_memberName hschema hletter count⟩
  · by_contra hletter
    obtain ⟨place, hplace⟩ := List.mem_iff_getElem?.mp hvalue
    obtain ⟨count, heq, hfewer⟩ := hplaces place value hplace
    rcases memberName_of_not_opensWithLetter (hnames value hvalue) hletter with hempty | hdigit
    · -- The empty name is the member of this value or of one before it.
      have hmember : [] ∈ enumMembers values := by
        rw [hempty] at heq hfewer
        cases count with
        | zero => exact List.mem_of_getElem? heq
        | succ count =>
          rcases List.mem_cons.mp (hfewer 0 (Nat.succ_pos count)) with hnone | hbefore
          · exact absurd hnone (by decide)
          · exact List.mem_of_mem_take hbefore
      exact absurd (hall [] hmember) (by decide)
    · have hname := hall _ (List.mem_of_getElem? heq)
      rw [isName, hdigit count, Bool.false_and] at hname
      exact absurd hname (by decide)
  · obtain ⟨value, hvalue, count, rfl⟩ := hmembers member hmember
    exact isName_underscored_memberName (hnames value hvalue) (hall value hvalue) count

/-- Values with underscores in front, behind and between, with digits, and with the letters of a
reserved word. -/
def markedValues : List EnumValue :=
  [{ name := "__TYPE" }, { name := "_2_" }, { name := "NONE" }, { name := "none__" }]

theorem enumMembers_isName_iff_markedValues :
    (∀ value ∈ markedValues, IsSchemaName value.name.toList) ∧
      OpensWithLetter "__TYPE".toList ∧ ¬ OpensWithLetter "_2_".toList ∧
      (∃ member, (enumMembers markedValues)[0]? = some member ∧ isName member = true) ∧
      ¬ ∀ member ∈ enumMembers markedValues, isName member = true := by
  have hnames : ∀ value ∈ markedValues, IsSchemaName value.name.toList := by decide
  have hfirst : OpensWithLetter "__TYPE".toList := by decide
  have hsecond : ¬ OpensWithLetter "_2_".toList := by decide
  obtain ⟨-, hplaces, hall⟩ := enumMembers_isName_iff hnames
  refine ⟨hnames, hfirst, hsecond, hplaces 0 _ rfl hfirst, fun hisName ↦ ?_⟩
  exact hsecond (hall.mp hisName { name := "_2_" } (by decide))

/-- An enum whose only value is an underscore. -/
def underscoreEnum : NamedType := { name := "E", body := .enum [{ name := "_" }] }

theorem generate_underscoreEnum :
    Templates.generate {} "out.py" [underscoreEnum] = .error (.notModule "out.py") := by
  have hsorted : sortTypes [underscoreEnum] = .ok [underscoreEnum] := rfl
  rw [ModuleLines.generate_of_sortTypes hsorted, ModuleLines.render_of_moduleAround
    (by decide) (ModuleLines.moduleAround_eq _), if_neg, Template.isModule_prelude_append,
    if_neg]
  · decide
  · rw [List.mem_append, not_or]
    exact ⟨fun hmem ↦ (Template.ne_of_mem_prelude hmem).2 rfl, by decide⟩

/-- A value of nothing but underscores has the empty name, with which there is no module, and a
value with a digit behind them has a name that begins with the digit. -/
theorem enumMembers_not_isName :
    (IsSchemaName "_".toList ∧ enumMembers [{ name := "_" }] = [[]] ∧ isIdentifier [] = false ∧
        Templates.generate {} "out.py" [underscoreEnum] = .error (.notModule "out.py")) ∧
      IsSchemaName "_1".toList ∧ enumMembers [{ name := "_1" }] = [['1']] ∧
        isIdentifier ['1'] = false :=
  ⟨⟨by decide, by decide, rfl, generate_underscoreEnum⟩, by decide, by decide, by decide⟩

end SchemaBindings
