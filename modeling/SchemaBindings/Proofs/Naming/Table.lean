import SchemaBindings.Proofs.Naming.Plain
import SchemaBindings.Sdl.Token
/-!
# Names of the schema language in upper case

A name of the schema language (`IsSchemaName`) has letters of ASCII, digits and underscores only.
There the case mappings go letter by letter (`lower_eq_map`, `upper_eq_map`), and underscores that
are put between words leave the first character in front. So the upper case of a name is again one
(`IsSchemaName.upperSnake`), and it is no shorter than the name
(`IsSchemaName.length_le_upperSnake`). The table of an enum is named by that upper case and an
ending (`tableName`), so two enums share the name of a table exactly when they share the upper case
(`tableName_inj`).
-/

set_option autoImplicit false
set_option relaxedAutoImplicit false

namespace SchemaBindings.Naming

open SchemaBindings.Text SchemaBindings.Sdl

/-! ### Names of the schema language -/

/-- A name as the schema language spells it. -/
def IsSchemaName (name : List Char) : Prop :=
  name.head?.any isNameStart = true ∧ ∀ c ∈ name, isNameChar c = true

instance (name : List Char) : Decidable (IsSchemaName name) :=
  decidable_of_iff (name.head?.any isNameStart = true ∧ name.all isNameChar = true)
    (and_congr_right fun _ ↦ List.all_eq_true)

theorem isNameStart_iff (c : Char) :
    isNameStart c = true ↔
      (0x61 ≤ c.toNat ∧ c.toNat ≤ 0x7a) ∨ (0x41 ≤ c.toNat ∧ c.toNat ≤ 0x5a) ∨ c.toNat = 0x5f := by
  have hmark : c = '_' ↔ c.toNat = 0x5f := by
    rw [← Char.toNat_inj]
    rfl
  rw [isNameStart, Bool.or_eq_true, Bool.or_eq_true, isLowerLetter_iff, isUpperLetter_iff,
    beq_iff_eq, hmark, or_assoc]

theorem isNameChar_iff (c : Char) :
    isNameChar c = true ↔ isNameStart c = true ∨ (0x30 ≤ c.toNat ∧ c.toNat ≤ 0x39) := by
  rw [isNameChar, Bool.or_eq_true, isDigit, Bool.and_eq_true, decide_eq_true_eq, decide_eq_true_eq]
  exact Iff.rfl

theorem lt_of_isNameChar {c : Char} (hc : isNameChar c = true) : c.toNat < 0x80 := by
  rw [isNameChar_iff, isNameStart_iff] at hc
  omega

theorem IsSchemaName.isPlainText {name : List Char} (hname : IsSchemaName name) :
    IsPlainText name := by
  intro c hc
  have hchar := hname.2 c hc
  rw [isNameChar_iff, isNameStart_iff] at hchar
  rw [← Char.ofNat_toNat c]
  exact isPlain_ofNat_of_ascii (by omega) (by omega)

theorem IsSchemaName.ne_nil {name : List Char} (hname : IsSchemaName name) : name ≠ [] := by
  rintro rfl
  exact absurd hname.1 (by decide)

/-! ### Letter case -/

/-- A letter of ASCII in lower case. -/
def lowerLetter (c : Char) : Char :=
  if isUpperLetter c then Char.ofNat (c.toNat + 32) else c

/-- A letter of ASCII in upper case. -/
def upperLetter (c : Char) : Char :=
  if isLowerLetter c then Char.ofNat (c.toNat - 32) else c

theorem toNat_ofNat_of_ascii {code : Nat} (hcode : code < 0x80) :
    (Char.ofNat code).toNat = code := by
  have hvalid : code.isValidChar := Or.inl (by omega)
  rw [Char.ofNat, dif_pos hvalid]
  rfl

theorem upper_eq_map {text : List Char} (htext : ∀ c ∈ text, isNameChar c = true) :
    upper text = text.map upperLetter := by
  rw [upper, List.map_eq_flatMap]
  refine List.flatMap_congr fun c hc ↦ ?_
  rw [upperChar, if_pos (lt_of_isNameChar (htext c hc)), upperLetter]

theorem lowerAfter_eq_map (before : List Char) {text : List Char}
    (htext : ∀ c ∈ text, isNameChar c = true) :
    lowerAfter before text = text.map lowerLetter := by
  induction text generalizing before with
  | nil => rfl
  | cons c rest ih =>
    rw [List.forall_mem_cons] at htext
    have hascii := lt_of_isNameChar htext.1
    have hsigma : c ≠ capitalSigma := by
      rintro rfl
      exact absurd hascii (by decide)
    rw [lowerAfter, if_neg hsigma, lowerChar, if_pos hascii, ih _ htext.2, List.map_cons,
      lowerLetter]
    rfl

theorem lower_eq_map {text : List Char} (htext : ∀ c ∈ text, isNameChar c = true) :
    lower text = text.map lowerLetter :=
  lowerAfter_eq_map [] htext

/-- A mapping of characters that changes neither whether a name may begin with a character nor
whether it may go on with it. -/
def KeepsClasses (mapping : Char → Char) : Prop :=
  ∀ c, (isNameStart (mapping c) = true ↔ isNameStart c = true) ∧
    (isNameChar (mapping c) = true ↔ isNameChar c = true)

theorem IsSchemaName.map {mapping : Char → Char} {name : List Char} (hname : IsSchemaName name)
    (hmapping : KeepsClasses mapping) : IsSchemaName (name.map mapping) := by
  constructor
  · cases name with
    | nil => exact absurd hname.1 (by decide)
    | cons c rest => exact (hmapping c).1.mpr hname.1
  · intro d hd
    obtain ⟨c, hc, rfl⟩ := List.mem_map.mp hd
    exact (hmapping c).2.mpr (hname.2 c hc)

theorem toNat_lowerLetter (c : Char) :
    (lowerLetter c).toNat = if isUpperLetter c then c.toNat + 32 else c.toNat := by
  rw [lowerLetter]
  split_ifs with hupper
  · rw [isUpperLetter_iff] at hupper
    exact toNat_ofNat_of_ascii (by omega)
  · rfl

theorem toNat_upperLetter (c : Char) :
    (upperLetter c).toNat = if isLowerLetter c then c.toNat - 32 else c.toNat := by
  rw [upperLetter]
  split_ifs with hlower
  · rw [isLowerLetter_iff] at hlower
    exact toNat_ofNat_of_ascii (by omega)
  · rfl

theorem keepsClasses_lowerLetter : KeepsClasses lowerLetter := by
  intro c
  simp only [isNameChar_iff, isNameStart_iff, toNat_lowerLetter]
  split_ifs with hupper
  · rw [isUpperLetter_iff] at hupper
    omega
  · exact ⟨Iff.rfl, Iff.rfl⟩

theorem keepsClasses_upperLetter : KeepsClasses upperLetter := by
  intro c
  simp only [isNameChar_iff, isNameStart_iff, toNat_upperLetter]
  split_ifs with hlower
  · rw [isLowerLetter_iff] at hlower
    omega
  · exact ⟨Iff.rfl, Iff.rfl⟩

/-! ### Underscores between words -/

theorem head?_breakBeforeWords (inTail : Bool) (name : List Char) :
    (breakBeforeWords inTail name).head? = name.head? := by
  fun_cases breakBeforeWords inTail name <;> rfl

theorem head?_breakBeforeCapitals (name : List Char) :
    (breakBeforeCapitals name).head? = name.head? := by
  fun_cases breakBeforeCapitals name <;> rfl

theorem length_le_breakBeforeWords (inTail : Bool) (name : List Char) :
    name.length ≤ (breakBeforeWords inTail name).length := by
  fun_induction breakBeforeWords inTail name with
  | case1 inTail c d e rest hskip ih => simpa using ih
  | case2 inTail c d e rest hskip hmatch ih =>
    simp only [List.length_cons]
    omega
  | case3 inTail c d e rest hskip hmatch ih => simpa using ih
  | case4 inTail short hshort => exact Nat.le_refl _

theorem length_le_breakBeforeCapitals (name : List Char) :
    name.length ≤ (breakBeforeCapitals name).length := by
  fun_induction breakBeforeCapitals name with
  | case1 c d rest hmatch ih =>
    simp only [List.length_cons]
    omega
  | case2 c d rest hmatch ih => simpa using ih
  | case3 short hshort => exact Nat.le_refl _

namespace IsSchemaName

variable {name : List Char}

theorem breakBeforeWords (hname : IsSchemaName name) (inTail : Bool) :
    IsSchemaName (Naming.breakBeforeWords inTail name) := by
  refine ⟨by rw [head?_breakBeforeWords, hname.1], fun c hc ↦ ?_⟩
  rcases mem_breakBeforeWords hc with hmem | rfl
  · exact hname.2 c hmem
  · decide

theorem breakBeforeCapitals (hname : IsSchemaName name) :
    IsSchemaName (Naming.breakBeforeCapitals name) := by
  refine ⟨by rw [head?_breakBeforeCapitals, hname.1], fun c hc ↦ ?_⟩
  rcases mem_breakBeforeCapitals hc with hmem | rfl
  · exact hname.2 c hmem
  · decide

/-- The upper case of a name of the schema language, letter by letter. -/
theorem upperSnake_eq (hname : IsSchemaName name) :
    Naming.upperSnake name =
      ((Naming.breakBeforeCapitals (Naming.breakBeforeWords false name)).map lowerLetter).map
        upperLetter := by
  have hbroken := (hname.breakBeforeWords false).breakBeforeCapitals
  rw [Naming.upperSnake, snake, lower_eq_map hbroken.2,
    upper_eq_map (hbroken.map keepsClasses_lowerLetter).2]

theorem upperSnake (hname : IsSchemaName name) : IsSchemaName (Naming.upperSnake name) := by
  rw [hname.upperSnake_eq]
  exact ((hname.breakBeforeWords false).breakBeforeCapitals.map keepsClasses_lowerLetter).map
    keepsClasses_upperLetter

/-- Upper case adds underscores and takes nothing away. -/
theorem length_le_upperSnake (hname : IsSchemaName name) :
    name.length ≤ (Naming.upperSnake name).length := by
  rw [hname.upperSnake_eq, List.length_map, List.length_map]
  calc name.length ≤ (Naming.breakBeforeWords false name).length :=
        length_le_breakBeforeWords false name
    _ ≤ (Naming.breakBeforeCapitals (Naming.breakBeforeWords false name)).length :=
        length_le_breakBeforeCapitals _

end IsSchemaName

/-! ### Names of tables -/

/-- What the name of a table adds to the upper case of its enum's name. -/
def tableEnding : List Char := "_WIRE_NAMES".toList

/-- The name of the table of an enum. -/
def tableName (name : List Char) : List Char :=
  upperSnake name ++ tableEnding

theorem length_tableEnding : tableEnding.length = 11 := by
  decide

theorem tableName_inj {first second : List Char} :
    tableName first = tableName second ↔ upperSnake first = upperSnake second :=
  List.append_left_inj tableEnding

namespace IsSchemaName

variable {name : List Char}

theorem tableName (hname : IsSchemaName name) : IsSchemaName (Naming.tableName name) := by
  have hupper := hname.upperSnake
  constructor
  · rw [Naming.tableName, List.head?_append_of_ne_nil _ hupper.ne_nil]
    exact hupper.1
  · rw [Naming.tableName, List.forall_mem_append]
    exact ⟨hupper.2, List.all_eq_true.mp (by decide)⟩

theorem length_add_le_tableName (hname : IsSchemaName name) :
    name.length + 11 ≤ (Naming.tableName name).length := by
  rw [Naming.tableName, List.length_append, length_tableEnding]
  exact Nat.add_le_add_right hname.length_le_upperSnake 11

end IsSchemaName

end SchemaBindings.Naming
