import SchemaBindings.Json.Reader
import SchemaBindings.Proofs.Except
import SchemaBindings.Proofs.Json.Keys
import SchemaBindings.Proofs.Json.Nesting
import SchemaBindings.Proofs.Number.Rounding
/-!
# Values that are read

Whatever a value is made of is read before the value: a value is read in one of a few ways, which its
first character tells (`ReadsValue.of_readValue`). A property that goes over from the parts of a
value to the value therefore holds of all that is read (`KeptByReader.of_read`). So a value that is
read is regular (`isRegular_of_read`): its numbers are in normal form and no object in it holds a
key twice. And it nests no deeper than the bound admits (`admits_nesting_of_read`).
-/

set_option autoImplicit false
set_option relaxedAutoImplicit false

namespace SchemaBindings.Json

/-- The numbers in a value are in normal form, and no object in it holds a key twice. -/
inductive IsRegular : Json → Prop
  | null : IsRegular .null
  | bool (value : Bool) : IsRegular (.bool value)
  | int (value : Int) : IsRegular (.int value)
  | float {value : Binary64} (hnormal : value.IsNormal) : IsRegular (.float value)
  | str (value : String) : IsRegular (.str value)
  | arr {items : List Json} (hitems : ∀ item ∈ items, IsRegular item) : IsRegular (.arr items)
  | obj {members : List (String × Json)} (hkeys : (members.map Prod.fst).Nodup)
      (hvalues : ∀ member ∈ members, IsRegular member.2) : IsRegular (.obj members)

theorem IsRegular.hasDistinctKeys {json : Json} (hregular : IsRegular json) :
    HasDistinctKeys json := by
  induction hregular with
  | null => exact .null
  | bool value => exact .bool value
  | int value => exact .int value
  | float => exact .float _
  | str value => exact .str value
  | arr _ ih => exact .arr ih
  | obj hkeys _ ih => exact .obj hkeys ih

theorem isRegular_arr_iff {items : List Json} :
    IsRegular (.arr items) ↔ ∀ item ∈ items, IsRegular item :=
  ⟨fun | .arr hitems => hitems, .arr⟩

theorem isRegular_obj_iff {members : List (String × Json)} :
    IsRegular (.obj members) ↔
      (members.map Prod.fst).Nodup ∧ ∀ member ∈ members, IsRegular member.2 :=
  ⟨fun | .obj hkeys hvalues => ⟨hkeys, hvalues⟩, fun hall ↦ .obj hall.1 hall.2⟩

/-! ### The reader -/

/-- Values that a number in a text stands for. -/
inductive IsNumber : Json → Prop
  | int (value : Int) : IsNumber (.int value)
  | float {value : Binary64} (hnormal : value.IsNormal) : IsNumber (.float value)

theorem IsNumber.isRegular {value : Json} (hnumber : IsNumber value) : IsRegular value := by
  cases hnumber with
  | int value => exact .int value
  | float hnormal => exact .float hnormal

/-- Nothing nests in a number. -/
theorem IsNumber.nesting_eq_zero {value : Json} (hnumber : IsNumber value) :
    value.nesting = 0 := by
  cases hnumber with
  | int value => rfl
  | float hnormal => rfl

theorem isNumber_floatOf (negative : Bool) (whole fraction : List Char) (exponent : Int) :
    IsNumber (floatOf negative whole fraction exponent) :=
  .float (Binary64.isNormal_ofDecimal _ _ _ _)

theorem isNumber_of_readFraction {negative : Bool} {whole text rest : List Char}
    {value : Json} (hread : readFraction negative whole text = .ok (value, rest)) :
    IsNumber value := by
  unfold readFraction at hread
  split at hread
  · obtain ⟨⟨fraction, behind⟩, -, hread⟩ := bind_eq_ok_iff.mp hread
    dsimp only at hread
    split at hread
    · split at hread
      · obtain ⟨_, -, hread⟩ := bind_eq_ok_iff.mp hread
        cases hread
        exact isNumber_floatOf _ _ _ _
      · cases hread
        exact isNumber_floatOf _ _ _ _
    · cases hread
      exact isNumber_floatOf _ _ _ _
  · split at hread
    · obtain ⟨_, -, hread⟩ := bind_eq_ok_iff.mp hread
      cases hread
      exact isNumber_floatOf _ _ _ _
    · cases hread
      exact .int _
  · cases hread
    exact .int _

theorem isNumber_of_readUnsigned {negative : Bool} {text rest : List Char}
    {value : Json} (hread : readUnsigned negative text = .ok (value, rest)) :
    IsNumber value := by
  unfold readUnsigned at hread
  split at hread
  · cases hread
  · split at hread
    · cases hread
    · exact isNumber_of_readFraction hread
  · obtain ⟨_, -, hread⟩ := bind_eq_ok_iff.mp hread
    cases hread
    exact .float trivial
  · obtain ⟨_, -, hread⟩ := bind_eq_ok_iff.mp hread
    exact isNumber_of_readFraction hread

theorem isNumber_of_readNumber {text rest : List Char} {value : Json}
    (hread : readNumber text = .ok (value, rest)) : IsNumber value := by
  unfold readNumber at hread
  split at hread
  · exact isNumber_of_readUnsigned hread
  · exact isNumber_of_readUnsigned hread

theorem isNumber_of_readBoundedNumber {text rest : List Char} {value : Json}
    (hread : readBoundedNumber text = .ok (value, rest)) : IsNumber value := by
  unfold readBoundedNumber at hread
  split at hread
  · cases hread
  · exact isNumber_of_readNumber hread

/-- The characters that a number begins with: a digit, a sign, or the word for infinity. -/
def BeginsNumber (c : Char) : Prop :=
  Text.isDigit c = true ∨ c = '-' ∨ c = 'I'

instance (c : Char) : Decidable (BeginsNumber c) :=
  inferInstanceAs (Decidable (_ ∨ _))

theorem BeginsNumber.ne {c d : Char} (hc : BeginsNumber c) (hd : ¬ BeginsNumber d) : c ≠ d := by
  rintro rfl
  exact hd hc

/-- The ways to read a value, one for each sort of value. -/
inductive ReadsValue (fuel : Nat) (depth : Depth) : List Char → Json → List Char → Prop
  | null {text rest : List Char} (hword : readWord "ull".toList text = .ok rest) :
      ReadsValue fuel depth ('n' :: text) .null rest
  | isTrue {text rest : List Char} (hword : readWord "rue".toList text = .ok rest) :
      ReadsValue fuel depth ('t' :: text) (.bool true) rest
  | isFalse {text rest : List Char} (hword : readWord "alse".toList text = .ok rest) :
      ReadsValue fuel depth ('f' :: text) (.bool false) rest
  | nan {text rest : List Char} (hword : readWord "aN".toList text = .ok rest) :
      ReadsValue fuel depth ('N' :: text) (.float .nan) rest
  | str {text letters rest : List Char} (hletters : readString fuel text = .ok (letters, rest)) :
      ReadsValue fuel depth ('"' :: text) (.str (String.ofList letters)) rest
  | emptyArr {text rest : List Char} (hends : skipSpace text = ']' :: rest) :
      ReadsValue fuel depth ('[' :: text) (.arr []) rest
  | arr {text rest : List Char} {inner : Depth} {items : List Json}
      (hgoesOn : ∀ behind, skipSpace text ≠ ']' :: behind) (henter : depth.enter = some inner)
      (hitems : readItems fuel inner (skipSpace text) = .ok (items, rest)) :
      ReadsValue fuel depth ('[' :: text) (.arr items) rest
  | emptyObj {text rest : List Char} (hends : skipSpace text = '\x7d' :: rest) :
      ReadsValue fuel depth ('\x7b' :: text) (.obj []) rest
  | object {text first behind rest : List Char} {key : String} {inner : Depth}
      {members : List (String × Json)} (hfirst : skipSpace text = '"' :: first)
      (hkey : readKey fuel first = .ok (key, behind)) (henter : depth.enter = some inner)
      (hmembers : readMembers fuel inner key behind = .ok (members, rest)) :
      ReadsValue fuel depth ('\x7b' :: text) (.object members) rest
  | number {c : Char} {text rest : List Char} {value : Json} (hhead : BeginsNumber c)
      (hnumber : readBoundedNumber (c :: text) = .ok (value, rest)) :
      ReadsValue fuel depth (c :: text) value rest

/-- The first character of a text tells in which way a value is read. -/
theorem ReadsValue.of_readValue {fuel : Nat} {depth : Depth} {text rest : List Char} {value : Json}
    (hread : readValue (fuel + 1) depth text = .ok (value, rest)) :
    ReadsValue fuel depth text value rest := by
  cases text with
  | nil =>
    rw [readValue] at hread
    cases hread
  | cons c text =>
    rw [readValue] at hread
    split_ifs at hread with hn ht hf hnan hquote hbracket hbrace hnumber
    · subst hn
      obtain ⟨_, hword, hread⟩ := bind_eq_ok_iff.mp hread
      cases hread
      exact .null hword
    · subst ht
      obtain ⟨_, hword, hread⟩ := bind_eq_ok_iff.mp hread
      cases hread
      exact .isTrue hword
    · subst hf
      obtain ⟨_, hword, hread⟩ := bind_eq_ok_iff.mp hread
      cases hread
      exact .isFalse hword
    · subst hnan
      obtain ⟨_, hword, hread⟩ := bind_eq_ok_iff.mp hread
      cases hread
      exact .nan hword
    · subst hquote
      obtain ⟨_, hletters, hread⟩ := bind_eq_ok_iff.mp hread
      cases hread
      exact .str hletters
    · subst hbracket
      split at hread
      · cases hread
      · next hends =>
        cases hread
        exact .emptyArr hends
      · next hgoesOn =>
        split at hread
        · cases hread
        · next henter =>
          obtain ⟨_, hitems, hread⟩ := bind_eq_ok_iff.mp hread
          cases hread
          exact .arr hgoesOn henter hitems
    · subst hbrace
      split at hread
      · cases hread
      · next hends =>
        cases hread
        exact .emptyObj hends
      · next hfirst =>
        obtain ⟨_, hkey, hread⟩ := bind_eq_ok_iff.mp hread
        dsimp only at hread
        split at hread
        · cases hread
        · next henter =>
          obtain ⟨_, hmembers, hread⟩ := bind_eq_ok_iff.mp hread
          cases hread
          exact .object hfirst hkey henter hmembers
      · cases hread
    · exact .number (by simpa [BeginsNumber, or_assoc] using hnumber) hread

/-- A property of values and the bounds that they are read under which goes over from the parts of a
value to the value. -/
structure KeptByReader (P : Depth → Json → Prop) : Prop where
  null (depth : Depth) : P depth .null
  bool (depth : Depth) (value : Bool) : P depth (.bool value)
  nan (depth : Depth) : P depth (.float .nan)
  str (depth : Depth) (value : String) : P depth (.str value)
  number (depth : Depth) {text rest : List Char} {value : Json}
    (hread : readBoundedNumber text = .ok (value, rest)) : P depth value
  emptyArr (depth : Depth) : P depth (.arr [])
  arr {depth inner : Depth} (henter : depth.enter = some inner) {items : List Json}
    (hitems : ∀ item ∈ items, P inner item) : P depth (.arr items)
  emptyObj (depth : Depth) : P depth (.obj [])
  object {depth inner : Depth} (henter : depth.enter = some inner) {members : List (String × Json)}
    (hmembers : ∀ member ∈ members, P inner member.2) : P depth (.object members)

/-- Whatever is read with some fuel has a property. -/
structure Reads (P : Depth → Json → Prop) (fuel : Nat) : Prop where
  value : ∀ {depth : Depth} {text rest : List Char} {value : Json},
    readValue fuel depth text = .ok (value, rest) → P depth value
  items : ∀ {depth : Depth} {text rest : List Char} {items : List Json},
    readItems fuel depth text = .ok (items, rest) → ∀ item ∈ items, P depth item
  members : ∀ {depth : Depth} {key : String} {text rest : List Char}
    {members : List (String × Json)}, readMembers fuel depth key text = .ok (members, rest) →
      ∀ member ∈ members, P depth member.2

namespace Reads

variable {P : Depth → Json → Prop}

section Step

variable {fuel : Nat} (hfuel : Reads P fuel) {depth : Depth} {text rest : List Char}

include hfuel

theorem value_succ (hkept : KeptByReader P) {value : Json}
    (hread : readValue (fuel + 1) depth text = .ok (value, rest)) : P depth value := by
  cases ReadsValue.of_readValue hread with
  | null _ => exact hkept.null depth
  | isTrue _ => exact hkept.bool depth true
  | isFalse _ => exact hkept.bool depth false
  | nan _ => exact hkept.nan depth
  | str _ => exact hkept.str depth _
  | emptyArr _ => exact hkept.emptyArr depth
  | arr _ henter hitems => exact hkept.arr henter (hfuel.items hitems)
  | emptyObj _ => exact hkept.emptyObj depth
  | object _ _ henter hmembers => exact hkept.object henter (hfuel.members hmembers)
  | number _ hnumber => exact hkept.number depth hnumber

theorem items_succ {items : List Json}
    (hread : readItems (fuel + 1) depth text = .ok (items, rest)) :
    ∀ item ∈ items, P depth item := by
  rw [readItems] at hread
  obtain ⟨⟨item, behind⟩, hitem, hread⟩ := bind_eq_ok_iff.mp hread
  dsimp only at hread
  split at hread
  · cases hread
  · cases hread
    exact List.forall_mem_singleton.mpr (hfuel.value hitem)
  · split at hread
    · cases hread
    · cases hread
    · obtain ⟨⟨others, _⟩, hothers, hread⟩ := bind_eq_ok_iff.mp hread
      cases hread
      exact List.forall_mem_cons.mpr ⟨hfuel.value hitem, hfuel.items hothers⟩
  · cases hread

theorem members_succ {key : String} {members : List (String × Json)}
    (hread : readMembers (fuel + 1) depth key text = .ok (members, rest)) :
    ∀ member ∈ members, P depth member.2 := by
  rw [readMembers] at hread
  obtain ⟨⟨value, behind⟩, hvalue, hread⟩ := bind_eq_ok_iff.mp hread
  dsimp only at hread
  split at hread
  · cases hread
  · cases hread
    exact List.forall_mem_singleton.mpr (hfuel.value hvalue)
  · split at hread
    · cases hread
    · cases hread
    · obtain ⟨⟨nextKey, next⟩, -, hread⟩ := bind_eq_ok_iff.mp hread
      obtain ⟨⟨others, _⟩, hothers, hread⟩ := bind_eq_ok_iff.mp hread
      cases hread
      exact List.forall_mem_cons.mpr ⟨hfuel.value hvalue, hfuel.members hothers⟩
    · cases hread
  · cases hread

end Step

/-- A nested value is read with less fuel. -/
theorem of_fuel (hkept : KeptByReader P) (fuel : Nat) : Reads P fuel := by
  induction fuel with
  | zero =>
    refine ⟨fun hread ↦ ?_, fun hread ↦ ?_, fun hread ↦ ?_⟩
    · rw [readValue] at hread
      cases hread
    · rw [readItems] at hread
      cases hread
    · rw [readMembers] at hread
      cases hread
  | succ fuel hfuel => exact ⟨hfuel.value_succ hkept, hfuel.items_succ, hfuel.members_succ⟩

end Reads

/-- What goes over from the parts of a value to the value holds of every value that is read. -/
theorem KeptByReader.of_read {P : Depth → Json → Prop} (hkept : KeptByReader P) {depth : Depth}
    {text : List Char} {value : Json} (hread : read depth text = .ok value) : P depth value := by
  unfold read at hread
  split at hread
  · cases hread
  · obtain ⟨⟨found, rest⟩, hfound, hread⟩ := bind_eq_ok_iff.mp hread
    dsimp only at hread
    split at hread
    · cases hread
      exact (Reads.of_fuel hkept _).value hfound
    · cases hread

/-! ### What is read -/

theorem isRegular_object {members : List (String × Json)}
    (hvalues : ∀ member ∈ members, IsRegular member.2) : IsRegular (object members) :=
  .obj (nodup_keys_collect members) fun member hmember ↦
    hvalues member (mem_of_mem_collect hmember)

/-- A value that is read from a text is regular. -/
theorem isRegular_of_read {depth : Depth} {text : List Char} {value : Json}
    (hread : read depth text = .ok value) : IsRegular value := by
  have hkept : KeptByReader fun _ value ↦ IsRegular value :=
    { null := fun _ ↦ .null
      bool := fun _ value ↦ .bool value
      nan := fun _ ↦ .float trivial
      str := fun _ value ↦ .str value
      number := fun _ _ _ _ hread ↦ (isNumber_of_readBoundedNumber hread).isRegular
      emptyArr := fun _ ↦ .arr (List.forall_mem_nil _)
      arr := fun _ _ hitems ↦ .arr hitems
      emptyObj := fun _ ↦ .obj List.nodup_nil (List.forall_mem_nil _)
      object := fun _ _ hmembers ↦ isRegular_object hmembers }
  exact hkept.of_read hread

/-- No object in a value that is read from a text holds a key twice. -/
theorem hasDistinctKeys_of_read {depth : Depth} {text : List Char} {value : Json}
    (hread : read depth text = .ok value) : HasDistinctKeys value :=
  (isRegular_of_read hread).hasDistinctKeys

/-- A value that is read from a text nests no deeper than the bound admits. -/
theorem admits_nesting_of_read {depth : Depth} {text : List Char} {value : Json}
    (hread : read depth text = .ok value) : depth.Admits value.nesting := by
  have hkept : KeptByReader fun depth value ↦ depth.Admits value.nesting :=
    { null := Depth.admits_zero
      bool := fun depth _ ↦ depth.admits_zero
      nan := Depth.admits_zero
      str := fun depth _ ↦ depth.admits_zero
      number := fun depth _ _ _ hread ↦ by
        rw [(isNumber_of_readBoundedNumber hread).nesting_eq_zero]
        exact depth.admits_zero
      emptyArr := Depth.admits_zero
      arr := fun henter _ hitems ↦ Depth.admits_arr henter hitems
      emptyObj := Depth.admits_zero
      object := fun henter _ hmembers ↦
        Depth.admits_obj henter fun member hmember ↦ hmembers member (mem_of_mem_collect hmember) }
  exact hkept.of_read hread

end SchemaBindings.Json
