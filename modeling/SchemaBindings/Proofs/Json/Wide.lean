import SchemaBindings.Json.Writer
import SchemaBindings.Proofs.Json.Keys
import SchemaBindings.Proofs.Text.Utf8
/-!
# Values from outside

A value without surrogates is among the values from outside by `WideJson.ofJson`, and put together
in the same way (`ofJson_object`). Its text is made of the texts of its parts (`write_str`,
`write_arr_cons`, `write_obj_cons`).
-/

set_option autoImplicit false
set_option relaxedAutoImplicit false

namespace SchemaBindings

open Text

/-! ### Texts without surrogates -/

namespace Text

@[simp] theorem wide_cons (c : Char) (text : List Char) :
    wide (c :: text) = .char c :: wide text := rfl

@[simp] theorem length_wide (text : List Char) : (wide text).length = text.length :=
  List.length_map _

theorem wide_eq_cons_iff {text : List Char} {c : Char} {rest : WideText} :
    wide text = .char c :: rest ↔ ∃ behind, text = c :: behind ∧ wide behind = rest := by
  rw [wide, List.map_eq_cons_iff]
  simp [wide]

theorem wide_injective : Function.Injective wide :=
  List.map_injective_iff.mpr fun _ _ heq ↦ CodePoint.char.inj heq

/-- The bytes of a text are read as that text. -/
theorem WideText.ofUtf8?_utf8 (text : List Char) :
    WideText.ofUtf8? (utf8 text) = some (wide text) := by
  induction text with
  | nil =>
    rw [utf8, List.flatMap_nil, WideText.ofUtf8?]
    rfl
  | cons c text ih =>
    obtain ⟨first, rest, size, hbytes, hfront, hdrop⟩ := utf8Front_utf8 c text
    rw [hbytes, WideText.ofUtf8?, hfront]
    simp only [hdrop, ih]
    rfl

end Text

/-! ### Values without surrogates -/

namespace WideJson

theorem ofItems_eq_map (items : List Json) : ofItems items = items.map ofJson := by
  induction items with
  | nil => rfl
  | cons item items ih => rw [ofItems, ih, List.map_cons]

theorem ofMembers_eq_map (members : List (String × Json)) :
    ofMembers members = members.map fun member ↦ (wide member.1.toList, ofJson member.2) := by
  induction members with
  | nil => rfl
  | cons member members ih => rw [ofMembers, ih, List.map_cons]

theorem wide_toList_inj {first second : String} :
    wide first.toList = wide second.toList ↔ first = second :=
  wide_injective.eq_iff.trans String.toList_inj

@[simp] theorem wide_toList_beq (first second : String) :
    (wide first.toList == wide second.toList) = (first == second) := by
  rw [Bool.eq_iff_iff, beq_iff_eq, beq_iff_eq, wide_toList_inj]

theorem ofMembers_put (members : List (String × Json)) (key : String) (value : Json) :
    ofMembers (Json.put members key value) =
      Json.put (ofMembers members) (wide key.toList) (ofJson value) := by
  induction members with
  | nil => rfl
  | cons member members ih =>
    rw [Json.put, ofMembers, Json.put, wide_toList_beq]
    split_ifs
    · rfl
    · rw [ofMembers, ih]

/-- An object without surrogates that is put together from members. -/
theorem ofJson_object (members : List (String × Json)) :
    ofJson (Json.object members) = object (ofMembers members) := by
  have hcollect : ofMembers (Json.collect members) = Json.collect (ofMembers members) := by
    induction members using List.reverseRecOn with
    | nil => rfl
    | append_singleton front member ih =>
      have hfront : ofMembers (front ++ [member]) =
          ofMembers front ++ [(wide member.1.toList, ofJson member.2)] := by
        rw [ofMembers_eq_map, List.map_append, ← ofMembers_eq_map]
        rfl
      rw [hfront, Json.collect_append_singleton, Json.collect_append_singleton, ofMembers_put, ih]
  rw [Json.object, ofJson, hcollect, object]

end WideJson

/-! ### Writing -/

namespace Json

/-- A string without surrogates between its quotes. -/
def writeString (text : String) : List Char :=
  '"' :: (text.toList.flatMap escapeChar ++ ['"'])

/-- The items of a list without surrogates after the first. -/
def writeItems (layout : Layout) (level : Nat) (items : List Json) : List Char :=
  WideJson.writeItems layout level (WideJson.ofItems items)

/-- The members of an object without surrogates after the first. -/
def writeMembers (layout : Layout) (level : Nat) (members : List (String × Json)) : List Char :=
  WideJson.writeMembers layout level (WideJson.ofMembers members)

theorem writeText_wide (text : String) : writeText (wide text.toList) = writeString text := by
  rw [writeText, wide, List.flatMap_map]
  rfl

section Equations

variable (layout : Layout) (level : Nat)

theorem write_str (value : String) : write layout level (.str value) = writeString value := by
  rw [← writeText_wide]
  rfl

theorem write_arr_cons (item : Json) (items : List Json) :
    write layout level (.arr (item :: items)) =
      '[' :: (layout.edge (level + 1) ++ write layout (level + 1) item ++
        writeItems layout (level + 1) items ++ layout.edge level ++ [']']) := rfl

theorem write_obj_cons (key : String) (value : Json) (members : List (String × Json)) :
    write layout level (.obj ((key, value) :: members)) =
      '\x7b' :: (layout.edge (level + 1) ++ writeString key ++ [':', ' '] ++
        write layout (level + 1) value ++ writeMembers layout (level + 1) members ++
        layout.edge level ++ ['\x7d']) := by
  rw [← writeText_wide]
  rfl

theorem writeItems_nil : writeItems layout level [] = [] := rfl

theorem writeItems_cons (item : Json) (items : List Json) :
    writeItems layout level (item :: items) =
      layout.between level ++ write layout level item ++ writeItems layout level items := rfl

theorem writeMembers_nil : writeMembers layout level [] = [] := rfl

theorem writeMembers_cons (key : String) (value : Json) (members : List (String × Json)) :
    writeMembers layout level ((key, value) :: members) =
      layout.between level ++ writeString key ++ [':', ' '] ++ write layout level value ++
        writeMembers layout level members := by
  rw [← writeText_wide]
  rfl

end Equations

end Json

end SchemaBindings
