import Mathlib.Order.Lattice
import SchemaBindings.Json.Reader
/-!
# Nesting

How deep arrays and objects nest in a value: all of them (`fullNesting`), or those with something in
them (`nesting`). The reader bounds the second. A bound admits so many levels or not, and entering
one takes it off (`Depth.admits_succ_iff_of_enter`), so that an array or object is admitted where
what is in it is, one level further in (`Depth.admits_arr`, `Depth.admits_obj`).
-/

set_option autoImplicit false
set_option relaxedAutoImplicit false

namespace SchemaBindings.Json

mutual

/-- How deep arrays and objects nest in a value, when one with nothing in it counts as the given
number of levels. -/
def nestingWith (empty : Nat) : Json → Nat
  | arr [] => empty
  | arr (item :: items) => max (nestingWith empty item) (itemsNesting empty items) + 1
  | obj [] => empty
  | obj ((_, value) :: members) =>
    max (nestingWith empty value) (membersNesting empty members) + 1
  | null | bool _ | int _ | float _ | str _ => 0

/-- How deep the items of a list nest. -/
def itemsNesting (empty : Nat) : List Json → Nat
  | [] => 0
  | item :: items => max (nestingWith empty item) (itemsNesting empty items)

/-- How deep the values of some members nest. -/
def membersNesting (empty : Nat) : List (String × Json) → Nat
  | [] => 0
  | (_, value) :: members => max (nestingWith empty value) (membersNesting empty members)

end

/-- How deep the arrays and objects nest that have something in them. -/
def nesting (json : Json) : Nat :=
  nestingWith 0 json

/-- How deep all arrays and objects nest. -/
def fullNesting (json : Json) : Nat :=
  nestingWith 1 json

/-- Whether so many levels may still be entered. -/
def Depth.Admits (depth : Depth) (levels : Nat) : Prop :=
  ∀ bound ∈ depth, levels ≤ bound

namespace Depth

variable {depth inner : Depth} {first second levels : Nat}

theorem admits_zero (depth : Depth) : depth.Admits 0 :=
  fun bound _ ↦ Nat.zero_le bound

theorem admits_none (levels : Nat) : Depth.Admits none levels :=
  fun _ hbound ↦ by cases hbound

theorem admits_some_iff {bound : Nat} : Depth.Admits (some bound) levels ↔ levels ≤ bound :=
  ⟨fun hadmits ↦ hadmits bound rfl, fun hle _ hbound ↦ Option.some.inj hbound ▸ hle⟩

theorem admits_max_iff :
    depth.Admits (max first second) ↔ depth.Admits first ∧ depth.Admits second :=
  ⟨fun hadmits ↦ ⟨fun bound hbound ↦ (le_max_left _ _).trans (hadmits bound hbound),
    fun bound hbound ↦ (le_max_right _ _).trans (hadmits bound hbound)⟩,
    fun hboth bound hbound ↦ max_le (hboth.1 bound hbound) (hboth.2 bound hbound)⟩

/-- Where no level may be entered, none is admitted. -/
theorem not_admits_succ_of_enter (henter : depth.enter = none) : ¬ depth.Admits (levels + 1) := by
  cases depth with
  | none => cases henter
  | some bound =>
    cases bound with
    | zero => exact fun hadmits ↦ Nat.not_succ_le_zero _ (admits_some_iff.mp hadmits)
    | succ bound => cases henter

/-- A level that is entered is one of those that were admitted. -/
theorem admits_succ_iff_of_enter (henter : depth.enter = some inner) :
    depth.Admits (levels + 1) ↔ inner.Admits levels := by
  cases depth with
  | none =>
    cases henter
    exact ⟨fun _ ↦ admits_none _, fun _ ↦ admits_none _⟩
  | some bound =>
    cases bound with
    | zero => cases henter
    | succ bound =>
      cases henter
      rw [admits_some_iff, admits_some_iff, Nat.succ_le_succ_iff]

theorem admits_itemsNesting_iff {items : List Json} :
    depth.Admits (itemsNesting 0 items) ↔ ∀ item ∈ items, depth.Admits item.nesting := by
  induction items with
  | nil => exact iff_of_true depth.admits_zero (List.forall_mem_nil _)
  | cons item items ih =>
    rw [itemsNesting, admits_max_iff, ih, List.forall_mem_cons]
    rfl

theorem admits_membersNesting_iff {members : List (String × Json)} :
    depth.Admits (membersNesting 0 members) ↔
      ∀ member ∈ members, depth.Admits member.2.nesting := by
  induction members with
  | nil => exact iff_of_true depth.admits_zero (List.forall_mem_nil _)
  | cons member members ih =>
    rw [membersNesting, admits_max_iff, ih, List.forall_mem_cons]
    rfl

end Depth

/-- An array with something in it nests one level deeper than its items. -/
theorem nesting_arr {items : List Json} (hitems : items ≠ []) :
    (arr items).nesting = itemsNesting 0 items + 1 := by
  cases items with
  | nil => exact absurd rfl hitems
  | cons item items => rfl

/-- An object with something in it nests one level deeper than the values of its members. -/
theorem nesting_obj {members : List (String × Json)} (hmembers : members ≠ []) :
    (obj members).nesting = membersNesting 0 members + 1 := by
  cases members with
  | nil => exact absurd rfl hmembers
  | cons member members => rfl

namespace Depth

variable {depth inner : Depth}

theorem admits_arr (henter : depth.enter = some inner) {items : List Json}
    (hitems : ∀ item ∈ items, inner.Admits item.nesting) : depth.Admits (arr items).nesting := by
  by_cases hnil : items = []
  · rw [hnil]
    exact depth.admits_zero
  · rw [nesting_arr hnil, admits_succ_iff_of_enter henter]
    exact admits_itemsNesting_iff.mpr hitems

theorem admits_obj (henter : depth.enter = some inner) {members : List (String × Json)}
    (hmembers : ∀ member ∈ members, inner.Admits member.2.nesting) :
    depth.Admits (obj members).nesting := by
  by_cases hnil : members = []
  · rw [hnil]
    exact depth.admits_zero
  · rw [nesting_obj hnil, admits_succ_iff_of_enter henter]
    exact admits_membersNesting_iff.mpr hmembers

end Depth

/-- An item nests less deep than the array that it is in. -/
theorem nesting_lt_of_mem {item : Json} {items : List Json} (hitem : item ∈ items) :
    item.nesting < (arr items).nesting := by
  have hadmits : Depth.Admits (some (itemsNesting 0 items)) item.nesting :=
    Depth.admits_itemsNesting_iff.mp (Depth.admits_some_iff.mpr le_rfl) item hitem
  rw [nesting_arr (List.ne_nil_of_mem hitem)]
  exact Nat.lt_succ_of_le (Depth.admits_some_iff.mp hadmits)

/-- The value of a member nests less deep than the object that it is in. -/
theorem nesting_lt_of_mem_members {member : String × Json} {members : List (String × Json)}
    (hmember : member ∈ members) : member.2.nesting < (obj members).nesting := by
  have hadmits : Depth.Admits (some (membersNesting 0 members)) member.2.nesting :=
    Depth.admits_membersNesting_iff.mp (Depth.admits_some_iff.mpr le_rfl) member hmember
  rw [nesting_obj (List.ne_nil_of_mem hmember)]
  exact Nat.lt_succ_of_le (Depth.admits_some_iff.mp hadmits)

end SchemaBindings.Json
