import Mathlib.Data.List.Induction
import Mathlib.Data.List.Nodup
import Mathlib.Tactic.SplitIfs
import SchemaBindings.Json.Basic
/-!
# Repeated keys

An object that is put together from members answers with the last value of a key (`get?_object`),
and holds each key once (`nodup_keys_collect`). Members that hold each key once are what an object
is made of (`collect_eq_self`).
-/

set_option autoImplicit false
set_option relaxedAutoImplicit false

namespace SchemaBindings.Json

/-! ### Members -/

section Members

variable {κ υ : Type} [BEq κ] [LawfulBEq κ]

theorem lookup_put (members : List (κ × υ)) (key : κ) (value : υ) (name : κ) :
    (put members key value).lookup name =
      if name == key then some value else members.lookup name := by
  induction members with
  | nil => cases hname : name == key <;> simp [put, List.lookup_cons, hname]
  | cons member rest ih =>
    obtain ⟨other, old⟩ := member
    rw [put]
    by_cases hother : other = key
    · subst hother
      cases hname : name == other <;> simp [List.lookup_cons, hname]
    · rw [if_neg (by simpa using hother), List.lookup_cons, List.lookup_cons, ih]
      cases hname : name == other with
      | false => rfl
      | true =>
        have hne : (name == key) = false :=
          beq_eq_false_iff_ne.mpr fun heq ↦ hother ((beq_iff_eq.mp hname).symm.trans heq)
        rw [hne]
        rfl

theorem mem_keys_put (members : List (κ × υ)) (key : κ) (value : υ) (name : κ) :
    name ∈ (put members key value).map Prod.fst ↔ name = key ∨ name ∈ members.map Prod.fst := by
  induction members with
  | nil => simp [put]
  | cons member rest ih =>
    obtain ⟨other, old⟩ := member
    rw [put]
    by_cases hother : other = key
    · simp [hother]
    · rw [if_neg (by simpa using hother), List.map_cons, List.mem_cons, ih, List.map_cons,
        List.mem_cons]
      tauto

theorem nodup_keys_put {members : List (κ × υ)} (hnodup : (members.map Prod.fst).Nodup)
    (key : κ) (value : υ) : ((put members key value).map Prod.fst).Nodup := by
  induction members with
  | nil => simp [put]
  | cons member rest ih =>
    obtain ⟨other, old⟩ := member
    rw [List.map_cons, List.nodup_cons] at hnodup
    rw [put]
    by_cases hother : other = key
    · subst hother
      simpa using hnodup
    · rw [if_neg (by simpa using hother), List.map_cons, List.nodup_cons, mem_keys_put]
      exact ⟨not_or.mpr ⟨hother, hnodup.1⟩, ih hnodup.2⟩

omit [LawfulBEq κ] in
theorem mem_put {members : List (κ × υ)} {key : κ} {value : υ} {member : κ × υ}
    (hmember : member ∈ put members key value) : member = (key, value) ∨ member ∈ members := by
  induction members with
  | nil => exact .inl (List.mem_singleton.mp hmember)
  | cons first rest ih =>
    obtain ⟨other, old⟩ := first
    rw [put] at hmember
    split_ifs at hmember
    · rcases List.mem_cons.mp hmember with rfl | hrest
      · exact .inl rfl
      · exact .inr (List.mem_cons_of_mem _ hrest)
    · rcases List.mem_cons.mp hmember with rfl | hrest
      · exact .inr List.mem_cons_self
      · exact (ih hrest).imp_right (List.mem_cons_of_mem _)

theorem put_of_notMem {members : List (κ × υ)} {key : κ} (hnew : key ∉ members.map Prod.fst)
    (value : υ) : put members key value = members ++ [(key, value)] := by
  induction members with
  | nil => rfl
  | cons member rest ih =>
    obtain ⟨other, old⟩ := member
    rw [List.map_cons, List.mem_cons, not_or] at hnew
    rw [put, if_neg (by simpa using Ne.symm hnew.1), ih hnew.2, List.cons_append]

omit [LawfulBEq κ] in
theorem collect_append_singleton (front : List (κ × υ)) (member : κ × υ) :
    collect (front ++ [member]) = put (collect front) member.1 member.2 := by
  rw [collect, List.foldl_append]
  rfl

theorem lookup_collect (members : List (κ × υ)) (key : κ) :
    (collect members).lookup key = members.reverse.lookup key := by
  induction members using List.reverseRecOn with
  | nil => rfl
  | append_singleton front member ih =>
    rw [collect_append_singleton, lookup_put, List.reverse_concat, ih, List.lookup_cons]
    cases hname : key == member.1 <;> rfl

theorem nodup_keys_collect (members : List (κ × υ)) :
    ((collect members).map Prod.fst).Nodup := by
  induction members using List.reverseRecOn with
  | nil => exact List.nodup_nil
  | append_singleton front member ih =>
    rw [collect_append_singleton]
    exact nodup_keys_put ih _ _

omit [LawfulBEq κ] in
theorem mem_of_mem_collect {members : List (κ × υ)} {member : κ × υ}
    (hmember : member ∈ collect members) : member ∈ members := by
  induction members using List.reverseRecOn with
  | nil => exact hmember
  | append_singleton front last ih =>
    rw [collect_append_singleton] at hmember
    rcases mem_put hmember with rfl | hold
    · exact List.mem_append_right front (List.mem_singleton_self _)
    · exact List.mem_append_left _ (ih hold)

/-- Members that hold each key once stay as they are. -/
theorem collect_eq_self {members : List (κ × υ)} (hkeys : (members.map Prod.fst).Nodup) :
    collect members = members := by
  induction members using List.reverseRecOn with
  | nil => rfl
  | append_singleton front member ih =>
    rw [List.map_append, List.nodup_append] at hkeys
    obtain ⟨hfront, -, hapart⟩ := hkeys
    rw [collect_append_singleton, ih hfront, put_of_notMem]
    exact fun hmem ↦ hapart _ hmem _ (List.mem_singleton_self _) rfl

end Members

/-- The last value of a key is the value that an object has for it. -/
theorem get?_object (members : List (String × Json)) (key : String) :
    (object members).get? key = members.reverse.lookup key :=
  lookup_collect members key

/-! ### Values -/

/-- No object in a value, at any depth, holds a key twice. -/
inductive HasDistinctKeys : Json → Prop
  | null : HasDistinctKeys .null
  | bool (value : Bool) : HasDistinctKeys (.bool value)
  | int (value : Int) : HasDistinctKeys (.int value)
  | float (value : Binary64) : HasDistinctKeys (.float value)
  | str (value : String) : HasDistinctKeys (.str value)
  | arr {items : List Json} (hitems : ∀ item ∈ items, HasDistinctKeys item) :
      HasDistinctKeys (.arr items)
  | obj {members : List (String × Json)} (hkeys : (members.map Prod.fst).Nodup)
      (hvalues : ∀ member ∈ members, HasDistinctKeys member.2) : HasDistinctKeys (.obj members)

end SchemaBindings.Json
