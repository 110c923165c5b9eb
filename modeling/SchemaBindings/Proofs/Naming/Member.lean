import Mathlib.Data.List.Nodup
import Mathlib.Tactic.SplitIfs
import SchemaBindings.Naming
/-!
# The members of an enum

A name that is taken gets underscores one at a time (`leastFree_eq_ite`), and no more than needed
(`leastFree_eq_underscored`): a free candidate comes before the candidates outnumber the taken
names. So the members of an enum are as many as its values (`length_memberNames`), pairwise
different (`nodup_memberNames`) and never the placeholder (`placeholder_notMem_memberNames`), and
each is the name of a value with some underscores behind it (`mem_memberNames`). The name at a place
counts only the members before it (`getElem?_memberNamesAfter`), so values that are added at the end
leave the members of the others as they are (`memberNamesAfter_append`).
-/

set_option autoImplicit false
set_option relaxedAutoImplicit false

namespace SchemaBindings.Naming

/-! ### Underscores -/

theorem underscored_zero (name : List Char) : underscored name 0 = name :=
  List.append_nil name

theorem underscored_succ (name : List Char) (count : Nat) :
    underscored name (count + 1) = underscored name count ++ ['_'] := by
  rw [underscored, underscored, List.replicate_succ', List.append_assoc]

theorem underscored_injective (name : List Char) : Function.Injective (underscored name) := by
  intro first second heq
  have hlength := congrArg List.length heq
  simpa [underscored] using hlength

/-- Among one candidate more than there are taken names, one is free. -/
theorem exists_underscored_notMem (taken : List (List Char)) (name : List Char) :
    ∃ count ≤ taken.length, underscored name count ∉ taken := by
  by_contra hall
  push Not at hall
  have hsubset : (List.range (taken.length + 1)).map (underscored name) ⊆ taken := by
    intro candidate hcandidate
    obtain ⟨count, hcount, rfl⟩ := List.mem_map.mp hcandidate
    exact hall count (Nat.le_of_lt_succ (List.mem_range.mp hcount))
  have hnodup : ((List.range (taken.length + 1)).map (underscored name)).Nodup :=
    List.nodup_range.map (underscored_injective name)
  have hlength := hnodup.length_le_of_subset hsubset
  rw [List.length_map, List.length_range] at hlength
  omega

/-- The chosen name has the fewest underscores with which it is free. -/
theorem leastFree_eq_underscored (taken : List (List Char)) (name : List Char) :
    ∃ count ≤ taken.length, leastFree taken name = underscored name count ∧
      underscored name count ∉ taken ∧ ∀ fewer < count, underscored name fewer ∈ taken := by
  rw [leastFree, List.find?_map]
  cases hfound : (List.range (taken.length + 1)).find? ((!taken.contains ·) ∘ underscored name) with
  | none =>
    obtain ⟨count, hcount, hfree⟩ := exists_underscored_notMem taken name
    have hnone := List.find?_eq_none.mp hfound count (List.mem_range.mpr (by omega))
    simp [hfree] at hnone
  | some count =>
    rw [List.find?_range_eq_some] at hfound
    obtain ⟨hfree, hcount, hfewer⟩ := hfound
    refine ⟨count, Nat.le_of_lt_succ (List.mem_range.mp hcount), rfl, by simpa using hfree, ?_⟩
    intro fewer hlt
    simpa using hfewer fewer hlt

/-- The chosen name is what is left when underscores are added one at a time for as long as the
name is taken. -/
theorem leastFree_eq_ite (taken : List (List Char)) (name : List Char) :
    leastFree taken name =
      if name ∈ taken then leastFree taken (name ++ ['_']) else name := by
  obtain ⟨count, -, heq, hfree, hfewer⟩ := leastFree_eq_underscored taken name
  split_ifs with htaken
  · obtain ⟨other, -, hother, hotherFree, hotherFewer⟩ :=
      leastFree_eq_underscored taken (name ++ ['_'])
    have hshift : ∀ k, underscored (name ++ ['_']) k = underscored name (k + 1) := fun k ↦ by
      simp [underscored, List.replicate_succ]
    have hcount : count ≠ 0 := by
      rintro rfl
      exact hfree (by simpa [underscored] using htaken)
    have hle : count ≤ other + 1 := by
      by_contra hlt
      exact hotherFree (hshift other ▸ hfewer (other + 1) (by omega))
    have hge : other + 1 ≤ count := by
      by_contra hlt
      have hmem := hotherFewer (count - 1) (by omega)
      rw [hshift, Nat.sub_add_cancel (Nat.one_le_iff_ne_zero.mpr hcount)] at hmem
      exact hfree hmem
    rw [heq, hother, hshift, Nat.le_antisymm hle hge]
  · have hcount : count = 0 := by
      by_contra hne
      exact htaken (by simpa [underscored] using hfewer 0 (Nat.pos_of_ne_zero hne))
    rw [heq, hcount, underscored, List.replicate_zero, List.append_nil]

/-- Names that are taken are passed by. -/
theorem leastFree_eq_of_forall_lt {taken : List (List Char)} {name : List Char} {count : Nat}
    (hfewer : ∀ fewer < count, underscored name fewer ∈ taken) :
    leastFree taken name = leastFree taken (underscored name count) := by
  induction count with
  | zero => rw [underscored_zero]
  | succ count ih =>
    rw [ih fun fewer hlt ↦ hfewer fewer (Nat.lt_succ_of_lt hlt), leastFree_eq_ite,
      if_pos (hfewer count (Nat.lt_succ_self count)), underscored_succ]

theorem leastFree_notMem (taken : List (List Char)) (name : List Char) :
    leastFree taken name ∉ taken := by
  obtain ⟨count, -, heq, hfree, -⟩ := leastFree_eq_underscored taken name
  rw [heq]
  exact hfree

/-! ### The members in order -/

theorem length_memberNamesAfter (taken values : List (List Char)) :
    (memberNamesAfter taken values).length = values.length := by
  induction values generalizing taken with
  | nil => rfl
  | cons value values ih => rw [memberNamesAfter, List.length_cons, ih, List.length_cons]

/-- The member at a place is chosen by the value there and the members before it. -/
theorem getElem?_memberNamesAfter (taken values : List (List Char)) (place : Nat) :
    (memberNamesAfter taken values)[place]? = values[place]?.map fun value ↦
      leastFree (((memberNamesAfter taken values).take place).reverse ++ taken)
        (memberName value) := by
  induction values generalizing taken place with
  | nil => rfl
  | cons value values ih =>
    rw [memberNamesAfter]
    cases place with
    | zero => rfl
    | succ place =>
      rw [List.getElem?_cons_succ, ih, List.getElem?_cons_succ, List.take_succ_cons,
        List.reverse_cons, List.append_assoc, List.singleton_append]

theorem memberNamesAfter_append (taken values more : List (List Char)) :
    memberNamesAfter taken (values ++ more) = memberNamesAfter taken values ++
      memberNamesAfter ((memberNamesAfter taken values).reverse ++ taken) more := by
  induction values generalizing taken with
  | nil => rfl
  | cons value values ih =>
    rw [List.cons_append, memberNamesAfter, memberNamesAfter, ih, List.reverse_cons,
      List.append_assoc, List.singleton_append, List.cons_append]

/-- A member is different from all names taken before. -/
theorem notMem_of_mem_memberNamesAfter {taken values : List (List Char)} {member : List Char}
    (hmember : member ∈ memberNamesAfter taken values) : member ∉ taken := by
  induction values generalizing taken with
  | nil => exact absurd hmember List.not_mem_nil
  | cons value values ih =>
    rcases List.mem_cons.mp hmember with rfl | hlater
    · exact leastFree_notMem taken (memberName value)
    · exact fun htaken ↦ ih hlater (List.mem_cons_of_mem _ htaken)

theorem nodup_memberNamesAfter (taken values : List (List Char)) :
    (memberNamesAfter taken values).Nodup := by
  induction values generalizing taken with
  | nil => exact List.nodup_nil
  | cons value values ih =>
    rw [memberNamesAfter, List.nodup_cons]
    refine ⟨fun hlater ↦ ?_, ih _⟩
    exact notMem_of_mem_memberNamesAfter hlater List.mem_cons_self

theorem eq_underscored_of_mem_memberNamesAfter {taken values : List (List Char)}
    {member : List Char} (hmember : member ∈ memberNamesAfter taken values) :
    ∃ value ∈ values, ∃ count, member = underscored (memberName value) count := by
  induction values generalizing taken with
  | nil => exact absurd hmember List.not_mem_nil
  | cons value values ih =>
    rcases List.mem_cons.mp hmember with rfl | hlater
    · obtain ⟨count, -, heq, -⟩ := leastFree_eq_underscored taken (memberName value)
      exact ⟨value, List.mem_cons_self, count, heq⟩
    · obtain ⟨origin, horigin, count, heq⟩ := ih hlater
      exact ⟨origin, List.mem_cons_of_mem _ horigin, count, heq⟩

/-- Values that are added at the end leave the members of the others as they are. -/
theorem memberNames_prefix (values more : List (List Char)) :
    memberNames values <+: memberNames (values ++ more) := by
  rw [memberNames, memberNames, memberNamesAfter_append]
  exact List.prefix_append _ _

theorem length_memberNames (values : List (List Char)) :
    (memberNames values).length = values.length :=
  length_memberNamesAfter [placeholder] values

theorem nodup_memberNames (values : List (List Char)) : (memberNames values).Nodup :=
  nodup_memberNamesAfter [placeholder] values

theorem placeholder_notMem_memberNames (values : List (List Char)) :
    placeholder ∉ memberNames values :=
  fun hmember ↦ notMem_of_mem_memberNamesAfter hmember (List.mem_singleton.mpr rfl)

/-- A member is the name of one of the values, with some underscores behind it. -/
theorem mem_memberNames {values : List (List Char)} {member : List Char}
    (hmember : member ∈ memberNames values) :
    ∃ value ∈ values, ∃ count, member = underscored (memberName value) count :=
  eq_underscored_of_mem_memberNamesAfter hmember

end SchemaBindings.Naming
