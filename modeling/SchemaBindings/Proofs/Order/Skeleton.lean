import Mathlib.Data.List.Forall2
import SchemaBindings.Proofs.Order.Payload
import SchemaBindings.Proofs.Order.Sorted
/-!
# The skeleton of a type

All that sorting reads of a type is its name, whether it is custom and what it depends on. A type
made of these three alone, its `skeleton`, therefore takes its place (`keepsGraph_skeleton`), and
lists of types that agree in the three from place to place (`SameNode`) are sorted alike
(`sortedAlike_of_forall₂`): with the same error, or into lists in which related types stand at the
same places (`SortedAlike`).
-/

set_option autoImplicit false
set_option relaxedAutoImplicit false

namespace SchemaBindings

/-- Two types have the same name and the same dependencies, and both are custom or neither is. -/
structure SameNode (type other : NamedType) : Prop where
  name : other.name = type.name
  isCustom : other.isCustom = type.isCustom
  dependencies : other.dependencies = type.dependencies

/-! ### Skeletons -/

/-- A type of the same name that depends on the same names by declaring them as its interfaces. -/
def NamedType.skeleton (type : NamedType) : NamedType :=
  { name := type.name
    body := if type.isCustom then
        .object [] (type.dependencies.map fun name ↦ .plain .object (some name))
      else .scalar }

theorem eraseDups_of_nodup {names : List String} (hnodup : names.Nodup) :
    names.eraseDups = names := by
  induction names with
  | nil => rfl
  | cons name rest ih =>
    obtain ⟨hname, hrest⟩ := List.nodup_cons.mp hnodup
    have hkept : rest.filter (fun other ↦ !other == name) = rest := by
      rw [List.filter_eq_self]
      intro other hother
      rw [Bool.not_eq_true', beq_eq_false_iff_ne]
      rintro rfl
      exact hname hother
    rw [List.eraseDups_cons, hkept, ih hrest]

/-- A dependency is never the empty name. -/
theorem isEmpty_of_mem_dependencies {type : NamedType} {name : String}
    (hname : name ∈ type.dependencies) : name.isEmpty = false := by
  rw [NamedType.dependencies, List.mem_eraseDups, List.mem_filterMap] at hname
  obtain ⟨ref, -, href⟩ := hname
  unfold TypeRef.dependency? at href
  split at href
  · split_ifs at href with hsome
    obtain rfl := Option.some.inj href
    rw [Bool.and_eq_true, Bool.not_eq_true'] at hsome
    exact hsome.1
  · cases href

theorem dependency?_plain {name : String} (hname : name.isEmpty = false) :
    (TypeRef.plain .object (some name)).dependency? = some name := by
  change (if (!name.isEmpty && true) = true then some name else none) = some name
  rw [hname]
  rfl

theorem filterMap_dependency?_plain {names : List String}
    (hnames : ∀ name ∈ names, name.isEmpty = false) :
    (names.map fun name ↦ TypeRef.plain .object (some name)).filterMap TypeRef.dependency? =
      names := by
  induction names with
  | nil => rfl
  | cons name rest ih =>
    obtain ⟨hname, hrest⟩ := List.forall_mem_cons.mp hnames
    rw [List.map_cons, List.filterMap_cons_some (dependency?_plain hname), ih hrest]

/-- Only custom types depend on anything. -/
theorem dependencies_of_not_isCustom {type : NamedType} (hcustom : type.isCustom = false) :
    type.dependencies = [] := by
  obtain ⟨name, description, body⟩ := type
  cases body with
  | scalar => rfl
  | _ => cases hcustom

/-- Nothing that sorting reads is lost in the skeleton. -/
theorem keepsGraph_skeleton : KeepsGraph NamedType.skeleton where
  name type := rfl
  isCustom type := by
    by_cases hcustom : type.isCustom = true
    · rw [NamedType.skeleton, if_pos hcustom, hcustom]
      rfl
    · rw [NamedType.skeleton, if_neg hcustom, eq_false_of_ne_true hcustom]
      rfl
  dependencies type := by
    by_cases hcustom : type.isCustom = true
    · rw [NamedType.skeleton, if_pos hcustom]
      change List.eraseDups (List.filterMap TypeRef.dependency? (List.map _ type.dependencies)) = _
      rw [filterMap_dependency?_plain fun name hname ↦ isEmpty_of_mem_dependencies hname]
      exact eraseDups_of_nodup (nodup_eraseDups _)
    · rw [NamedType.skeleton, if_neg hcustom,
        dependencies_of_not_isCustom (eq_false_of_ne_true hcustom)]
      rfl

theorem SameNode.skeleton_eq {type other : NamedType} (hsame : SameNode type other) :
    type.skeleton = other.skeleton := by
  rw [NamedType.skeleton, NamedType.skeleton, hsame.name, hsame.isCustom, hsame.dependencies]

/-! ### Lists that agree from place to place -/

/-- Sorting two lists fails with the same error, or gives lists that are related from place to
place. -/
def SortedAlike (Related : NamedType → NamedType → Prop) (types others : List NamedType) : Prop :=
  (∃ error, sortTypes types = .error error ∧ sortTypes others = .error error) ∨
    ∃ sorted sortedOther, sortTypes types = .ok sorted ∧ sortTypes others = .ok sortedOther ∧
      List.Forall₂ Related sorted sortedOther

theorem SortedAlike.imp {Related Weaker : NamedType → NamedType → Prop}
    {types others : List NamedType} (halike : SortedAlike Related types others)
    (himp : ∀ type other, Related type other → Weaker type other) :
    SortedAlike Weaker types others := by
  rcases halike with herror | ⟨sorted, sortedOther, hsorted, hother, hpairs⟩
  · exact Or.inl herror
  · exact Or.inr ⟨sorted, sortedOther, hsorted, hother, hpairs.imp himp⟩

section Related

variable {Related : NamedType → NamedType → Prop} {types others : List NamedType}
  (hnode : ∀ type other, Related type other → SameNode type other)

include hnode

/-- Look-ups of one name find related types. -/
theorem find?_name_forall₂ (hrelated : List.Forall₂ Related types others) (name : String) :
    Option.Rel Related (types.find? fun type ↦ type.name == name)
      (others.find? fun type ↦ type.name == name) := by
  induction hrelated with
  | nil => exact .none
  | @cons type other rest restOther hhead htail ih =>
    rw [List.find?_cons, List.find?_cons, (hnode type other hhead).name]
    cases type.name == name with
    | true => exact .some hhead
    | false => exact ih

variable (hrelated : List.Forall₂ Related types others)

include hrelated

theorem map_dependencies_eq :
    others.map NamedType.dependencies = types.map NamedType.dependencies := by
  induction hrelated with
  | nil => rfl
  | cons hhead _ ih => rw [List.map_cons, List.map_cons, (hnode _ _ hhead).dependencies, ih]

/-- The last declarations of one name are related. -/
theorem related_of_isLastDeclaration {type other : NamedType} (htype : IsLastDeclaration types type)
    (hother : IsLastDeclaration others other) (hname : other.name = type.name) :
    Related type other := by
  have hcustom : List.Forall₂ Related (types.filter NamedType.isCustom)
      (others.filter NamedType.isCustom) := by
    refine List.rel_filter (fun first second hpair ↦ ?_) hrelated
    show first.isCustom = true ↔ second.isCustom = true
    rw [(hnode first second hpair).isCustom]
  have hfind := find?_name_forall₂ hnode (List.rel_reverse hcustom) type.name
  rw [(find?_reverse_eq_some_iff types _ type).mpr ⟨htype, rfl⟩,
    (find?_reverse_eq_some_iff others _ other).mpr ⟨hother, hname⟩] at hfind
  cases hfind with
  | some hpair => exact hpair

/-- Related lists are sorted alike. -/
theorem sortedAlike_of_forall₂ : SortedAlike Related types others := by
  have hskeletons : types.map NamedType.skeleton = others.map NamedType.skeleton := by
    rw [← List.forall₂_eq_eq_eq, List.forall₂_map_left_iff, List.forall₂_map_right_iff]
    exact hrelated.imp fun type other hpair ↦ (hnode type other hpair).skeleton_eq
  rcases keepsGraph_skeleton.sortTypes_eq_of_map_eq hskeletons with herror | hok
  · exact Or.inl herror
  · obtain ⟨sorted, sortedOther, hsorted, hother, hsame⟩ := hok
    refine Or.inr ⟨sorted, sortedOther, hsorted, hother, ?_⟩
    rw [← List.forall₂_eq_eq_eq, List.forall₂_map_left_iff, List.forall₂_map_right_iff,
      List.forall₂_iff_zip] at hsame
    rw [List.forall₂_iff_zip]
    refine ⟨hsame.1, fun {type other} hpair ↦ ?_⟩
    obtain ⟨htype, hmember⟩ := List.of_mem_zip hpair
    have hname : other.name = type.name := (congrArg NamedType.name (hsame.2 hpair)).symm
    exact related_of_isLastDeclaration hnode hrelated
      ((mem_countedTypes_iff types type).mp ((mem_sorted_iff hsorted type).mp htype))
      ((mem_countedTypes_iff others other).mp ((mem_sorted_iff hother other).mp hmember)) hname

end Related

end SchemaBindings
