import Mathlib.Algebra.Order.Group.Int
import Mathlib.Data.List.Basic
import SchemaBindings.Proofs.Order.Sorted
/-!
# The order of the levels

The queue lets the types through in the order in which they become ready, and types that become
ready together in the order of the document. `ArrivesBefore` says so of two places in a list: the
last dependency of the first stands before that of the second, or they have the same last dependency
and the first is declared first. The sorted types are in this order, and no other arrangement of
them is (`sortTypes_level_order`).
-/

set_option autoImplicit false
set_option relaxedAutoImplicit false

namespace SchemaBindings

/-- The place in `order` of the last of the names that a type depends on; -1 when there is none. -/
def lastDependencyPlace (order : List String) (type : NamedType) : Int :=
  (type.dependencies.map fun name ↦ (order.idxOf name : Int)).foldr max (-1)

/-- The order of arrival: by the place of the last dependency in `order`, then by the place of the
name in `document`. -/
def ArrivesBefore (document order : List String) (first second : NamedType) : Prop :=
  lastDependencyPlace order first < lastDependencyPlace order second ∨
    lastDependencyPlace order first = lastDependencyPlace order second ∧
      document.idxOf first.name < document.idxOf second.name

/-- A depth of names: 0 for a type without dependencies, else one more than the greatest depth of a
dependency. -/
def IsDepth (types : List NamedType) (depth : String → Nat) : Prop :=
  ∀ type ∈ types, depth type.name =
    if type.dependencies = [] then 0 else 1 + (type.dependencies.map depth).foldr max 0

/-! ### The place of the last dependency -/

theorem foldr_max_le_iff (values : List Int) (start bound : Int) :
    values.foldr max start ≤ bound ↔ start ≤ bound ∧ ∀ value ∈ values, value ≤ bound := by
  induction values with
  | nil => simp
  | cons value rest ih =>
    rw [List.foldr_cons, max_le_iff, ih, List.forall_mem_cons]
    tauto

theorem lastDependencyPlace_le_iff (order : List String) (type : NamedType) (bound : Int) :
    lastDependencyPlace order type ≤ bound ↔
      -1 ≤ bound ∧ ∀ name ∈ type.dependencies, (order.idxOf name : Int) ≤ bound := by
  rw [lastDependencyPlace, foldr_max_le_iff, List.forall_mem_map]

theorem idxOf_le_lastDependencyPlace (order : List String) {type : NamedType} {name : String}
    (hname : name ∈ type.dependencies) :
    (order.idxOf name : Int) ≤ lastDependencyPlace order type :=
  ((lastDependencyPlace_le_iff order type _).mp le_rfl).2 name hname

theorem lastDependencyPlace_of_nil (order : List String) {type : NamedType}
    (hnone : type.dependencies = []) : lastDependencyPlace order type = -1 := by
  rw [lastDependencyPlace, hnone]
  rfl

/-- A type with a last dependency has a dependency at that place. -/
theorem exists_idxOf_eq_lastDependencyPlace (order : List String) (type : NamedType)
    (hplace : 0 ≤ lastDependencyPlace order type) :
    ∃ name ∈ type.dependencies, (order.idxOf name : Int) = lastDependencyPlace order type := by
  by_contra hnone
  push Not at hnone
  have hle : lastDependencyPlace order type ≤ lastDependencyPlace order type - 1 := by
    refine (lastDependencyPlace_le_iff order type _).mpr ⟨by omega, fun name hname ↦ ?_⟩
    have hne := hnone name hname
    have hidx := idxOf_le_lastDependencyPlace order hname
    omega
  omega

/-- The place of the last dependency is that in any longer list, when all dependencies are there. -/
theorem lastDependencyPlace_append {order : List String} {type : NamedType}
    (hdependencies : ∀ name ∈ type.dependencies, name ∈ order) (more : List String) :
    lastDependencyPlace (order ++ more) type = lastDependencyPlace order type := by
  unfold lastDependencyPlace
  congr 1
  exact List.map_congr_left fun name hname ↦ by
    rw [List.idxOf_append_of_mem (hdependencies name hname)]

theorem lastDependencyPlace_lt_length {order : List String} {type : NamedType}
    (hdependencies : ∀ name ∈ type.dependencies, name ∈ order) :
    lastDependencyPlace order type < order.length := by
  rw [← Int.le_sub_one_iff, lastDependencyPlace_le_iff]
  refine ⟨by omega, fun name hname ↦ ?_⟩
  have hlt := List.idxOf_lt_length_of_mem (hdependencies name hname)
  omega

/-- The last dependency of a released type is the name that releases it. -/
theorem lastDependencyPlace_of_released {types : List NamedType} {done : List String}
    {name : String} (hname : name ∉ done) {type : NamedType}
    (htype : type ∈ released types done name) :
    lastDependencyPlace (done ++ [name]) type = done.length := by
  obtain ⟨-, hreleased, hdependencies⟩ := (mem_released_iff types done name type).mp htype
  have hbelow := lastDependencyPlace_lt_length hdependencies
  have habove := idxOf_le_lastDependencyPlace (done ++ [name]) hreleased
  rw [List.idxOf_append_of_notMem hname, List.idxOf_cons_self] at habove
  rw [List.length_append, List.length_singleton] at hbelow
  omega

/-! ### Arrivals are in the order of arrival -/

theorem pairwise_idxOf_lt {types : List NamedType} (hnodup : (types.map NamedType.name).Nodup) :
    types.Pairwise fun first second ↦ (types.map NamedType.name).idxOf first.name <
      (types.map NamedType.name).idxOf second.name := by
  have hnames : (types.map NamedType.name).Pairwise fun first second ↦
      (types.map NamedType.name).idxOf first < (types.map NamedType.name).idxOf second := by
    rw [List.pairwise_iff_getElem]
    intro first second hfirst hsecond hlt
    rwa [hnodup.idxOf_getElem, hnodup.idxOf_getElem]
  rwa [List.pairwise_map] at hnames

/-- The types that have joined the queue stand in the order of arrival. -/
theorem pairwise_arrivals {types : List NamedType} (htypes : (types.map NamedType.name).Nodup)
    {done : List String} (hdone : done.Nodup) :
    (arrivals types done).Pairwise (ArrivesBefore (types.map NamedType.name) done) := by
  have hdocument := pairwise_idxOf_lt htypes
  induction done using List.reverseRecOn with
  | nil =>
    rw [arrivals_nil]
    refine List.Pairwise.imp_of_mem (fun hfirst hsecond hlt ↦ Or.inr ⟨?_, hlt⟩)
      (hdocument.filter _)
    rw [lastDependencyPlace_of_nil _ ((mem_sources_iff types _).mp hfirst).2,
      lastDependencyPlace_of_nil _ ((mem_sources_iff types _).mp hsecond).2]
  | append_singleton done last ih =>
    obtain ⟨hbefore, -, hlast⟩ := List.nodup_append.mp hdone
    have hnotDone : last ∉ done := fun hin ↦ hlast last hin last (List.mem_singleton_self last) rfl
    have hplace (type : NamedType) (htype : type ∈ arrivals types done) :
        lastDependencyPlace (done ++ [last]) type = lastDependencyPlace done type :=
      lastDependencyPlace_append ((mem_arrivals_iff types done type).mp htype).2 [last]
    rw [arrivals_append_singleton, List.pairwise_append]
    refine ⟨?_, ?_, fun first hfirst second hsecond ↦ Or.inl ?_⟩
    · refine List.Pairwise.imp_of_mem (fun hfirst hsecond harrives ↦ ?_) (ih hbefore)
      unfold ArrivesBefore
      rwa [hplace _ hfirst, hplace _ hsecond]
    · refine List.Pairwise.imp_of_mem (fun hfirst hsecond hlt ↦ Or.inr ⟨?_, hlt⟩)
        (hdocument.filter _)
      rw [lastDependencyPlace_of_released hnotDone hfirst,
        lastDependencyPlace_of_released hnotDone hsecond]
    · rw [hplace first hfirst, lastDependencyPlace_of_released hnotDone hsecond]
      exact lastDependencyPlace_lt_length ((mem_arrivals_iff types done first).mp hfirst).2

variable {types sorted : List NamedType}

theorem pairwise_arrivesBefore_sorted (hsorted : sortTypes types = .ok sorted) :
    sorted.Pairwise (ArrivesBefore (customNames types) (sorted.map NamedType.name)) := by
  have harrivals := pairwise_arrivals (nodup_name_countedTypes types) (nodup_name_sorted hsorted)
  rwa [← sorted_eq_arrivals hsorted, map_name_countedTypes] at harrivals

/-! ### No other arrangement is in the order of arrival -/

theorem ArrivesBefore.place_le {document order : List String} {first second : NamedType}
    (harrives : ArrivesBefore document order first second) :
    lastDependencyPlace order first ≤ lastDependencyPlace order second := by
  rcases harrives with hlt | ⟨heq, -⟩
  · exact hlt.le
  · exact heq.le

/-- Of two types that stand next after the same types, each in an arrangement of its own, not both
arrive before the other: the second depends on nothing outside the common beginning either, so
their places agree in both. -/
theorem not_arrivesBefore_of_arrivesBefore {document : List String}
    {before rest others : List NamedType} {first second : NamedType}
    (hknown : ∀ name ∈ first.dependencies, name ∈ before.map NamedType.name)
    (hforward : ArrivesBefore document ((before ++ first :: rest).map NamedType.name) first
      second) :
    ¬ ArrivesBefore document ((before ++ second :: others).map NamedType.name) second first := by
  intro hbackward
  have hsecondKnown : ∀ name ∈ second.dependencies, name ∈ before.map NamedType.name := by
    intro name hname
    by_contra hunknown
    have hfirstPlace := lastDependencyPlace_lt_length hknown
    have hsecondPlace := hbackward.place_le
    have hnamePlace := idxOf_le_lastDependencyPlace
      ((before ++ second :: others).map NamedType.name) hname
    rw [List.map_append, List.idxOf_append_of_notMem hunknown] at hnamePlace
    rw [List.map_append, lastDependencyPlace_append hknown] at hsecondPlace
    omega
  unfold ArrivesBefore at hforward hbackward
  rw [List.map_append, lastDependencyPlace_append hknown,
    lastDependencyPlace_append hsecondKnown] at hforward hbackward
  omega

/-- Two arrangements of the same types that begin alike, the first a dependency order and both in
their own order of arrival, end alike. -/
theorem eq_of_perm_of_arrivesBefore {document : List String} (before : List NamedType)
    {rest other : List NamedType} (hperm : rest.Perm other)
    (hordered : IsDependencyOrder (before ++ rest))
    (hrest : (before ++ rest).Pairwise
      (ArrivesBefore document ((before ++ rest).map NamedType.name)))
    (hother : (before ++ other).Pairwise
      (ArrivesBefore document ((before ++ other).map NamedType.name))) : rest = other := by
  induction rest generalizing before other with
  | nil => exact hperm.nil_eq
  | cons first rest ih =>
    obtain ⟨second, others, rfl⟩ : ∃ second others, other = second :: others := by
      cases other with
      | nil => exact absurd hperm.eq_nil (List.cons_ne_nil _ _)
      | cons second others => exact ⟨second, others, rfl⟩
    by_cases hsame : first = second
    · subst hsame
      have htail := ih (before ++ [first]) (List.perm_cons first |>.mp hperm)
      simp only [List.append_assoc, List.singleton_append] at htail
      rw [htail hordered hrest hother]
    · have hfirstLater : first ∈ others :=
        (List.mem_cons.mp (hperm.subset List.mem_cons_self)).resolve_left hsame
      have hsecondLater : second ∈ rest :=
        (List.mem_cons.mp (hperm.symm.subset List.mem_cons_self)).resolve_left (Ne.symm hsame)
      have hforward := (List.pairwise_cons.mp (List.pairwise_append.mp hrest).2.1).1 _ hsecondLater
      have hbackward := (List.pairwise_cons.mp (List.pairwise_append.mp hother).2.1).1 _ hfirstLater
      have hknown := hordered before first rest rfl
      exact absurd hbackward (not_arrivesBefore_of_arrivesBefore hknown hforward)

/-! ### Depths -/

/-- The depths of the dependencies of a type of positive depth are below its own. -/
theorem depth_le_of_forall {depth : String → Nat} {type : NamedType} {bound : Nat}
    (hdepth : depth type.name =
      if type.dependencies = [] then 0 else 1 + (type.dependencies.map depth).foldr max 0)
    (hbound : ∀ name ∈ type.dependencies, depth name < bound) : depth type.name ≤ bound := by
  have hmax (names : List String) (hnames : ∀ name ∈ names, depth name < bound)
      (hpositive : 0 < bound) : (names.map depth).foldr max 0 < bound := by
    induction names with
    | nil => exact hpositive
    | cons name rest ih =>
      rw [List.forall_mem_cons] at hnames
      exact max_lt hnames.1 (ih hnames.2)
  rw [hdepth]
  split_ifs with hnone
  · exact Nat.zero_le bound
  · obtain ⟨name, hname⟩ := List.exists_mem_of_ne_nil _ hnone
    have hfold := hmax _ hbound (Nat.zero_lt_of_lt (hbound name hname))
    omega

/-- The depth of a dependency is below the depth of the type. -/
theorem depth_lt_of_mem {depth : String → Nat} {type : NamedType}
    (hdepth : depth type.name =
      if type.dependencies = [] then 0 else 1 + (type.dependencies.map depth).foldr max 0)
    {name : String} (hname : name ∈ type.dependencies) : depth name < depth type.name := by
  have hmax (names : List String) (hmem : name ∈ names) :
      depth name ≤ (names.map depth).foldr max 0 := by
    induction names with
    | nil => simp at hmem
    | cons first rest ih =>
      rcases List.mem_cons.mp hmem with rfl | hrest
      · exact le_max_left _ _
      · exact (ih hrest).trans (le_max_right _ _)
  have hfold := hmax _ hname
  rw [hdepth, if_neg (List.ne_nil_of_mem hname)]
  omega

/-- The types of a dependency order have depths. -/
theorem exists_isDepth (hordered : IsDependencyOrder sorted)
    (hnodup : (sorted.map NamedType.name).Nodup) : ∃ depth, IsDepth sorted depth := by
  induction sorted using List.reverseRecOn with
  | nil => exact ⟨fun _ ↦ 0, by simp [IsDepth]⟩
  | append_singleton before last ih =>
    have hbefore : IsDependencyOrder before := by
      intro front type back hsplit
      exact hordered front type (back ++ [last]) (by simp [hsplit])
    rw [List.map_append, List.nodup_append] at hnodup
    obtain ⟨depth, hdepth⟩ := ih hbefore hnodup.1
    have hother {name : String} (hname : name ∈ before.map NamedType.name) : name ≠ last.name :=
      hnodup.2.2 name hname last.name (by simp)
    refine ⟨Function.update depth last.name (if last.dependencies = [] then 0 else
      1 + (last.dependencies.map depth).foldr max 0), fun type htype ↦ ?_⟩
    have hsame (known : ∀ name ∈ type.dependencies, name ∈ before.map NamedType.name)
        (value : Nat) : type.dependencies.map (Function.update depth last.name value) =
          type.dependencies.map depth :=
      List.map_congr_left fun name hname ↦ Function.update_of_ne (hother (known name hname)) _ _
    rcases List.mem_append.mp htype with hold | hlast
    · rw [Function.update_of_ne (hother (List.mem_map_of_mem hold)),
        hsame fun name hname ↦ hbefore.mem_of_dependency hold hname]
      exact hdepth type hold
    · rw [List.mem_singleton] at hlast
      subst hlast
      rw [Function.update_self, hsame (hordered before type [] rfl)]

/-- Along a dependency order in order of arrival depths never decrease. The induction is on the
place of the later type: the last dependency of each stands before it. -/
theorem depth_le_of_idxOf_le {document : List String} (hordered : IsDependencyOrder sorted)
    (hnodup : (sorted.map NamedType.name).Nodup)
    (harrives : sorted.Pairwise (ArrivesBefore document (sorted.map NamedType.name)))
    {depth : String → Nat} (hdepth : IsDepth sorted depth) (place : Nat)
    {first second : NamedType} (hfirst : first ∈ sorted) (hsecond : second ∈ sorted)
    (hplace : (sorted.map NamedType.name).idxOf second.name = place)
    (hle : (sorted.map NamedType.name).idxOf first.name ≤ place) :
    depth first.name ≤ depth second.name := by
  induction place using Nat.strong_induction_on generalizing first second with
  | _ place ih =>
    subst hplace
    rcases Nat.lt_or_eq_of_le hle with hlt | heq
    · refine depth_le_of_forall (hdepth first hfirst) fun name hname ↦ ?_
      have hplaces := (rel_of_idxOf_lt hnodup harrives hfirst hsecond hlt).place_le
      have hnamePlace := idxOf_le_lastDependencyPlace (sorted.map NamedType.name) hname
      obtain ⟨last, hlast, hlastPlace⟩ := exists_idxOf_eq_lastDependencyPlace
        (sorted.map NamedType.name) second (by omega)
      obtain ⟨third, hthird, rfl⟩ :=
        List.mem_map.mp (hordered.mem_of_dependency hfirst hname)
      obtain ⟨fourth, hfourth, rfl⟩ :=
        List.mem_map.mp (hordered.mem_of_dependency hsecond hlast)
      have hearlier := ih _ (hordered.idxOf_lt hnodup hsecond hlast) hthird hfourth rfl (by omega)
      exact hearlier.trans_lt (depth_lt_of_mem (hdepth second hsecond) hlast)
    · rw [List.idxOf_inj (List.mem_map_of_mem hfirst)] at heq
      rw [heq]

/-! ### The order of the result -/

/-- The sorted types are in the order of arrival, by the place of the last dependency and then by
the place in the document, and no other arrangement of them is in its own order of arrival. So
depths never decrease, and the types that depend on nothing come first, in document order. -/
theorem sortTypes_level_order (hsorted : sortTypes types = .ok sorted) :
    sorted.Pairwise (ArrivesBefore (customNames types) (sorted.map NamedType.name)) ∧
      (∀ other, other.Perm sorted →
        other.Pairwise (ArrivesBefore (customNames types) (other.map NamedType.name)) →
          other = sorted) ∧
      (∃ depth, IsDepth sorted depth) ∧
      (∀ depth, IsDepth sorted depth →
        sorted.Pairwise fun first second ↦ depth first.name ≤ depth second.name) ∧
      ∃ rest, sorted = ((countedTypes types).filter fun type ↦ type.dependencies.isEmpty) ++ rest ∧
        ∀ type ∈ rest, type.dependencies ≠ [] := by
  have hordered := isDependencyOrder_sorted hsorted
  have hnodup := nodup_name_sorted hsorted
  have harrives := pairwise_arrivesBefore_sorted hsorted
  refine ⟨harrives, fun other hperm hother ↦ ?_, exists_isDepth hordered hnodup,
    fun depth hdepth ↦ ?_, ?_⟩
  · exact (eq_of_perm_of_arrivesBefore [] hperm.symm hordered harrives hother).symm
  · refine List.Pairwise.imp_of_mem (fun {first second} hfirst hsecond hlt ↦ ?_)
      (pairwise_idxOf_lt hnodup)
    exact depth_le_of_idxOf_le hordered hnodup harrives hdepth _ hfirst hsecond rfl hlt.le
  · refine ⟨releasedAfter (countedTypes types) [] (sorted.map NamedType.name),
      sorted_eq_arrivals hsorted, fun type htype ↦ ?_⟩
    exact dependencies_ne_nil_of_mem_releasedAfter htype

/-- Input objects of which the first depends on the last and the second on the third. -/
def crossedInputs : List NamedType :=
  [{ name := "Late"
     body := .inputObject [{ name := "a", type := .plain .inputObject (some "Second") }] },
   { name := "Early"
     body := .inputObject [{ name := "b", type := .plain .inputObject (some "First") }] },
   { name := "First", body := .inputObject [] },
   { name := "Second", body := .inputObject [] }]

theorem sortTypes_level_order_crossedInputs :
    ∃ sorted, sortTypes crossedInputs = .ok sorted ∧
      sorted.map NamedType.name = ["First", "Second", "Early", "Late"] ∧
      sorted.Pairwise (ArrivesBefore ["Late", "Early", "First", "Second"]
        ["First", "Second", "Early", "Late"]) := by
  have hsorted : sortTypes crossedInputs = .ok
      [{ name := "First", body := .inputObject [] },
       { name := "Second", body := .inputObject [] },
       { name := "Early"
         body := .inputObject [{ name := "b", type := .plain .inputObject (some "First") }] },
       { name := "Late"
         body := .inputObject
           [{ name := "a", type := .plain .inputObject (some "Second") }] }] := by
    rfl
  have hdocument : customNames crossedInputs = ["Late", "Early", "First", "Second"] := by
    rfl
  refine ⟨_, hsorted, rfl, ?_⟩
  rw [← hdocument]
  exact (sortTypes_level_order hsorted).1

end SchemaBindings
