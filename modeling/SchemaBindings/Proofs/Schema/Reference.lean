import SchemaBindings.Schema.TypeRef
/-!
# The levels of a reference

A reference consists of its levels, from the outside in. It obeys the rule on wrappers and names
when every level is either a wrapper around another one, without a name, or a name that nothing
stands inside of (`wellFormed_iff_levels`). Then its innermost level is a name
(`WellFormed.isNamed_underlying`), and looking for the innermost level from any level leads to the
same one (`underlying_of_mem_levels`). So it is a chain of wrappers around a name, and what holds of
names and is kept by either wrapper holds of it (`WellFormed.byShape`).
-/

set_option autoImplicit false
set_option relaxedAutoImplicit false

namespace SchemaBindings.TypeRef

/-- The levels of a reference: itself, and then those of the reference inside. -/
def levels : TypeRef → List TypeRef
  | plain kind name => [plain kind name]
  | around kind name inner => around kind name inner :: inner.levels

/-- The kinds of the levels around the innermost one, from the outside in. -/
def wrappers : TypeRef → List TypeKind
  | plain _ _ => []
  | around kind _ inner => kind :: inner.wrappers

/-- A list or non-null wrapper around an inner reference, without a name. -/
def IsWrapped (ref : TypeRef) : Prop :=
  ref.kind.isWrapper = true ∧ ref.name? = none ∧ ref.inner?.isSome = true

/-- A reference of another kind, with a name and without an inner reference. -/
def IsNamed (ref : TypeRef) : Prop :=
  ref.kind.isWrapper = false ∧ ref.name?.isSome = true ∧ ref.inner? = none

theorem levelWellFormed_iff (ref : TypeRef) :
    ref.levelWellFormed = true ↔ ref.IsWrapped ∨ ref.IsNamed := by
  cases ref with
  | plain kind name => simp [levelWellFormed, IsWrapped, IsNamed, TypeRef.kind, name?, inner?]
  | around kind name inner =>
    simp [levelWellFormed, IsWrapped, IsNamed, TypeRef.kind, name?, inner?]

/-- The rule on wrappers and names is a rule on each level. -/
theorem wellFormed_iff_levels (ref : TypeRef) :
    ref.WellFormed ↔ ∀ level ∈ ref.levels, level.IsWrapped ∨ level.IsNamed := by
  induction ref with
  | plain kind name =>
    rw [WellFormed, levelWellFormed_iff, levels, List.forall_mem_singleton]
  | around kind name inner ih =>
    rw [WellFormed, levelWellFormed_iff, ih, levels, List.forall_mem_cons]

/-! ### The innermost level -/

theorem inner?_underlying (ref : TypeRef) : ref.underlying.inner? = none := by
  induction ref with
  | plain kind name => rfl
  | around kind name inner ih => exact ih

theorem underlying_underlying (ref : TypeRef) : ref.underlying.underlying = ref.underlying := by
  induction ref with
  | plain kind name => rfl
  | around kind name inner ih => exact ih

theorem underlying_mem_levels (ref : TypeRef) : ref.underlying ∈ ref.levels := by
  induction ref with
  | plain kind name => exact List.mem_singleton.mpr rfl
  | around kind name inner ih => exact List.mem_cons_of_mem _ ih

/-- All levels of a reference have the same innermost level. -/
theorem underlying_of_mem_levels {ref level : TypeRef} (hlevel : level ∈ ref.levels) :
    level.underlying = ref.underlying := by
  induction ref with
  | plain kind name => rw [List.mem_singleton.mp hlevel]
  | around kind name inner ih =>
    rcases List.mem_cons.mp hlevel with rfl | hinside
    · rfl
    · exact ih hinside

/-- The innermost level cannot be a wrapper, because nothing is inside of it. -/
theorem WellFormed.isNamed_underlying {ref : TypeRef} (hwell : ref.WellFormed) :
    ref.underlying.IsNamed := by
  have hlevel := (wellFormed_iff_levels ref).mp hwell _ ref.underlying_mem_levels
  refine hlevel.resolve_left fun hwrapped ↦ ?_
  have hinner := hwrapped.2.2
  rw [inner?_underlying] at hinner
  cases hinner

/-- A reference that obeys the rule is a name, a list of such a reference, or such a reference that
refuses null. -/
@[elab_as_elim]
theorem WellFormed.byShape {motive : (ref : TypeRef) → ref.WellFormed → Prop}
    (named : ∀ kind name hwell, kind.isWrapper = false → motive (plain kind (some name)) hwell)
    (list : ∀ inner hinner hwell, motive inner hinner → motive (around .list none inner) hwell)
    (nonNull : ∀ inner hinner hwell, motive inner hinner →
      motive (around .nonNull none inner) hwell)
    (ref : TypeRef) (hwell : ref.WellFormed) : motive ref hwell := by
  induction ref with
  | plain kind name =>
    obtain ⟨hkind, hname⟩ := Bool.and_eq_true_iff.mp hwell
    obtain ⟨name, rfl⟩ := Option.isSome_iff_exists.mp hname
    exact named kind name hwell ((Bool.not_eq_true' _).mp hkind)
  | around kind name inner ih =>
    obtain ⟨hkind, hname⟩ := Bool.and_eq_true_iff.mp hwell.1
    obtain rfl := Option.isNone_iff_eq_none.mp hname
    cases kind with
    | list => exact list inner hwell.2 hwell (ih hwell.2)
    | nonNull => exact nonNull inner hwell.2 hwell (ih hwell.2)
    | _ => cases hkind

end SchemaBindings.TypeRef
