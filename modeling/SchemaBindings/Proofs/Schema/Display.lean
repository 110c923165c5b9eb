import SchemaBindings.Proofs.Schema.Reference
/-!
# References in the notation of the schema language

The notation sets a list in brackets and an exclamation mark behind what refuses null. Where the
innermost name holds neither brackets nor marks, the last character of the notation tells the
outermost level (`kind_eq_iff_getLast?_display`), so the notation can be read back level by level:
two references are shown alike exactly when their wrappers and their innermost names are the same,
and whether a reference is optional or a list can be seen in its notation
(`display_unambiguous`).
-/

set_option autoImplicit false
set_option relaxedAutoImplicit false

namespace SchemaBindings.TypeRef

/-- The characters that the notation sets around a name. -/
def signs : List Char :=
  ['[', ']', '!']

/-- The innermost name holds none of the characters that the notation sets around it. -/
def HasPlainBase (ref : TypeRef) : Prop :=
  ∀ name, ref.underlying.name? = some name → ∀ sign ∈ signs, sign ∉ name.toList

/-- A text without an exclamation mark at its end, of which there may be more. -/
def withoutMark (text : List Char) : List Char :=
  if text.getLast? = some '!' then text.dropLast else text

/-- A text begins with an opening bracket and ends in a closing one. -/
def InBrackets (text : List Char) : Prop :=
  text.head? = some '[' ∧ text.getLast? = some ']'

/-! ### Outermost levels -/

theorem display_plain {kind : TypeKind} (hkind : kind.isWrapper = false) (name : String) :
    (plain kind (some name)).display = name.toList := by
  cases kind with
  | list => cases hkind
  | nonNull => cases hkind
  | _ => rfl

theorem display_list (inner : TypeRef) :
    (around .list none inner).display = '[' :: inner.display ++ [']'] :=
  rfl

theorem display_nonNull (inner : TypeRef) :
    (around .nonNull none inner).display = inner.display ++ ['!'] :=
  rfl

theorem getLast?_display_list (inner : TypeRef) :
    (around .list none inner).display.getLast? = some ']' := by
  exact List.getLast?_concat

theorem getLast?_display_nonNull (inner : TypeRef) :
    (around .nonNull none inner).display.getLast? = some '!' := by
  exact List.getLast?_concat

theorem getLast?_display_plain {kind : TypeKind} {name : String} {sign : Char}
    (hkind : kind.isWrapper = false) (hbase : (plain kind (some name)).HasPlainBase)
    (hsign : sign ∈ signs) : (plain kind (some name)).display.getLast? ≠ some sign := by
  rw [display_plain hkind]
  intro hlast
  exact hbase name rfl sign hsign (List.mem_of_getLast? hlast)

/-- The last character of the notation tells a list and a reference that refuses null from each
other, and both from a name. -/
theorem kind_eq_iff_getLast?_display {ref : TypeRef} (hwell : ref.WellFormed)
    (hbase : ref.HasPlainBase) :
    (ref.kind = .list ↔ ref.display.getLast? = some ']') ∧
      (ref.kind = .nonNull ↔ ref.display.getLast? = some '!') := by
  induction ref, hwell using WellFormed.byShape with
  | named kind name hwell hkind =>
    constructor
    · refine iff_of_false ?_ (getLast?_display_plain hkind hbase (by decide))
      rintro rfl
      cases hkind
    · refine iff_of_false ?_ (getLast?_display_plain hkind hbase (by decide))
      rintro rfl
      cases hkind
  | list inner hinner hwell ih =>
    rw [getLast?_display_list]
    exact ⟨iff_of_true rfl rfl, iff_of_false (by rintro ⟨⟩) (by decide)⟩
  | nonNull inner hinner hwell ih =>
    rw [getLast?_display_nonNull]
    exact ⟨iff_of_false (by rintro ⟨⟩) (by decide), iff_of_true rfl rfl⟩

/-! ### Reading the notation back -/

/-- What is shown alike has the same wrappers around the same name: the last character tells the
outermost level, and the characters of that level can be taken off. -/
theorem eq_of_display_eq {left right : TypeRef} (hleft : left.WellFormed)
    (hright : right.WellFormed) (hbaseLeft : left.HasPlainBase) (hbaseRight : right.HasPlainBase)
    (heq : left.display = right.display) :
    left.wrappers = right.wrappers ∧ left.underlying.name? = right.underlying.name? := by
  induction left, hleft using WellFormed.byShape generalizing right with
  | named kind name hwell hkind =>
    have hplain {sign : Char} (hsign : sign ∈ signs) : right.display.getLast? ≠ some sign :=
      heq ▸ getLast?_display_plain hkind hbaseLeft hsign
    cases right, hright using WellFormed.byShape with
    | named other otherName _ hother =>
      rw [display_plain hkind, display_plain hother, String.toList_inj] at heq
      exact ⟨rfl, congrArg some heq⟩
    | list inner _ _ => exact absurd (getLast?_display_list inner) (hplain (by decide))
    | nonNull inner _ _ => exact absurd (getLast?_display_nonNull inner) (hplain (by decide))
  | list inner hinner hwell ih =>
    have hlast : right.display.getLast? = some ']' := heq ▸ getLast?_display_list inner
    cases right, hright using WellFormed.byShape with
    | named other otherName _ hother =>
      exact absurd hlast (getLast?_display_plain hother hbaseRight (by decide))
    | list other hother _ =>
      have hinside : inner.display = other.display :=
        List.append_cancel_right (List.tail_eq_of_cons_eq heq)
      obtain ⟨hwrappers, hname⟩ := ih hother hbaseLeft hbaseRight hinside
      exact ⟨congrArg (TypeKind.list :: ·) hwrappers, hname⟩
    | nonNull other _ _ =>
      rw [getLast?_display_nonNull] at hlast
      exact absurd hlast (by decide)
  | nonNull inner hinner hwell ih =>
    have hlast : right.display.getLast? = some '!' := heq ▸ getLast?_display_nonNull inner
    cases right, hright using WellFormed.byShape with
    | named other otherName _ hother =>
      exact absurd hlast (getLast?_display_plain hother hbaseRight (by decide))
    | list other _ _ =>
      rw [getLast?_display_list] at hlast
      exact absurd hlast (by decide)
    | nonNull other hother _ =>
      have hinside : inner.display = other.display := List.append_cancel_right heq
      obtain ⟨hwrappers, hname⟩ := ih hother hbaseLeft hbaseRight hinside
      exact ⟨congrArg (TypeKind.nonNull :: ·) hwrappers, hname⟩

/-- The kinds of names do not show: the same wrappers around the same name are shown alike. -/
theorem display_eq_of_wrappers_eq {left right : TypeRef} (hleft : left.WellFormed)
    (hright : right.WellFormed) (hwrappers : left.wrappers = right.wrappers)
    (hname : left.underlying.name? = right.underlying.name?) : left.display = right.display := by
  induction left, hleft using WellFormed.byShape generalizing right with
  | named kind name hwell hkind =>
    cases right, hright using WellFormed.byShape with
    | named other otherName _ hother =>
      rw [display_plain hkind, display_plain hother, Option.some.inj hname]
    | list inner _ _ => cases hwrappers
    | nonNull inner _ _ => cases hwrappers
  | list inner hinner hwell ih =>
    cases right, hright using WellFormed.byShape with
    | named other otherName _ hother => cases hwrappers
    | list other hother _ =>
      rw [display_list, display_list, ih hother (List.tail_eq_of_cons_eq hwrappers) hname]
    | nonNull other _ _ => cases hwrappers
  | nonNull inner hinner hwell ih =>
    cases right, hright using WellFormed.byShape with
    | named other otherName _ hother => cases hwrappers
    | list other _ _ => cases hwrappers
    | nonNull other hother _ =>
      rw [display_nonNull, display_nonNull,
        ih hother (List.tail_eq_of_cons_eq hwrappers) hname]

/-! ### What the notation tells -/

theorem isOptional_iff_display {ref : TypeRef} (hwell : ref.WellFormed)
    (hbase : ref.HasPlainBase) :
    ref.isOptional = true ↔ ref.display.getLast? ≠ some '!' := by
  rw [isOptional, bne_iff_ne, ne_eq, (kind_eq_iff_getLast?_display hwell hbase).2]

/-- The notation of a list is in brackets, and no other notation ends in one. -/
theorem kind_eq_list_iff_inBrackets {ref : TypeRef} (hwell : ref.WellFormed)
    (hbase : ref.HasPlainBase) : ref.kind = .list ↔ InBrackets ref.display := by
  constructor
  · intro hkind
    refine ⟨?_, (kind_eq_iff_getLast?_display hwell hbase).1.mp hkind⟩
    cases ref, hwell using WellFormed.byShape with
    | named kind name _ hplain =>
      obtain rfl : kind = .list := hkind
      cases hplain
    | list inner _ _ => rfl
    | nonNull inner _ _ => cases hkind
  · intro hbrackets
    exact (kind_eq_iff_getLast?_display hwell hbase).1.mpr hbrackets.2

/-- Being a list is looked for behind one mark, as the notation shows it. -/
theorem isList_iff_display {ref : TypeRef} (hwell : ref.WellFormed) (hbase : ref.HasPlainBase) :
    ref.isList = true ↔ InBrackets (withoutMark ref.display) := by
  cases ref, hwell using WellFormed.byShape with
  | named kind name hwell hkind =>
    rw [withoutMark, if_neg (getLast?_display_plain hkind hbase (by decide)),
      ← kind_eq_list_iff_inBrackets hwell hbase]
    exact beq_iff_eq
  | list inner hinner hwell =>
    rw [withoutMark, getLast?_display_list, if_neg (by decide),
      ← kind_eq_list_iff_inBrackets hwell hbase]
    exact iff_of_true rfl rfl
  | nonNull inner hinner hwell =>
    rw [withoutMark, getLast?_display_nonNull, if_pos rfl, display_nonNull, List.dropLast_concat,
      ← kind_eq_list_iff_inBrackets hinner hbase]
    exact beq_iff_eq

/-- The notation is unambiguous: what obeys the rule on wrappers and names, with a name that holds
none of its signs, is shown alike exactly for the same wrappers around the same name. An optional
reference is one without a mark at its end, and a list one that is in brackets without that
mark. -/
theorem display_unambiguous :
    (∀ left right : TypeRef, left.WellFormed → right.WellFormed → left.HasPlainBase →
      right.HasPlainBase → (left.display = right.display ↔
        left.wrappers = right.wrappers ∧ left.underlying.name? = right.underlying.name?)) ∧
    ∀ ref : TypeRef, ref.WellFormed → ref.HasPlainBase →
      (ref.isOptional = true ↔ ref.display.getLast? ≠ some '!') ∧
        (ref.isList = true ↔ InBrackets (withoutMark ref.display)) := by
  constructor
  · intro left right hleft hright hbaseLeft hbaseRight
    constructor
    · intro heq
      exact eq_of_display_eq hleft hright hbaseLeft hbaseRight heq
    · rintro ⟨hwrappers, hname⟩
      exact display_eq_of_wrappers_eq hleft hright hwrappers hname
  · intro ref hwell hbase
    exact ⟨isOptional_iff_display hwell hbase, isList_iff_display hwell hbase⟩

/-- A list of references to a type `A` that refuse null twice over. -/
def markedList (kind : TypeKind) : TypeRef :=
  .around .list none (.around .nonNull none (.around .nonNull none (.plain kind (some "A"))))

theorem display_unambiguous_markedList :
    (∀ kind : TypeKind, kind.isWrapper = false →
      (markedList kind).WellFormed ∧ (markedList kind).HasPlainBase) ∧
    ((markedList .object).display = (markedList .enum).display ↔
      (markedList .object).wrappers = (markedList .enum).wrappers ∧
        (markedList .object).underlying.name? = (markedList .enum).underlying.name?) ∧
    ((markedList .object).isOptional = true ↔
      (markedList .object).display.getLast? ≠ some '!') ∧
    ((markedList .object).isList = true ↔
      InBrackets (withoutMark (markedList .object).display)) ∧
    (markedList .object).display = ['[', 'A', '!', '!', ']'] := by
  have hshape : ∀ kind : TypeKind, kind.isWrapper = false →
      (markedList kind).WellFormed ∧ (markedList kind).HasPlainBase := by
    intro kind hkind
    refine ⟨⟨rfl, rfl, rfl, ?_⟩, ?_⟩
    · simp only [WellFormed, levelWellFormed, hkind, Option.isSome_some, Bool.not_false,
        Bool.and_true]
    · rintro name ⟨⟩ sign hsign hmem
      change sign ∈ ['A'] at hmem
      rw [List.mem_singleton.mp hmem] at hsign
      exact absurd hsign (by decide)
  obtain ⟨hobject, hobjectBase⟩ := hshape .object rfl
  obtain ⟨henum, henumBase⟩ := hshape .enum rfl
  obtain ⟨hoptional, hlist⟩ := display_unambiguous.2 _ hobject hobjectBase
  exact ⟨hshape, display_unambiguous.1 _ _ hobject henum hobjectBase henumBase, hoptional, hlist,
    rfl⟩

end SchemaBindings.TypeRef
