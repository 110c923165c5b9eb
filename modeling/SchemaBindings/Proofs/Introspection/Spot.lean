import SchemaBindings.Proofs.First
import SchemaBindings.Proofs.Introspection.Conformance
import SchemaBindings.Introspection.Decode
/-!
# Rules that a document breaks

A document of the right shape can still break a rule on types and references: a type repeats a name,
is of a wrapper kind, or uses a reference with a level that breaks the rule on wrappers and names.
`BreaksRule types index spot cause` says so for one spot of one type, whatever else is wrong, and
`Spot.rank` orders the spots of a type: its name, its kind, and then its references, with the
arguments of a field before its own type and the outer levels of a reference before the inner ones.
References that the kind of a type does not use are no spots (`Uses`). In one reference, the search
for a broken level finds the first of what is wrong (`isFirst_brokenLevel?`).
-/

set_option autoImplicit false
set_option relaxedAutoImplicit false

namespace SchemaBindings

namespace Introspection

/-! ### Spots -/

/-- The spots of a type at which it can break a rule. Fields, arguments and other items are given by
their numbers in the document, and the levels of a reference from the outside in. -/
inductive Spot where
  | name
  | kind
  | argument (number place level : ℕ)
  | field (place level : ℕ)
  | inputField (place level : ℕ)
  | interface (place level : ℕ)
  | possibleType (place level : ℕ)
  deriving DecidableEq, Repr

/-- The numbers that order the spots of a type, from the left. -/
def Spot.rank : Spot → List ℕ
  | name => [0]
  | kind => [1]
  | argument number place level => [2, number, 0, place, level]
  | field place level => [2, place, 1, level]
  | inputField place level => [2, place, level]
  | interface place level => [3, place, level]
  | possibleType place level => [3, place, level]

/-! ### Violations -/

/-- The name that an object of a document has. -/
def nameIn (json : Json) : String :=
  textOf (Key.ownName.value? json)

/-- The kind that a type or reference of a document has. -/
def kindIn (json : Json) : TypeKind :=
  kindOf (Key.kind.value? json)

/-- The reference that a field, argument or input field of a document has. -/
def referenceIn (json : Json) : Json :=
  (Key.type.value? json).getD .null

/-- The levels of a reference in a document, counted from the outside in. -/
inductive IsLevel : Json → ℕ → Json → Prop where
  | outermost (json : Json) : IsLevel json 0 json
  | inside {json level : Json} {members : List (String × Json)} {depth : ℕ} :
      Key.inner.value? json = some (.obj members) → IsLevel (.obj members) depth level →
      IsLevel json (depth + 1) level

/-- A reference in a document is around another one. -/
def HasInner (level : Json) : Prop :=
  ∃ members, Key.inner.value? level = some (.obj members)

/-- A reference in a document has a name. -/
def HasName (level : Json) : Prop :=
  (textOf? (Key.ownName.value? level)).isSome = true

/-- A level of a reference breaks the rule on wrappers and names: a wrapper must be around another
level and have no name, every other kind must have a name and nothing inside. -/
inductive BreaksLevel (level : Json) : Malformed → Prop where
  | wrapper : (kindIn level).isWrapper = true → ¬ HasInner level ∨ HasName level →
      BreaksLevel level (.brokenWrapper (kindIn level))
  | name : (kindIn level).isWrapper = false → ¬ HasName level ∨ HasInner level →
      BreaksLevel level (.brokenName (kindIn level))

/-- The references that the kind of a type uses, with the spots of their levels. -/
inductive Uses (json : Json) : (ℕ → Spot) → Json → Prop where
  | argument {number place : ℕ} {field argument : Json} :
      kindIn json = .object ∨ kindIn json = .interface →
      (itemsOf (Key.fields.value? json))[number]? = some field →
      (itemsOf (Key.arguments.value? field))[place]? = some argument →
      Uses json (.argument number place) (referenceIn argument)
  | field {place : ℕ} {field : Json} :
      kindIn json = .object ∨ kindIn json = .interface →
      (itemsOf (Key.fields.value? json))[place]? = some field →
      Uses json (.field place) (referenceIn field)
  | inputField {place : ℕ} {input : Json} :
      kindIn json = .inputObject →
      (itemsOf (Key.inputFields.value? json))[place]? = some input →
      Uses json (.inputField place) (referenceIn input)
  | interface {place : ℕ} {reference : Json} :
      kindIn json = .object →
      (itemsOf (Key.interfaces.value? json))[place]? = some reference →
      Uses json (.interface place) reference
  | possibleType {place : ℕ} {reference : Json} :
      kindIn json = .interface ∨ kindIn json = .union →
      (itemsOf (Key.possibleTypes.value? json))[place]? = some reference →
      Uses json (.possibleType place) reference

/-- A type of a document, given by its number, breaks a rule at a spot. -/
inductive BreaksRule (types : List Json) : ℕ → Spot → Malformed → Prop where
  | repeatedName {index earlier : ℕ} {json other : Json} :
      types[index]? = some json → earlier < index → types[earlier]? = some other →
      nameIn other = nameIn json → BreaksRule types index .name (.repeatedType (nameIn json))
  | wrapperKind {index : ℕ} {json : Json} :
      types[index]? = some json → (kindIn json).isWrapper = true →
      BreaksRule types index .kind (.wrapperType (nameIn json) (kindIn json))
  | reference {index depth : ℕ} {json reference level : Json} {spot : ℕ → Spot}
      {cause : Malformed} :
      types[index]? = some json → Uses json spot reference → IsLevel reference depth level →
      BreaksLevel level cause → BreaksRule types index (spot depth) cause

/-! ### Levels in order -/

/-- Something is wrong at a level of a reference, counted from a start. -/
def WrongReference (start : ℕ) (reference : Json) (place : List ℕ) (cause : Malformed) : Prop :=
  ∃ depth level, place = [start + depth] ∧ IsLevel reference depth level ∧ BreaksLevel level cause

theorem typeRefOf_of_inner {json : Json} {members : List (String × Json)}
    (hinner : Key.inner.value? json = some (.obj members)) :
    typeRefOf json = .around (kindIn json) (textOf? (Key.ownName.value? json))
      (typeRefOf (.obj members)) := by
  rw [typeRefOf]
  split
  · next found hfound =>
    rw [hinner] at hfound
    cases hfound
    rfl
  · next hnone => exact absurd hinner (hnone members)

theorem typeRefOf_of_not_hasInner {json : Json} (hinner : ¬ HasInner json) :
    typeRefOf json = .plain (kindIn json) (textOf? (Key.ownName.value? json)) := by
  rw [typeRefOf]
  split
  · next found hfound => exact absurd ⟨found, hfound⟩ hinner
  · rfl

/-- The outermost level alone. -/
theorem isFirst_outermost {json : Json} {found : Option Malformed} (start : ℕ)
    (hfound : ∀ cause, found = some cause ↔ BreaksLevel json cause) :
    IsFirst (fun place cause ↦ place = [start] ∧ BreaksLevel json cause) found := by
  cases found with
  | none =>
    rintro place cause ⟨-, hbreaks⟩
    cases (hfound cause).mpr hbreaks
  | some cause =>
    refine ⟨[start], ⟨rfl, (hfound cause).mp rfl⟩, ?_⟩
    rintro later reason ⟨rfl, hbreaks⟩
    exact Or.inr ⟨rfl, (Option.some.inj ((hfound reason).mpr hbreaks)).symm⟩

theorem breaksLevel_of_hasInner {json : Json} (hinner : HasInner json) (cause : Malformed) :
    (if (kindIn json).isWrapper = false then some (.brokenName (kindIn json))
      else if (textOf? (Key.ownName.value? json)).isSome then some (.brokenWrapper (kindIn json))
      else none) = some cause ↔ BreaksLevel json cause := by
  constructor
  · intro hfound
    split_ifs at hfound with hkind hname
    · obtain rfl := Option.some.inj hfound
      exact .name hkind (Or.inr hinner)
    · obtain rfl := Option.some.inj hfound
      exact .wrapper (eq_true_of_ne_false hkind) (Or.inr hname)
  · rintro (⟨hkind, hbroken⟩ | ⟨hkind, -⟩)
    · have hname : (textOf? (Key.ownName.value? json)).isSome = true :=
        hbroken.resolve_left (not_not_intro hinner)
      rw [if_neg (ne_false_of_eq_true hkind), if_pos hname]
    · rw [if_pos hkind]

theorem breaksLevel_of_not_hasInner {json : Json} (hinner : ¬ HasInner json) (cause : Malformed) :
    brokenLevel? (.plain (kindIn json) (textOf? (Key.ownName.value? json))) = some cause ↔
      BreaksLevel json cause := by
  rw [brokenLevel?]
  constructor
  · intro hfound
    split_ifs at hfound with hkind hname
    · obtain rfl := Option.some.inj hfound
      exact .wrapper hkind (Or.inl hinner)
    · obtain rfl := Option.some.inj hfound
      refine .name (eq_false_of_ne_true hkind) (Or.inl ?_)
      rw [HasName, Option.isNone_iff_eq_none.mp hname]
      exact Bool.false_ne_true
  · rintro (⟨hkind, -⟩ | ⟨hkind, hbroken⟩)
    · rw [if_pos hkind]
    · rw [if_neg (ne_true_of_eq_false hkind), if_pos]
      rw [Option.isNone_iff_eq_none, ← Option.not_isSome_iff_eq_none]
      exact hbroken.resolve_right hinner

theorem brokenLevel?_around (kind : TypeKind) (name : Option String) (inner : TypeRef) :
    brokenLevel? (.around kind name inner) =
      (if kind.isWrapper = false then some (.brokenName kind)
        else if name.isSome then some (.brokenWrapper kind) else none).or (brokenLevel? inner) := by
  rw [brokenLevel?]
  simp only [Bool.not_eq_true']
  split_ifs <;> rfl

/-- The levels of a reference around another one are its own, and then those of the other one. -/
theorem wrongReference_iff_of_inner {json : Json} {members : List (String × Json)}
    (hinner : Key.inner.value? json = some (.obj members)) (start : ℕ) (place : List ℕ)
    (cause : Malformed) :
    WrongReference start json place cause ↔
      (place = [start] ∧ BreaksLevel json cause) ∨
        WrongReference (start + 1) (.obj members) place cause := by
  constructor
  · rintro ⟨depth, level, rfl, hlevel, hbreaks⟩
    cases hlevel with
    | outermost _ => exact Or.inl ⟨rfl, hbreaks⟩
    | @inside _ _ found depth hfound hinside =>
      obtain rfl : found = members := by
        rw [hinner] at hfound
        cases hfound
        rfl
      exact Or.inr ⟨depth, level, by rw [Nat.add_right_comm, Nat.add_assoc], hinside, hbreaks⟩
  · rintro (⟨rfl, hbreaks⟩ | ⟨depth, level, rfl, hlevel, hbreaks⟩)
    · exact ⟨0, json, rfl, .outermost json, hbreaks⟩
    · exact ⟨depth + 1, level, by rw [Nat.add_right_comm, Nat.add_assoc], .inside hinner hlevel,
        hbreaks⟩

theorem wrongReference_iff_of_not_hasInner {json : Json} (hinner : ¬ HasInner json) (start : ℕ)
    (place : List ℕ) (cause : Malformed) :
    WrongReference start json place cause ↔ place = [start] ∧ BreaksLevel json cause := by
  constructor
  · rintro ⟨depth, level, rfl, hlevel, hbreaks⟩
    cases hlevel with
    | outermost _ => exact ⟨rfl, hbreaks⟩
    | inside hfound _ => exact absurd ⟨_, hfound⟩ hinner
  · rintro ⟨rfl, hbreaks⟩
    exact ⟨0, json, rfl, .outermost json, hbreaks⟩

/-- The search goes through the levels of a reference from the outside in. -/
theorem isFirst_brokenLevel? (json : Json) (start : ℕ) :
    IsFirst (WrongReference start json) (brokenLevel? (typeRefOf json)) := by
  by_cases hinner : HasInner json
  · obtain ⟨members, hmembers⟩ := hinner
    rw [typeRefOf_of_inner hmembers, brokenLevel?_around]
    refine ((isFirst_outermost start (breaksLevel_of_hasInner ⟨members, hmembers⟩)).or
      (isFirst_brokenLevel? (.obj members) (start + 1)) ?_).congr
      (wrongReference_iff_of_inner hmembers start)
    rintro place cause later reason ⟨rfl, -⟩ ⟨depth, level, rfl, -, -⟩
    exact List.cons_lt_cons_iff.mpr (Or.inl (Nat.lt_add_right depth (Nat.lt_succ_self start)))
  · rw [typeRefOf_of_not_hasInner hinner]
    exact (isFirst_outermost start (breaksLevel_of_not_hasInner hinner)).congr
      (wrongReference_iff_of_not_hasInner hinner start)
termination_by sizeOf json
decreasing_by exact Key.sizeOf_value_lt hmembers

end Introspection

end SchemaBindings
