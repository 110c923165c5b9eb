import Mathlib.Data.List.Basic
import Mathlib.Data.List.Lex
/-!
# The first of what is wrong

Something can be wrong at many places of one thing. A place is given by the numbers on the way to
it, so places are ordered by their numbers, from the left. `IsFirst wrong found` says what a search
finds: nothing if nothing is wrong, and otherwise what is wrong at a place before all others. One
search after another finds the first of what they look for when everything that the first one looks
for stands before (`IsFirst.or`), and so does a search in the items of a list, one after the other
(`IsFirst.findSome?`).
-/

set_option autoImplicit false
set_option relaxedAutoImplicit false

namespace SchemaBindings

variable {ε α β : Type} {wrong other : List ℕ → ε → Prop} {found second : Option ε}

/-- A search finds nothing if nothing is wrong, and otherwise what is wrong at a place before all
others. -/
def IsFirst (wrong : List ℕ → ε → Prop) : Option ε → Prop
  | none => ∀ place cause, ¬ wrong place cause
  | some found => ∃ place, wrong place found ∧
      ∀ later cause, wrong later cause → place < later ∨ later = place ∧ cause = found

theorem IsFirst.eq_none_iff (hfirst : IsFirst wrong found) :
    found = none ↔ ∀ place cause, ¬ wrong place cause := by
  cases found with
  | none => exact iff_of_true rfl hfirst
  | some cause =>
    obtain ⟨place, hwrong, -⟩ := hfirst
    exact iff_of_false (Option.some_ne_none cause) fun hnone ↦ hnone place cause hwrong

/-- Two places of which neither is before the other are the same, so what is wrong at a least place
is what a search finds. -/
theorem IsFirst.eq_some_iff (hfirst : IsFirst wrong found) {cause : ε} :
    found = some cause ↔
      ∃ place, wrong place cause ∧ ∀ later reason, wrong later reason → place ≤ later := by
  cases found with
  | none =>
    refine iff_of_false (Option.some_ne_none cause).symm ?_
    rintro ⟨place, hwrong, -⟩
    exact hfirst place cause hwrong
  | some least =>
    obtain ⟨place, hwrong, hbefore⟩ := hfirst
    constructor
    · intro hsame
      obtain rfl := Option.some.inj hsame
      refine ⟨place, hwrong, fun later reason hlater ↦ ?_⟩
      rcases hbefore later reason hlater with hlt | ⟨rfl, -⟩
      · exact le_of_lt hlt
      · exact le_refl _
    · rintro ⟨least, hleast, hminimal⟩
      rcases hbefore least cause hleast with hlt | ⟨-, rfl⟩
      · exact absurd (hminimal place _ hwrong) (not_le_of_gt hlt)
      · rfl

theorem IsFirst.congr (hfirst : IsFirst wrong found)
    (hsame : ∀ place cause, other place cause ↔ wrong place cause) : IsFirst other found := by
  have heq : other = wrong := funext fun place ↦ funext fun cause ↦ propext (hsame place cause)
  rw [heq]
  exact hfirst

/-- One thing is wrong or nothing. -/
theorem IsFirst.ite (holds : Prop) [Decidable holds] (place : List ℕ) (cause : ε) :
    IsFirst (fun later reason ↦ holds ∧ later = place ∧ reason = cause)
      (if holds then some cause else none) := by
  by_cases hholds : holds
  · rw [if_pos hholds]
    exact ⟨place, ⟨hholds, rfl, rfl⟩, fun later reason hlater ↦ Or.inr hlater.2⟩
  · rw [if_neg hholds]
    exact fun later reason hlater ↦ hholds hlater.1

/-- One search after another. -/
theorem IsFirst.or (hfirst : IsFirst wrong found) (hsecond : IsFirst other second)
    (hbefore : ∀ place cause later reason, wrong place cause → other later reason →
      place < later) :
    IsFirst (fun place cause ↦ wrong place cause ∨ other place cause) (found.or second) := by
  cases found with
  | none =>
    rw [Option.none_or]
    refine hsecond.congr fun place cause ↦ ?_
    rw [or_iff_right (hfirst place cause)]
  | some cause =>
    obtain ⟨place, hwrong, hleast⟩ := hfirst
    rw [Option.some_or]
    refine ⟨place, Or.inl hwrong, ?_⟩
    rintro later reason (hlater | hlater)
    · exact hleast later reason hlater
    · exact Or.inl (hbefore place cause later reason hwrong hlater)

/-- Something is wrong behind a number. -/
def Behind (number : ℕ) (wrong : List ℕ → ε → Prop) (place : List ℕ) (cause : ε) : Prop :=
  ∃ rest, place = number :: rest ∧ wrong rest cause

theorem Behind.lt {number larger : ℕ} (hnumbers : number < larger) {place later : List ℕ}
    {cause reason : ε} (hplace : Behind number wrong place cause)
    (hlater : Behind larger other later reason) : place < later := by
  obtain ⟨rest, rfl, -⟩ := hplace
  obtain ⟨rest, rfl, -⟩ := hlater
  exact List.cons_lt_cons_iff.mpr (Or.inl hnumbers)

theorem IsFirst.behind (hfirst : IsFirst wrong found) (number : ℕ) :
    IsFirst (Behind number wrong) found := by
  cases found with
  | none =>
    rintro place cause ⟨rest, -, hwrong⟩
    exact hfirst rest cause hwrong
  | some cause =>
    obtain ⟨place, hwrong, hleast⟩ := hfirst
    refine ⟨number :: place, ⟨place, rfl, hwrong⟩, ?_⟩
    rintro later reason ⟨rest, rfl, hrest⟩
    rcases hleast rest reason hrest with hlt | ⟨rfl, rfl⟩
    · exact Or.inl (List.cons_lt_cons_iff.mpr (Or.inr ⟨rfl, hlt⟩))
    · exact Or.inr ⟨rfl, rfl⟩

/-- Something is wrong in an item of a list, behind the number of the item counted from a start. -/
def InItems (start : ℕ) (wrongIn : α → List ℕ → ε → Prop) (items : List α) (place : List ℕ)
    (cause : ε) : Prop :=
  ∃ index item, items[index]? = some item ∧ Behind (start + index) (wrongIn item) place cause

theorem inItems_cons_iff {start : ℕ} {wrongIn : α → List ℕ → ε → Prop} {item : α} {items : List α}
    {place : List ℕ} {cause : ε} :
    InItems start wrongIn (item :: items) place cause ↔
      Behind start (wrongIn item) place cause ∨ InItems (start + 1) wrongIn items place cause := by
  constructor
  · rintro ⟨index, found, hfound, hwrong⟩
    cases index with
    | zero =>
      obtain rfl := Option.some.inj hfound
      exact Or.inl hwrong
    | succ index =>
      refine Or.inr ⟨index, found, hfound, ?_⟩
      rwa [Nat.add_right_comm, Nat.add_assoc]
  · rintro (hwrong | ⟨index, found, hfound, hwrong⟩)
    · exact ⟨0, item, rfl, hwrong⟩
    · refine ⟨index + 1, found, hfound, ?_⟩
      rwa [← Nat.add_assoc, Nat.add_right_comm]

theorem inItems_zero_iff {wrongIn : α → List ℕ → ε → Prop} {items : List α} {place : List ℕ}
    {cause : ε} :
    InItems 0 wrongIn items place cause ↔ ∃ index item rest, items[index]? = some item ∧
      place = index :: rest ∧ wrongIn item rest cause := by
  unfold InItems Behind
  simp only [Nat.zero_add, exists_and_left]

/-- What is wrong in an item stands before what is wrong in later items. -/
theorem Behind.lt_of_inItems {start larger : ℕ} (hnumbers : start < larger)
    {wrongIn : α → List ℕ → ε → Prop} {items : List α} {place later : List ℕ} {cause reason : ε}
    (hplace : Behind start wrong place cause) (hlater : InItems larger wrongIn items later reason) :
    place < later := by
  obtain ⟨index, item, -, hwrong⟩ := hlater
  exact hplace.lt (Nat.lt_add_right index hnumbers) hwrong

/-- The items of a list, one after the other. -/
theorem IsFirst.findSome? {wrongIn : α → List ℕ → ε → Prop} {search : α → Option ε} {items : List α}
    (hitems : ∀ item ∈ items, IsFirst (wrongIn item) (search item)) (start : ℕ) :
    IsFirst (InItems start wrongIn items) (items.findSome? search) := by
  induction items generalizing start with
  | nil =>
    rintro place cause ⟨index, item, hitem, -⟩
    cases hitem
  | cons item items ih =>
    obtain ⟨hitem, hrest⟩ := List.forall_mem_cons.mp hitems
    have hcons : (item :: items).findSome? search = (search item).or (items.findSome? search) := by
      rw [List.findSome?_cons]
      cases search item with
      | none => rfl
      | some cause => rfl
    rw [hcons]
    refine ((hitem.behind start).or (ih hrest (start + 1)) ?_).congr fun _ _ ↦ inItems_cons_iff
    exact fun place cause later reason hplace hlater ↦
      hplace.lt_of_inItems (Nat.lt_succ_self start) hlater

/-- A search in the parts of all items is a search in each item. -/
theorem findSome?_flatMap (parts : α → List β) (search : β → Option ε) (items : List α) :
    (items.flatMap parts).findSome? search =
      items.findSome? fun item ↦ (parts item).findSome? search := by
  induction items with
  | nil => rfl
  | cons item items ih =>
    rw [List.flatMap_cons, List.findSome?_append, List.findSome?_cons, ih]
    cases (parts item).findSome? search with
    | none => rfl
    | some cause => rfl

end SchemaBindings
