import Mathlib.Data.List.Forall2
import SchemaBindings.Introspection.TextShape
import SchemaBindings.Proofs.Introspection.Conformance
import SchemaBindings.Proofs.Json.Nesting
/-!
# The shape of a text and of a value

A document is checked by one set of rules if it comes from a text, and by another one if it is
loaded. The two differ in their words for objects and lists, in how a large integer that stands for
a flag is refused, and in that only loaded values are guarded against references inside of
references without end. Where the guard is out of reach they find the same problems at one place
(`optionRel_readBreach?`), and so, going down into a value, in the whole of it
(`forall₂_readProblems`).
-/

set_option autoImplicit false
set_option relaxedAutoImplicit false

namespace SchemaBindings.Introspection

/-! ### Problems that correspond -/

/-- A breach in a text and the breach in a loaded value that corresponds to it: the same one, but
that an object is an instance of a model there and an array is a list. -/
inductive SameBreach : Breach → Breach → Prop
  | same (breach : Breach) : SameBreach breach breach
  | object (model : Model) : SameBreach .notObject (.notInstance model)
  | array : SameBreach .notArray .notList

/-- A problem of a text and the problem of a loaded value that corresponds to it. -/
structure SameProblem (inText inValue : Problem) : Prop where
  location : inText.location = inValue.location
  breach : SameBreach inText.breach inValue.breach

theorem SameProblem.under {inText inValue : Problem} (hsame : SameProblem inText inValue)
    (step : Step) : SameProblem (inText.under step) (inValue.under step) :=
  ⟨congrArg (step :: ·) hsame.location, hsame.breach⟩

theorem forall₂_map_under {inText inValue : List Problem}
    (hsame : List.Forall₂ SameProblem inText inValue) (step : Step) :
    List.Forall₂ SameProblem (inText.map (Problem.under step))
      (inValue.map (Problem.under step)) :=
  List.forall₂_map_left_iff.mpr (List.forall₂_map_right_iff.mpr
    (hsame.imp fun _ _ hproblem ↦ hproblem.under step))

/-! ### Levels -/

/-- How many references the objects of a model are inside of. -/
def Model.level : Model → Nat
  | typeRef level => level
  | document | data | schema | typeName | type | field | inputValue | enumValue => 0

theorem Model.isTooDeep_eq_false_iff (model : Model) :
    model.isTooDeep = false ↔ model.level ≤ maxLevel := by
  cases model with
  | typeRef level => rw [isTooDeep, decide_eq_false_iff_not, not_lt, Model.level]
  | _ => exact iff_of_true rfl (Nat.zero_le _)

/-- How many references the objects that a rule speaks of are inside of. -/
def Rule.level (rule : Rule) : Nat :=
  (rule.model?.map Model.level).getD 0

/-- From an object to its entries there is one more level at most. -/
theorem Model.level_entry_le {model : Model} {entry : Entry} (hentry : entry ∈ model.entries) :
    entry.rule.level ≤ model.level + 1 := by
  cases model with
  | typeRef level =>
    simp only [entries, List.mem_cons, List.not_mem_nil, or_false] at hentry
    rcases hentry with rfl | rfl | rfl
    · exact Nat.zero_le _
    · exact Nat.zero_le _
    · exact le_rfl
  | _ => revert entry; decide

/-! ### One place -/

/-- An integer of more than 64 bits is no flag, as it stands or as a floating-point number. -/
theorem readFlagBreach?_eq (json : Json) : readFlagBreach? json = flagBreach? json := by
  cases json with
  | int value =>
    cases hwide : isWideInteger value with
    | true => rw [readFlagBreach?, flagBreach?, if_pos hwide, if_pos hwide]
    | false => rw [flagBreach?_of_not_isWideInteger hwide, readFlagBreach?, hwide]; rfl
  | _ => rfl

theorem optionRel_same (breach? : Option Breach) : Option.Rel SameBreach breach? breach? := by
  cases breach? with
  | none => exact .none
  | some breach => exact .some (.same breach)

theorem Model.breach?_of_level_le {model : Model} (hlevel : model.level ≤ maxLevel) (json : Json) :
    model.breach? json =
      match json with
      | .obj _ => none
      | _ => some (.notInstance model) := by
  have hshallow := model.isTooDeep_eq_false_iff.mpr hlevel
  cases json <;> simp [breach?, hshallow]

/-- A value breaks a rule in a text and as a loaded value alike, if the objects that the rule speaks
of are not too deep inside of references. -/
theorem optionRel_readBreach? {rule : Rule} (hlevel : rule.level ≤ maxLevel) (json : Json) :
    Option.Rel SameBreach (rule.readBreach? json) (rule.breach? json) := by
  cases rule with
  | flag =>
    have hread : Rule.flag.readBreach? json = readFlagBreach? json := by cases json <;> rfl
    rw [hread, readFlagBreach?_eq]
    exact optionRel_same _
  | record model =>
    rw [Rule.breach?, Model.breach?_of_level_le hlevel]
    cases json with
    | obj members => exact .none
    | _ => exact .some (.object model)
  | nullableRecord model =>
    cases json with
    | null => exact .none
    | obj members =>
      rw [Rule.breach?, Model.breach?_of_level_le hlevel]
      · exact .none
      · intro hnull
        cases hnull
    | _ =>
      rw [Rule.breach?, Model.breach?_of_level_le hlevel]
      · exact .some (.object model)
      · intro hnull
        cases hnull
  | list model => cases json <;> first | exact .none | exact .some .array
  | nullableList model => cases json <;> first | exact .none | exact .some .array
  | _ => cases json <;> exact optionRel_same _

/-! ### Whole values -/

/-- What is found under a key nests less deep than the object. -/
theorem Key.nesting_lt_of_find? {key : Key} {members : List (String × Json)}
    {found : String × Json} (hfound : key.find? members = some found) :
    found.2.nesting < (Json.obj members).nesting := by
  obtain ⟨name, hlookup⟩ : ∃ name, members.lookup name = some found.2 :=
    (holds_of_find? hfound).elim (⟨_, ·⟩) (⟨_, ·.2⟩)
  obtain ⟨front, back, rfl, -⟩ := List.lookup_eq_some_iff.mp hlookup
  have hmember : (name, found.2) ∈ front ++ (name, found.2) :: back :=
    List.mem_append_right front List.mem_cons_self
  have hnesting := Json.nesting_lt_of_mem_members hmember
  exact hnesting

theorem forall₂_entryReadProblems {entry : Entry} {members : List (String × Json)}
    (hvalue : ∀ found, entry.key.find? members = some found →
      List.Forall₂ SameProblem (entry.rule.readProblems found.2) (entry.rule.problems found.2)) :
    List.Forall₂ SameProblem (entry.readProblems members) (entry.problems members) := by
  rw [Entry.readProblems]
  split
  · next key value hfound =>
    rw [entryProblems_of_find? hfound]
    exact forall₂_map_under (hvalue _ hfound) (.key key)
  · next hnone =>
    rw [entryProblems_of_find?_eq_none hnone]
    split
    · exact .cons ⟨rfl, .same _⟩ .nil
    · exact .nil

theorem forall₂_readItemProblems {model : Model} {items : List Json}
    (hitems : ∀ item ∈ items, List.Forall₂ SameProblem ((Rule.record model).readProblems item)
      ((Rule.record model).problems item)) (place : Nat) :
    List.Forall₂ SameProblem (model.readItemProblems place items)
      (model.itemProblems place items) := by
  induction items generalizing place with
  | nil =>
    rw [Model.readItemProblems, Model.itemProblems]
    exact .nil
  | cons item rest ih =>
    obtain ⟨hitem, hrest⟩ := List.forall_mem_cons.mp hitems
    rw [Model.readItemProblems, Model.itemProblems]
    exact List.rel_append (forall₂_map_under hitem (.index place)) (ih hrest (place + 1))

/-- The problems of a value in a text are those of the loaded value, if the references in it stay
clear of the guard against endless ones. -/
theorem forall₂_readProblems (rule : Rule) (json : Json)
    (hlevel : rule.level + json.nesting ≤ maxLevel) :
    List.Forall₂ SameProblem (rule.readProblems json) (rule.problems json) := by
  have hbreaches := optionRel_readBreach? (Nat.le_of_add_right_le hlevel) json
  unfold Rule.readProblems Rule.problems
  revert hbreaches
  generalize rule.readBreach? json = inText, rule.breach? json = inValue
  rintro (hsame | -)
  · exact .cons ⟨rfl, hsame⟩ .nil
  cases hmodel : rule.model? with
  | none => exact .nil
  | some model =>
    have hmodelLevel : rule.level = model.level := by
      rw [Rule.level, hmodel]
      rfl
    cases json with
    | obj members =>
      -- Both go through the same entries.
      refine List.rel_flatMap (R := fun first second ↦ first = second ∧ first ∈ model.entries)
        (List.forall₂_same.mpr fun entry hentry ↦ ⟨rfl, hentry⟩) ?_
      rintro entry _ ⟨rfl, hentry⟩
      have hentryLevel := Model.level_entry_le hentry
      refine forall₂_entryReadProblems fun found hfound ↦ ?_
      have hsmaller := Key.sizeOf_find_lt hfound
      have hnesting := Key.nesting_lt_of_find? hfound
      exact forall₂_readProblems entry.rule found.2 (by omega)
    | arr items =>
      refine forall₂_readItemProblems (fun item hitem ↦ ?_) 0
      have hsmaller := List.sizeOf_lt_of_mem hitem
      have hnesting := Json.nesting_lt_of_mem hitem
      have hitemLevel : (Rule.record model).level = model.level := rfl
      exact forall₂_readProblems (.record model) item (by omega)
    | _ => exact .nil
termination_by sizeOf json
decreasing_by
  all_goals
    simp only [*, Json.obj.sizeOf_spec, Json.arr.sizeOf_spec]
    omega

end SchemaBindings.Introspection
