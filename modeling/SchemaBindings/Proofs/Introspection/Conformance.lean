import Mathlib.Tactic.SplitIfs
import SchemaBindings.Introspection.Shape
import SchemaBindings.Proofs.Number.Rounding
/-!
# Conformance of documents

`Conforms` says what a loaded value under a rule must be, without listing what is wrong with it: an
object fills the entries of its model and is not too deep inside of references, and a list holds
objects of one model. An entry is filled by the value under its key, in the spelling that counts, or
by nothing where it may be absent. `Suits` says as much of a value alone, leaving aside what is
inside it. A document has no problems exactly when it conforms (`problems_eq_nil_iff`).
-/

set_option autoImplicit false
set_option relaxedAutoImplicit false

namespace SchemaBindings.Introspection

/-! ### Keys -/

/-- A value stands under a key: under the name that documents use or, where nothing stands under
that, under the second spelling. -/
def Holds (members : List (String × Json)) (key : Key) (value : Json) : Prop :=
  members.lookup key.name = some value ∨
    members.lookup key.name = none ∧ members.lookup key.spelling = some value

/-- Nothing stands under a key in either spelling. -/
def Lacks (members : List (String × Json)) (key : Key) : Prop :=
  members.lookup key.name = none ∧ members.lookup key.spelling = none

section Keys

variable {members : List (String × Json)} {key : Key}

theorem Key.find?_eq_none_iff : key.find? members = none ↔ Lacks members key := by
  unfold Key.find? Lacks
  cases members.lookup key.name with
  | none => simp
  | some value => simp

/-- What is found under a key stands under it. -/
theorem Key.holds_of_find? {found : String × Json} (hfound : key.find? members = some found) :
    Holds members key found.2 := by
  unfold Key.find? at hfound
  split at hfound
  · next value hvalue =>
    cases hfound
    exact Or.inl hvalue
  · next hnone =>
    obtain ⟨value, hvalue, rfl⟩ := Option.map_eq_some_iff.mp hfound
    exact Or.inr ⟨hnone, hvalue⟩

theorem Key.value?_eq_some_iff {value : Json} :
    key.value? (.obj members) = some value ↔ Holds members key value := by
  unfold Key.value? Key.find? Holds
  cases hname : members.lookup key.name with
  | none => simp [hname]
  | some other => simp [hname]

theorem Key.value?_eq_none_iff : key.value? (.obj members) = none ↔ Lacks members key := by
  rw [Key.value?, Option.map_eq_none_iff, Key.find?_eq_none_iff]

/-- At most one value stands under a key. -/
theorem Holds.unique {first second : Json} (hfirst : Holds members key first)
    (hsecond : Holds members key second) : first = second := by
  rw [← Key.value?_eq_some_iff] at hfirst hsecond
  exact Option.some.inj (hfirst.symm.trans hsecond)

theorem Holds.not_lacks {value : Json} (hholds : Holds members key value) :
    ¬ Lacks members key := by
  rw [← Key.value?_eq_some_iff] at hholds
  rw [← Key.value?_eq_none_iff, hholds]
  exact Option.some_ne_none value

end Keys

/-! ### Values -/

/-- Values that stand for a flag: a boolean, zero or one, or one of the flag texts in any case. -/
inductive IsFlag : Json → Prop
  | bool (value : Bool) : IsFlag (.bool value)
  | int {value : Int} (hvalue : value = 0 ∨ value = 1) : IsFlag (.int value)
  | float {value : Binary64} {whole : Int} (hwhole : value.toInt? = some whole)
      (hvalue : whole = 0 ∨ whole = 1) : IsFlag (.float value)
  | text {value : String} (hvalue : lowerLetters value ∈ flagTexts) : IsFlag (.str value)

mutual

/-- What a value under a rule must be. -/
inductive Conforms : Rule → Json → Prop
  | text (value : String) : Conforms .text (.str value)
  | nullableText (value : String) : Conforms .nullableText (.str value)
  | noText : Conforms .nullableText .null
  | kind (kind : TypeKind) : Conforms .kind (.str kind.label)
  | flag {value : Json} (hvalue : IsFlag value) : Conforms .flag value
  | record {model : Model} {members : List (String × Json)} (hdepth : model.isTooDeep = false)
      (hentries : ∀ entry ∈ model.entries, Fills entry members) :
      Conforms (.record model) (.obj members)
  | nullableRecord {model : Model} {members : List (String × Json)}
      (hdepth : model.isTooDeep = false)
      (hentries : ∀ entry ∈ model.entries, Fills entry members) :
      Conforms (.nullableRecord model) (.obj members)
  | noRecord (model : Model) : Conforms (.nullableRecord model) .null
  | list {model : Model} {items : List Json}
      (hitems : ∀ item ∈ items, Conforms (.record model) item) :
      Conforms (.list model) (.arr items)
  | nullableList {model : Model} {items : List Json}
      (hitems : ∀ item ∈ items, Conforms (.record model) item) :
      Conforms (.nullableList model) (.arr items)
  | noList (model : Model) : Conforms (.nullableList model) .null

/-- What the members of an object must hold under the key of an entry. -/
inductive Fills : Entry → List (String × Json) → Prop
  | holds {entry : Entry} {members : List (String × Json)} {value : Json}
      (hholds : Holds members entry.key value) (hvalue : Conforms entry.rule value) :
      Fills entry members
  | lacks {entry : Entry} {members : List (String × Json)} (hspare : entry.required = false)
      (hlacks : Lacks members entry.key) : Fills entry members

end

/-! ### Values of the right sort -/

/-- What a value under a rule must be, leaving aside what is inside it. -/
inductive Suits : Rule → Json → Prop
  | text (value : String) : Suits .text (.str value)
  | nullableText (value : String) : Suits .nullableText (.str value)
  | noText : Suits .nullableText .null
  | kind (kind : TypeKind) : Suits .kind (.str kind.label)
  | flag {value : Json} (hvalue : IsFlag value) : Suits .flag value
  | record {model : Model} (hdepth : model.isTooDeep = false) (members : List (String × Json)) :
      Suits (.record model) (.obj members)
  | nullableRecord {model : Model} (hdepth : model.isTooDeep = false)
      (members : List (String × Json)) : Suits (.nullableRecord model) (.obj members)
  | noRecord (model : Model) : Suits (.nullableRecord model) .null
  | list (model : Model) (items : List Json) : Suits (.list model) (.arr items)
  | nullableList (model : Model) (items : List Json) : Suits (.nullableList model) (.arr items)
  | noList (model : Model) : Suits (.nullableList model) .null

theorem Conforms.suits {rule : Rule} {json : Json} (hconforms : Conforms rule json) :
    Suits rule json := by
  cases hconforms with
  | text value => exact .text value
  | nullableText value => exact .nullableText value
  | noText => exact .noText
  | kind kind => exact .kind kind
  | flag hvalue => exact .flag hvalue
  | record hdepth hentries => exact .record hdepth _
  | nullableRecord hdepth hentries => exact .nullableRecord hdepth _
  | noRecord model => exact .noRecord model
  | list hitems => exact .list _ _
  | nullableList hitems => exact .nullableList _ _
  | noList model => exact .noList model

/-! ### Problems -/

theorem ofLabel?_label (kind : TypeKind) : TypeKind.ofLabel? kind.label = some kind := by
  cases kind <;> decide

theorem label_of_ofLabel? {label : String} {kind : TypeKind}
    (hkind : TypeKind.ofLabel? label = some kind) : kind.label = label := by
  simpa using List.find?_some hkind

theorem integerFlagBreach?_eq_none_iff (value : Int) :
    integerFlagBreach? value = none ↔ value = 0 ∨ value = 1 := by
  unfold integerFlagBreach?
  split_ifs <;> simp_all

theorem doubleFlagBreach?_eq_none_iff (value : Binary64) :
    doubleFlagBreach? value = none ↔ ∃ whole, value.toInt? = some whole ∧
      (whole = 0 ∨ whole = 1) := by
  rw [doubleFlagBreach?]
  cases hwhole : value.toInt? with
  | none => simp
  | some whole =>
    have hsmall : whole = 0 ∨ whole = 1 →
        (isWideInteger whole && whole != minWideInteger) = true := by
      rintro (rfl | rfl) <;> decide
    dsimp only
    split_ifs with hwide
    · simp [integerFlagBreach?_eq_none_iff]
    · simpa using mt hsmall hwide

theorem textFlagBreach?_eq_none_iff (text : String) :
    textFlagBreach? text = none ↔ lowerLetters text ∈ flagTexts := by
  simp [textFlagBreach?]

theorem isWideInteger_iff (value : Int) :
    isWideInteger value = true ↔ -2 ^ 63 ≤ value ∧ value < 2 ^ 63 := by
  rw [isWideInteger, Bool.and_eq_true, decide_eq_true_iff, decide_eq_true_iff]
  exact Iff.rfl

/-- An integer of more than 64 bits is no flag: nor is any floating-point number next to it. -/
theorem flagBreach?_of_not_isWideInteger {value : Int} (hvalue : isWideInteger value = false) :
    flagBreach? (.int value) = some .notFlag := by
  have hnarrow := (isWideInteger_iff value).not.mp (Bool.eq_false_iff.mp hvalue)
  have hlarge : 2 ^ 63 ≤ value.natAbs := by omega
  rw [flagBreach?, hvalue, if_neg Bool.false_ne_true, doubleFlagBreach?]
  split
  · next whole hwhole =>
    have hsize := Binary64.le_natAbs_of_toInt?_ofInt hlarge hwhole
    refine if_neg fun hwide ↦ ?_
    rw [Bool.and_eq_true, isWideInteger_iff, bne_iff_ne] at hwide
    have hleast : whole ≠ -2 ^ 63 := hwide.2
    omega
  · rfl

theorem flagBreach?_eq_none_iff (json : Json) : flagBreach? json = none ↔ IsFlag json := by
  constructor
  · intro hnone
    cases json with
    | null => cases hnone
    | arr items => cases hnone
    | obj members => cases hnone
    | bool value => exact .bool value
    | int value =>
      cases hwide : isWideInteger value with
      | true =>
        rw [flagBreach?, if_pos hwide] at hnone
        exact .int ((integerFlagBreach?_eq_none_iff value).mp hnone)
      | false =>
        rw [flagBreach?_of_not_isWideInteger hwide] at hnone
        cases hnone
    | float value =>
      obtain ⟨whole, hwhole, hvalue⟩ := (doubleFlagBreach?_eq_none_iff value).mp hnone
      exact .float hwhole hvalue
    | str value => exact .text ((textFlagBreach?_eq_none_iff value).mp hnone)
  · intro hflag
    cases hflag with
    | bool value => rfl
    | int hvalue =>
      rcases hvalue with rfl | rfl <;> rfl
    | float hwhole hvalue => exact (doubleFlagBreach?_eq_none_iff _).mpr ⟨_, hwhole, hvalue⟩
    | text hvalue => exact (textFlagBreach?_eq_none_iff _).mpr hvalue

/-- Where nothing is inside a value, its own place decides. -/
theorem conforms_of_breach?_eq_none {rule : Rule} {json : Json} (hmodel : rule.model? = none)
    (hbreach : rule.breach? json = none) : Conforms rule json := by
  cases rule with
  | text =>
    cases json with
    | str value => exact .text value
    | _ => cases hbreach
  | nullableText =>
    cases json with
    | str value => exact .nullableText value
    | null => exact .noText
    | _ => cases hbreach
  | kind =>
    cases json with
    | str label =>
      rw [Rule.breach?] at hbreach
      split_ifs at hbreach with hlabel
      obtain ⟨kind, hkind⟩ := Option.isSome_iff_exists.mp hlabel
      rw [← label_of_ofLabel? hkind]
      exact .kind kind
    | _ => cases hbreach
  | flag => exact .flag ((flagBreach?_eq_none_iff json).mp hbreach)
  | _ => cases hmodel

/-- An object stands for one of a model where it is not too deep. -/
theorem Model.breach?_obj_eq_none_iff (model : Model) (members : List (String × Json)) :
    model.breach? (.obj members) = none ↔ model.isTooDeep = false := by
  rw [Model.breach?]
  cases model.isTooDeep <;> simp

/-- A value has no breach at its own place exactly when it is of the right sort. -/
theorem breach?_eq_none_iff (rule : Rule) (json : Json) :
    rule.breach? json = none ↔ Suits rule json := by
  constructor
  · intro hbreach
    cases hmodel : rule.model? with
    | none => exact (conforms_of_breach?_eq_none hmodel hbreach).suits
    | some model =>
      cases rule with
      | record model =>
        cases json with
        | obj members =>
          exact .record ((model.breach?_obj_eq_none_iff members).mp hbreach) members
        | _ => cases hbreach
      | nullableRecord model =>
        cases json with
        | obj members =>
          exact .nullableRecord ((model.breach?_obj_eq_none_iff members).mp hbreach) members
        | null => exact .noRecord model
        | _ => cases hbreach
      | list model =>
        cases json with
        | arr items => exact .list model items
        | _ => cases hbreach
      | nullableList model =>
        cases json with
        | arr items => exact .nullableList model items
        | null => exact .noList model
        | _ => cases hbreach
      | _ => cases hmodel
  · intro hsuits
    cases hsuits with
    | kind kind => simp [Rule.breach?, ofLabel?_label]
    | flag hvalue => exact (flagBreach?_eq_none_iff _).mpr hvalue
    | record hdepth members => exact (Model.breach?_obj_eq_none_iff _ members).mpr hdepth
    | nullableRecord hdepth members => exact (Model.breach?_obj_eq_none_iff _ members).mpr hdepth
    | _ => rfl

/-- A value that conforms does not break its rule at its own place. -/
theorem Conforms.breach?_eq_none {rule : Rule} {json : Json} (hconforms : Conforms rule json) :
    rule.breach? json = none :=
  (breach?_eq_none_iff rule json).mpr hconforms.suits

section Inside

variable {rule : Rule} {model : Model} (hmodel : rule.model? = some model)

include hmodel

/-- An object that is of the right sort conforms when its entries do. -/
theorem conforms_obj_iff {members : List (String × Json)}
    (hbreach : rule.breach? (.obj members) = none) :
    Conforms rule (.obj members) ↔ ∀ entry ∈ model.entries, Fills entry members := by
  constructor
  · intro hconforms
    cases hconforms <;> cases hmodel
    · assumption
    · assumption
  · intro hfills
    cases rule <;> cases hmodel
    · exact .record ((model.breach?_obj_eq_none_iff members).mp hbreach) hfills
    · exact .nullableRecord ((model.breach?_obj_eq_none_iff members).mp hbreach) hfills
    · cases hbreach
    · cases hbreach

/-- A list that is of the right sort conforms when its items do. -/
theorem conforms_arr_iff {items : List Json} (hbreach : rule.breach? (.arr items) = none) :
    Conforms rule (.arr items) ↔ ∀ item ∈ items, Conforms (.record model) item := by
  constructor
  · intro hconforms
    cases hconforms <;> cases hmodel
    · assumption
    · assumption
  · intro hconform
    cases rule <;> cases hmodel
    · cases hbreach
    · cases hbreach
    · exact .list hconform
    · exact .nullableList hconform

theorem conforms_null (hbreach : rule.breach? .null = none) : Conforms rule .null := by
  cases rule <;> cases hmodel
  · cases hbreach
  · exact .noRecord model
  · cases hbreach
  · exact .noList model

end Inside

mutual

/-- A value has no problems exactly when it conforms. -/
theorem problems_eq_nil_iff (rule : Rule) (json : Json) :
    rule.problems json = [] ↔ Conforms rule json := by
  unfold Rule.problems
  cases hbreach : rule.breach? json with
  | some breach =>
    refine ⟨fun hnil ↦ absurd hnil (List.cons_ne_nil _ _), fun hconforms ↦ ?_⟩
    rw [hconforms.breach?_eq_none] at hbreach
    cases hbreach
  | none =>
    cases hmodel : rule.model? with
    | none => exact ⟨fun _ ↦ conforms_of_breach?_eq_none hmodel hbreach, fun _ ↦ rfl⟩
    | some model =>
      -- Without a breach at its own place, a value is null, an object or a list, as its rule asks.
      cases json with
      | obj members =>
        rw [conforms_obj_iff hmodel hbreach]
        dsimp only
        rw [List.flatMap_eq_nil_iff]
        exact forall₂_congr fun entry _ ↦ entryProblems_eq_nil_iff entry members
      | arr items =>
        rw [conforms_arr_iff hmodel hbreach]
        exact itemProblems_eq_nil_iff model 0 items
      | null => exact ⟨fun _ ↦ conforms_null hmodel hbreach, fun _ ↦ rfl⟩
      | _ => cases rule <;> cases hmodel <;> cases hbreach
termination_by (sizeOf json, 0)

theorem entryProblems_eq_nil_iff (entry : Entry) (members : List (String × Json)) :
    entry.problems members = [] ↔ Fills entry members := by
  rw [Entry.problems]
  split
  · next key value hfound =>
    have hholds : Holds members entry.key value := Key.holds_of_find? hfound
    have hsmaller := Key.sizeOf_find_lt hfound
    rw [List.map_eq_nil_iff, problems_eq_nil_iff entry.rule value]
    refine ⟨fun hvalue ↦ .holds hholds hvalue, fun hfills ↦ ?_⟩
    cases hfills with
    | holds hother hvalue => exact hholds.unique hother ▸ hvalue
    | lacks hspare hlacks => exact absurd hlacks hholds.not_lacks
  · next hnone =>
    have hlacks := Key.find?_eq_none_iff.mp hnone
    constructor
    · intro hnil
      split_ifs at hnil with hrequired
      exact .lacks (Bool.eq_false_iff.mpr hrequired) hlacks
    · intro hfills
      cases hfills with
      | holds hholds hvalue => exact absurd hlacks hholds.not_lacks
      | lacks hspare _ => simp [hspare]
termination_by (sizeOf members, 0)

theorem itemProblems_eq_nil_iff (model : Model) (place : Nat) (items : List Json) :
    model.itemProblems place items = [] ↔ ∀ item ∈ items, Conforms (.record model) item := by
  cases items with
  | nil => simp [Model.itemProblems]
  | cons item rest =>
    rw [Model.itemProblems, List.append_eq_nil_iff, List.map_eq_nil_iff,
      problems_eq_nil_iff (.record model) item, itemProblems_eq_nil_iff model (place + 1) rest,
      List.forall_mem_cons]
termination_by (sizeOf items, 0)

end

/-! ### One step -/

section Steps

variable {rule : Rule} {model : Model} {members : List (String × Json)} {items : List Json}

theorem problems_of_breach {json : Json} {breach : Breach}
    (hbreach : rule.breach? json = some breach) : rule.problems json = [⟨[], breach⟩] := by
  unfold Rule.problems
  rw [hbreach]

theorem problems_obj (hsuits : Suits rule (.obj members)) (hmodel : rule.model? = some model) :
    rule.problems (.obj members) = model.entries.flatMap fun entry ↦ entry.problems members := by
  unfold Rule.problems
  rw [(breach?_eq_none_iff rule _).mpr hsuits, hmodel]

theorem itemProblems_eq_flatMap (model : Model) (place : Nat) (items : List Json) :
    model.itemProblems place items = (items.zipIdx place).flatMap fun item ↦
      ((Rule.record model).problems item.1).map (Problem.under (.index item.2)) := by
  induction items generalizing place with
  | nil => rw [Model.itemProblems, List.zipIdx_nil, List.flatMap_nil]
  | cons item items ih => rw [Model.itemProblems, ih, List.zipIdx_cons, List.flatMap_cons]

theorem problems_arr (hsuits : Suits rule (.arr items)) (hmodel : rule.model? = some model) :
    rule.problems (.arr items) = items.zipIdx.flatMap fun item ↦
      ((Rule.record model).problems item.1).map (Problem.under (.index item.2)) := by
  have hitems : rule.problems (.arr items) = model.itemProblems 0 items := by
    unfold Rule.problems
    rw [(breach?_eq_none_iff rule _).mpr hsuits, hmodel]
  rw [hitems, itemProblems_eq_flatMap]

/-- Nothing is found inside a value that is neither an object nor a list. -/
theorem problems_leaf {json : Json} (hsuits : Suits rule json)
    (hobj : ∀ members, json ≠ .obj members) (harr : ∀ items, json ≠ .arr items) :
    rule.problems json = [] := by
  unfold Rule.problems
  rw [(breach?_eq_none_iff rule _).mpr hsuits]
  cases json with
  | obj members => exact absurd rfl (hobj members)
  | arr items => exact absurd rfl (harr items)
  | _ => cases rule.model? <;> rfl

theorem entryProblems_of_find? {entry : Entry} {name : String} {value : Json}
    (hfound : entry.key.find? members = some (name, value)) :
    entry.problems members = (entry.rule.problems value).map (Problem.under (.key name)) := by
  unfold Entry.problems
  split
  · next hother =>
    cases hfound.symm.trans hother
    rfl
  · next hnone => cases hfound.symm.trans hnone

theorem entryProblems_of_find?_eq_none {entry : Entry}
    (hnone : entry.key.find? members = none) :
    entry.problems members =
      if entry.required then [⟨[.key entry.key.name], .missing⟩] else [] := by
  unfold Entry.problems
  split
  · next hfound => cases hnone.symm.trans hfound
  · rfl

end Steps

end SchemaBindings.Introspection
