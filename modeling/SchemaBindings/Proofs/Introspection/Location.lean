import SchemaBindings.Proofs.Introspection.Conformance
/-!
# Places of a document

A place of a document is a location: the keys and the list indexes on the way to it. The models say
which rule holds at a place, and a place is looked at only when every value on the way is of the
right sort (`Leads`); an object on the way may also want a required key (`Wants`). Locations come in
an order, depth first: by the entries of the models as these are declared, and by list indexes
(`Precedes`).
-/

set_option autoImplicit false
set_option relaxedAutoImplicit false

namespace SchemaBindings.Introspection

/-! ### Breaches -/

theorem Suits.breach?_ne_some {rule : Rule} {json : Json} (hsuits : Suits rule json)
    (breach : Breach) : rule.breach? json ≠ some breach := by
  rw [(breach?_eq_none_iff rule json).mpr hsuits]
  exact (Option.some_ne_none breach).symm

theorem exists_breach_of_not_suits {rule : Rule} {json : Json} (hsuits : ¬ Suits rule json) :
    ∃ breach, rule.breach? json = some breach := by
  rw [← breach?_eq_none_iff] at hsuits
  exact Option.ne_none_iff_exists'.mp hsuits

/-- The spellings of a key. -/
def Key.names (key : Key) : List String :=
  [key.name, key.spelling]

/-- A value stands under a key in a spelling: the name that documents use or, where nothing stands
under that, the second one. -/
inductive StandsAs (members : List (String × Json)) (key : Key) (value : Json) : String → Prop
  | name (hvalue : members.lookup key.name = some value) : StandsAs members key value key.name
  | spelling (hnone : members.lookup key.name = none)
      (hvalue : members.lookup key.spelling = some value) : StandsAs members key value key.spelling

section Keys

variable {members : List (String × Json)} {key : Key} {name : String} {value : Json}

theorem StandsAs.mem_names (hstands : StandsAs members key value name) : name ∈ key.names := by
  cases hstands with
  | name hvalue => exact List.mem_cons_self
  | spelling hnone hvalue => exact List.mem_cons_of_mem _ List.mem_cons_self

theorem Key.find?_eq_some_iff :
    key.find? members = some (name, value) ↔ StandsAs members key value name := by
  constructor
  · intro hfound
    unfold Key.find? at hfound
    split at hfound
    · next hvalue =>
      cases hfound
      exact .name hvalue
    · next hnone =>
      obtain ⟨other, hvalue, heq⟩ := Option.map_eq_some_iff.mp hfound
      cases heq
      exact .spelling hnone hvalue
  · intro hstands
    cases hstands with
    | name hvalue => simp [Key.find?, hvalue]
    | spelling hnone hvalue => simp [Key.find?, hnone, hvalue]

theorem StandsAs.sizeOf_lt (hstands : StandsAs members key value name) :
    sizeOf value < sizeOf members :=
  Key.sizeOf_find_lt (Key.find?_eq_some_iff.mpr hstands)

end Keys

/-! ### Places -/

/-- One step from a value and its rule to a value inside it and the rule there. The value itself is
of the right sort. -/
inductive Enters : Rule → Json → Step → Rule → Json → Prop
  | entry {rule : Rule} {members : List (String × Json)} {model : Model} {entry : Entry}
      {name : String} {value : Json} (hsuits : Suits rule (.obj members))
      (hmodel : rule.model? = some model) (hentry : entry ∈ model.entries)
      (hstands : StandsAs members entry.key value name) :
      Enters rule (.obj members) (.key name) entry.rule value
  | item {rule : Rule} {items : List Json} {model : Model} {place : Nat} {item : Json}
      (hsuits : Suits rule (.arr items)) (hmodel : rule.model? = some model)
      (hitem : items[place]? = some item) :
      Enters rule (.arr items) (.index place) (.record model) item

/-- A location leads from a value and its rule to a value inside it and the rule there, through
values of the right sort. -/
inductive Leads : Rule → Json → List Step → Rule → Json → Prop
  | here (rule : Rule) (json : Json) : Leads rule json [] rule json
  | step {rule : Rule} {json : Json} {step : Step} {inner : Rule} {value : Json}
      {location : List Step} {innermost : Rule} {last : Json}
      (henters : Enters rule json step inner value)
      (hleads : Leads inner value location innermost last) :
      Leads rule json (step :: location) innermost last

/-- An object of the right sort wants a key: an entry of its model must be there, and nothing stands
under its key in either spelling. -/
inductive Wants : Rule → Json → Key → Prop
  | intro {rule : Rule} {members : List (String × Json)} {model : Model} {entry : Entry}
      (hsuits : Suits rule (.obj members)) (hmodel : rule.model? = some model)
      (hentry : entry ∈ model.entries) (hrequired : entry.required = true)
      (hlacks : Lacks members entry.key) : Wants rule (.obj members) entry.key

/-- Objects suit only rules about the objects of a model. -/
theorem Suits.exists_model_of_obj {rule : Rule} {members : List (String × Json)}
    (hsuits : Suits rule (.obj members)) : ∃ model, rule.model? = some model := by
  cases hsuits with
  | flag hvalue => cases hvalue
  | record hdepth members => exact ⟨_, rfl⟩
  | nullableRecord hdepth members => exact ⟨_, rfl⟩

/-- Lists suit only rules about the objects of a model. -/
theorem Suits.exists_model_of_arr {rule : Rule} {items : List Json}
    (hsuits : Suits rule (.arr items)) : ∃ model, rule.model? = some model := by
  cases hsuits with
  | flag hvalue => cases hvalue
  | list model items => exact ⟨model, rfl⟩
  | nullableList model items => exact ⟨model, rfl⟩

theorem Enters.suits {rule inner : Rule} {json value : Json} {step : Step}
    (henters : Enters rule json step inner value) : Suits rule json := by
  cases henters with
  | entry hsuits hmodel hentry hstands => exact hsuits
  | item hsuits hmodel hitem => exact hsuits

theorem Wants.suits {rule : Rule} {json : Json} {key : Key} (hwants : Wants rule json key) :
    Suits rule json := by
  cases hwants with
  | intro hsuits hmodel hentry hrequired hlacks => exact hsuits

/-- What is inside a value is smaller. -/
theorem Enters.sizeOf_lt {rule inner : Rule} {json value : Json} {step : Step}
    (henters : Enters rule json step inner value) : sizeOf value < sizeOf json := by
  cases henters with
  | entry hsuits hmodel hentry hstands =>
    have hsmaller := hstands.sizeOf_lt
    rw [Json.obj.sizeOf_spec]
    omega
  | item hsuits hmodel hitem =>
    have hsmaller := List.sizeOf_lt_of_mem (List.mem_of_getElem? hitem)
    rw [Json.arr.sizeOf_spec]
    omega

/-- The value one step inside a value, whatever the rules. -/
def Step.value? : Step → Json → Option Json
  | key name, .obj members => members.lookup name
  | index place, .arr items => items[place]?
  | _, _ => none

/-- One location comes before another, depth first. Keys come in the order in which the model
declares their entries, and indexes in that of numbers. -/
inductive Precedes : Rule → List Step → List Step → Prop
  | entries {rule : Rule} {model : Model} {first second : Entry} {name other : String}
      (front back : List Step) (hmodel : rule.model? = some model)
      (hentries : [first, second].Sublist model.entries) (hname : name ∈ first.key.names)
      (hother : other ∈ second.key.names) : Precedes rule (.key name :: front) (.key other :: back)
  | items {rule : Rule} {model : Model} {place other : Nat} (front back : List Step)
      (hmodel : rule.model? = some model) (hplace : place < other) :
      Precedes rule (.index place :: front) (.index other :: back)
  | inEntry {rule : Rule} {model : Model} {entry : Entry} {name : String} {front back : List Step}
      (hmodel : rule.model? = some model) (hentry : entry ∈ model.entries)
      (hname : name ∈ entry.key.names) (hinside : Precedes entry.rule front back) :
      Precedes rule (.key name :: front) (.key name :: back)
  | inItem {rule : Rule} {model : Model} {place : Nat} {front back : List Step}
      (hmodel : rule.model? = some model) (hinside : Precedes (.record model) front back) :
      Precedes rule (.index place :: front) (.index place :: back)

/-- No spelling belongs to two entries of a model. -/
theorem entries_pairwise_names (model : Model) :
    model.entries.Pairwise fun first second ↦
      ∀ name ∈ first.key.names, name ∉ second.key.names := by
  cases model with
  | typeRef level => simp [Model.entries, Entry.needed, Entry.spare, Key.names, Key.kind,
      Key.ownName, Key.inner, Key.plain]
  | _ => decide

/-- No location comes before itself. -/
theorem Precedes.ne {rule : Rule} {front back : List Step} (hprecedes : Precedes rule front back) :
    front ≠ back := by
  induction hprecedes with
  | @entries rule model first second name other front back hmodel hentries hname hother =>
    intro heq
    cases heq
    exact List.pairwise_iff_forall_sublist.mp (entries_pairwise_names model) hentries name hname
      hother
  | items front back hmodel hplace =>
    intro heq
    cases heq
    exact Nat.lt_irrefl _ hplace
  | inEntry hmodel hentry hname hinside ih => exact fun heq ↦ ih (List.cons.inj heq).2
  | inItem hmodel hinside ih => exact fun heq ↦ ih (List.cons.inj heq).2

end SchemaBindings.Introspection
