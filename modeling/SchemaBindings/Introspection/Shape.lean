import SchemaBindings.Json.Basic
import SchemaBindings.Schema.TypeRef
/-!
# The shape of an introspection document

An introspection document is an object of objects, described here by models: the entries that an
object of a model has, the key of each and the rule for its value. `Rule.problems` lists every place
of a loaded value that breaks the rules, depth first and in the order of the entries. Entries that a
model does not have are ignored.

A reference holds another one in its inner entry. A loaded value might hold itself, so the levels of
a reference are counted, and behind `maxLevel` of them nothing is looked at but null.
-/

set_option autoImplicit false
set_option relaxedAutoImplicit false

namespace SchemaBindings.Introspection

/-! ### Models -/

/-- The objects that a document is made of. A reference has its level: how many references it is
inside of. -/
inductive Model where
  | document
  | data
  | schema
  | typeName
  | type
  | field
  | inputValue
  | enumValue
  | typeRef (level : Nat)
  deriving DecidableEq, Repr

/-- The name of a model in messages. -/
def Model.label : Model → String
  | document => "IntrospectionDocument"
  | data => "WireData"
  | schema => "WireSchema"
  | typeName => "WireTypeName"
  | type => "WireType"
  | field => "WireField"
  | inputValue => "WireInputValue"
  | enumValue => "WireEnumValue"
  | typeRef _ => "WireTypeRef"

/-- The level of the innermost reference that is looked at. -/
def maxLevel : Nat := 253

/-- Whether the objects of a model are too deep inside of references to be looked at. -/
def Model.isTooDeep : Model → Bool
  | typeRef level => maxLevel < level
  | document | data | schema | typeName | type | field | inputValue | enumValue => false

/-- What the value of an entry must be. The nullable rules accept null as well. -/
inductive Rule where
  | text
  | nullableText
  | kind
  | flag
  | record (model : Model)
  | nullableRecord (model : Model)
  | list (model : Model)
  | nullableList (model : Model)
  deriving DecidableEq, Repr

/-- The key of an entry: the name that documents use, and a second spelling that is accepted where
the first is absent. -/
structure Key where
  name : String
  spelling : String
  deriving DecidableEq, Repr

namespace Key

/-- A key with one spelling. -/
def plain (name : String) : Key := ⟨name, name⟩

def kind : Key := plain "kind"
def ownName : Key := plain "name"
def description : Key := plain "description"
def type : Key := plain "type"
def arguments : Key := plain "args"
def fields : Key := plain "fields"
def interfaces : Key := plain "interfaces"
def types : Key := plain "types"
def data : Key := plain "data"
def inner : Key := ⟨"ofType", "of_type"⟩
def defaultValue : Key := ⟨"defaultValue", "default_value"⟩
def isDeprecated : Key := ⟨"isDeprecated", "is_deprecated"⟩
def deprecationReason : Key := ⟨"deprecationReason", "deprecation_reason"⟩
def inputFields : Key := ⟨"inputFields", "input_fields"⟩
def enumValues : Key := ⟨"enumValues", "enum_values"⟩
def possibleTypes : Key := ⟨"possibleTypes", "possible_types"⟩
def query : Key := ⟨"queryType", "query_type"⟩
def mutation : Key := ⟨"mutationType", "mutation_type"⟩
def subscription : Key := ⟨"subscriptionType", "subscription_type"⟩
def schema : Key := ⟨"__schema", "introspected_schema"⟩

/-- The entry of a key among the members of an object, with the spelling it was found under. -/
def find? (key : Key) (members : List (String × Json)) : Option (String × Json) :=
  match members.lookup key.name with
  | some value => some (key.name, value)
  | none => (members.lookup key.spelling).map fun value => (key.spelling, value)

/-- The value of a key in an object. -/
def value? (key : Key) : Json → Option Json
  | .obj members => (key.find? members).map Prod.snd
  | _ => none

end Key

/-- An entry of a model. -/
structure Entry where
  key : Key
  rule : Rule
  required : Bool
  deriving DecidableEq, Repr

/-- An entry that must be present. -/
def Entry.needed (key : Key) (rule : Rule) : Entry := ⟨key, rule, true⟩

/-- An entry that may be absent. -/
def Entry.spare (key : Key) (rule : Rule) : Entry := ⟨key, rule, false⟩

/-- The entries of a model, in order. -/
def Model.entries : Model → List Entry
  | document => [.needed .data (.record data)]
  | data => [.needed .schema (.record schema)]
  | schema =>
    [.spare .query (.nullableRecord typeName), .spare .mutation (.nullableRecord typeName),
      .spare .subscription (.nullableRecord typeName), .needed .types (.list type)]
  | typeName => [.needed .ownName .text]
  | type =>
    [.needed .kind .kind, .needed .ownName .text, .spare .description .nullableText,
      .spare .fields (.nullableList field), .spare .inputFields (.nullableList inputValue),
      .spare .interfaces (.nullableList (typeRef 0)), .spare .enumValues (.nullableList enumValue),
      .spare .possibleTypes (.nullableList (typeRef 0))]
  | field =>
    [.needed .ownName .text, .spare .description .nullableText,
      .spare .arguments (.nullableList inputValue), .needed .type (.record (typeRef 0)),
      .spare .isDeprecated .flag, .spare .deprecationReason .nullableText]
  | inputValue =>
    [.needed .ownName .text, .spare .description .nullableText, .needed .type (.record (typeRef 0)),
      .spare .defaultValue .nullableText]
  | enumValue =>
    [.needed .ownName .text, .spare .description .nullableText, .spare .isDeprecated .flag,
      .spare .deprecationReason .nullableText]
  | typeRef level =>
    [.needed .kind .kind, .spare .ownName .nullableText,
      .spare .inner (.nullableRecord (typeRef (level + 1)))]

/-! ### Problems -/

/-- How a value breaks a rule. What should be an object or a list is called an instance of a model
or a list in a loaded value, and an object or an array in a text. -/
inductive Breach where
  | missing
  | notText
  | notKind
  | notFlag
  | uninterpretableFlag
  | notInstance (model : Model)
  | notList
  | notObject
  | notArray
  | tooDeep
  deriving DecidableEq, Repr

/-- One step into a value. -/
inductive Step where
  | key (name : String)
  | index (place : Nat)
  deriving DecidableEq, Repr

/-- A place of a value and the breach found there. -/
structure Problem where
  location : List Step
  breach : Breach
  deriving DecidableEq, Repr

/-- A problem of a part as a problem of the whole. -/
def Problem.under (step : Step) (problem : Problem) : Problem :=
  ⟨step :: problem.location, problem.breach⟩

/-- The texts that count as a flag, in lower case. -/
def flagTexts : List String :=
  ["0", "off", "f", "false", "n", "no", "1", "on", "t", "true", "y", "yes"]

/-- A text with the letters `A`–`Z` in lower case. -/
def lowerLetters (text : String) : String :=
  String.ofList (text.toList.map fun c =>
    if 'A' ≤ c && c ≤ 'Z' then Char.ofNat (c.toNat + 32) else c)

/-- The least integer of 64 bits. -/
def minWideInteger : Int := -9223372036854775808

/-- Whether an integer has 64 bits at most. -/
def isWideInteger (value : Int) : Bool :=
  minWideInteger ≤ value && value < -minWideInteger

/-- The breach of an integer of 64 bits that stands for a flag: zero and one are flags, and the
others cannot be interpreted. -/
def integerFlagBreach? (value : Int) : Option Breach :=
  if value = 0 || value = 1 then none else some .uninterpretableFlag

/-- The breach of a floating-point number that stands for a flag. It counts as the integer of 64
bits that it is, but not as the least one. -/
def doubleFlagBreach? (value : Binary64) : Option Breach :=
  match value.toInt? with
  | some whole =>
    if isWideInteger whole && whole != minWideInteger then integerFlagBreach? whole
    else some .notFlag
  | none => some .notFlag

/-- The breach of a text that stands for a flag: a text other than the flag texts cannot be
interpreted. -/
def textFlagBreach? (text : String) : Option Breach :=
  if flagTexts.contains (lowerLetters text) then none else some .uninterpretableFlag

/-- The breach of a loaded value that stands for a flag. An integer of more than 64 bits is taken as
the floating-point number next to it. -/
def flagBreach? : Json → Option Breach
  | .bool _ => none
  | .str text => textFlagBreach? text
  | .int value =>
    if isWideInteger value then integerFlagBreach? value
    else doubleFlagBreach? (.ofInt value)
  | .float value => doubleFlagBreach? value
  | .null | .arr _ | .obj _ => some .notFlag

/-- The breach of a loaded value that stands for an object of a model. Its depth comes first. -/
def Model.breach? (model : Model) : Json → Option Breach
  | .obj _ => if model.isTooDeep then some .tooDeep else none
  | _ => some (if model.isTooDeep then .tooDeep else .notInstance model)

/-- The breach of a loaded value under a rule, leaving aside what is inside it. -/
def Rule.breach? : Rule → Json → Option Breach
  | text, .str _ => none
  | text, _ => some .notText
  | nullableText, .null | nullableText, .str _ => none
  | nullableText, _ => some .notText
  | kind, .str label => if (TypeKind.ofLabel? label).isSome then none else some .notKind
  | kind, _ => some .notKind
  | flag, value => flagBreach? value
  | record model, value => model.breach? value
  | nullableRecord _, .null => none
  | nullableRecord model, value => model.breach? value
  | list _, .arr _ => none
  | list _, _ => some .notList
  | nullableList _, .null | nullableList _, .arr _ => none
  | nullableList _, _ => some .notList

/-- The model of the objects that a rule speaks of. -/
def Rule.model? : Rule → Option Model
  | text | nullableText | kind | flag => none
  | record model | nullableRecord model | list model | nullableList model => some model

/-- What is found under a key is smaller than the object. -/
theorem sizeOf_lookup_lt {key : String} {members : List (String × Json)} {value : Json}
    (h : members.lookup key = some value) : sizeOf value < sizeOf members := by
  induction members with
  | nil => simp at h
  | cons member members ih =>
    obtain ⟨other, old⟩ := member
    rw [List.lookup_cons] at h
    split at h
    · cases h
      simp only [List.cons.sizeOf_spec, Prod.mk.sizeOf_spec]
      omega
    · have := ih h
      simp only [List.cons.sizeOf_spec]
      omega

/-- What is found under either spelling is smaller than the object. -/
theorem Key.sizeOf_find_lt {key : Key} {members : List (String × Json)} {found : String × Json}
    (h : key.find? members = some found) : sizeOf found.2 < sizeOf members := by
  unfold Key.find? at h
  split at h
  · next value hvalue =>
    cases h
    exact sizeOf_lookup_lt hvalue
  · rw [Option.map_eq_some_iff] at h
    obtain ⟨value, hvalue, rfl⟩ := h
    exact sizeOf_lookup_lt hvalue

mutual

/-- Every place of a loaded value that breaks a rule: the value itself, or else places inside it. -/
def Rule.problems (rule : Rule) (json : Json) : List Problem :=
  match rule.breach? json with
  | some breach => [⟨[], breach⟩]
  | none =>
    match rule.model?, json with
    | some model, .obj members => model.entries.flatMap fun entry => entry.problems members
    | some model, .arr items => model.itemProblems 0 items
    | _, _ => []
termination_by (sizeOf json, 0)

/-- The problems of one entry of an object with the given members. -/
def Entry.problems (entry : Entry) (members : List (String × Json)) : List Problem :=
  match _h : entry.key.find? members with
  | some (key, value) => (entry.rule.problems value).map (Problem.under (.key key))
  | none => if entry.required then [⟨[.key entry.key.name], .missing⟩] else []
termination_by (sizeOf members, 0)
decreasing_by
  have := Key.sizeOf_find_lt _h
  simp only [Prod.lex_def]
  left
  simpa using this

/-- The problems of the items of a list from a place on. -/
def Model.itemProblems (model : Model) (place : Nat) : List Json → List Problem
  | [] => []
  | item :: items =>
    ((Rule.record model).problems item).map (Problem.under (.index place)) ++
      model.itemProblems (place + 1) items
termination_by items => (sizeOf items, 0)

end

/-! ### Messages -/

/-- The text of a breach. -/
def Breach.message : Breach → String
  | missing => "Field required"
  | notText => "Input should be a valid string"
  | notKind =>
    "Input should be 'SCALAR', 'OBJECT', 'INTERFACE', 'UNION', 'ENUM', 'INPUT_OBJECT', 'LIST' " ++
      "or 'NON_NULL'"
  | notFlag => "Input should be a valid boolean"
  | uninterpretableFlag => "Input should be a valid boolean, unable to interpret input"
  | notInstance model => "Input should be a valid dictionary or instance of " ++ model.label
  | notList => "Input should be a valid list"
  | notObject => "Input should be an object"
  | notArray => "Input should be a valid array"
  | tooDeep => "Recursion error - cyclic reference detected"

/-- The text of a step. -/
def Step.text : Step → String
  | key name => name
  | index place => toString place

/-- The text of a location. -/
def locationText : List Step → String
  | [] => "<document>"
  | steps => ".".intercalate (steps.map Step.text)

/-- The line about a problem. -/
def Problem.line (problem : Problem) : String :=
  locationText problem.location ++ ": " ++ problem.breach.message

end SchemaBindings.Introspection
