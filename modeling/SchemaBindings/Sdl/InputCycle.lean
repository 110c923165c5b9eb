import SchemaBindings.Sdl.Declared
/-!
# Cycles through input objects

Two kinds of cycle make an input object useless. One goes through fields that have to be given, so
that no finite value exists. The other goes through default values that leave out a field whose own
default value leads back. Both are found by a search in depth that follows each type or field once.
-/

set_option autoImplicit false
set_option relaxedAutoImplicit false

namespace SchemaBindings.Sdl

namespace Declared

/-- The input fields of the type of a name; none if it is not an input object. -/
def inputFieldsOf (declared : Declared) (type : String) : List InputDefinition :=
  (declared.content type).inputFields

/-- Whether a name is that of an input object. -/
def isInputObject (declared : Declared) (type : String) : Bool :=
  (declared.content type).location = .inputObject

/-- Whether the input object of a name takes exactly one field. -/
def isOneOf (declared : Declared) (type : String) : Bool :=
  ((declared.type? type).map TypeDefinition.isOneOf).getD false

/-- The input object that a field of a type holds directly, outside a list. -/
def heldObject? (declared : Declared) : TypeExpr → Option String
  | .named name | .nonNull (.named name) => if declared.isInputObject name then some name else none
  | _ => none

/-! ### Values of finite size -/

/-- Whether an input object has a finite value that holds no object of the types in `outside`. -/
def hasFiniteValue (declared : Declared) : (fuel : Nat) → List String → String → Bool
  | 0, _, _ => false
  | fuel + 1, outside, type =>
    if outside.contains type then false
    else
      let fits (field : InputDefinition) : Bool :=
        match declared.heldObject? field.type with
        | some held => declared.hasFiniteValue fuel (type :: outside) held
        | none => true
      let fields := declared.inputFieldsOf type
      if declared.isOneOf type then fields.any fits
      else fields.all fun field => !field.type.isNonNull || fits field

/-- The fields of an input object that lead on to another one in every value, with that one. -/
def forcedFields (declared : Declared) (type : String) : List (String × String) :=
  let fields := declared.inputFieldsOf type
  let oneOf := declared.isOneOf type
  if oneOf && declared.hasFiniteValue (declared.types.length + 1) [] type then []
  else
    fields.filterMap fun field =>
      if oneOf || field.type.isNonNull then
        (declared.heldObject? field.type).map fun held => (field.name, held)
      else none

/-- What a search has found: the types it has been to, and the cycles, each with the type it begins
and ends at and the fields it goes through. -/
structure CycleSearch where
  visited : List String := []
  cycles : List (String × List String) := []
  deriving Repr

/-- Searches for cycles from a type that is reached through the fields on `path`. -/
def searchForced (declared : Declared) : (fuel : Nat) → List (String × String) → String →
    CycleSearch → CycleSearch
  | 0, _, _, search => search
  | fuel + 1, path, type, search =>
    if search.visited.contains type then search
    else
      (declared.forcedFields type).foldl (fun search (field, held) =>
        let path := path ++ [(type, field)]
        let cycle := path.dropWhile fun step => step.1 != held
        if cycle.isEmpty then declared.searchForced fuel path held search
        else
          { search with
            cycles := search.cycles ++
              [(held, cycle.map fun (owner, field) => fieldPlace owner field)] })
        { search with visited := type :: search.visited }

/-! ### Default values -/

/-- What a search through default values has found: the fields it has been to, and the cycles, each
with its field and those that it goes through after it. -/
structure DefaultSearch where
  visited : List String := []
  cycles : List (String × List String) := []
  deriving Repr

mutual

/-- Searches a value that stands for an input object: `follow` goes on with a field that the value
leaves out. -/
def searchValue (declared : Declared)
    (follow : String → InputDefinition → String → DefaultSearch → DefaultSearch)
    (type : String) (literal : Literal) (search : DefaultSearch) : DefaultSearch :=
  match literal with
  | .list items => searchItems declared follow type items search
  | .object given =>
    let inside := searchGiven declared follow (declared.inputFieldsOf type) given
    (declared.inputFieldsOf type).foldl (fun search field =>
      if declared.isInputObject field.type.base then
        match inside.reverse.lookup field.name with
        | some go => go search
        | none => follow type field field.type.base search
      else search) search
  | _ => search

/-- Searches the items of a list. -/
def searchItems (declared : Declared)
    (follow : String → InputDefinition → String → DefaultSearch → DefaultSearch)
    (type : String) (items : List Literal) (search : DefaultSearch) : DefaultSearch :=
  match items with
  | [] => search
  | item :: items =>
    searchItems declared follow type items (searchValue declared follow type item search)

/-- The searches of the given fields of an object, each under the name of its field. -/
def searchGiven (declared : Declared)
    (follow : String → InputDefinition → String → DefaultSearch → DefaultSearch)
    (fields : List InputDefinition) (given : List (String × Literal)) :
    List (String × (DefaultSearch → DefaultSearch)) :=
  match given with
  | [] => []
  | (name, value) :: given =>
    match fields.find? fun field => field.name == name with
    | some field =>
      (name, searchValue declared follow field.type.base value) ::
        searchGiven declared follow fields given
    | none => searchGiven declared follow fields given

end

/-- Searches the default value of a field that is reached through the fields on `path`. -/
def searchDefault (declared : Declared) : (fuel : Nat) → List String → String → InputDefinition →
    String → DefaultSearch → DefaultSearch
  | 0, _, _, _, _, search => search
  | fuel + 1, path, owner, field, held, search =>
    match field.default? with
    | none => search
    | some literal =>
      let place := fieldPlace owner field.name
      match path.dropWhile (· != place) with
      | _ :: after => { search with cycles := search.cycles ++ [(place, after)] }
      | [] =>
        if search.visited.contains place then search
        else
          declared.searchValue (declared.searchDefault fuel (path ++ [place])) held literal
            { search with visited := place :: search.visited }

/-- Searches the default values of the fields of an input object. -/
def searchDefaults (declared : Declared) (type : String) (search : DefaultSearch) :
    DefaultSearch :=
  let fuel := (declared.types.flatMap fun type => type.content.inputFields).length + 1
  declared.searchValue (declared.searchDefault fuel []) type (.object []) search

end Declared

end SchemaBindings.Sdl
