import SchemaBindings.Sdl.SchemaProblem
/-!
# Valid schemas

What a declared schema must obey: it has a query root, every type has parts of the right kinds,
objects provide what their interfaces promise, default values fit their types, and input objects
have finite values. The problems are listed for the roots, then the directives, then the types in
order; input objects without a finite value come last.
-/

set_option autoImplicit false
set_option relaxedAutoImplicit false

namespace SchemaBindings.Sdl.Declared

/-! ### Kinds of types -/

/-- Whether the type of a name can be the type of an argument or input field. -/
def isInput (declared : Declared) (name : String) : Bool :=
  match declared.content name with
  | .scalar | .enum _ | .inputObject _ => true
  | .object _ _ | .interface _ _ | .union _ => false

/-- Whether the type of a name can be the type of a field. -/
def isOutput (declared : Declared) (name : String) : Bool :=
  match declared.content name with
  | .scalar | .object _ _ | .interface _ _ | .union _ | .enum _ => true
  | .inputObject _ => false

/-- Whether the type of a name is an object. -/
def isObject (declared : Declared) (name : String) : Bool :=
  (declared.content name).location = .object

/-- Whether the type of a name is an interface. -/
def isInterface (declared : Declared) (name : String) : Bool :=
  (declared.content name).location = .interface

/-- Whether a name belongs to the possible types of a union, or implements an interface. -/
def belongsTo (declared : Declared) (name : String) (general : String) : Bool :=
  match declared.content general with
  | .union members => members.contains name
  | .interface _ _ => (declared.implementations general).any fun type => type.name == name
  | .scalar | .object _ _ | .enum _ | .inputObject _ => false

/-- Whether every value of one type is a value of another. -/
def isSubtype (declared : Declared) : TypeExpr → TypeExpr → Bool
  | .nonNull special, .nonNull general => declared.isSubtype special general
  | _, .nonNull _ => false
  | .nonNull special, general => declared.isSubtype special general
  | .list special, .list general => declared.isSubtype special general
  | .named special, .named general =>
    special == general ||
      (declared.isObject special || declared.isInterface special) &&
        declared.belongsTo special general
  | _, _ => false

/-! ### Parts -/

/-- The problem with a name that is kept for the meta types. -/
def nameProblems (name : String) : List SchemaProblem :=
  if "__".toList.isPrefixOf name.toList then [.reservedName name] else []

/-- The problems of a default value. -/
def defaultProblems (declared : Declared) (place : String) (definition : InputDefinition) :
    List SchemaProblem :=
  match definition.default? with
  | some literal => (valueFaults declared literal definition.type).map (.badDefault place)
  | none => []

/-- The problems of an argument at a place. -/
def argumentProblems (declared : Declared) (place : String) (definition : InputDefinition) :
    List SchemaProblem :=
  nameProblems definition.name ++
    (if declared.isInput definition.type.base then [] else [.notInput place definition.type]) ++
    (if definition.isRequired && isDeprecated definition.directives then
      [.deprecatedArgument place]
    else []) ++
    declared.defaultProblems place definition

/-- The problems of the arguments of a field or directive. -/
def argumentsProblems (declared : Declared) (owner : String) (arguments : List InputDefinition) :
    List SchemaProblem :=
  arguments.flatMap fun argument =>
    declared.argumentProblems (argumentPlace owner argument.name) argument

/-- The problems of the fields of an object or interface. -/
def fieldsProblems (declared : Declared) (type : TypeDefinition) : List SchemaProblem :=
  let ofField (field : FieldDefinition) : List SchemaProblem :=
    let place := fieldPlace type.name field.name
    nameProblems field.name ++
      (if declared.isOutput field.type.base then [] else [.notOutput place field.type]) ++
      declared.argumentsProblems place field.arguments
  (if type.content.fields.isEmpty then [.noFields type.name] else []) ++
    type.content.fields.flatMap ofField

/-! ### Interfaces -/

/-- What a field lacks to provide a field of an interface. -/
def fieldConformance (declared : Declared) (interface type : String)
    (promised provided : FieldDefinition) : List SchemaProblem :=
  let place := fieldPlace interface promised.name
  let own := fieldPlace type provided.name
  let ofArgument (argument : InputDefinition) : List SchemaProblem :=
    let argumentOfPlace := argumentPlace place argument.name
    match provided.arguments.find? fun other => other.name == argument.name with
    | none => [.missingArgument argumentOfPlace own]
    | some other =>
      if argument.type = other.type then []
      else
        [.otherArgumentType argumentOfPlace argument.type (argumentPlace own other.name)
          other.type]
  let ofExtra (argument : InputDefinition) : List SchemaProblem :=
    let isPromised := promised.arguments.any fun other => other.name == argument.name
    if argument.isRequired && !isPromised then
      [.extraArgument (argumentPlace own argument.name) argument.type place]
    else []
  (if declared.isSubtype provided.type promised.type then []
    else [.otherFieldType place promised.type own provided.type]) ++
    promised.arguments.flatMap ofArgument ++ provided.arguments.flatMap ofExtra ++
    (if isDeprecated provided.directives && !isDeprecated promised.directives then
      [.deprecatedField place own]
    else [])

/-- What a type lacks to implement an interface. -/
def conformance (declared : Declared) (type : TypeDefinition) (interface : TypeDefinition) :
    List SchemaProblem :=
  let ancestors := interface.content.interfaces.filterMap fun ancestor =>
    if type.content.interfaces.contains ancestor then none
    else if ancestor = type.name then some (.implementsInCircle type.name interface.name)
    else some (.missingAncestor type.name ancestor interface.name)
  let fields := interface.content.fields.flatMap fun promised =>
    match type.content.fields.find? fun field => field.name == promised.name with
    | none => [.missingField (fieldPlace interface.name promised.name) type.name]
    | some provided => declared.fieldConformance interface.name type.name promised provided
  ancestors ++ fields

/-- The problems with the interfaces of a type from some interface on, when it has been seen to
implement those in `seen`. -/
def interfacesProblems (declared : Declared) (type : TypeDefinition) (seen : List String) :
    List String → List SchemaProblem
  | [] => []
  | name :: names =>
    match declared.type? name with
    | none => declared.interfacesProblems type seen names
    | some interface =>
      if interface.content.location ≠ .interface then
        .notInterface type.name name :: declared.interfacesProblems type seen names
      else
        (if name = type.name then [.implementsItself type.name] else []) ++
          if seen.contains name then
            .implementsTwice type.name name :: declared.interfacesProblems type seen names
          else
            declared.conformance type interface ++
              declared.interfacesProblems type (name :: seen) names

/-! ### Other types -/

/-- The problems with the members of a union from some member on, when those in `seen` have been
included. -/
def membersProblems (declared : Declared) (type : String) (seen : List String) :
    List String → List SchemaProblem
  | [] => []
  | name :: names =>
    let problems :=
      if !declared.isObject name then [.memberNotObject type name]
      else if seen.contains name then [.repeatedMember type name]
      else []
    problems ++ declared.membersProblems type (name :: seen) names

/-- The problems of the fields of an input object. -/
def inputFieldsProblems (declared : Declared) (type : TypeDefinition) : List SchemaProblem :=
  let ofField (field : InputDefinition) : List SchemaProblem :=
    let place := fieldPlace type.name field.name
    nameProblems field.name ++
      (if declared.isInput field.type.base then [] else [.notInput place field.type]) ++
      (if field.isRequired && isDeprecated field.directives then [.deprecatedInput place]
        else []) ++
      declared.defaultProblems place field ++
      (if type.isOneOf && field.type.isNonNull then [.oneOfNonNull place] else []) ++
      (if type.isOneOf && field.default?.isSome then [.oneOfDefault place] else [])
  (if type.content.inputFields.isEmpty then [.noInputFields type.name] else []) ++
    type.content.inputFields.flatMap ofField

/-- The problems of a type, cycles of input objects apart. The meta types may have reserved
names. -/
def typeProblems (declared : Declared) (type : TypeDefinition) : List SchemaProblem :=
  let isMeta := Standard.metaTypes.any fun metaType => metaType.name == type.name
  (if isMeta then [] else nameProblems type.name) ++
    match type.content with
    | .scalar => []
    | .object interfaces _ | .interface interfaces _ =>
      declared.fieldsProblems type ++ declared.interfacesProblems type [] interfaces
    | .union members =>
      (if members.isEmpty then [.noMembers type.name] else []) ++
        declared.membersProblems type.name [] members
    | .enum values =>
      (if values.isEmpty then [.noValues type.name] else []) ++
        values.flatMap fun value => nameProblems value.name
    | .inputObject _ => declared.inputFieldsProblems type

/-- The problems of types from some type on. Cycles through default values that the search has found
before are not reported again. -/
def typesProblems (declared : Declared) (search : DefaultSearch) :
    List TypeDefinition → List SchemaProblem
  | [] => []
  | type :: types =>
    if declared.isInputObject type.name then
      let search := declared.searchDefaults type.name { search with cycles := [] }
      declared.typeProblems type ++
        search.cycles.map (fun (place, path) => .endlessDefault place path) ++
        declared.typesProblems search types
    else declared.typeProblems type ++ declared.typesProblems search types

/-- The input objects without a finite value. -/
def endlessProblems (declared : Declared) : List SchemaProblem :=
  let inputs := (declared.types.map TypeDefinition.name).filter declared.isInputObject
  let search := inputs.foldl
    (fun search name => declared.searchForced (declared.types.length + 1) [] name search) {}
  search.cycles.map fun (name, path) => .endlessInput name path

/-! ### Schemas -/

/-- The problems with the root types. -/
def rootProblems (declared : Declared) : List SchemaProblem :=
  let kinds := declared.roots.filterMap fun (operation, type) =>
    if declared.isObject type then none else some (.rootNotObject operation type)
  let objects := declared.roots.filter fun root => declared.isObject root.2
  let shared := (objects.map Prod.snd).eraseDups.filterMap fun type =>
    let operations := (objects.filter fun root => root.2 == type).map Prod.fst
    if 1 < operations.length then some (.sharedRoot type operations) else none
  (if (declared.root? .query).isNone then [.noQueryRoot] else []) ++ kinds ++ shared

/-- The problems of the directives. -/
def directivesProblems (declared : Declared) : List SchemaProblem :=
  declared.directives.flatMap fun directive =>
    nameProblems directive.name ++
      declared.argumentsProblems (directivePlace directive.name) directive.arguments

/-- The problems of a schema. -/
def problems (declared : Declared) : List SchemaProblem :=
  let all := declared.rootProblems ++ declared.directivesProblems ++
    declared.typesProblems {} declared.types ++ declared.endlessProblems
  match all.find? SchemaProblem.isFinal with
  | some problem => [problem]
  | none => all

end SchemaBindings.Sdl.Declared
