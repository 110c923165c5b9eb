import SchemaBindings.Sdl.Standard
import SchemaBindings.Text.Suggestion
/-!
# Rules on documents

What a document must obey before a schema is made of it: names are defined once, the names it uses
are defined, and directives stand where they may with the arguments they take. The problems are
listed in the order of the document; those of a definition as a whole come before those of its
parts.
-/

set_option autoImplicit false
set_option relaxedAutoImplicit false

namespace SchemaBindings.Sdl

open SchemaBindings.Text

/-! ### Problems -/

/-- What is wrong with a document. -/
inductive DocumentProblem where
  | repeatedSchema
  | repeatedRoot (operation : Operation)
  | repeatedType (name : String)
  | repeatedValue (type value : String)
  | repeatedField (type field : String)
  | repeatedArgument (owner argument : String)
  | repeatedDirective (name : String)
  | repeatedUse (directive : String)
  | repeatedGiven (argument : String)
  | repeatedEntry (field : String)
  | unknownType (name : String) (similar : List String)
  | unknownDirective (name : String)
  | unknownArgument (directive argument : String) (similar : List String)
  | misplacedDirective (name : String) (location : Location)
  | missingArgument (directive argument : String) (type : TypeExpr)
  | extendedOtherKind (kind : Location) (name : String)
  | extendedUnknown (name : String) (similar : List String)
  deriving DecidableEq, Repr

/-- A text between single quotes. -/
def inQuotes (text : String) : String :=
  "'" ++ text ++ "'"

/-- The text of a problem. -/
def DocumentProblem.message : DocumentProblem → String
  | repeatedSchema => "Must provide only one schema definition."
  | repeatedRoot operation =>
    "There can be only one " ++ operation.keyword ++ " type in schema."
  | repeatedType name => "There can be only one type named " ++ inQuotes name ++ "."
  | repeatedValue type value =>
    "Enum value " ++ inQuotes (fieldPlace type value) ++ " can only be defined once."
  | repeatedField type field =>
    "Field " ++ inQuotes (fieldPlace type field) ++ " can only be defined once."
  | repeatedArgument owner argument =>
    "Argument " ++ inQuotes (argumentPlace owner argument) ++ " can only be defined once."
  | repeatedDirective name =>
    "There can be only one directive named " ++ inQuotes (directivePlace name) ++ "."
  | repeatedUse directive =>
    "The directive " ++ inQuotes (directivePlace directive) ++
      " can only be used once at this location."
  | repeatedGiven argument =>
    "There can be only one argument named " ++ inQuotes argument ++ "."
  | repeatedEntry field => "There can be only one input field named " ++ inQuotes field ++ "."
  | unknownType name similar =>
    "Unknown type " ++ inQuotes name ++ "." ++ didYouMean "" similar
  | unknownDirective name => "Unknown directive " ++ inQuotes (directivePlace name) ++ "."
  | unknownArgument directive argument similar =>
    "Unknown argument " ++ inQuotes argument ++ " on directive " ++
      inQuotes (directivePlace directive) ++
      "." ++ didYouMean "" similar
  | misplacedDirective name location =>
    "Directive " ++ inQuotes (directivePlace name) ++ " may not be used on " ++
      location.describe ++ "."
  | missingArgument directive argument type =>
    "Argument " ++ inQuotes (argumentPlace (directivePlace directive) argument) ++ " of type " ++
      inQuotes type.display ++ " is required, but it was not provided."
  | extendedOtherKind kind name =>
    "Cannot extend non-" ++ kind.describe ++ " type " ++ inQuotes name ++ "."
  | extendedUnknown name similar =>
    "Cannot extend type " ++ inQuotes name ++ " because it is not defined." ++
      didYouMean "" similar

/-! ### Names -/

/-- The names of a list that occur before, in the list or among `seen`. -/
def repeated (seen : List String) : List String → List String
  | [] => []
  | name :: names =>
    if seen.contains name then name :: repeated seen names else repeated (name :: seen) names

/-- The names that occur more than once in a list, each given once. -/
def ambiguous (names : List String) : List String :=
  names.eraseDups.filter fun name => 1 < names.count name

namespace Document

/-- The names of the types that a document defines. -/
def typeNames (document : Document) : List String :=
  (document.filterMap Definition.type?).map TypeDefinition.name

/-- The definition of a type; of several the last one. -/
def type? (document : Document) (name : String) : Option TypeDefinition :=
  (document.filterMap Definition.type?).reverse.find? fun definition => definition.name == name

/-- The definition of a directive that a document can use; of several the last one, and a standard
directive only if the document does not define its name. -/
def directive? (document : Document) (name : String) : Option DirectiveDefinition :=
  ((document.filterMap Definition.directive?).reverse ++ Standard.directives).find?
    fun definition => definition.name == name

/-! ### Uses of names -/

/-- The problem with a use of a type in a definition for the schema. -/
def typeProblems (document : Document) (name : String) : List DocumentProblem :=
  let standard := Standard.types.map TypeDefinition.name
  if document.typeNames.contains name || standard.contains name then []
  else [.unknownType name (suggestions name (standard ++ document.typeNames))]

/-- The problem with a use of a type in an operation or fragment, where the standard types are not
known. -/
def executableTypeProblems (document : Document) (name : String) : List DocumentProblem :=
  if document.typeNames.contains name then []
  else [.unknownType name (suggestions name document.typeNames)]

mutual

/-- The fields of objects within a value that are given twice. -/
def valueProblems : Literal → List DocumentProblem
  | .list items => itemProblems items
  | .object fields => entryProblems [] fields
  | _ => []

/-- The problems within several values. -/
def itemProblems : List Literal → List DocumentProblem
  | [] => []
  | item :: items => valueProblems item ++ itemProblems items

/-- The problems of the fields of an object, of which those in `seen` have been given. -/
def entryProblems (seen : List String) : List (String × Literal) → List DocumentProblem
  | [] => []
  | (name, value) :: fields =>
    (if seen.contains name then [.repeatedEntry name] else []) ++ valueProblems value ++
      entryProblems (name :: seen) fields

end

/-- The problems within the values of arguments. -/
def givenProblems (given : List (String × Literal)) : List DocumentProblem :=
  given.flatMap fun (_, value) => valueProblems value

/-- The problems with one use of a directive at a place. -/
def useProblems (document : Document) (location : Location) (used : DirectiveUse) :
    List DocumentProblem :=
  let names := used.arguments.map Prod.fst
  let repeatedGiven := (ambiguous names).map .repeatedGiven
  match document.directive? used.name with
  | none => .unknownDirective used.name :: repeatedGiven ++ givenProblems used.arguments
  | some definition =>
    let known := definition.arguments.map InputDefinition.name
    let misplaced :=
      if definition.locations.contains location then []
      else [.misplacedDirective used.name location]
    let unknown := names.filterMap fun name =>
      if known.contains name then none
      else some (.unknownArgument used.name name (suggestions name known))
    let missing := definition.arguments.filterMap fun argument =>
      if argument.type.isNonNull && argument.default?.isNone && !names.contains argument.name then
        some (.missingArgument used.name argument.name argument.type)
      else none
    misplaced ++ unknown ++ repeatedGiven ++ givenProblems used.arguments ++ missing

/-- The problems with the uses of directives at a place. -/
def usesProblems (document : Document) (location : Location) (uses : List DirectiveUse) :
    List DocumentProblem :=
  uses.flatMap (document.useProblems location)

/-- The names of the directives in use that may be used only once at a place. -/
def singleUses (document : Document) (uses : List DirectiveUse) : List String :=
  (uses.map DirectiveUse.name).filter fun name =>
    match document.directive? name with
    | some definition => !definition.repeatable
    | none => false

/-- The directives that are used again where they have been used before. -/
def repeatedUses (document : Document) (earlier uses : List DirectiveUse) :
    List DocumentProblem :=
  (repeated (document.singleUses earlier) (document.singleUses uses)).map .repeatedUse

/-! ### Parts of definitions -/

/-- The problems of an argument or input field. -/
def inputProblems (document : Document) (location : Location) (definition : InputDefinition) :
    List DocumentProblem :=
  document.repeatedUses [] definition.directives ++ document.typeProblems definition.type.base ++
    (definition.default?.map valueProblems).getD [] ++
    document.usesProblems location definition.directives

/-- The problems of a field. -/
def fieldProblems (document : Document) (definition : FieldDefinition) : List DocumentProblem :=
  document.repeatedUses [] definition.directives ++
    definition.arguments.flatMap (document.inputProblems .argumentDefinition) ++
    document.typeProblems definition.type.base ++
    document.usesProblems .fieldDefinition definition.directives

/-- The problems of a value of an enum. -/
def enumValueProblems (document : Document) (definition : ValueDefinition) :
    List DocumentProblem :=
  document.repeatedUses [] definition.directives ++
    document.usesProblems .enumValue definition.directives

/-- The arguments that are defined twice, for a field or directive. -/
def repeatedArguments (owner : String) (arguments : List InputDefinition) :
    List DocumentProblem :=
  (ambiguous (arguments.map InputDefinition.name)).map (.repeatedArgument owner)

/-! ### Definitions -/

/-- The problems of the parts of a type. -/
def contentProblems (document : Document) (definition : TypeDefinition) :
    List DocumentProblem :=
  let content := definition.content
  content.interfaces.flatMap document.typeProblems ++
    document.usesProblems content.location definition.directives ++
    content.fields.flatMap document.fieldProblems ++
    content.members.flatMap document.typeProblems ++
    content.values.flatMap document.enumValueProblems ++
    content.inputFields.flatMap (document.inputProblems .inputFieldDefinition)

/-- The problems of a definition or extension of a type, behind the definitions `earlier`. -/
def typePartProblems (document : Document) (earlier : List Definition) (isExtension : Bool)
    (definition : TypeDefinition) : List DocumentProblem :=
  let name := definition.name
  let content := definition.content
  let parts := (earlier.filterMap Definition.typePart?).filter fun part => part.name == name
  let defined := earlier.filterMap Definition.type?
  let twice :=
    if !isExtension && defined.any (fun part => part.name == name) then [.repeatedType name]
    else []
  let values :=
    repeated (parts.flatMap fun part => part.content.values.map ValueDefinition.name)
      (content.values.map ValueDefinition.name)
  let fields :=
    repeated (parts.flatMap fun part => part.content.fieldNames) content.fieldNames
  let arguments := content.fields.flatMap fun field =>
    repeatedArguments (fieldPlace name field.name) field.arguments
  let extended :=
    if isExtension then
      match document.type? name with
      | some base =>
        if base.content.location = content.location then []
        else [.extendedOtherKind content.location name]
      | none => [.extendedUnknown name (suggestions name document.typeNames)]
    else []
  twice ++ values.map (.repeatedValue name) ++ fields.map (.repeatedField name) ++ arguments ++
    document.repeatedUses (parts.flatMap TypeDefinition.directives) definition.directives ++
    extended ++ document.contentProblems definition

/-- The problems of a definition or extension of the schema, behind the definitions `earlier`. -/
def schemaPartProblems (document : Document) (earlier : List Definition) (isExtension : Bool)
    (definition : SchemaDefinition) : List DocumentProblem :=
  let parts := earlier.filterMap Definition.schemaPart?
  let isSchema : Definition → Bool
    | .schema _ => true
    | _ => false
  let twice := if !isExtension && earlier.any isSchema then [.repeatedSchema] else []
  let roots := repeated (parts.flatMap fun part => part.roots.map fun root => root.1.keyword)
    (definition.roots.map fun root => root.1.keyword)
  twice ++ (roots.filterMap Operation.ofKeyword?).map .repeatedRoot ++
    document.repeatedUses (parts.flatMap SchemaDefinition.directives) definition.directives ++
    document.usesProblems .schema definition.directives ++
    definition.roots.flatMap fun root => document.typeProblems root.2

/-- The problems with the directives that are in use on the definition or an extension of a
directive, if they are used again. -/
def directivePartProblems (document : Document) (earlier : List Definition) (name : String)
    (uses : List DirectiveUse) : List DocumentProblem :=
  let parts := (earlier.filterMap Definition.directivePart?).filter fun part => part.1 == name
  document.repeatedUses (parts.flatMap Prod.snd) uses

/-- The problems of the definition of a directive, behind the definitions `earlier`. -/
def directiveProblems (document : Document) (earlier : List Definition)
    (definition : DirectiveDefinition) : List DocumentProblem :=
  let twice :=
    (earlier.filterMap Definition.directive?).any fun other => other.name == definition.name
  repeatedArguments (directivePlace definition.name) definition.arguments ++
    (if twice then [.repeatedDirective definition.name] else []) ++
    document.directivePartProblems earlier definition.name definition.directives ++
    definition.arguments.flatMap (document.inputProblems .argumentDefinition) ++
    document.usesProblems .directiveDefinition definition.directives

/-- The problems of an extension of a directive, behind the definitions `earlier`. -/
def directiveExtensionProblems (document : Document) (earlier : List Definition)
    (extension : DirectiveExtension) : List DocumentProblem :=
  document.directivePartProblems earlier extension.name extension.directives ++
    document.usesProblems .directiveDefinition extension.directives

mutual

/-- The problems of a selection. -/
def selectionProblems (document : Document) : Selection → List DocumentProblem
  | .field _ given uses selections =>
    document.repeatedUses [] uses ++ (ambiguous (given.map Prod.fst)).map .repeatedGiven ++
      givenProblems given ++ document.usesProblems .field uses ++
      selectionsProblems document selections
  | .spread _ uses =>
    document.repeatedUses [] uses ++ document.usesProblems .fragmentSpread uses
  | .inline condition uses selections =>
    document.repeatedUses [] uses ++
      (condition.map document.executableTypeProblems).getD [] ++
      document.usesProblems .inlineFragment uses ++ selectionsProblems document selections

/-- The problems of several selections. -/
def selectionsProblems (document : Document) : List Selection → List DocumentProblem
  | [] => []
  | selection :: selections =>
    selectionProblems document selection ++ selectionsProblems document selections

end

/-- The problems of a variable. -/
def variableProblems (document : Document) (definition : VariableDefinition) :
    List DocumentProblem :=
  document.repeatedUses [] definition.directives ++
    document.executableTypeProblems definition.type.base ++
    (definition.default?.map valueProblems).getD [] ++
    document.usesProblems .variableDefinition definition.directives

/-- The place of directives on an operation. -/
def operationLocation : Operation → Location
  | .query => .query
  | .mutation => .mutation
  | .subscription => .subscription

/-- The problems of an operation. -/
def operationProblems (document : Document) (definition : OperationDefinition) :
    List DocumentProblem :=
  document.repeatedUses [] definition.directives ++
    definition.variableDefinitions.flatMap document.variableProblems ++
    document.usesProblems (operationLocation definition.operation) definition.directives ++
    document.selectionsProblems definition.selections

/-- The problems of a fragment. -/
def fragmentProblems (document : Document) (definition : FragmentDefinition) :
    List DocumentProblem :=
  document.repeatedUses [] definition.directives ++
    document.executableTypeProblems definition.condition ++
    document.usesProblems .fragmentDefinition definition.directives ++
    document.selectionsProblems definition.selections

/-- The problems of a definition behind the definitions `earlier`. -/
def definitionProblems (document : Document) (earlier : List Definition) :
    Definition → List DocumentProblem
  | .schema definition => document.schemaPartProblems earlier false definition
  | .schemaExtension definition => document.schemaPartProblems earlier true definition
  | .type definition => document.typePartProblems earlier false definition
  | .typeExtension definition => document.typePartProblems earlier true definition
  | .directive definition => document.directiveProblems earlier definition
  | .directiveExtension extension => document.directiveExtensionProblems earlier extension
  | .operation definition => document.operationProblems definition
  | .fragment definition => document.fragmentProblems definition

/-- The problems of a document from some definition on. -/
def problemsFrom (document : Document) (earlier : List Definition) :
    List Definition → List DocumentProblem
  | [] => []
  | definition :: rest =>
    document.definitionProblems earlier definition ++
      problemsFrom document (earlier ++ [definition]) rest

/-- The problems of a document. -/
def problems (document : Document) : List DocumentProblem :=
  document.problemsFrom [] document

end Document

end SchemaBindings.Sdl
