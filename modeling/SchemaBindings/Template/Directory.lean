import SchemaBindings.Files.Tree
import SchemaBindings.Introspection.Malformed
import SchemaBindings.Template.Builtin
import SchemaBindings.Template.Parse
/-!
# Templates in a directory

A directory may hold templates that take the place of the standing ones. A template that is not
there, or no file, leaves the standing one in its place; so does a directory that is not there.

A template may have tags beyond those that `parse?` understands. Such a template is left to an
`Engine`, which renders it by rules of its own and may read the other templates of the directory.
-/

set_option autoImplicit false
set_option relaxedAutoImplicit false

namespace SchemaBindings.Template

/-- Why the text of a template cannot be used. -/
inductive TemplateFault where
  | notUtf8 (error : Text.Utf8Error)
  deriving DecidableEq, Repr

/-- The text of a fault. -/
def TemplateFault.message : TemplateFault → String
  | notUtf8 error => utf8Message error

/-- The name of the template for an enum. -/
def enumFile : String := "enum.py.j2"

/-- The name of the template for a module. -/
def moduleFile : String := "module.py.j2"

/-- What renders the templates of a directory in a file tree, by their names. -/
abbrev Engine : Type :=
  FileTree → (directory name : String) → Renderer

/-- The engine that renders nothing. -/
def Engine.none : Engine :=
  fun _ _ name _ => .error (.foreign "TemplateError" ("The template " ++ name ++
    " has a tag that is not understood"))

/-- How the template in the bytes of a file is rendered: part by part if its tags are understood, or
else in another way. -/
def ofBytes (other : Renderer) (bytes : List UInt8) : Except TemplateFault Renderer :=
  match Text.decodeUtf8 bytes with
  | .error error => .error (.notUtf8 error)
  | .ok text => .ok (((parse? text).map rendererOf).getD other)

/-- How the template of a name is rendered: the one in a directory, if a path to one is given and it
holds such a file, or else the standing one. -/
def choose (engine : Engine) (tree : FileTree) (directory : Option String) (name : String)
    (standing : List Node) : Except TemplateFault Renderer :=
  match directory with
  | none => .ok (rendererOf standing)
  | some path =>
    if path.isEmpty || !tree.leadsToDirectory path then .ok (rendererOf standing)
    else
      match tree.readFile (path ++ "/" ++ name) with
      | .ok bytes => ofBytes (engine tree path name) bytes
      | .error _ => .ok (rendererOf standing)

/-- How the template of a name is rendered if it has a use. Without one it is not looked for. -/
def chooseIf (used : Bool) (engine : Engine) (tree : FileTree) (directory : Option String)
    (name : String) (standing : List Node) : Except TemplateFault Renderer :=
  if used then choose engine tree directory name standing else .ok (rendererOf standing)

end SchemaBindings.Template
