import SchemaBindings.Template.Basic
/-!
# The built-in templates

An enum is declared as a class with one member for each value, counted from zero, and a placeholder
member of value -1; a table after it gives the name of each member in documents. A module has a
prelude and the declarations.
-/

set_option autoImplicit false
set_option relaxedAutoImplicit false

namespace SchemaBindings.Template

/-- The name of the enum. -/
def enumName : Expr := { name := "enum", path := ["name"] }

/-- The name of the placeholder member. -/
def placeholderName : Expr := { name := "unknown" }

/-- The name of the current member. -/
def memberName : Expr := { name := "member" }

/-- The number of the current member. -/
def memberIndex : Expr := { name := "loop", path := ["index0"] }

/-- The name of the current value in documents, as a literal. -/
def valueLiteral : Expr := { name := "value", path := ["name"], filters := [.literal] }

/-- The comment on the current value. -/
def valueComment : Expr := { name := "value", path := ["description"], filters := [.comment] }

/-- The comment, if any, and the declaration of one member. -/
def memberLines : List Node :=
  [.whenTrue valueComment [.text "    # ".toList, .output valueComment, .text "\n".toList],
    .text "    ".toList, .output memberName, .text " = ".toList, .output memberIndex,
    .text "\n".toList]

/-- The entry of one member in the table of names. -/
def tableLines : List Node :=
  [.text "    ".toList, .output enumName, .text ".".toList, .output memberName,
    .text ": ".toList, .output valueLiteral, .text ",\n".toList]

/-- The declaration of an enum. -/
def enumDeclaration : List Node :=
  [.text "class ".toList, .output enumName, .text "(enum.IntEnum):\n".toList,
    .forMembers memberLines,
    .text "    ".toList, .output placeholderName, .text " = -1\n\n\n".toList,
    .output { enumName with filters := [.upperCase] }, .text "_WIRE_NAMES = \x7b\n    ".toList,
    .output enumName, .text ".".toList, .output placeholderName, .text ": None,\n".toList,
    .forMembers tableLines,
    .text "\x7d\n\n\n".toList]

/-- What a generated module begins with. -/
def prelude : List Char :=
  ("\"\"\"Types generated from a GraphQL introspection result by gql-typegen.\n\n" ++
    "Do not edit by hand; regenerate from the schema instead.\n\"\"\"\n\nimport enum\n\n\n").toList

/-- A module. -/
def moduleText : List Node :=
  [.text prelude, .output { name := "body" }, .text "\n".toList]

/-! ### The texts of the templates -/

/-- The text with the given lines. -/
def textOfLines (lines : List String) : List Char :=
  lines.flatMap fun line => line.toList ++ ['\n']

/-- The text of the template for an enum. -/
def enumSource : List Char :=
  textOfLines
    ["class \x7b\x7b enum.name \x7d\x7d(enum.IntEnum):",
      "\x7b% for value, member in members %\x7d",
      "\x7b% if value.description | safe_comment %\x7d",
      "    # \x7b\x7b value.description | safe_comment \x7d\x7d",
      "\x7b% endif %\x7d",
      "    \x7b\x7b member \x7d\x7d = \x7b\x7b loop.index0 \x7d\x7d",
      "\x7b% endfor %\x7d",
      "    \x7b\x7b unknown \x7d\x7d = -1",
      "",
      "",
      "\x7b\x7b enum.name | upper_case \x7d\x7d_WIRE_NAMES = \x7b",
      "    \x7b\x7b enum.name \x7d\x7d.\x7b\x7b unknown \x7d\x7d: None,",
      "\x7b% for value, member in members %\x7d",
      "    \x7b\x7b enum.name \x7d\x7d.\x7b\x7b member \x7d\x7d: " ++
        "\x7b\x7b value.name | repr \x7d\x7d,",
      "\x7b% endfor %\x7d",
      "\x7d",
      "",
      ""]

/-- The text of the template for a module. -/
def moduleSource : List Char :=
  prelude ++ textOfLines ["\x7b\x7b body \x7d\x7d"]

end SchemaBindings.Template
