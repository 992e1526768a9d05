/-
The code that gives a type its layout: functions that reach each member, and the layout itself,
which names them.
-/
import RecordKeys.Declaration.Table

namespace RecordKeys.Expansion

/-! ## Fragments -/

/-- A punctuation mark on its own. -/
def mark (c : Char) : Tree := .punct c false

/-- Two marks written as one. -/
def pair (c d : Char) : List Tree := [.punct c true, .punct d false]

/-- A comma. -/
def comma : List Tree := [mark ',']

/-- A group in parentheses. -/
def parens (body : List Tree) : Tree := .group .paren body

/-- A group in brackets. -/
def brackets (body : List Tree) : Tree := .group .bracket body

/-- A group in braces. -/
def braces (body : List Tree) : Tree := .group .brace body

/-- A path from the root. -/
def path (names : List String) : List Tree := names.flatMap fun n => pair ':' ':' ++ [.ident n]

/-- A path into the supporting library. -/
def library (names : List String) : List Tree := path ("fieldmap" :: names)

/-- A name that the supporting library keeps for generated code. -/
def support (name : String) : List Tree := library ["__private", name]

/-- Arguments between angle brackets. -/
def angled (arguments : List Tree) : List Tree := [mark '<'] ++ arguments ++ [mark '>']

/-- Arguments of a path in an expression. -/
def applied (arguments : List Tree) : List Tree := pair ':' ':' ++ angled arguments

/-- A named value in a list of such, closed by a comma. -/
def entry (name : String) (value : List Tree) : List Tree :=
  [.ident name, mark ':'] ++ value ++ comma

/-- A text as a literal. -/
def text (s : String) : Tree := .literal (Text.literal s)

/-- A reference to a list. -/
def listOf (items : List (List Tree)) : List Tree := [mark '&', brackets (comma.intercalate items)]

/-! ## Parts of a layout -/

/-- The marks of a member. -/
def flags (row : Row) : List Tree :=
  let given := (if row.traits.skip then ["SKIP"] else [])
    ++ (if row.isMarker then ["SYNTHETIC"] else [])
    ++ (if row.traits.parent then ["PARENT"] else [])
    ++ (if row.traits.null then ["NULL_NAME"] else [])
  library ["FieldFlags", "empty"] ++ [parens []] ++
    given.flatMap fun flag => [mark '.', .ident "union", parens (library ["FieldFlags", flag])]

/-- The new name of a member. -/
def rename (row : Row) : List Tree :=
  match row.traits.rename with
  | some name => support "Some" ++ [parens [text name]]
  | none => support "None"

/-- Lines of documentation. -/
def doc (lines : List String) : List Tree := listOf (lines.map fun line => [text line])

/-- The identity of a type. -/
def identity (type : List Tree) : List Tree :=
  support "TypeId" ++ path ["of"] ++ applied type

/-- The type of any value, behind a reference. -/
def anyValue : List Tree := .ident "dyn" :: support "Any"

/-- A box with any value. -/
def anyBox : List Tree := support "Box" ++ angled anyValue

/-- A member of a layout. -/
def member (row : Row) (type access : List Tree) : List Tree :=
  library ["Field"] ++ [braces (
    entry "name" [text row.name]
    ++ entry "rename" (rename row)
    ++ entry "flags" (flags row)
    ++ entry "type_name" (support "type_name" ++ applied type)
    ++ entry "type_id" (identity type)
    ++ entry "access" access
    ++ entry "doc" (doc row.traits.doc))]

/-! ## Fields of records -/

/-- The name of the function that reads a field. -/
def getName (row : Row) : Tree := .ident ("__keyed_get_" ++ toString row.index)

/-- The name of the function that reaches a field for writing. -/
def getMutName (row : Row) : Tree := .ident ("__keyed_get_mut_" ++ toString row.index)

/-- The name of the function that puts a value into a field. -/
def replaceName (row : Row) : Tree := .ident ("__keyed_replace_" ++ toString row.index)

/-- A function that reaches a field through a reference of a given kind. -/
def reach (type field : Tree) (name : Tree) (reference : List Tree) (downcast : String) :
    List Tree :=
  [.ident "fn", name, parens ([.ident "owner", mark ':'] ++ reference ++ anyValue)]
  ++ pair '-' '>' ++ support "Option" ++ angled (reference ++ anyValue)
  ++ [braces (
    [.ident "owner", mark '.', .ident downcast] ++ applied [type]
    ++ [parens [], mark '.', .ident "map", parens (
      [mark '|', .ident "owner", mark '|'] ++ reference
      ++ [.ident "owner", mark '.', field, .ident "as"] ++ reference ++ anyValue)])]

/-- A function that puts a value into a field. -/
def exchange (type field : Tree) (name : Tree) : List Tree :=
  [.ident "fn", name, parens (
    entry "owner" ([mark '&'] ++ [.ident "mut"] ++ anyValue) ++ entry "value" anyBox)]
  ++ pair '-' '>' ++ support "Result"
  ++ [mark '<'] ++ anyBox ++ comma ++ support "Box" ++ [mark '<'] ++ anyValue ++ pair '>' '>'
  ++ [braces (
    [.ident "match", .ident "owner", mark '.', .ident "downcast_mut"] ++ applied [type]
    ++ [parens [], braces (
      support "Some" ++ [parens [.ident "owner"]] ++ pair '=' '>'
      ++ library ["replace_boxed"]
      ++ [parens [mark '&', .ident "mut", .ident "owner", mark '.', field, mark ',', .ident "value"]]
      ++ comma
      ++ support "None" ++ pair '=' '>'
      ++ support "Result" ++ path ["Err"] ++ [parens [.ident "value"]] ++ comma)])]

/-- The functions of a field. -/
def fieldFunctions (type : Tree) (row : Row) : List Tree :=
  let field := Tree.ident row.ident
  reach type field (getName row) [mark '&'] "downcast_ref"
  ++ reach type field (getMutName row) [mark '&', .ident "mut"] "downcast_mut"
  ++ exchange type field (replaceName row)

/-- A field of a layout. -/
def field (row : Row) : List Tree :=
  member row row.type (library ["FieldAccess", "Slot"] ++ [parens (
    library ["SlotVTable"] ++ [braces (
      entry "get" [getName row]
      ++ entry "get_mut" [getMutName row]
      ++ entry "replace" [replaceName row])])])

/-- The link to the base. -/
def parentLink (parent : Option Row) : List Tree :=
  match parent with
  | none => support "None"
  | some row => support "Some" ++ [parens (
      library ["ParentLink"] ++ [braces (
        entry "field" [text row.name]
        ++ entry "shape" (library ["shape_of"] ++ applied row.type)
        ++ entry "project" [getName row]
        ++ entry "project_mut" [getMutName row])])]

/-! ## Variants of enumerations -/

/-- The name of the function that makes a variant. -/
def variantName (row : Row) : Tree := .ident ("__keyed_variant_" ++ toString row.index)

/-- The name of the function that recognises a variant. -/
def isName (row : Row) : Tree := .ident ("__keyed_is_" ++ toString row.index)

/-- The functions of a variant. -/
def variantFunctions (type : Tree) (row : Row) : List Tree :=
  let variant := [type] ++ path [row.ident]
  [.ident "fn", variantName row, parens []] ++ pair '-' '>' ++ anyBox
  ++ [braces (support "Box" ++ path ["new"] ++ [parens variant])]
  ++ [.ident "fn", isName row, parens ([.ident "value", mark ':', mark '&'] ++ anyValue)]
  ++ pair '-' '>' ++ [.ident "bool", braces (
    path ["core", "matches"] ++ [mark '!', parens (
      [.ident "value", mark '.', .ident "downcast_ref"] ++ applied [type] ++ [parens []]
      ++ comma ++ support "Some" ++ [parens variant])])]

/-- A variant of a layout. -/
def variant (type : Tree) (row : Row) : List Tree :=
  member row [type] (library ["FieldAccess", "Constant"] ++ [parens (
    library ["ConstantVTable"] ++ [braces (
      entry "value" [variantName row]
      ++ entry "matches" [isName row])])])

/-! ## The layout -/

/-- The code for a table. -/
def ofTable (t : Table) : List Tree :=
  let type := Tree.ident t.ident
  let functions := match t.form with
    | .record => fieldFunctions type
    | .enumeration => variantFunctions type
  let item := match t.form with
    | .record => field
    | .enumeration => variant type
  let parent := match t.form with
    | .record => parentLink t.parent?
    | .enumeration => support "None"
  let layout := library ["Shape"] ++ [braces (
    entry "type_name" [text (plainName t.ident)]
    ++ entry "id" (identity [type])
    ++ entry "ty" (library ["Type", t.form.label])
    ++ entry "parent" parent
    ++ entry "fields" (listOf (t.rows.map item))
    ++ entry "doc" (doc t.doc))]
  [mark '#', brackets [.ident "automatically_derived"], .ident "impl"]
  ++ library ["Keyed"] ++ [.ident "for", type, braces (
    [.ident "const", .ident "SHAPE", mark ':', mark '&', .punct '\'' true, .ident "static"]
    ++ library ["Shape"] ++ [mark '=', braces (
      t.rows.flatMap functions ++ [mark '&'] ++ layout), mark ';'])]

end RecordKeys.Expansion

namespace RecordKeys

/-- The code that gives a declared type its layout, or the complaints about the declaration. -/
def Declaration.expand (trees : List Tree) : Except (List Complaint) (List Tree) :=
  match Declaration.read? (Tree.sequenceUnsigned trees) with
  | none => .error [.notAType]
  | some d => d.table.map Expansion.ofTable

end RecordKeys
