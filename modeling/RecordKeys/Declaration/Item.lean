/-
The common beginning of declarations and of their members: attributes, visibility and a name.
-/
import RecordKeys.Form
import RecordKeys.Token.Tree

namespace RecordKeys

/-- A name with the attributes before it and all that follows it. -/
structure Item where
  attributes : List (List Tree)
  name : String
  rest : List Tree

/-- The name without the `r#` of a raw identifier. -/
def plainName (name : String) : String :=
  match name.toList with
  | 'r' :: '#' :: rest => String.ofList rest
  | _ => name

namespace Item

/-- The attributes at the beginning, each by what stands between its brackets, and the rest. -/
def takeAttributes : List Tree → List (List Tree) × List Tree
  | .punct '#' _ :: .group .bracket body :: rest =>
    let (more, rest) := takeAttributes rest
    (body :: more, rest)
  | rest => ([], rest)

/-- Drops a visibility, with the parentheses right behind it. -/
def dropVisibility : List Tree → List Tree
  | .ident "pub" :: .group .paren _ :: rest => rest
  | .ident "pub" :: rest => rest
  | rest => rest

/-- Reads a member of a body. -/
def read? (trees : List Tree) : Option Item :=
  let (attributes, rest) := takeAttributes trees
  match dropVisibility rest with
  | .ident name :: rest => some ⟨attributes, name, rest⟩
  | _ => none

end Item

/-- A declaration of a type: its form, and its name with all around it. -/
structure Declaration where
  form : Form
  item : Item

namespace Declaration

/-- Reads a declaration up to its name. -/
def read? (trees : List Tree) : Option Declaration :=
  let (attributes, rest) := Item.takeAttributes trees
  match Item.dropVisibility rest with
  | .ident "struct" :: .ident name :: rest => some ⟨.record, ⟨attributes, name, rest⟩⟩
  | .ident "enum" :: .ident name :: rest => some ⟨.enumeration, ⟨attributes, name, rest⟩⟩
  | _ => none

end Declaration

end RecordKeys
