/-
What the attributes of an item say: its lines of documentation, and the arguments of the attribute
`keyed`. Other attributes are passed over.
-/
import RecordKeys.Declaration.Complaint
import RecordKeys.Text.Literal
import RecordKeys.Token.Tree

namespace RecordKeys

/-- An argument of the attribute `keyed`. -/
inductive Argument
  | rename (literal : String)
  | skip
  | parent
  | null
  deriving DecidableEq, Repr

namespace Argument

/-- The parts of a sequence between its commas. -/
def splitAtCommas : List Tree → List (List Tree)
  | [] => [[]]
  | t :: rest =>
    if t.isPunct ',' then [] :: splitAtCommas rest
    else match splitAtCommas rest with
      | part :: parts => (t :: part) :: parts
      | [] => [[t]]

/-- Reads one argument. -/
def read? : List Tree → Option Argument
  | [.ident "rename", .punct '=' _, .literal text] => some (.rename text)
  | [.ident "skip"] => some .skip
  | [.ident "parent"] => some .parent
  | [.ident "null"] => some .null
  | _ => none

/-- Drops the empty part that a comma at the end leaves, or that no arguments leave. -/
def dropLastEmpty : List (List Tree) → List (List Tree)
  | [] => []
  | [[]] => []
  | part :: parts => part :: dropLastEmpty parts

/-- Reads arguments separated by commas, with or without a comma at the end. -/
def readAll? (trees : List Tree) : Option (List Argument) :=
  (dropLastEmpty (splitAtCommas trees)).mapM read?

end Argument

/-- What the attributes of an item say. -/
structure Traits where
  rename : Option String := none
  skip : Bool := false
  parent : Bool := false
  null : Bool := false
  doc : List String := []
  deriving DecidableEq, Repr

namespace Traits

/-- Whether any argument has been given. -/
def hasArgument (t : Traits) : Bool := t.rename.isSome || t.skip || t.parent || t.null

/-- Takes an argument into account; a later new name takes the place of an earlier one. -/
def give (t : Traits) : Argument → Traits × List Complaint
  | .rename literal =>
    match Text.literalText? literal with
    | some name => ({ t with rename := some name }, [])
    | none => (t, [.renameNotText])
  | .skip => ({ t with skip := true }, [])
  | .parent => ({ t with parent := true }, [])
  | .null => ({ t with null := true }, [])

/-- Takes arguments into account, one after the other. -/
def giveAll (t : Traits) : List Argument → Traits × List Complaint
  | [] => (t, [])
  | a :: rest =>
    let (t, first) := t.give a
    let (t, more) := t.giveAll rest
    (t, first ++ more)

/-- The line of a documentation attribute, given what follows its name. -/
def docLine? : List Tree → Option String
  | [.punct '=' _, .literal text] => Text.literalText? text
  | _ => none

/-- Takes an attribute into account. -/
def note (t : Traits) : List Tree → Traits × List Complaint
  | .ident "doc" :: rest =>
    match docLine? rest with
    | some line => ({ t with doc := t.doc ++ [line] }, [])
    | none => (t, [])
  | .ident "keyed" :: .group .paren arguments :: _ =>
    match Argument.readAll? arguments with
    | some arguments => t.giveAll arguments
    | none => (t, [.unknownArgument])
  | .ident "keyed" :: _ => (t, [.argumentsExpected])
  | _ => (t, [])

/-- Takes attributes into account, one after the other. -/
def noteAll (t : Traits) : List (List Tree) → Traits × List Complaint
  | [] => (t, [])
  | a :: rest =>
    let (t, first) := t.note a
    let (t, more) := t.noteAll rest
    (t, first ++ more)

/-- What the attributes of an item say, with the complaints about them. -/
def ofAttributes (attributes : List (List Tree)) : Traits × List Complaint :=
  noteAll {} attributes

end Traits

end RecordKeys
