/-
What can be wrong with a declaration.
-/
import RecordKeys.Form

namespace RecordKeys

/-- The faults of a declaration. -/
inductive Complaint
  | notAType
  | noBody (form : Form)
  | generic (form : Form)
  | tuple
  | argumentsOnType
  | argumentsExpected
  | unknownArgument
  | renameNotText
  | notAMember
  | notTyped
  | carriesData
  | nullOnField
  | namedParent
  | secondParent
  | parentOnVariant
  | secondNull
  | namedNull
  deriving DecidableEq, Repr

/-- The message of a complaint. -/
def Complaint.message : Complaint → String
  | notAType => "#[derive(Keyed)] expects a struct or an enum"
  | noBody form => "expected the body of the " ++ form.keyword
  | generic form => "#[derive(Keyed)] does not support generic " ++ form.keyword ++ "s"
  | tuple => "#[derive(Keyed)] needs named fields; tuple structs have no field names"
  | argumentsOnType =>
    "`#[keyed(...)]` arguments belong on fields and variants, not on the type"
  | argumentsExpected => "expected `#[keyed(...)]`"
  | unknownArgument =>
    "unknown `keyed` argument; expected `rename = \"...\"`, `skip`, `parent` or `null`"
  | renameNotText => "`rename` expects a string literal"
  | notAMember => "expected a named field or a variant"
  | notTyped => "expected `name: Type`"
  | carriesData => "#[derive(Keyed)] only supports enums whose variants carry no data"
  | nullOnField => "`null` only applies to enum variants"
  | namedParent => "the parent field has no wire name; drop `rename` and `skip`"
  | secondParent => "only one field can be the parent"
  | parentOnVariant => "`parent` only applies to struct fields"
  | secondNull => "only one variant can be `null`"
  | namedNull => "a `null` variant has no wire name to rename"

end RecordKeys
