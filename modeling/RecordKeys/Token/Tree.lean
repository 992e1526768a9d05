/-
Source text as token trees, and the text of a sequence of them.
-/
namespace RecordKeys

/-- The delimiters of a group. A bare group has none in the text. -/
inductive Delimiter
  | paren
  | bracket
  | brace
  | bare
  deriving DecidableEq, Repr

/-- A token, or a group of tokens between delimiters. A raw identifier has its `r#` in its name, a
literal is given as it is written. A joint punctuation mark belongs to the mark that follows. -/
inductive Tree
  | ident (name : String)
  | punct (mark : Char) (joint : Bool)
  | literal (text : String)
  | group (delimiter : Delimiter) (body : List Tree)

namespace Tree

/-- Whether a tree is a given punctuation mark, joint or not. -/
def isPunct (mark : Char) : Tree → Bool
  | punct m _ => m == mark
  | _ => false

/-- Whether a tree is a given identifier; a raw identifier is not the plain one. -/
def isIdent (name : String) : Tree → Bool
  | ident n => n == name
  | _ => false

/-! ## Signs -/

mutual

/-- A tree as it stands in a sequence: the sign of a number is a mark of its own. -/
def unsigned : Tree → List Tree
  | ident name => [ident name]
  | punct mark joint => [punct mark joint]
  | literal text =>
    match text.toList with
    | '-' :: rest => [punct '-' false, literal (String.ofList rest)]
    | _ => [literal text]
  | group delimiter body => [group delimiter (sequenceUnsigned body)]

/-- A sequence of trees in which the signs of numbers are marks of their own. -/
def sequenceUnsigned : List Tree → List Tree
  | [] => []
  | t :: rest => t.unsigned ++ sequenceUnsigned rest

end

/-! ## Text -/

mutual

/-- The text of a tree, in pieces. -/
def pieces : Tree → List String
  | ident name => [name]
  | punct mark _ => [String.singleton mark]
  | literal text => [text]
  | group .paren body => "(" :: sequencePieces body ++ [")"]
  | group .bracket body => "[" :: sequencePieces body ++ ["]"]
  | group .brace body => "\x7b " :: sequencePieces body ++ [if body.isEmpty then "\x7d" else " \x7d"]
  | group .bare body => sequencePieces body

/-- The text of a sequence of trees, in pieces. A blank stands between two trees unless the first
one is a joint mark. -/
def sequencePieces : List Tree → List String
  | [] => []
  | [t] => t.pieces
  | punct mark true :: u :: rest => String.singleton mark :: sequencePieces (u :: rest)
  | t :: u :: rest => t.pieces ++ " " :: sequencePieces (u :: rest)

end

/-- The text of a sequence of trees. -/
def text (trees : List Tree) : String := String.join (sequencePieces trees)

end Tree

end RecordKeys
