/-
String literals as they stand in source text: reading one back to the text it stands for, plain
(with escapes) or raw (between hashes), and writing a text as a plain literal.
-/
import RecordKeys.Text.Quoted

namespace RecordKeys.Text

/-! ## Reading -/

/-- The character that an escape letter stands for. -/
def escaped? : Char → Option Char
  | 'n' => some '\n'
  | 't' => some '\t'
  | 'r' => some '\r'
  | '0' => some '\x00'
  | '\\' => some '\\'
  | '"' => some '"'
  | '\'' => some '\''
  | _ => none

/-- Replaces the escapes of a plain literal. An escape of another kind stays as it is written. -/
def unescape : List Char → List Char
  | [] => []
  | ['\\'] => ['\\']
  | '\\' :: c :: rest =>
    match escaped? c with
    | some d => d :: unescape rest
    | none => '\\' :: c :: unescape rest
  | c :: rest => c :: unescape rest

/-- What stands before a given ending. -/
def dropEnding? (ending s : List Char) : Option (List Char) :=
  if ending.isSuffixOf s then some (s.take (s.length - ending.length)) else none

/-- The body of a raw literal, after its `r`: hashes, a quotation mark, the text, a quotation mark
and as many hashes. -/
def readRaw? (s : List Char) : Option (List Char) :=
  let hashes := s.takeWhile (· == '#')
  match s.dropWhile (· == '#') with
  | '"' :: body => (dropEnding? hashes body).bind (dropEnding? ['"'])
  | _ => none

/-- The text that a string literal stands for. Literals of other kinds stand for none. -/
def readLiteral? : List Char → Option (List Char)
  | 'r' :: rest => readRaw? rest
  | '"' :: rest => (dropEnding? ['"'] rest).map unescape
  | _ => none

/-- The text that a string literal stands for. -/
def literalText? (literal : String) : Option String :=
  (readLiteral? literal.toList).map String.ofList

/-! ## Writing -/

/-- The body of a plain literal. The zero character is spelled out before a digit that would be
read as part of its escape. -/
def literalBody : List Char → List Char
  | [] => []
  | c :: rest =>
    (if c = '\x00' then
      match rest with
      | d :: _ => if '0' ≤ d ∧ d ≤ '7' then ['\\', 'x', '0', '0'] else ['\\', '0']
      | [] => ['\\', '0']
    else escapeChar ⟨true, false⟩ c) ++ literalBody rest

/-- A text as a plain literal. -/
def literal (s : String) : String := String.ofList (['"'] ++ literalBody s.toList ++ ['"'])

end RecordKeys.Text
