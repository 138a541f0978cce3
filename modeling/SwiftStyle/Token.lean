import SwiftStyle.Text.Utf8

/-!
The tokens of a source text: what kind each is and which bytes it covers.
-/

namespace SwiftStyle

/-- What a token is. -/
inductive TokenKind where
  | keyword
  | identifier
  | attr
  | string
  | number
  | comment
  | docComment
  | punctuation
  deriving DecidableEq, Repr

namespace TokenKind

/-- The short name of a kind. -/
def name : TokenKind → String
  | keyword => "keyword"
  | identifier => "identifier"
  | attr => "attribute"
  | string => "string"
  | number => "number"
  | comment => "comment"
  | docComment => "doc"
  | punctuation => "punctuation"

/-- The kind of a short name. -/
def ofName? : String → Option TokenKind
  | "keyword" => some keyword
  | "identifier" => some identifier
  | "attribute" => some attr
  | "string" => some string
  | "number" => some number
  | "comment" => some comment
  | "doc" => some docComment
  | "punctuation" => some punctuation
  | _ => none

@[simp]
theorem ofName?_name (kind : TokenKind) : ofName? kind.name = some kind := by cases kind <;> rfl

/-- The kind of a comment from its text. Three slashes, or an opening with two stars, document
the next declaration; a fourth slash, a third star or an immediate close make a plain comment. -/
def ofComment (text : List Char) : TokenKind :=
  match text with
  | '/' :: '/' :: '/' :: '/' :: _ => comment
  | '/' :: '/' :: '/' :: _ => docComment
  | '/' :: '*' :: '*' :: '/' :: _ => comment
  | '/' :: '*' :: '*' :: '*' :: _ => comment
  | '/' :: '*' :: '*' :: _ => docComment
  | _ => comment

end TokenKind

/-- A token: its kind and the bytes it covers. -/
structure Token where
  kind : TokenKind
  offset : Nat
  length : Nat
  deriving DecidableEq, Repr

namespace Token

/-- The byte offset just after a token. -/
def stop (token : Token) : Nat := token.offset + token.length

/-- Whether a token is a comment of either kind. -/
def isComment (token : Token) : Bool := token.kind == .comment || token.kind == .docComment

/-- The text of a token; empty if the token does not fall on characters of the source. -/
def text (source : List Char) (token : Token) : List Char :=
  (Text.slice? token.offset token.stop source).getD []

/-- The tokens that start at or after one offset and before another, in tokens that are ordered
by offset. They stand between two places in the list, each found from the front. -/
def between (start stop : Nat) (tokens : List Token) : List Token :=
  let first := (tokens.takeWhile (·.offset < start)).length
  let last := (tokens.takeWhile (·.offset < stop)).length
  (tokens.take (max first last)).drop first

end Token

end SwiftStyle
