import SwiftStyle.Declaration.Index
import SwiftStyle.Location
import SwiftStyle.Token

/-!
Source files and what a parser makes of their text. The parser belongs to the file and is asked
again whenever the text changes.
-/

namespace SwiftStyle

/-- What a parser finds in a text: the tree of declarations and all tokens in order. -/
structure Outline where
  root : Declaration
  tokens : List Token

/-- Why a text cannot be parsed, and where. -/
structure ParseFailure where
  message : String
  offset : Nat
  deriving DecidableEq, Repr

/-- A parse failure in words. -/
def ParseFailure.describe (failure : ParseFailure) : String :=
  s!"{failure.message} at offset {failure.offset}"

/-- A parser: a function of the text alone. -/
abbrev Parser := String → Except ParseFailure Outline

/-- A text with the path it came from, if any, and the parser that reads it. -/
structure SourceFile where
  path : Option String
  text : String
  parser : Parser

namespace SourceFile

/-- What the parser makes of the text as it is now. -/
def outline (file : SourceFile) : Except ParseFailure Outline := file.parser file.text

/-- The declarations of the file, if its text can be parsed. -/
def root? (file : SourceFile) : Option Declaration :=
  match file.outline with
  | .ok outline => some outline.root
  | .error _ => none

/-- The index of this file alone. -/
def ownIndex (file : SourceFile) : DeclarationIndex := DeclarationIndex.ofTrees file.root?.toList

/-- The file with another text. -/
def write (file : SourceFile) (text : String) : SourceFile := { file with text }

/-- The place of an offset or a line in a file. -/
def located (file : SourceFile) (position : Position) : Location := ⟨file.path, position⟩

end SourceFile

end SwiftStyle
