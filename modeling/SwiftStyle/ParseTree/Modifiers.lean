import SwiftStyle.Access
import SwiftStyle.Token

/-!
The modifiers that a declaration starts with, read from its tokens.
-/

namespace SwiftStyle

/-- What the modifiers of a declaration say. -/
structure Modifiers where
  visibility : Option Access
  isStatic : Bool
  isClass : Bool
  deriving DecidableEq, Repr

namespace Modifiers

/-- No modifier at all. -/
def none : Modifiers := ⟨.none, false, false⟩

/-- The words that can stand before the keyword of a declaration. -/
def words : List String :=
  ["open", "public", "internal", "fileprivate", "private", "override", "required",
    "convenience", "final", "static", "dynamic", "mutating", "nonmutating", "lazy", "weak",
    "unowned", "optional", "indirect", "prefix", "postfix", "infix", "nonisolated"]

/-- The keywords before which the word for classes is a modifier. -/
def classMemberKeywords : List String := ["func", "var", "let", "subscript"]

/-- The text of a token as a word. -/
def word (source : List Char) (token : Token) : String := String.ofList (token.text source)

/-- The text of the first token; empty if there is none. -/
def nextWord (source : List Char) (tokens : List Token) : String :=
  (tokens.head?.map (word source)).getD ""

/-- Whether the word for classes is a modifier before a word. -/
def classModifies (next : String) : Bool :=
  words.contains next || classMemberKeywords.contains next

/-- What one modifier adds. The last visibility counts. -/
def add (m : Modifiers) (modifier : String) : Modifiers where
  visibility := (Access.ofKeyword? modifier).or m.visibility
  isStatic := m.isStatic || modifier == "static"
  isClass := m.isClass

/-- Reads attributes and modifiers up to the first token that is neither. A modifier before a
parenthesis concerns the setter alone and is skipped with what the parentheses hold. -/
def readFrom (source : List Char) (m : Modifiers) : List Token → Modifiers
  | [] => m
  | token :: rest =>
    if token.kind = .attr then readFrom source m rest
    else if token.kind = .keyword then
      let current := word source token
      if current = "class" then
        if classModifies (nextWord source rest) then
          readFrom source { m with isClass := true } rest
        else m
      else if words.contains current then
        if nextWord source rest = "(" then
          readFrom source m ((rest.dropWhile fun t => word source t ≠ ")").drop 1)
        else readFrom source (m.add current) rest
      else m
    else m
termination_by tokens => tokens.length
decreasing_by
  all_goals simp only [List.length_cons, List.length_drop]
  all_goals try omega
  have := (List.dropWhile_sublist (l := rest) (fun t => word source t ≠ ")")).length_le
  omega

/-- The modifiers at the start of some tokens; comments do not count. -/
def read (source : List Char) (tokens : List Token) : Modifiers :=
  readFrom source none (tokens.filter (!·.isComment))

end Modifiers

end SwiftStyle
