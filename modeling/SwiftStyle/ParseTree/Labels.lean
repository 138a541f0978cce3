import SwiftStyle.Text.Blank

/-!
Argument labels, read from the text of a parameter list. A separator counts only outside of
brackets; an angle bracket that ends an arrow closes nothing.
-/

namespace SwiftStyle.Labels

/-- How many brackets are open after a character, given the character before it. -/
def depthAfter (depth : Nat) (previous : Option Char) (c : Char) : Nat :=
  if c = '(' || c = '[' || c = '<' then depth + 1
  else if c = ')' || c = ']' then depth - 1
  else if c = '>' && previous ≠ some '-' then depth - 1
  else depth

/-- Cuts a text at every separator outside of brackets, given how many brackets are open and the
character before the text. There is one piece more than there are such separators. -/
def splitFrom (separator : Char) (depth : Nat) (previous : Option Char) :
    List Char → List (List Char)
  | [] => [[]]
  | c :: cs =>
    if c = separator && depth = 0 then [] :: splitFrom separator 0 (some c) cs
    else
      match splitFrom separator (depthAfter depth previous c) (some c) cs with
      | [] => [[c]]
      | piece :: pieces => (c :: piece) :: pieces

/-- Cuts a text at every separator outside of brackets. -/
def split (separator : Char) (text : List Char) : List (List Char) :=
  splitFrom separator 0 none text

/-- What stands between the parentheses around a list; the whole text if it is not in
parentheses. -/
def inner (text : List Char) : List Char :=
  match Text.trim text with
  | '(' :: rest => if rest.getLast? = some ')' then rest.dropLast else text
  | _ => text

/-- The entries of a parameter list in parentheses. -/
def entries (text : List Char) : List (List Char) :=
  let inside := inner text
  if (Text.trim inside).isEmpty then [] else split ',' inside

/-- A name without the backticks around it. -/
def unquote (name : List Char) : List Char := Text.trimBoth (· = '\x60') name

/-- The label of one parameter: the first name before its colon, or an underscore if there is
none. A parameter of a subscript has a label only if it has a second name. -/
def label (isSubscript : Bool) (parameter : List Char) : List Char :=
  match split ':' parameter with
  | before :: _ :: _ =>
    match (Text.words before).map unquote with
    | name :: rest => if isSubscript && rest.isEmpty then ['_'] else name
    | [] => ['_']
  | _ => ['_']

/-- The labels of several parameters, each with a colon after it. -/
def joined (isSubscript : Bool) (parameters : List (List Char)) : List Char :=
  parameters.flatMap fun parameter => label isSubscript parameter ++ [':']

end SwiftStyle.Labels
