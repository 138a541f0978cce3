import SwiftStyle.ParseTree
import SwiftStyle.Text.Letter
import SwiftStyle.Token

/-!
The token stream of a parse tree. Some nodes make one token as a whole; of the others only the
leaves do. Nodes that cover nothing make none. The nodes still to be visited are kept on a stack.
-/

namespace SwiftStyle.ParseTree

/-- The kinds of nodes that are string literals. -/
def stringKinds : List String :=
  ["line_string_literal", "multi_line_string_literal", "raw_string_literal", "regex_literal"]

/-- The kinds of nodes that are numbers. -/
def numberKinds : List String :=
  ["integer_literal", "real_literal", "hex_literal", "oct_literal", "bin_literal"]

/-- Whether a text starts with a character that can start a word. -/
def startsWithWord (text : List Char) : Bool := text.head?.any Text.startsWord

/-- The kind of token a leaf makes. A word is a keyword unless the parser has a name for it; a
number sign before a word makes a directive, which is a keyword. -/
def leafKind (text : List Char) (isNamed : Bool) : TokenKind :=
  if text.head? = some '#' && startsWithWord (text.drop 1) then .keyword
  else if startsWithWord text || text.head? = some '\x60' then
    if isNamed then .identifier else .keyword
  else .punctuation

/-- The kind of token a node makes as a whole; none if its children carry the tokens. -/
def tokenKind? (source : List Char) (node : ParseTree) : Option TokenKind :=
  if node.kind = "comment" || node.kind = "multiline_comment" then
    some (TokenKind.ofComment (node.text source))
  else if node.kind = "attribute" then some .attr
  else if node.kind = "simple_identifier" || node.kind = "type_identifier" then some .identifier
  else if stringKinds.contains node.kind then some .string
  else if numberKinds.contains node.kind then some .number
  else if !node.children.isEmpty then none
  else some (leafKind (node.text source) node.isNamed)

/-- The token of a node, unless it covers nothing or stands for something missing. -/
def token? (kind : TokenKind) (node : ParseTree) : Option Token :=
  if node.start < node.stop && !node.isMissing then
    some ⟨kind, node.start, node.stop - node.start⟩
  else none

/-- The tokens of the nodes on a stack: a node that makes a token as a whole is done, any other
gives its place to its children. -/
def tokensOfStack (source : List Char) : List ParseTree → List Token
  | [] => []
  | node :: stack =>
    match tokenKind? source node with
    | some kind => (token? kind node).toList ++ tokensOfStack source stack
    | none => tokensOfStack source (node.children ++ stack)
termination_by stack => weightAll stack
decreasing_by
  · simp only [weightAll, weight_eq]; omega
  · simp only [weightAll_append, weightAll, weight_eq]; omega

/-- The tokens of a tree, comments included, in the order of the text. -/
def tokens (source : List Char) (root : ParseTree) : List Token := tokensOfStack source [root]

end SwiftStyle.ParseTree
