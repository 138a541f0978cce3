import SwiftStyle.ParseTree.Labels
import SwiftStyle.ParseTree.Modifiers
import SwiftStyle.ParseTree.Tokens
import SwiftStyle.SourceFile

/-!
The outline of a parse tree: its tokens and the declarations it holds. Only the bodies of types
are searched for members; the bodies of functions are left alone. What an error node holds counts
as standing in its place.
-/

namespace SwiftStyle.ParseTree

/-- A text with the tokens of its parse tree. -/
structure Source where
  text : List Char
  tokens : List Token

/-- What a container says about the declarations directly inside. -/
structure Scope where
  inType : Bool
  /-- The access of members that spell none. -/
  memberAccess : Option Access
  /-- The access of enum cases that spell none. -/
  caseAccess : Option Access
  deriving DecidableEq, Repr

/-- The scope of a file. -/
def Scope.file : Scope := ⟨false, none, none⟩

namespace Source

/-- The tokens that start inside a node. -/
def tokensOf (source : Source) (node : ParseTree) : List Token :=
  Token.between node.start node.stop source.tokens

/-- Where a node starts when comments do not count. -/
def startOf (source : Source) (node : ParseTree) : Nat :=
  match (source.tokensOf node).find? (!·.isComment) with
  | some token => token.offset
  | none => node.start

/-- The modifiers a node starts with. -/
def modifiersOf (source : Source) (node : ParseTree) : Modifiers :=
  Modifiers.read source.text (source.tokensOf node)

/-- The documentation comments directly before an offset, one on each line. -/
def documentationBefore (source : Source) (offset : Nat) : Option String :=
  let before := source.tokens.takeWhile (·.offset < offset)
  match before.reverse.takeWhile (·.kind == .docComment) with
  | [] => none
  | docs =>
    some (String.intercalate "\n"
      (docs.reverse.map fun doc => String.ofList (doc.text source.text)))

/-- The text of a node. -/
def textOf (source : Source) (node : ParseTree) : List Char := node.text source.text

/-- The text of the child in a role; empty if there is none. -/
def textOfChild (source : Source) (role : String) (node : ParseTree) : List Char :=
  ((node.child? role).map source.textOf).getD []

/-- A declaration between two offsets, without a name or anything inside. -/
def declare (kind : DeclarationKind) (start stop : Nat) (access : Access)
    (documentation : Option String) : Declaration :=
  ⟨kind, none, start, stop - start, access, documentation, [], []⟩

/-- The declaration a node makes. It starts after the comments before it. -/
def declarationOf (source : Source) (node : ParseTree) (kind : DeclarationKind)
    (access : Access) : Declaration :=
  let start := source.startOf node
  declare kind start node.stop access (source.documentationBefore start)

end Source

/-- The access of a declaration: spelled out, else implied, else internal. -/
def accessWith (modifiers : Modifiers) (implied : Option Access) : Access :=
  (modifiers.visibility.or implied).getD .internal

/-- A kind chosen by where a declaration stands and by its modifiers. -/
def memberKind (scope : Scope) (modifiers : Modifiers)
    (free ofType ofClass ofInstance : DeclarationKind) : DeclarationKind :=
  if !scope.inType then free
  else if modifiers.isStatic then ofType
  else if modifiers.isClass then ofClass
  else ofInstance

/-- The kind of a function-like node. -/
def functionKind (scope : Scope) (modifiers : Modifiers) (nodeKind : String) : DeclarationKind :=
  if nodeKind = "init_declaration" then .initializer
  else if nodeKind = "deinit_declaration" then .deinitializer
  else if nodeKind = "subscript_declaration" then .subscriptMember
  else memberKind scope modifiers .freeFunction .staticMethod .classMethod .instanceMethod

/-- The name of a function-like node before its labels. -/
def functionBase (source : Source) (node : ParseTree) : DeclarationKind → List Char
  | .initializer => "init".toList
  | .deinitializer => "deinit".toList
  | .subscriptMember => "subscript".toList
  | _ => Labels.unquote (source.textOfChild "name" node)

/-- A name followed by labels in parentheses. -/
def withLabels (base labels : List Char) : List Char := base ++ '(' :: labels ++ [')']

/-- The name of a function-like node. A deinitializer has no parameters to name. -/
def functionName (source : Source) (node : ParseTree) (kind : DeclarationKind) : List Char :=
  let base := functionBase source node kind
  if kind = .deinitializer then base
  else
    withLabels base
      (Labels.joined (kind = .subscriptMember)
        ((node.children.filter (·.kind == "parameter")).map source.textOf))

/-- The declaration of a function, an initializer, a deinitializer or a subscript. -/
def function (source : Source) (scope : Scope) (node : ParseTree) : Declaration :=
  let modifiers := source.modifiersOf node
  let kind := functionKind scope modifiers node.kind
  { source.declarationOf node kind (accessWith modifiers scope.memberAccess) with
    name := some (String.ofList (functionName source node kind)) }

mutual

/-- The first identifier in a tree, parents before children. -/
def firstIdentifier? : ParseTree → Option ParseTree
  | ⟨kind, field, start, stop, isNamed, isMissing, children⟩ =>
    if kind = "simple_identifier" then
      some ⟨kind, field, start, stop, isNamed, isMissing, children⟩
    else firstIdentifierIn? children

/-- The first identifier in several trees. -/
def firstIdentifierIn? : List ParseTree → Option ParseTree
  | [] => none
  | node :: nodes =>
    match firstIdentifier? node with
    | some found => some found
    | none => firstIdentifierIn? nodes

end

/-- The declaration of a property. Its name is the first identifier of its pattern. -/
def property (source : Source) (scope : Scope) (node : ParseTree) : Declaration :=
  let modifiers := source.modifiersOf node
  let kind :=
    memberKind scope modifiers .globalVariable .staticVariable .classVariable .instanceVariable
  { source.declarationOf node kind (accessWith modifiers scope.memberAccess) with
    name := ((node.child? "name").bind firstIdentifier?).map fun found =>
      String.ofList (Labels.unquote (source.textOf found)) }

/-- The declaration of a type alias. -/
def typeAlias (source : Source) (scope : Scope) (node : ParseTree) : Declaration :=
  let access := accessWith (source.modifiersOf node) scope.memberAccess
  { source.declarationOf node .typeAlias access with
    name := some (String.ofList (source.textOfChild "name" node)) }

/-- An element of an enum case: the bytes it covers and its name. -/
structure CaseElement where
  start : Nat
  stop : Nat
  name : List Char
  deriving DecidableEq, Repr

/-- What a child of an enum case adds to the elements read so far, the latest first: a name opens
an element, associated values and a raw value extend it. -/
def addToCase (source : Source) (elements : List CaseElement) (child : ParseTree) :
    List CaseElement :=
  if child.field = some "name" then
    ⟨child.start, child.stop, Labels.unquote (source.textOf child)⟩ :: elements
  else
    match elements with
    | [] => []
    | element :: earlier =>
      if child.field = some "data_contents" then
        let labels := Labels.joined false (Labels.entries (source.textOf child))
        { element with stop := child.stop, name := withLabels element.name labels } :: earlier
      else if child.field = some "raw_value" then { element with stop := child.stop } :: earlier
      else elements

/-- The elements of an enum case, in order. -/
def caseElements (source : Source) (entry : ParseTree) : List CaseElement :=
  (entry.children.foldl (addToCase source) []).reverse

/-- The declaration of one element of an enum case, starting at a given offset. -/
def caseElement (access : Access) (documentation : Option String) (start : Nat)
    (element : CaseElement) : Declaration :=
  { Source.declare .enumElement start element.stop access documentation with
    name := some (String.ofList element.name) }

/-- The declarations of an enum case, one for each element. The first one starts where the case
starts, the others at their own names; all have the access and the documentation of the case. -/
def enumCase (source : Source) (scope : Scope) (entry : ParseTree) : List Declaration :=
  let access := accessWith (source.modifiersOf entry) scope.caseAccess
  let start := source.startOf entry
  let documentation := source.documentationBefore start
  match caseElements source entry with
  | [] => []
  | first :: others =>
    caseElement access documentation start first
      :: others.map fun other => caseElement access documentation other.start other

/-- The kind of type a node declares, by the keyword it is declared with. -/
def typeKind (source : Source) (node : ParseTree) : DeclarationKind :=
  let keyword :=
    if node.kind = "protocol_declaration" then "protocol"
    else ((node.child? "declaration_kind").map fun keyword =>
      String.ofList (source.textOf keyword)).getD "class"
  if keyword = "struct" then .structType
  else if keyword = "enum" then .enumType
  else if keyword = "protocol" then .protocolType
  else if keyword = "extension" then .extensionBlock
  else if keyword = "actor" then .unrecognized "source.lang.swift.decl.actor"
  else .classType

/-- What a type says about its members. A protocol gives them its own access, an extension the
one it spells, an enum gives its access to its cases. -/
def typeScope (kind : DeclarationKind) (modifiers : Modifiers) : Scope where
  inType := true
  memberAccess :=
    if kind = .protocolType then some (accessWith modifiers none)
    else if kind = .extensionBlock then modifiers.visibility
    else none
  caseAccess := if kind = .enumType then some (accessWith modifiers none) else none

/-- The declaration of a type with the given members. -/
def typeDeclaration (source : Source) (node : ParseTree) (members : List Declaration) :
    Declaration :=
  { source.declarationOf node (typeKind source node)
      (accessWith (source.modifiersOf node) none) with
    name := (node.child? "name").map fun name => String.ofList (source.textOf name)
    inherits :=
      (node.children.filter (·.kind == "inheritance_specifier")).map fun specifier =>
        String.ofList (source.textOf specifier)
    children := members }

/-- Whether a child is the body of its parent by its role. -/
def hasBodyRole (node : ParseTree) : Bool := node.field == some "body"

/-- Whether a child is a body by its kind. -/
def hasBodyKind (node : ParseTree) : Bool := "_body".toList.isSuffixOf node.kind.toList

/-- The kinds of nodes that declare types. -/
def typeKinds : List String := ["class_declaration", "protocol_declaration"]

/-- The kinds of nodes that declare functions and what is like them. -/
def functionKinds : List String :=
  ["function_declaration", "protocol_function_declaration", "init_declaration",
    "deinit_declaration", "subscript_declaration"]

/-- The kinds of nodes that declare properties. -/
def variableKinds : List String := ["property_declaration", "protocol_property_declaration"]

mutual

/-- The declarations that a node stands for inside a container. -/
def declarations (source : Source) (scope : Scope) : ParseTree → List Declaration
  | ⟨kind, field, start, stop, isNamed, isMissing, children⟩ =>
    let node : ParseTree := ⟨kind, field, start, stop, isNamed, isMissing, children⟩
    if typeKinds.contains kind then
      let inside := typeScope (typeKind source node) (source.modifiersOf node)
      let members :=
        match bodyMembers? source inside hasBodyRole children with
        | some members => members
        | none => (bodyMembers? source inside hasBodyKind children).getD []
      [typeDeclaration source node members]
    else if functionKinds.contains kind then [function source scope node]
    else if variableKinds.contains kind then [property source scope node]
    else if kind = "typealias_declaration" then [typeAlias source scope node]
    else if kind = "enum_entry" then enumCase source scope node
    else if kind = "ERROR" then declarationsIn source scope children
    else []

/-- The declarations that several nodes stand for. -/
def declarationsIn (source : Source) (scope : Scope) : List ParseTree → List Declaration
  | [] => []
  | node :: nodes => declarations source scope node ++ declarationsIn source scope nodes

/-- The declarations inside the first node that is a body. -/
def bodyMembers? (source : Source) (scope : Scope) (isBody : ParseTree → Bool) :
    List ParseTree → Option (List Declaration)
  | [] => none
  | ⟨kind, field, start, stop, isNamed, isMissing, children⟩ :: nodes =>
    if isBody ⟨kind, field, start, stop, isNamed, isMissing, children⟩ then
      some (declarationsIn source scope children)
    else bodyMembers? source scope isBody nodes

end

/-- The outline of a text and its parse tree. -/
def outline (text : String) (root : ParseTree) : Outline :=
  let source : Source := ⟨text.toList, tokens text.toList root⟩
  let file := Source.declare .sourceFile 0 text.utf8ByteSize .unspecified none
  ⟨{ file with children := declarationsIn source .file root.children }, source.tokens⟩

/-- The parser that takes its trees from elsewhere; a text without a tree cannot be parsed. -/
def parser (tree? : String → Option ParseTree) : Parser := fun text =>
  match tree? text with
  | some root => .ok (outline text root)
  | none => .error ⟨"parser returned no syntax tree", 0⟩

end SwiftStyle.ParseTree
