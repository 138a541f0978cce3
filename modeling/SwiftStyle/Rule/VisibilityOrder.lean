import SwiftStyle.Rule

/-!
The rule that wants the visibility of a function or an initializer to be its first modifier. A
level that only holds for setters, such as `private(set)`, is no visibility here. If something
other than a modifier stands between the first and the last modifier, the declaration is reported
and left as it is.
-/

namespace SwiftStyle

/-- The rule with the severity of what it reports. -/
structure VisibilityOrder where
  severity : Severity
  deriving DecidableEq, Repr

namespace VisibilityOrder

/-- A class with one member. -/
def sample (member : String) : String := "class A \x7b\n    " ++ member ++ " \x7b\x7d\n\x7d\n"

/-- What the rule is called and what it is about. -/
def info : RuleInfo where
  id := "function_visibility_order"
  name := "Function Visibility Order"
  description := "Function visibility should always be the first modifier."
  examples := {
    accepted := [
      "func x()", "public func x()", "internal func x()", "fileprivate func x()",
      "private func x()", "override func x()", "public override func x()",
      "internal override func x()", "fileprivate override func x()", "private override func x()",
      "init()", "public init()", "internal init()", "fileprivate init()", "private init()",
      "required init()", "public required init()", "internal required init()",
      "private required init()", "fileprivate required init()", "override init()",
      "public override init()", "internal override init()", "private override init()",
      "fileprivate override init()"].map sample
    flagged := [
      "override public func x()", "override internal func x()", "override fileprivate func x()",
      "override private func x()", "required public init()", "required internal init()",
      "required private init()", "required fileprivate init()", "override public init()",
      "override internal init()", "override private init()", "override fileprivate init()"].map
      sample
    corrections := [
      ("override public func x()", "public override func x()"),
      ("override internal func x()", "internal override func x()"),
      ("override fileprivate func x()", "fileprivate override func x()"),
      ("override private func x()", "private override func x()"),
      ("required public init()", "public required init()"),
      ("required internal init()", "internal required init()"),
      ("required private init()", "private required init()"),
      ("required fileprivate init()", "fileprivate required init()"),
      ("override public init()", "public override init()"),
      ("override internal init()", "internal override init()"),
      ("override private init()", "private override init()"),
      ("override fileprivate init()", "fileprivate override init()")].map
      fun (late, early) => (sample late, sample early) }

/-- The rule with warnings. -/
def default : VisibilityOrder := ⟨.warning⟩

/-- The rule under a section, which can only override the severity. -/
def configure (rule : VisibilityOrder) (s : Section) : Except ConfigError VisibilityOrder := do
  s.rejectUnknown info.id []
  return ⟨s.severity.getD rule.severity⟩

/-- The words for visibility. -/
def visibilities : List (List Char) :=
  ["open", "public", "internal", "fileprivate", "private"].map String.toList

/-- The modifiers that visibility has to precede. -/
def otherModifiers : List (List Char) :=
  ["override", "required", "convenience", "final", "static", "class", "dynamic", "mutating",
    "nonmutating", "optional", "prefix", "postfix", "infix", "nonisolated"].map String.toList

/-- What a token before the introducing keyword is to this rule. -/
inductive Role where
  | visibility
  | modifier
  | unrelated
  deriving DecidableEq, Repr

/-- Whether a token opens a parenthesis. -/
def opensParenthesis (source : List Char) (token : Token) : Bool :=
  token.kind == .punctuation && token.text source == ['(']

/-- The role of a token, given the tokens after it. Visibility with a scope of its own behind it
is unrelated. -/
def role (source : List Char) (token : Token) (after : List Token) : Role :=
  if token.kind != .keyword then .unrelated
  else if visibilities.contains (token.text source) then
    if after.head?.any (opensParenthesis source) then .unrelated else .visibility
  else if otherModifiers.contains (token.text source) then .modifier
  else .unrelated

/-- Every token with its role. -/
def withRoles (source : List Char) : List Token → List (Role × Token)
  | [] => []
  | token :: after => (role source token after, token) :: withRoles source after

/-- Whether a token introduces a function or an initializer. -/
def introduces (source : List Char) (token : Token) : Bool :=
  token.kind == .keyword
    && (token.text source == "func".toList || token.text source == "init".toList)

/-- The tokens before the first one that introduces a function or an initializer. -/
def head? (source : List Char) (tokens : List Token) : Option (List Token) :=
  if tokens.any (introduces source) then some (tokens.takeWhile fun t => !introduces source t)
  else none

/-- A text with the modifiers in the right order, for the bytes between two offsets. -/
structure Reordering where
  start : Nat
  stop : Nat
  replacement : List Char
  deriving DecidableEq, Repr

/-- A declaration whose visibility comes late: where its modifiers start, and the reordering that
puts the visibility first, if there is one. -/
structure Late where
  offset : Nat
  reordering? : Option Reordering
  deriving DecidableEq, Repr

/-- Whether a token with its role is anything but a modifier. -/
def isUnrelated (marked : Role × Token) : Bool := marked.1 == .unrelated

/-- Whether a token with its role spells visibility. -/
def isVisibility (marked : Role × Token) : Bool := marked.1 == .visibility

/-- The first visibility in front of everything else, which keeps its order. -/
def visibilityFirst (modifiers : List (Role × Token)) : List (Role × Token) :=
  (modifiers.find? isVisibility).toList ++ modifiers.eraseP isVisibility

/-- The texts of tokens, one space apart. -/
def joined (source : List Char) (tokens : List (Role × Token)) : List Char :=
  [' '].intercalate (tokens.map fun (_, token) => token.text source)

/-- What is wrong with the tokens before an introducing keyword, if anything is. -/
def late? (source : List Char) (tokens : List Token) : Option Late :=
  let marked := withRoles source tokens
  let span := (marked.dropWhile isUnrelated).reverse.dropWhile isUnrelated
  let modifiers := marked.filter fun m => !isUnrelated m
  match modifiers with
  | [] => none
  | first :: rest =>
    if isVisibility first || !rest.any isVisibility then none
    else
      let stop := ((rest.getLast?).getD first).2.stop
      some ⟨first.2.offset,
        if span.any isUnrelated then none
        else some ⟨first.2.offset, stop, joined source (visibilityFirst modifiers)⟩⟩

/-- What is wrong with a declaration that is like a function, given all tokens of the file. -/
def ofDeclaration? (source : List Char) (tokens : List Token) (d : Declaration) : Option Late :=
  (head? source (Token.between d.offset d.stop tokens)).bind (late? source)

/-- The declarations of a file whose visibility comes late; none if it cannot be parsed. -/
def found (file : SourceFile) : List Late :=
  match file.outline with
  | .error _ => []
  | .ok outline =>
    (outline.root.walk.filter (·.kind.isFunction)).filterMap
      (ofDeclaration? file.text.toList outline.tokens)

/-- The violations of a file. -/
def violations (rule : VisibilityOrder) (file : SourceFile) : List Violation :=
  (found file).map fun late =>
    ⟨info.reporter, rule.severity, file.located (.offset late.offset), info.description⟩

/-- The reorderings of a file as edits. -/
def edits (file : SourceFile) : List Edit :=
  (found file).filterMap fun late => late.reordering?.map fun r =>
    ⟨r.start, r.stop, String.ofList r.replacement, info.reporter⟩

/-- What the rule does. -/
def behaviour (rule : VisibilityOrder) : Behaviour where
  severity := rule.severity
  violations file _ := rule.violations file
  edits? := some fun file _ => edits file

/-- The rule among others. -/
def toRule (rule : VisibilityOrder) : Rule where
  info := info
  behaviour := rule.behaviour
  configure s := (rule.configure s).map behaviour

end VisibilityOrder

end SwiftStyle
