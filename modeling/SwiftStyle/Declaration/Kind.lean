import SwiftStyle.Text.Quoted

/-!
The kinds of declarations a Swift file holds, and the identifiers that the source service has for
them.
-/

namespace SwiftStyle

/-- What a declaration declares. -/
inductive DeclarationKind where
  | sourceFile
  | classType
  | structType
  | enumType
  | enumElement
  | protocolType
  | extensionBlock
  | typeAlias
  | freeFunction
  | instanceMethod
  | staticMethod
  | classMethod
  | initializer
  | deinitializer
  | subscriptMember
  | globalVariable
  | instanceVariable
  | staticVariable
  | classVariable
  | localVariable
  | unrecognized (identifier : String)
  deriving DecidableEq, Repr

namespace DeclarationKind

/-- The kind that an identifier of the source service stands for. -/
def ofIdentifier : String → DeclarationKind
  | "source.lang.swift.sourcefile" => sourceFile
  | "source.lang.swift.decl.class" => classType
  | "source.lang.swift.decl.struct" => structType
  | "source.lang.swift.decl.enum" => enumType
  | "source.lang.swift.decl.enumelement" => enumElement
  | "source.lang.swift.decl.protocol" => protocolType
  | "source.lang.swift.decl.extension" => extensionBlock
  | "source.lang.swift.decl.typealias" => typeAlias
  | "source.lang.swift.decl.function.free" => freeFunction
  | "source.lang.swift.decl.function.method.instance" => instanceMethod
  | "source.lang.swift.decl.function.method.static" => staticMethod
  | "source.lang.swift.decl.function.method.class" => classMethod
  | "source.lang.swift.decl.function.constructor" => initializer
  | "source.lang.swift.decl.function.destructor" => deinitializer
  | "source.lang.swift.decl.function.subscript" => subscriptMember
  | "source.lang.swift.decl.var.global" => globalVariable
  | "source.lang.swift.decl.var.instance" => instanceVariable
  | "source.lang.swift.decl.var.static" => staticVariable
  | "source.lang.swift.decl.var.class" => classVariable
  | "source.lang.swift.decl.var.local" => localVariable
  | other => unrecognized other

/-- The identifier of the source service for a kind. -/
def identifier : DeclarationKind → String
  | sourceFile => "source.lang.swift.sourcefile"
  | classType => "source.lang.swift.decl.class"
  | structType => "source.lang.swift.decl.struct"
  | enumType => "source.lang.swift.decl.enum"
  | enumElement => "source.lang.swift.decl.enumelement"
  | protocolType => "source.lang.swift.decl.protocol"
  | extensionBlock => "source.lang.swift.decl.extension"
  | typeAlias => "source.lang.swift.decl.typealias"
  | freeFunction => "source.lang.swift.decl.function.free"
  | instanceMethod => "source.lang.swift.decl.function.method.instance"
  | staticMethod => "source.lang.swift.decl.function.method.static"
  | classMethod => "source.lang.swift.decl.function.method.class"
  | initializer => "source.lang.swift.decl.function.constructor"
  | deinitializer => "source.lang.swift.decl.function.destructor"
  | subscriptMember => "source.lang.swift.decl.function.subscript"
  | globalVariable => "source.lang.swift.decl.var.global"
  | instanceVariable => "source.lang.swift.decl.var.instance"
  | staticVariable => "source.lang.swift.decl.var.static"
  | classVariable => "source.lang.swift.decl.var.class"
  | localVariable => "source.lang.swift.decl.var.local"
  | unrecognized identifier => identifier

/-- The name of a kind. -/
def label : DeclarationKind → String
  | sourceFile => "SourceFile"
  | classType => "Class"
  | structType => "Struct"
  | enumType => "Enum"
  | enumElement => "EnumElement"
  | protocolType => "Protocol"
  | extensionBlock => "Extension"
  | typeAlias => "Typealias"
  | freeFunction => "FunctionFree"
  | instanceMethod => "FunctionMethodInstance"
  | staticMethod => "FunctionMethodStatic"
  | classMethod => "FunctionMethodClass"
  | initializer => "Initializer"
  | deinitializer => "Deinitializer"
  | subscriptMember => "Subscript"
  | globalVariable => "VarGlobal"
  | instanceVariable => "VarInstance"
  | staticVariable => "VarStatic"
  | classVariable => "VarClass"
  | localVariable => "VarLocal"
  | unrecognized identifier => s!"Unrecognized({Text.quoted identifier})"

/-- Whether a declaration of this kind can carry a documentation comment. -/
def isDocumentable : DeclarationKind → Bool
  | sourceFile | localVariable | unrecognized _ => false
  | _ => true

/-- Whether the kind is a function, a method or an initializer. -/
def isFunction : DeclarationKind → Bool
  | freeFunction | instanceMethod | staticMethod | classMethod | initializer => true
  | _ => false

/-- Whether members of a declaration of this kind can be inherited. -/
def isType : DeclarationKind → Bool
  | classType | structType | enumType | protocolType | extensionBlock => true
  | _ => false

end DeclarationKind

end SwiftStyle
