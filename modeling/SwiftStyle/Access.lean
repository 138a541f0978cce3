import SwiftStyle.Text.Quoted

/-!
Who may see a declaration: what its modifiers say, and the three levels that rules grade by.
-/

namespace SwiftStyle

/-- The access levels that rules tell apart. -/
inductive AccessLevel where
  | «private»
  | internal
  | «public»
  deriving DecidableEq, Repr

namespace AccessLevel

/-- The word for a level. -/
def name : AccessLevel → String
  | .private => "private"
  | .internal => "internal"
  | .public => "public"

/-- A level with a capital letter, as a sentence starts. -/
def title : AccessLevel → String
  | .private => "Private"
  | .internal => "Internal"
  | .public => "Public"

/-- The level that a word names; a modifier names the level it falls under. -/
def ofWord? : String → Option AccessLevel
  | "private" => some .private
  | "fileprivate" => some .private
  | "internal" => some .internal
  | "public" => some .public
  | "open" => some .public
  | _ => none

/-- The level of exactly this name. -/
def ofName? : String → Option AccessLevel
  | "private" => some .private
  | "internal" => some .internal
  | "public" => some .public
  | _ => none

/-- What is said of a word that names no level. -/
def unknownMessage (word : String) : String := s!"unknown access control level `{word}`"

end AccessLevel

/-- The access of a declaration, spelled out or implied. -/
inductive Access where
  | «open»
  | «public»
  | internal
  | filePrivate
  | «private»
  | unspecified
  | unrecognized (identifier : String)
  deriving DecidableEq, Repr

namespace Access

/-- The access that an identifier of the source service stands for. -/
def ofIdentifier : String → Access
  | "source.lang.swift.accessibility.open" => .open
  | "source.lang.swift.accessibility.public" => .public
  | "source.lang.swift.accessibility.internal" => .internal
  | "source.lang.swift.accessibility.fileprivate" => .filePrivate
  | "source.lang.swift.accessibility.private" => .private
  | "" => .unspecified
  | other => .unrecognized other

/-- The identifier of the source service for an access. -/
def identifier : Access → String
  | .open => "source.lang.swift.accessibility.open"
  | .public => "source.lang.swift.accessibility.public"
  | .internal => "source.lang.swift.accessibility.internal"
  | .filePrivate => "source.lang.swift.accessibility.fileprivate"
  | .private => "source.lang.swift.accessibility.private"
  | .unspecified => ""
  | .unrecognized identifier => identifier

/-- The access that a modifier spells. -/
def ofKeyword? : String → Option Access
  | "open" => some .open
  | "public" => some .public
  | "internal" => some .internal
  | "fileprivate" => some .filePrivate
  | "private" => some .private
  | _ => none

/-- The level an access falls under, if it is known. -/
def level? : Access → Option AccessLevel
  | .open | .public => some .public
  | .internal => some .internal
  | .filePrivate | .private => some .private
  | .unspecified | .unrecognized _ => none

/-- The name of an access. -/
def label : Access → String
  | .open => "Open"
  | .public => "Public"
  | .internal => "Internal"
  | .filePrivate => "FilePrivate"
  | .private => "Private"
  | .unspecified => "Unspecified"
  | .unrecognized identifier => s!"Unrecognized({Text.quoted identifier})"

end Access

end SwiftStyle
