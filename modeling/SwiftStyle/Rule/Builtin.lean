import SwiftStyle.Rule.LineLength
import SwiftStyle.Rule.MissingDocs
import SwiftStyle.Rule.VisibilityOrder

/-!
The rules that every run starts from.
-/

namespace SwiftStyle.Rule

/-- The built-in rules, in the order in which they run. -/
def builtin : List Rule :=
  [LineLength.default.toRule, VisibilityOrder.default.toRule, MissingDocs.default.toRule]

/-- The built-in rule of an identifier. -/
def builtin? (id : String) : Option Rule := builtin.find? fun rule => rule.id == id

end SwiftStyle.Rule
