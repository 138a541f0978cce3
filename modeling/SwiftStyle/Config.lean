import SwiftStyle.Rule
import SwiftStyle.Toml.Reader

/-!
Configurations: which rules run, which files they look at, and the sections of the rules. Every
rule that a configuration names must exist, even if it is disabled.
-/

namespace SwiftStyle

/-- A configuration. The sections are in ascending order of their rules. -/
structure Config where
  disabledRules : List String
  /-- The rules that may run; all if there is no such list. -/
  onlyRules : Option (List String)
  included : List String
  excluded : List String
  rules : List (String × Section)

namespace Config

/-- The configuration that says nothing. -/
def default : Config := ⟨[], none, [], [], []⟩

/-- Whether a value holds nothing. -/
def isEmptyContainer : Toml → Bool
  | .table [] => true
  | .array [] => true
  | _ => false

/-- The severity that a value names: its name, or a table of one empty field of that name. -/
def severity? : Toml → Option Severity
  | .string name => Severity.ofName? name
  | .table [(name, content)] => if isEmptyContainer content then Severity.ofName? name else none
  | _ => none

/-- The key under which a date or time stands where it is a table with one field, its text. -/
def datetimeKey : String := "$__toml_private_datetime"

/-- Fields in ascending order of their keys. -/
def sortFields {α : Type} (fields : List (String × α)) : List (String × α) :=
  fields.mergeSort fun a b => a.1 ≤ b.1

mutual

/-- The value of an option: tables in order, and those that stand for a date or time read as one.
A table stands for a date or time if its first field has the key for that; then it must have no
other field. -/
def option? : Toml → Option Toml
  | .array items => (options? items).map .array
  | .table fields =>
    if (fields.head?.map Prod.fst) = some datetimeKey then
      match fields with
      | [(_, .string text)] =>
        (Toml.datetime? .inText text.toList).map fun shown => .datetime (String.ofList shown)
      | _ => none
    else (optionFields? fields).map fun fields => .table (sortFields fields)
  | value => some value

/-- The values of several options. -/
def options? : List Toml → Option (List Toml)
  | [] => some []
  | item :: items => do
    let item ← option? item
    let items ← options? items
    return item :: items

/-- The values of several options with their keys. -/
def optionFields? : List (String × Toml) → Option (List (String × Toml))
  | [] => some []
  | (key, value) :: fields => do
    let value ← option? value
    let fields ← optionFields? fields
    return (key, value) :: fields

end

/-- The section that a table makes. -/
def section? : Toml → Option Section
  | .table fields => do
    let options ← optionFields? (fields.filter fun (key, _) => key != "severity")
    let severity ←
      match fields.lookup "severity" with
      | none => some none
      | some value => (severity? value).map some
    return ⟨severity, sortFields options⟩
  | .datetime text => some ⟨none, [(datetimeKey, .string text)]⟩
  | _ => none

/-- The list of texts in a field; empty if there is no such field. -/
def texts? (key : String) (document : Toml) : Option (List String) :=
  match document.field? key with
  | none => some []
  | some value => Section.all? Section.text? value

/-- The fields a configuration can have. -/
def knownFields : List String :=
  ["disabled_rules", "only_rules", "included", "excluded", "rules"]

/-- The sections that the field for rules makes. -/
def sections? : Toml → Option (List (String × Section))
  | .table fields =>
    (sortFields fields).mapM fun (id, value) => (section? value).map fun s => (id, s)
  | _ => none

/-- The configuration that a document makes. Fields that are not known are refused. -/
def ofToml? (document : Toml) : Option Config :=
  match document with
  | .table fields =>
    if fields.all fun (key, _) => knownFields.contains key then do
      let disabledRules ← texts? "disabled_rules" document
      let onlyRules ←
        match fields.lookup "only_rules" with
        | none => some none
        | some value => (Section.all? Section.text? value).map some
      let included ← texts? "included" document
      let excluded ← texts? "excluded" document
      let rules ←
        match fields.lookup "rules" with
        | none => some []
        | some value => sections? value
      return ⟨disabledRules, onlyRules, included, excluded, rules⟩
    else none
  | _ => none

/-- The configuration that a text writes. -/
def parse? (text : String) : Option Config := (Toml.parse? text).bind ofToml?

/-- Whether a rule may run. -/
def isEnabled (config : Config) (id : String) : Bool :=
  !config.disabledRules.contains id
    && (match config.onlyRules with
      | none => true
      | some only => only.contains id)

/-- Every rule that a configuration names: in sections, as disabled, as the only ones. -/
def mentioned (config : Config) : List String :=
  config.rules.map Prod.fst ++ config.disabledRules ++ config.onlyRules.getD []

/-- A rule under its section, if the configuration has one. -/
def configure (config : Config) (rule : Rule) : Except ConfigError Rule :=
  match config.rules.lookup rule.id with
  | none => .ok rule
  | some s => (rule.configure s).map fun behaviour => { rule with behaviour }

/-- The rules under their sections. The first name of no rule and, after that, the first option
that a rule refuses are errors. -/
def apply (config : Config) (rules : List Rule) : Except ConfigError (List Rule) :=
  match config.mentioned.find? fun id => !(rules.map Rule.id).contains id with
  | some id => .error (.unknownRule id)
  | none => rules.mapM config.configure

end Config

end SwiftStyle
