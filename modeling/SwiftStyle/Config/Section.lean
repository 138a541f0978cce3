import SwiftStyle.Access
import SwiftStyle.Severity
import SwiftStyle.Toml

/-!
The section of one rule in a configuration: an override of its severity and the options that only
the rule itself understands.
-/

namespace SwiftStyle

/-- What is wrong with an option. -/
inductive OptionProblem where
  | unknown
  | notNatural
  | notNaturals
  | notStrings
  | noLimit
  | unknownLevel (word : String)
  deriving DecidableEq, Repr

/-- Why a configuration cannot be used. -/
inductive ConfigError where
  | unknownRule (id : String)
  | invalidOption (rule option : String) (problem : OptionProblem)
  deriving DecidableEq, Repr

/-- What is wrong with an option, in words. -/
def OptionProblem.describe : OptionProblem → String
  | unknown => "unknown option"
  | notNatural => "expected a non-negative integer"
  | notNaturals => "expected an array of non-negative integers"
  | notStrings => "expected an array of strings"
  | noLimit => "expected at least one limit"
  | unknownLevel word => AccessLevel.unknownMessage word

/-- Why a configuration cannot be used, in words. -/
def ConfigError.message : ConfigError → String
  | unknownRule id => s!"Unknown rule identifier `{id}`"
  | invalidOption rule option problem =>
    s!"Invalid option `{option}` for rule `{rule}`: {problem.describe}"

/-- The section of a rule. The options are in ascending order of their keys. -/
structure Section where
  severity : Option Severity
  options : List (String × Toml)

namespace Section

/-- A section that says nothing. -/
def empty : Section := ⟨none, []⟩

/-- A natural number, if a value is one. -/
def natural? : Toml → Option Nat
  | .integer n => if 0 ≤ n then some n.toNat else none
  | _ => none

/-- A text, if a value is one. -/
def text? : Toml → Option String
  | .string s => some s
  | _ => none

/-- The items of an array, if a value is one and all its items can be read. -/
def all? {α : Type} (item? : Toml → Option α) : Toml → Option (List α)
  | .array items => items.mapM item?
  | _ => none

/-- Reads an option if the section has it. -/
def read {α : Type} (s : Section) (rule key : String) (problem : OptionProblem)
    (value? : Toml → Option α) : Except ConfigError (Option α) :=
  match s.options.lookup key with
  | none => .ok none
  | some value =>
    match value? value with
    | some a => .ok (some a)
    | none => .error (.invalidOption rule key problem)

/-- The natural number of an option. -/
def natural (s : Section) (rule key : String) : Except ConfigError (Option Nat) :=
  s.read rule key .notNatural natural?

/-- The natural numbers of an option. -/
def naturals (s : Section) (rule key : String) : Except ConfigError (Option (List Nat)) :=
  s.read rule key .notNaturals (all? natural?)

/-- The texts of an option. -/
def texts (s : Section) (rule key : String) : Except ConfigError (Option (List String)) :=
  s.read rule key .notStrings (all? text?)

/-- Refuses the first option that is not among the allowed ones. -/
def rejectUnknown (s : Section) (rule : String) (allowed : List String) :
    Except ConfigError Unit :=
  match s.options.find? fun (key, _) => !allowed.contains key with
  | some (key, _) => .error (.invalidOption rule key .unknown)
  | none => .ok ()

end Section

end SwiftStyle
