import SwiftStyle.Batch

/-!
Why a command fails, and how that is told: the error first, then its causes.
-/

namespace SwiftStyle

/-- Why a command fails. -/
inductive CommandError where
  | setup (error : SetupError)
  | analysis (error : AnalyzerError)
  | correction (error : AnalyzerError)
  | configExists (path : Path)
  | unwritable (path : Path) (error : FileError)
  /-- A violation points past the end of its file and cannot be drawn. -/
  | undrawable
  deriving DecidableEq, Repr

namespace CommandError

/-- What is said of an error, followed by its causes. -/
def chain : CommandError → List String
  | setup error => error.chain
  | analysis error => "Analysis failed" :: error.message :: error.causes
  | correction error => "Correction failed" :: error.message :: error.causes
  | configExists path =>
    [s!"Configuration file already exists at {path.text}. Use --force to overwrite."]
  | unwritable path error => [s!"Failed to write {path.text}", error.message]
  | undrawable => ["an error occurred when formatting an argument"]

/-- A text with some spaces at the start of every line but the first. -/
def indentRest (spaces : Nat) (text : String) : String :=
  String.ofList <| text.toList.flatMap fun c =>
    if c = '\n' then '\n' :: List.replicate spaces ' ' else [c]

/-- Causes with their numbers, one for each line. -/
def numbered (n : Nat) : List String → String
  | [] => ""
  | cause :: causes =>
    let number := toString n
    "\n" ++ String.ofList (List.replicate (5 - number.length) ' ') ++ number ++ ": "
      ++ indentRest 7 cause ++ numbered (n + 1) causes

/-- An error with its causes over several lines. A single cause has no number. -/
def report (error : CommandError) : String :=
  match error.chain with
  | [] => ""
  | [told] => "Error: " ++ told
  | [told, cause] => "Error: " ++ told ++ "\n\nCaused by:\n    " ++ indentRest 4 cause
  | told :: causes => "Error: " ++ told ++ "\n\nCaused by:" ++ numbered 0 causes

end CommandError

end SwiftStyle
