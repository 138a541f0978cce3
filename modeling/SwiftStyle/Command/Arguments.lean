import SwiftStyle.Command

/-!
Command lines. A command line is read from left to right: settings for all commands, the name of a
command, then its settings and paths. Two dashes alone make everything after them a path. The first
thing that is wrong, or that asks for help, ends the reading.
-/

namespace SwiftStyle

/-- Why a command line is not run: it asks for help or for the version, or it is wrong. -/
inductive Refusal where
  | informs
  | misuse
  deriving DecidableEq, Repr

/-- The exit code of a command line that is not run. -/
def Refusal.exitCode : Refusal → Nat
  | informs => 0
  | misuse => 2

namespace Arguments

/-- The names of the commands. -/
inductive CommandName where
  | lint
  | autocorrect
  | rules
  | init
  deriving DecidableEq, Repr

/-- The command of a name. -/
def CommandName.ofName? : String → Option CommandName
  | "lint" => some .lint
  | "autocorrect" => some .autocorrect
  | "rules" => some .rules
  | "init" => some .init
  | _ => none

/-- Whether a command takes paths. -/
def CommandName.takesPaths : CommandName → Bool
  | .lint | .autocorrect => true
  | .rules | .init => false

/-- The switches, of which some take a value. -/
inductive Switch where
  | verbose
  | config
  | format
  | strict
  | dryRun
  | force
  | help
  | version
  deriving DecidableEq, Repr

/-- Whether a switch takes a value. -/
def Switch.takesValue : Switch → Bool
  | .config | .format => true
  | _ => false

/-- The switch of a name after two dashes. -/
def Switch.ofName? : String → Option Switch
  | "verbose" => some .verbose
  | "config" => some .config
  | "format" => some .format
  | "strict" => some .strict
  | "dry-run" => some .dryRun
  | "force" => some .force
  | "help" => some .help
  | "version" => some .version
  | _ => none

/-- The switch of a letter after one dash. -/
def Switch.ofLetter? : Char → Option Switch
  | 'v' => some .verbose
  | 'c' => some .config
  | 'f' => some .format
  | 'h' => some .help
  | 'V' => some .version
  | _ => none

/-- Whether a switch is known after a command or, without one, before it. -/
def Switch.isKnown (command : Option CommandName) : Switch → Bool
  | .verbose | .config | .help => true
  | .version => command.isNone
  | .format | .strict => command = some .lint
  | .dryRun => command = some .autocorrect
  | .force => command = some .init

/-- What has been set. -/
inductive Setting where
  | verbose
  | config (path : Path)
  | format (format : ListingFormat)
  | strict
  | dryRun
  | force
  | path (path : Path)
  deriving DecidableEq, Repr

/-- The switch that makes a setting; a path needs none. -/
def Setting.switch? : Setting → Option Switch
  | .verbose => some .verbose
  | .config _ => some .config
  | .format _ => some .format
  | .strict => some .strict
  | .dryRun => some .dryRun
  | .force => some .force
  | .path _ => none

/-- Settings with one more. No switch may be given twice. -/
def add (settings : List Setting) (setting : Setting) : Except Refusal (List Setting) :=
  match setting.switch? with
  | some switch =>
    if settings.any fun s => s.switch? = some switch then .error .misuse
    else .ok (settings ++ [setting])
  | none => .ok (settings ++ [setting])

/-- Settings with a switch that takes no value. -/
def addSwitch (settings : List Setting) : Switch → Except Refusal (List Setting)
  | .verbose => add settings .verbose
  | .strict => add settings .strict
  | .dryRun => add settings .dryRun
  | .force => add settings .force
  | .help | .version => .error .informs
  | .config | .format => .error .misuse

/-- Settings with a switch and its value. A path must not be empty. -/
def addValue (settings : List Setting) (switch : Switch) (value : String) :
    Except Refusal (List Setting) :=
  match switch with
  | .config => if value.isEmpty then .error .misuse else add settings (.config ⟨value⟩)
  | .format =>
    match ListingFormat.ofName? value with
    | some format => add settings (.format format)
    | none => .error .misuse
  | _ => .error .misuse

/-- Settings with a path, which must not be empty and which the command must take. -/
def addPath (command : Option CommandName) (settings : List Setting) (value : String) :
    Except Refusal (List Setting) :=
  if value.isEmpty || !command.any CommandName.takesPaths then .error .misuse
  else add settings (.path ⟨value⟩)

/-- A switch that is known at this place. -/
def known (command : Option CommandName) (switch? : Option Switch) : Except Refusal Switch :=
  match switch?.filter (Switch.isKnown command) with
  | some switch => .ok switch
  | none => .error .misuse

/-- Whether an argument starts with a dash and is more than that. -/
def hasDash (argument : String) : Bool :=
  match argument.toList with
  | '-' :: _ :: _ => true
  | _ => false

/-- Reads the letters after one dash. The letter of a switch with a value ends them: what follows,
after an equals sign or at once, is its value; if nothing follows, the value is still to come. -/
def readLetters (command : Option CommandName) (settings : List Setting) :
    List Char → Except Refusal (List Setting × Option Switch)
  | [] => .ok (settings, none)
  | letter :: letters => do
    let switch ← known command (Switch.ofLetter? letter)
    if switch.takesValue then
      match letters with
      | [] => return (settings, some switch)
      | '=' :: value => return (← addValue settings switch (String.ofList value), none)
      | value => return (← addValue settings switch (String.ofList value), none)
    else
      readLetters command (← addSwitch settings switch) letters

/-- Reads a name after two dashes, with a value after an equals sign if there is one. -/
def readName (command : Option CommandName) (settings : List Setting) (text : List Char) :
    Except Refusal (List Setting × Option Switch) := do
  let name := text.takeWhile (· ≠ '=')
  let switch ← known command (Switch.ofName? (String.ofList name))
  match text.dropWhile (· ≠ '=') with
  | _ :: value =>
    if switch.takesValue then
      return (← addValue settings switch (String.ofList value), none)
    else .error .misuse
  | [] =>
    if switch.takesValue then return (settings, some switch)
    else return (← addSwitch settings switch, none)

/-- Reads an argument that starts with a dash. -/
def readDashed (command : Option CommandName) (settings : List Setting) (argument : String) :
    Except Refusal (List Setting × Option Switch) :=
  match argument.toList with
  | '-' :: '-' :: name => readName command settings name
  | _ :: letters => readLetters command settings letters
  | [] => .error .misuse

/-- What comes of asking for help on some words. -/
def helpOn : List String → Refusal
  | [] => .informs
  | [word] => if word = "help" || (CommandName.ofName? word).isSome then .informs else .misuse
  | _ => .misuse

/-- Reads the arguments after a command or, without one, before it. A switch may wait for its
value, which must not start with a dash. The result has the command that was met, with the
arguments after it. -/
def read (command : Option CommandName) (settings : List Setting) (waiting : Option Switch) :
    List String → Except Refusal (List Setting × Option (CommandName × List String))
  | [] => if waiting.isSome then .error .misuse else .ok (settings, none)
  | argument :: arguments => do
    if argument = "--" then
      if waiting.isSome then .error .misuse
      else return (← arguments.foldlM (addPath command) settings, none)
    else if hasDash argument then
      if waiting.isSome then .error .misuse
      else
        let (settings, waiting) ← readDashed command settings argument
        read command settings waiting arguments
    else
      match waiting with
      | some switch => read command (← addValue settings switch argument) none arguments
      | none =>
        if command.isSome then
          read command (← addPath command settings argument) none arguments
        else if argument = "help" then .error (helpOn arguments)
        else
          match CommandName.ofName? argument with
          | some name => return (settings, some (name, arguments))
          | none => .error .misuse

/-- The configuration file among settings. -/
def config? (settings : List Setting) : Option Path :=
  settings.findSome? fun
    | .config path => some path
    | _ => none

/-- The format among settings; text if there is none. -/
def format (settings : List Setting) : ListingFormat :=
  (settings.findSome? fun
    | .format format => some format
    | _ => none).getD .text

/-- The paths among settings; the working directory if there are none. -/
def paths (settings : List Setting) : List Path :=
  let paths := settings.filterMap fun
    | .path path => some path
    | _ => none
  if paths.isEmpty then [⟨"."⟩] else paths

/-- The command that a name and settings make. -/
def commandOf (settings : List Setting) : CommandName → Command
  | .lint => .lint (paths settings) (format settings) (settings.contains .strict)
  | .autocorrect => .autocorrect (paths settings) (settings.contains .dryRun)
  | .rules => .rules
  | .init => .init (settings.contains .force)

/-- Reads a command line. A configuration file named after the command counts more than one named
before it. -/
def parse (arguments : List String) : Except Refusal Invocation := do
  match ← read none [] none arguments with
  | (_, none) => .error .misuse
  | (before, some (name, rest)) =>
    let (after, _) ← read (some name) [] none rest
    return ⟨(config? after).or (config? before), commandOf after name⟩

end Arguments

end SwiftStyle
