import Clientwright.Crate.Options

/-!
# Arguments

What is asked for on the command line. Arguments are taken one after the other; the first that does
not fit ends it, and so does a request for help or for the version.
-/

namespace Clientwright.CommandLine

/-- The files that describe one service, and the name to be used for it. -/
structure ServiceFiles where
  definition : String
  paginators : Option String
  waiters : Option String
  service : Option String
  deriving DecidableEq, Repr

/-- A command with its arguments. -/
inductive Command where
  /-- reads one service and shows what is in it -/
  | parse (files : ServiceFiles)
  /-- generates the crate of one service -/
  | generate (files : ServiceFiles) (options : Options) (output : String) (dryRun : Bool)
  /-- generates a workspace for the services of a manifest -/
  | generateAll (manifest : String) (filter : Option (List String)) (output : Option String)
      (dryRun : Bool)
  deriving DecidableEq, Repr

/-- What is asked for. -/
structure Invocation where
  command : Command
  verbose : Bool
  deriving DecidableEq, Repr

/-- Why no command is run. -/
inductive Stop where
  /-- the arguments do not fit -/
  | misuse
  | help
  | version
  deriving DecidableEq, Repr

/-- The names of the commands. -/
inductive CommandName where
  | parse
  | generate
  | generateAll
  deriving DecidableEq, Repr

/-- The command of a name. -/
def CommandName.ofText? : String → Option CommandName
  | "parse" => some .parse
  | "generate" => some .generate
  | "generate-all" => some .generateAll
  | _ => none

/-- The settings that arguments make. -/
inductive Setting where
  | verbose
  | help
  | version
  | definition
  | paginators
  | waiters
  | service
  | operations
  | crateName
  | crateVersion
  | output
  | dryRun
  | manifest
  | filter
  deriving DecidableEq, Repr

/-- What a setting takes. -/
inductive Kind where
  | flag
  /-- a path, which is not empty -/
  | path
  | text
  /-- texts between commas, any number of times -/
  | texts
  deriving DecidableEq, Repr

/-- How a setting is written. -/
structure Spec where
  setting : Setting
  long : String
  short : Option Char
  kind : Kind
  deriving DecidableEq, Repr

/-- The settings that stand before a command. -/
def globalSpecs : List Spec := [
  ⟨.verbose, "verbose", some 'v', .flag⟩,
  ⟨.help, "help", some 'h', .flag⟩,
  ⟨.version, "version", some 'V', .flag⟩]

/-- The settings that every command has. -/
def sharedSpecs : List Spec := [
  ⟨.verbose, "verbose", some 'v', .flag⟩,
  ⟨.help, "help", some 'h', .flag⟩]

/-- The settings for the files of a service. -/
def serviceSpecs : List Spec := [
  ⟨.definition, "definition", some 'd', .path⟩,
  ⟨.paginators, "paginators", none, .path⟩,
  ⟨.waiters, "waiters", none, .path⟩,
  ⟨.service, "service", none, .text⟩]

/-- The settings of a command. -/
def CommandName.specs : CommandName → List Spec
  | .parse => sharedSpecs ++ serviceSpecs
  | .generate => sharedSpecs ++ serviceSpecs ++ [
    ⟨.operations, "operations", none, .texts⟩,
    ⟨.crateName, "crate-name", none, .text⟩,
    ⟨.crateVersion, "crate-version", none, .text⟩,
    ⟨.output, "output", some 'o', .path⟩,
    ⟨.dryRun, "dry-run", none, .flag⟩]
  | .generateAll => sharedSpecs ++ [
    ⟨.manifest, "manifest", some 'm', .path⟩,
    ⟨.filter, "filter", none, .texts⟩,
    ⟨.output, "output", some 'o', .path⟩,
    ⟨.dryRun, "dry-run", none, .flag⟩]

/-- The settings made so far, each with its values. -/
abbrev Settings := List (Setting × List String)

/-- The arguments of one command on the way. -/
structure Progress where
  settings : Settings
  /-- the setting that waits for its value -/
  pending : Option Spec
  /-- has the end of the settings been marked? -/
  closed : Bool

namespace Progress

/-- Before the first argument. -/
def start : Progress := ⟨[], none, false⟩

/-- Makes a setting that is a flag. -/
def setFlag (p : Progress) (s : Spec) : Except Stop Progress :=
  match s.setting with
  | .help => .error .help
  | .version => .error .version
  | setting =>
    if (p.settings.lookup setting).isSome then .error .misuse
    else .ok { p with settings := p.settings ++ [(setting, [])] }

/-- Makes a setting with a value. -/
def setValue (p : Progress) (s : Spec) (value : String) : Except Stop Progress :=
  let p := { p with pending := none }
  match p.settings.lookup s.setting with
  | some values =>
    if s.kind = .texts then
      let values := values ++ (Text.splitAt (· = ',') value.toList).map String.ofList
      .ok { p with settings := (s.setting, values) :: p.settings.filter (·.1 != s.setting) }
    else .error .misuse
  | none =>
    match s.kind with
    | .flag => .error .misuse
    | .path =>
      if value.isEmpty then .error .misuse
      else .ok { p with settings := (s.setting, [value]) :: p.settings }
    | .text => .ok { p with settings := (s.setting, [value]) :: p.settings }
    | .texts =>
      let values := (Text.splitAt (· = ',') value.toList).map String.ofList
      .ok { p with settings := (s.setting, values) :: p.settings }

/-- Takes a setting by its long name, with the value that is attached to it. -/
def takeLong (specs : List Spec) (p : Progress) (name : String) (attached : Option String) :
    Except Stop Progress :=
  match specs.find? (·.long = name) with
  | none => .error .misuse
  | some s =>
    match s.kind, attached with
    | .flag, none => p.setFlag s
    | .flag, some _ => .error .misuse
    | _, some value => p.setValue s value
    | _, none => .ok { p with pending := some s }

/-- Takes settings by their short names, the last of which may have its value attached. -/
def takeShort (specs : List Spec) (p : Progress) : List Char → Except Stop Progress
  | [] => .ok p
  | c :: rest =>
    match specs.find? (·.short = some c) with
    | none => .error .misuse
    | some s =>
      if s.kind = .flag then do
        let p ← p.setFlag s
        takeShort specs p rest
      else
        match rest with
        | [] => .ok { p with pending := some s }
        | '=' :: value => p.setValue s (String.ofList value)
        | value => p.setValue s (String.ofList value)

/-- Takes one argument. -/
def take (specs : List Spec) (p : Progress) (argument : String) : Except Stop Progress :=
  if p.closed then .error .misuse
  else
    match argument.toList, p.pending with
    | ['-', '-'], none => .ok { p with closed := true }
    | '-' :: '-' :: name, none =>
      match Text.cutAt? (· = '=') name with
      | some (name, value) =>
        takeLong specs p (String.ofList name) (some (String.ofList value))
      | none => takeLong specs p (String.ofList name) none
    | '-' :: c :: names, none => takeShort specs p (c :: names)
    | '-' :: _ :: _, some _ => .error .misuse
    | _, some s => p.setValue s argument
    | _, none => .error .misuse

/-- Takes all arguments of a command. -/
def takeAll (specs : List Spec) (arguments : List String) : Except Stop Progress := do
  let p ← arguments.foldlM (take specs) start
  if p.pending.isSome then .error .misuse else .ok p

end Progress

namespace Settings

/-- Is a flag set? -/
def flag (s : Settings) (setting : Setting) : Bool := (s.lookup setting).isSome

/-- The value of a setting, if it is made. -/
def value? (s : Settings) (setting : Setting) : Option String :=
  (s.lookup setting).bind (·.head?)

/-- The value of a setting that must be made. -/
def required (s : Settings) (setting : Setting) : Except Stop String :=
  match s.value? setting with
  | some value => .ok value
  | none => .error .misuse

/-- The files of a service. -/
def serviceFiles (s : Settings) : Except Stop ServiceFiles := do
  return {
    definition := ← s.required .definition
    paginators := s.value? .paginators
    waiters := s.value? .waiters
    service := s.value? .service }

/-- The command that is meant by the settings. -/
def command (s : Settings) : CommandName → Except Stop Command
  | .parse => do return .parse (← s.serviceFiles)
  | .generate => do
    let options : Options := {
      crateName := s.value? .crateName
      crateVersion := (s.value? .crateVersion).getD defaultVersion
      operations := (s.lookup .operations).getD [] }
    return .generate (← s.serviceFiles) options (← s.required .output) (s.flag .dryRun)
  | .generateAll => do
    return .generateAll (← s.required .manifest) (s.lookup .filter) (s.value? .output)
      (s.flag .dryRun)

end Settings

/-- A request for help, with the commands that it is about. -/
def helpOn : List String → Stop
  | [] => .help
  | [name] => if name = "help" || (CommandName.ofText? name).isSome then .help else .misuse
  | _ => .misuse

/-- Takes the arguments before a command, and then those of the command. -/
def invocationFrom (p : Progress) : List String → Except Stop Invocation
  | [] => .error .misuse
  | argument :: rest =>
    match CommandName.ofText? argument with
    | some name =>
      if p.closed then .error .misuse
      else do
        let own ← Progress.takeAll name.specs rest
        let command ← own.settings.command name
        return { command, verbose := p.settings.flag .verbose || own.settings.flag .verbose }
    | none =>
      if argument = "help" && !p.closed then .error (helpOn rest)
      else do
        let p ← p.take globalSpecs argument
        invocationFrom p rest

/-- What is asked for by arguments. -/
def invocation (arguments : List String) : Except Stop Invocation := invocationFrom .start arguments

end Clientwright.CommandLine
