import RegisterFile.Bus.Protocol
import RegisterFile.CommandLine.Words

/-!
The commands: generating files, checking a configuration and listing the register types.
-/

namespace RegisterFile.CommandLine

/-- Which configuration a command works on. -/
structure Source where
  path : String
  /-- The protocol that replaces the configuration's. -/
  protocol : Option Bus.Protocol
  autoAddress : Bool
  deriving DecidableEq, Repr

/-- Where generated files go. -/
structure Targets where
  verilog : String
  header : Option String
  registerMap : Option String
  accessors : Option String
  deriving DecidableEq, Repr

/-- How a report is printed. -/
inductive ReportFormat where
  | text
  | json
  deriving DecidableEq, Repr

inductive Command where
  | generate (source : Source) (targets : Targets) (timestamp : Option String)
  | validate (source : Source) (format : ReportFormat)
  | types
  deriving DecidableEq, Repr

/-- Flags that every command takes. -/
def commonFlags : Flags where
  long := [("verbose", .switch "verbose"), ("help", .help)]
  short := [('v', .switch "verbose"), ('h', .help)]

/-- The flags in front of a command. -/
def topFlags : Flags where
  long := ("version", .version) :: commonFlags.long
  short := ('V', .version) :: commonFlags.short

/-- A path; the empty text is none. -/
def path? (text : String) : Option String :=
  if text.isEmpty then none else some text

def reportFormat? (name : String) : Option ReportFormat :=
  if name = "text" then some .text else if name = "json" then some .json else none

/-- A setting whose value is read by a function that may refuse it. -/
def readBy {α : Type} (name : String) (read : String → Option α) : Flag :=
  .setting name fun text => (read text).isSome

/-- A setting whose value is a path. -/
def pathSetting (name : String) : Flag :=
  readBy name path?

def protocolSetting : Flag :=
  readBy "protocol" Bus.Protocol.ofText?

/-- The flags of commands that work on a configuration. -/
def sourceFlags : Flags where
  long :=
    [("config", pathSetting "config"), ("protocol", protocolSetting),
      ("auto-address", .switch "auto-address")] ++ commonFlags.long
  short := [('c', pathSetting "config"), ('p', protocolSetting)] ++ commonFlags.short

def generateFlags : Flags where
  long :=
    [("output", pathSetting "output"), ("header", pathSetting "header"),
      ("doc", pathSetting "doc"), ("rust", pathSetting "rust"),
      ("timestamp", readBy "timestamp" some)] ++ sourceFlags.long
  short := ('o', pathSetting "output") :: sourceFlags.short

def validateFlags : Flags where
  long := ("format", readBy "format" reportFormat?) :: sourceFlags.long
  short := sourceFlags.short

/-- The value of an optional setting, read by a function that may refuse it. -/
def optional {α : Type} (read : String → Option α) (given : Given) (name : String) :
    Except Stop (Option α) :=
  match given.value? name with
  | none => .ok none
  | some text =>
    match read text with
    | some value => .ok (some value)
    | none => .error .usage

/-- The value of a setting that must be given. -/
def needed {α : Type} (read : String → Option α) (given : Given) (name : String) :
    Except Stop α := do
  match ← optional read given name with
  | some value => return value
  | none => throw .usage

/-- The configuration that options name. -/
def Source.ofGiven (given : Given) : Except Stop Source := do
  return {
    path := ← needed path? given "config"
    protocol := ← optional Bus.Protocol.ofText? given "protocol"
    autoAddress := given.has "auto-address" }

/-- The files that options name. -/
def Targets.ofGiven (given : Given) : Except Stop Targets := do
  return {
    verilog := ← needed path? given "output"
    header := ← optional path? given "header"
    registerMap := ← optional path? given "doc"
    accessors := ← optional path? given "rust" }

/-- All options of a command, which takes no other words. -/
def onlyOptions (flags : Flags) (words : List String) : Except Stop Given := do
  match ← readOptions flags {} words with
  | (given, []) => return given
  | _ => throw .usage

def commandNames : List String :=
  ["generate", "validate", "types", "help"]

/-- What the command `help` stops with: it may be given the name of one command. -/
def helpStop (words : List String) : Stop :=
  match words with
  | [] => .help
  | [name] => if commandNames.contains name then .help else .usage
  | _ => .usage

/-- The command of a name with the words behind it. -/
def readCommand (name : String) (words : List String) : Except Stop Command := do
  match name with
  | "generate" =>
    let given ← onlyOptions generateFlags words
    return .generate (← Source.ofGiven given) (← Targets.ofGiven given)
      (given.value? "timestamp")
  | "validate" =>
    let given ← onlyOptions validateFlags words
    return .validate (← Source.ofGiven given)
      ((← optional reportFormat? given "format").getD .text)
  | "types" =>
    let _ ← onlyOptions commonFlags words
    return .types
  | "help" => throw (helpStop words)
  | _ => throw .usage

/-- The command of a command line. -/
def Command.ofWords (words : List String) : Except Stop Command := do
  match ← readOptions topFlags {} words with
  | (_, name :: rest) => readCommand name rest
  | _ => throw .usage

end RegisterFile.CommandLine
