import RegisterFile.CommandLine.Command
import RegisterFile.Document.Reader
import RegisterFile.Document.Resolve
import RegisterFile.FileTree
import RegisterFile.Generate

/-!
Carrying out commands. What a command does is planned from the text of its configuration alone: an
exit code, what is printed, and the files to write in order. A plan that fails writes nothing, and
a file that cannot be read as text or cannot be written changes the exit code.
-/

namespace RegisterFile.CommandLine

/-- The exit code of success. -/
def exitOk : Nat := 0

/-- The exit code where a configuration is refused. -/
def exitInvalid : Nat := 1

/-- The exit code where a file cannot be read or written. -/
def exitIo : Nat := 2

/-- The exit code where the words make no sense. -/
def exitUsage : Nat := 2

/-- What a command comes to. -/
structure Plan where
  exitCode : Nat
  /-- What is printed. -/
  output : String := ""
  /-- The files to write, in order. -/
  writes : List (String × String) := []
  deriving DecidableEq, Repr

/-- Whether a path names a JSON file. -/
def isJsonPath (path : String) : Bool :=
  match (FileTree.parts path).getLast? with
  | some name => ".json".toList.isSuffixOf name.toList && name != ".json"
  | none => false

/-- The document of a configuration file. -/
def readDocument? (path text : String) : Option Document :=
  if isJsonPath path then Document.ofJson? text else Document.ofYaml? text

/-- The configuration of a file, with what is to be done to it first. -/
def Source.load? (source : Source) (text : String) : Option (Config × PrepareOptions) := do
  let document ← readDocument? source.path text
  let resolved ← document.resolve.toOption
  return (resolved.config, {
    protocol := source.protocol
    autoAddress := source.autoAddress || resolved.autoAddress })

/-- The timestamp of generated files: the given one, else the one of the environment unless it is
    blank, else the current time. -/
def chooseTimestamp (given environment : Option String) (now : String) : String :=
  match given with
  | some timestamp => timestamp
  | none =>
    match environment.map Text.trimmed with
    | some timestamp => if timestamp.isEmpty then now else timestamp
    | none => now

/-- The files that artifacts are written to. -/
def Targets.writes (targets : Targets) (artifacts : Artifacts) : List (String × String) :=
  (targets.verilog, artifacts.verilog) ::
    ((targets.header.map fun path => (path, artifacts.header)).toList ++
      (targets.registerMap.map fun path => (path, artifacts.registerMap)).toList ++
      (match targets.accessors, artifacts.accessors with
        | some path, some text => [(path, text)]
        | _, _ => []))

def planGenerate (source : Source) (targets : Targets) (timestamp text : String) : Plan :=
  match source.load? text with
  | none => { exitCode := exitInvalid }
  | some (config, options) =>
    let options : GenerateOptions :=
      { prepare := options, timestamp, accessors := targets.accessors.isSome }
    match generate config options with
    | .error _ => { exitCode := exitInvalid }
    | .ok artifacts => { exitCode := exitOk, writes := targets.writes artifacts }

/-- A report as text: its findings and a line that sums them up. -/
def reportText (moduleName : String) (report : Report) : String :=
  report.text ++
    s!"{moduleName}: " ++ (if report.isValid then "OK" else "FAILED") ++
    s!" ({report.errorCount} error(s), {report.warningCount} warning(s))\n"

def locationJson : Location → Json
  | .config => .object [("scope", .string "config")]
  | .register name => .object [("scope", .string "register"), ("register", .string name)]
  | .field register name =>
    .object
      [("scope", .string "field"), ("register", .string register), ("field", .string name)]

def findingJson (d : Diagnostic) : Json :=
  .object
    [("severity", .string d.severity.name), ("kind", .string d.kind.name),
      ("location", locationJson d.location), ("message", .string d.message)]

def reportJson (moduleName : String) (report : Report) : Json :=
  .object
    [("module", .string moduleName), ("valid", .bool report.isValid),
      ("errors", .natural report.errorCount), ("warnings", .natural report.warningCount),
      ("diagnostics", .array (report.map findingJson))]

def planValidate (source : Source) (format : ReportFormat) (text : String) : Plan :=
  match source.load? text with
  | none => { exitCode := exitInvalid }
  | some (config, options) =>
    let prepared := prepare config options
    let name := prepared.config.moduleName
    { exitCode := if prepared.report.isValid then exitOk else exitInvalid
      output := match format with
        | .text => reportText name prepared.report
        | .json => (reportJson name prepared.report).pretty ++ "\n" }

def typeLine (type : RegisterType) : String :=
  Verilog.padRight 16 type.name ++ " " ++ type.behavior.summary ++ "\n"

/-- The list of the register types. -/
def typesText : String :=
  String.join (RegisterType.all.map typeLine)

/-- What is printed for the version. -/
def versionText : String := "regforge-cli 0.13.0\n"

/-- What is printed for help. -/
def helpText : String :=
  "Usage: regforge [-v] generate -c CONFIG -o OUTPUT [OPTIONS]\n" ++
    "       regforge [-v] validate -c CONFIG [OPTIONS]\n" ++
    "       regforge [-v] types\n"

/-- What the surroundings bring to a command: the timestamp set for it and the current time. -/
structure Environment where
  timestamp : Option String := none
  now : String := "0"

/-- The plan of a command line, or the path of the file whose text it depends on. -/
inductive Task where
  | finished (plan : Plan)
  | reading (path : String) (plan : String → Plan)

def Command.task (environment : Environment) : Command → Task
  | generate source targets timestamp =>
    .reading source.path
      (planGenerate source targets
        (chooseTimestamp timestamp environment.timestamp environment.now))
  | validate source format => .reading source.path (planValidate source format)
  | types => .finished { exitCode := exitOk, output := typesText }

/-- The task of a command line. -/
def task (environment : Environment) (words : List String) : Task :=
  match Command.ofWords words with
  | .ok command => command.task environment
  | .error .usage => .finished { exitCode := exitUsage }
  | .error .help => .finished { exitCode := exitOk, output := helpText }
  | .error .version => .finished { exitCode := exitOk, output := versionText }

/-- What a command line leaves behind. -/
structure Outcome where
  exitCode : Nat
  output : String
  tree : FileTree
  deriving DecidableEq, Repr

/-- Carries out a plan. -/
def Plan.run (plan : Plan) (tree : FileTree) : Outcome :=
  match tree.writeAll plan.writes with
  | (tree, true) => ⟨plan.exitCode, plan.output, tree⟩
  | (tree, false) => ⟨exitIo, plan.output, tree⟩

/-- Carries out a task. -/
def Task.run (task : Task) (tree : FileTree) : Outcome :=
  match task with
  | finished plan => plan.run tree
  | reading path plan =>
    match (tree.read? path).bind FileTree.decode? with
    | some text => (plan text).run tree
    | none => ⟨exitIo, "", tree⟩

/-- Carries out a command line in a working directory. -/
def run (environment : Environment) (words : List String) (tree : FileTree) : Outcome :=
  (task environment words).run tree

end RegisterFile.CommandLine
