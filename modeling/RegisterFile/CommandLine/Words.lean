/-!
Command line words. Options have a long name, some also a letter. A letter's value may follow it
directly, a value may be joined by an equals sign, or be the next word; a word that starts with a
hyphen is never a value by itself, unless it is the hyphen alone. Letters may be written together.
No option may be given twice.
-/

namespace RegisterFile.CommandLine

/-- Why words are not carried out. -/
inductive Stop where
  /-- They do not make sense. -/
  | usage
  /-- They ask for help. -/
  | help
  /-- They ask for the version. -/
  | version
  deriving DecidableEq, Repr

/-- What a word starting with hyphens can name. -/
inductive Flag where
  /-- An option without a value. -/
  | switch (name : String)
  /-- An option with a value, and which values it takes. -/
  | setting (name : String) (accepts : String → Bool)
  | help
  | version

/-- The flags of a command, by long name and by letter. -/
structure Flags where
  long : List (String × Flag)
  short : List (Char × Flag)

/-- The options given, each with its value; switches have an empty one. -/
abbrev Given := List (String × String)

namespace Given

/-- Adds an option that is not given yet. -/
def add (given : Given) (name value : String) : Except Stop Given :=
  if given.any fun option => option.1 == name then .error .usage
  else .ok ((name, value) :: given)

def value? (given : Given) (name : String) : Option String :=
  (given.find? fun option => option.1 == name).map (·.2)

/-- Whether an option is given. -/
def has (given : Given) (name : String) : Bool :=
  (given.value? name).isSome

end Given

/-- The options so far, and the setting that waits for its value in the next word. -/
structure Progress where
  given : Given := []
  waiting : Option (String × (String → Bool)) := none

/-- Adds a setting with a value that it takes. -/
def Given.addSetting (given : Given) (name : String) (accepts : String → Bool)
    (value : String) : Except Stop Given :=
  if accepts value then given.add name value else .error .usage

/-- A text cut at its first equals sign. -/
def splitValue (cs : List Char) : List Char × Option String :=
  let (name, rest) := cs.span (· != '=')
  match rest with
  | [] => (name, none)
  | _ :: value => (name, some (String.ofList value))

/-- Carries out a flag with the value that is joined to it. -/
def Progress.apply (progress : Progress) (flag : Flag) (value : Option String) :
    Except Stop Progress :=
  match flag, value with
  | .help, none => .error .help
  | .version, none => .error .version
  | .switch name, none => do return { given := ← progress.given.add name "" }
  | .setting name accepts, some value => do
    return { given := ← progress.given.addSetting name accepts value }
  | .setting name accepts, none => .ok { progress with waiting := some (name, accepts) }
  | _, _ => .error .usage

/-- The flag found, or a usage error. -/
def found (flag : Option Flag) : Except Stop Flag :=
  match flag with
  | some flag => .ok flag
  | none => .error .usage

/-- Reads a word behind its two hyphens. -/
def readLong (flags : Flags) (progress : Progress) (cs : List Char) : Except Stop Progress := do
  let (name, value) := splitValue cs
  progress.apply (← found (flags.long.lookup (String.ofList name))) value

/-- The value joined to a letter, perhaps by an equals sign. -/
def joinedValue (cs : List Char) : Option String :=
  match cs with
  | [] => none
  | '=' :: value => some (String.ofList value)
  | value => some (String.ofList value)

/-- Reads the letters of a word behind its hyphen. -/
def readShort (flags : Flags) (progress : Progress) : List Char → Except Stop Progress
  | [] => .ok progress
  | letter :: rest => do
    match ← found (flags.short.lookup letter) with
    | .setting name accepts => progress.apply (.setting name accepts) (joinedValue rest)
    | flag => readShort flags (← progress.apply flag none) rest

/-- Reads options up to the first word that is neither an option nor a value of one, which is
    left with the words behind it. Two hyphens end the options. -/
def readOptions (flags : Flags) (progress : Progress) :
    List String → Except Stop (Given × List String)
  | [] => if progress.waiting.isSome then .error .usage else .ok (progress.given, [])
  | word :: rest =>
    match word.toList, progress.waiting with
    | ['-', '-'], waiting =>
      if waiting.isNone && rest.isEmpty then .ok (progress.given, []) else .error .usage
    | '-' :: '-' :: cs, none => do readOptions flags (← readLong flags progress cs) rest
    | '-' :: c :: cs, none => do readOptions flags (← readShort flags progress (c :: cs)) rest
    | '-' :: _ :: _, some _ => .error .usage
    | _, some (name, accepts) => do
      readOptions flags { given := ← progress.given.addSetting name accepts word } rest
    | _, none => .ok (progress.given, word :: rest)

end RegisterFile.CommandLine
