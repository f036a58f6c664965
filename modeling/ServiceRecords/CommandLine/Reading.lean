import ServiceRecords.CommandLine.Setting

set_option autoImplicit false

/-!
Command lines are read word by word. Settings may stand before and after a command, and either
place keeps its own. A setting that the command line does not hold at a place is taken from the
environment there, so its variable is checked even if the setting stands at the other place.
-/

namespace ServiceRecords.CommandLine

inductive Shell where
  | bash
  | elvish
  | fish
  | powershell
  | zsh
  deriving DecidableEq, Repr

namespace Shell

def all : List Shell := [bash, elvish, fish, powershell, zsh]

def name : Shell → String
  | bash => "bash"
  | elvish => "elvish"
  | fish => "fish"
  | powershell => "powershell"
  | zsh => "zsh"

def ofName? (name : String) : Option Shell := all.find? (·.name == name)

end Shell

/-- Where words stand: before any command, or after one. -/
inductive Place where
  | top
  | run
  | completions
  | help
  deriving DecidableEq, Repr

namespace Place

/-- The commands. -/
def commands : List Place := [run, completions, help]

def name : Place → String
  | top => ""
  | run => "run"
  | completions => "completions"
  | help => "help"

def ofName? (name : String) : Option Place := commands.find? (·.name == name)

end Place

/-- Why reading ends early. -/
inductive Interruption where
  | help (place : Place)
  | version
  | refused (error : UsageError)
  deriving DecidableEq, Repr

inductive Word where
  /-- After this word no word is a setting. -/
  | divider
  | long (name : String) (value : Option String)
  | short (letters : List Char)
  | plain
  deriving DecidableEq, Repr

def Word.ofText (text : String) : Word :=
  match text.toList with
  | ['-', '-'] => divider
  | '-' :: '-' :: rest =>
    let name := rest.takeWhile (· != '=')
    long (.ofList name)
      (if name.length < rest.length then some (.ofList (rest.drop (name.length + 1))) else none)
  | ['-'] => plain
  | '-' :: letters => short letters
  | _ => plain

/-- What was given last and has not been looked at yet. -/
inductive Pending where
  | nothing
  | awaited (setting : Setting)
  | held (setting : Setting) (written : String)
  | shell (written : String)
  deriving DecidableEq, Repr

/-- What has been read at a place. -/
structure Reading where
  place : Place
  given : List (Setting × SettingValue) := []
  shell : Option Shell := none
  pending : Pending := .nothing
  isDivided : Bool := false

namespace Reading

/-- Takes in a value of a setting. Only lists may be given more than once. -/
def give (reading : Reading) (setting : Setting) (value : Except UsageError SettingValue) :
    Except UsageError Reading :=
  match reading.given.lookup setting, value with
  | some (.texts before), .ok (.texts texts) =>
    .ok { reading with
      given := (setting, .texts (before ++ texts)) :: reading.given.filter (·.1 != setting) }
  | some _, _ => .error .conflict
  | none, .ok value => .ok { reading with given := (setting, value) :: reading.given }
  | none, .error error => .error error

/-- Looks at what was given last. -/
def resolve (reading : Reading) : Except UsageError Reading :=
  let rest := { reading with pending := .nothing }
  match reading.pending with
  | .nothing => .ok reading
  | .awaited _ => .error .invalidValue
  | .held setting written => rest.give setting (setting.kind.read written)
  | .shell written =>
    match Shell.ofName? written with
    | some shell => .ok { rest with shell := some shell }
    | none => .error .invalidValue

/-- Takes in a setting that stands for itself or has its value attached. -/
def takeSetting (reading : Reading) (setting : Setting) (attached : Option String) :
    Except UsageError Reading :=
  match setting.kind, attached with
  | .switch, some _ => .error .tooManyValues
  | .switch, none => do (← reading.resolve).give setting (.ok (.truth true))
  | kind, some written => do (← reading.resolve).give setting (kind.read written)
  | _, none => do return { ← reading.resolve with pending := .awaited setting }

/-- What a long name asks for that is no setting. -/
def longRequest? (place : Place) (name : String) : Option Interruption :=
  if name = "help" then some (.help place)
  else if name = "version" ∧ place = .top then some .version
  else none

def shortRequest? (place : Place) : List Char → Option Interruption
  | 'h' :: _ => some (.help place)
  | 'V' :: _ => if place = .top then some .version else none
  | _ => none

/-- Ends reading as it was asked for, unless something is wrong with what was given last. -/
def interrupt (reading : Reading) (request : Interruption) : Interruption :=
  match reading.resolve with
  | .ok _ => request
  | .error error => .refused error

/-- Whether a word can name a shell. -/
def expectsShell (reading : Reading) : Bool :=
  match reading.place, reading.shell, reading.pending with
  | .completions, none, .shell _ => false
  | .completions, none, _ => true
  | _, _, _ => false

/-- Takes in a word that is neither a setting nor its value. -/
def takeWord (reading : Reading) (word : String) : Except Interruption Reading :=
  if reading.expectsShell then
    match reading.resolve with
    | .ok reading => .ok { reading with pending := .shell word }
    | .error error => .error (.refused error)
  else if reading.place = .top ∧ (Place.ofName? word).isNone then
    .error (.refused .invalidSubcommand)
  else .error (.refused .unknownArgument)

/-- Takes in the next word. -/
def take (reading : Reading) (word : String) : Except Interruption Reading :=
  if reading.isDivided then reading.takeWord word
  else
    match Word.ofText word, reading.pending with
    | .divider, _ => .ok { reading with isDivided := true }
    | .long name value, _ =>
      match Setting.ofName? name, longRequest? reading.place name with
      | some setting, _ => (reading.takeSetting setting value).mapError .refused
      | none, some request =>
        .error (if value.isSome then .refused .tooManyValues else reading.interrupt request)
      | none, none => .error (.refused .unknownArgument)
    | .short letters, _ =>
      .error (match shortRequest? reading.place letters with
        | some request => reading.interrupt request
        | none => .refused .unknownArgument)
    | .plain, .awaited setting => .ok { reading with pending := .held setting word }
    | .plain, _ => reading.takeWord word

/-- The command that a word names, where a command can stand. -/
def command? (reading : Reading) (word : String) : Option Place :=
  match reading.place, reading.isDivided, reading.pending with
  | .top, false, .awaited _ => none
  | .top, false, _ => Place.ofName? word
  | _, _, _ => none

/-- Takes in words up to a command; what was read, and the command with the words after it. -/
def takeAll (reading : Reading) :
    List String → Except Interruption (Reading × Option (Place × List String))
  | [] => .ok (reading, none)
  | word :: rest =>
    match reading.command? word with
    | some place => .ok (reading, some (place, rest))
    | none => do (← reading.take word).takeAll rest

end Reading

/-- The value of each environment variable. -/
abbrev Environment := String → Option String

/-- The settings at a place: those given there, and those taken from the environment. -/
structure Settings where
  given : List (Setting × SettingValue)
  inherited : List (Setting × SettingValue)

namespace Settings

def isSet (settings : Settings) (setting : Setting) : Bool :=
  (settings.given ++ settings.inherited).any (·.1 == setting)

/-- Takes the settings that were not given from the environment. -/
def inherit (environment : Environment) (given : List (Setting × SettingValue)) :
    Except UsageError Settings := do
  let missing := Setting.all.filter fun setting => !given.any (·.1 == setting)
  let found := missing.filterMap fun setting =>
    (setting.environmentName?.bind environment).map (setting, ·)
  let inherited ← found.mapM fun (setting, written) => do
    return (setting, ← setting.kind.read written)
  return { given, inherited }

end Settings

/-- The settings and the shell, once all words of a place are read. -/
def finish (environment : Environment) (reading : Reading) :
    Except UsageError (Settings × Option Shell) := do
  let reading ← reading.resolve
  let settings ← Settings.inherit environment reading.given
  if settings.isSet .retryForever && settings.isSet .maxRetries then throw .conflict
  if reading.place = .completions ∧ reading.shell = none then throw .missingArgument
  return (settings, reading.shell)

/-- What the program is to do. -/
inductive Command where
  | run
  | completions (shell : Shell)
  deriving DecidableEq, Repr

/-- A command line that has been read: the command, if there is one, and all settings, each with
the value that counts. -/
structure Invocation where
  command : Option Command
  settings : List (Setting × SettingValue)

/-- The command whose help the words after `help` ask for. -/
def helpTopic : List String → Interruption
  | [] => .help .top
  | [word] =>
    match Place.ofName? word with
    | some place => .help place
    | none => .refused .invalidSubcommand
  | _ => .refused .invalidSubcommand

/-- Reads a command line. What stands after the command counts before what stands before it, and
both count before the environment. -/
def read (environment : Environment) (words : List String) :
    Except Interruption Invocation := do
  let (top, after) ← ({ place := .top } : Reading).takeAll words
  let finish (reading : Reading) := (CommandLine.finish environment reading).mapError .refused
  match after with
  | none =>
    let (settings, _) ← finish top
    return ⟨none, settings.given ++ settings.inherited⟩
  | some (.help, rest) => throw (helpTopic rest)
  | some (place, rest) =>
    let (inner, _) ← ({ place } : Reading).takeAll rest
    let (settings, shell) ← finish inner
    let (outer, _) ← finish top
    return ⟨some (shell.elim .run .completions),
      settings.given ++ outer.given ++ settings.inherited⟩

end ServiceRecords.CommandLine
