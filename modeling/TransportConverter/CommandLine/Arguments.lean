import TransportConverter.Address.Reader
import TransportConverter.Digits
import TransportConverter.Path
/-!
# The arguments of the program

The first word of the arguments that is no option is the command, and the options behind it are its
own. An option may be given once, except where it says otherwise. Its value follows it in the next
argument, which then is not an option, or in the same one: behind an equals sign, or right behind
the letter of an option of one letter. Behind two dashes there are no options.

Arguments are taken from the left and the first fault ends it, and so does asking for help.
-/
namespace TransportConverter

/-- What a converter is run with in place of its settings. -/
structure ServeOptions where
  listen : Option SocketAddress := none
  /-- The accepted cookies; none means those of the settings. -/
  cookies : List String := []
  maxSessions : Option Nat := none
  noMultipath : Bool := false
  deriving DecidableEq, Repr

/-- What a client connects with in place of its settings. -/
structure ConnectOptions where
  converter : Option SocketAddress := none
  cookie : Option String := none
  noFastOpen : Bool := false
  deriving DecidableEq, Repr

inductive Command where
  | serve (options : ServeOptions)
  | connect (destination : SocketAddress) (options : ConnectOptions)
  | showSettings
  | createSettings
  deriving DecidableEq, Repr

structure Invocation where
  /-- The settings file. -/
  settingsPath : Option Path
  verbose : Bool
  command : Command
  deriving DecidableEq, Repr

/-- Why there is nothing to run. -/
inductive ArgumentsEnd where
  | misused
  | helpWanted
  | versionWanted
  deriving DecidableEq, Repr

namespace CommandLine

abbrev Parsed (α : Type) := Except ArgumentsEnd α

def valid {α : Type} : Option α → Parsed α
  | some a => .ok a
  | none => .error .misused

/-! ## Values -/

def socketAddress (text : String) : Parsed SocketAddress :=
  valid (SocketAddress.ofText? text.toList)

/-- A number of sixty-four bits, perhaps with a plus sign. -/
def count? (text : String) : Option Nat :=
  let digits := match text.toList with
    | '+' :: digits => digits
    | digits => digits
  if digits.isEmpty || !digits.all Char.isDigit then none
  else if digitsValue 10 digits < UInt64.size then some (digitsValue 10 digits)
  else none

def path? (text : String) : Option Path := if text.isEmpty then none else some (.ofString text)

/-- Sets what may be set once. -/
def once {α : Type} (old : Option α) (new : α) : Parsed (Option α) :=
  if old.isSome then .error .misused else .ok (some new)

def onceOnly (given : Bool) : Parsed Bool := if given then .error .misused else .ok true

/-! ## Options -/

/-- What an option does to what has been read before it. -/
inductive OptionKind (α : Type) where
  | flag (set : α → Parsed α)
  | valued (set : α → String → Parsed α)

structure OptionSpec (α : Type) where
  long : List Char
  short : Option Char := none
  kind : OptionKind α

def helpOption {α : Type} : OptionSpec α where
  long := "help".toList
  short := 'h'
  kind := .flag fun _ => .error .helpWanted

def findLong {α : Type} (specs : List (OptionSpec α)) (name : List Char) : Parsed (OptionKind α) :=
  valid ((specs.find? (·.long = name)).map (·.kind))

def findShort {α : Type} (specs : List (OptionSpec α)) (letter : Char) : Parsed (OptionKind α) :=
  valid ((specs.find? (·.short = some letter)).map (·.kind))

/-- An argument that is an option, and not a value or a command. -/
def isOption (argument : List Char) : Bool := argument.head? == some '-' && argument ≠ ['-']

/-- What becomes of an argument: it has done all it does, or its value is to come. -/
inductive Taken (α : Type) where
  | all (read : α)
  | half (set : String → Parsed α)

/-- Takes what stands behind two dashes. -/
def takeLong {α : Type} (specs : List (OptionSpec α)) (read : α) (argument : List Char) :
    Parsed (Taken α) := do
  match ← findLong specs (argument.takeWhile (· ≠ '=')), argument.dropWhile (· ≠ '=') with
  | .flag set, [] => return .all (← set read)
  | .flag _, _ => throw .misused
  | .valued set, [] => return .half (set read)
  | .valued set, _ :: value => return .all (← set read (String.ofList value))

/-- Takes the letters behind a dash. -/
def takeShort {α : Type} (specs : List (OptionSpec α)) (read : α) : List Char → Parsed (Taken α)
  | [] => .ok (.all read)
  | letter :: rest => do
    match ← findShort specs letter, rest with
    | .flag set, rest => takeShort specs (← set read) rest
    | .valued set, [] => return .half (set read)
    | .valued set, '=' :: value | .valued set, value =>
      return .all (← set read (String.ofList value))

/-- Takes options up to the first argument that is none. -/
def takeOptions {α : Type} (specs : List (OptionSpec α)) (read : α) :
    List String → Parsed (α × List String)
  | [] => .ok (read, [])
  | argument :: rest => do
    let cs := argument.toList
    if !isOption cs || cs = ['-', '-'] then return (read, argument :: rest)
    let taken ← match cs with
      | '-' :: '-' :: name => takeLong specs read name
      | _ :: letters => takeShort specs read letters
      | [] => throw .misused
    match taken, rest with
    | .all read, rest => takeOptions specs read rest
    | .half _, [] => throw .misused
    | .half set, value :: rest =>
      if isOption value.toList then throw .misused
      takeOptions specs (← set value) rest

/-- Takes all arguments; those that are no options go to `place`. -/
def takeArguments {α : Type} (specs : List (OptionSpec α)) (place : α → String → Parsed α)
    (fuel : Nat) (read : α) (arguments : List String) : Parsed α := do
  let (read, rest) ← takeOptions specs read arguments
  match fuel, rest with
  | _, [] => return read
  | _, "--" :: rest => rest.foldlM place read
  | fuel + 1, argument :: rest => takeArguments specs place fuel (← place read argument) rest
  | 0, _ => throw .misused

/-- There is nothing but options. -/
def noPlace {α : Type} : α → String → Parsed α := fun _ _ => .error .misused

/-! ## Commands -/

def serveSpecs : List (OptionSpec ServeOptions) :=
  [{ long := "listen".toList, short := 'l'
     kind := .valued fun o text => do
        return { o with listen := ← once o.listen (← socketAddress text) } },
    { long := "cookie".toList
      kind := .valued fun o text => .ok { o with cookies := o.cookies ++ [text] } },
    { long := "max-sessions".toList
      kind := .valued fun o text => do
        return { o with maxSessions := ← once o.maxSessions (← valid (count? text)) } },
    { long := "no-multipath".toList
      kind := .flag fun o => do return { o with noMultipath := ← onceOnly o.noMultipath } },
    helpOption]

def parseServe (arguments : List String) : Parsed Command := do
  return .serve (← takeArguments serveSpecs noPlace arguments.length {} arguments)

structure ConnectArguments where
  destination : Option SocketAddress := none
  options : ConnectOptions := {}

def connectSpecs : List (OptionSpec ConnectArguments) :=
  [{ long := "converter".toList
     kind := .valued fun a text => do
       return { a with options.converter := ← once a.options.converter (← socketAddress text) } },
    { long := "cookie".toList
      kind := .valued fun a text => do
        return { a with options.cookie := ← once a.options.cookie text } },
    { long := "no-fast-open".toList
      kind := .flag fun a => do
        return { a with options.noFastOpen := ← onceOnly a.options.noFastOpen } },
    helpOption]

def placeDestination (a : ConnectArguments) (text : String) : Parsed ConnectArguments := do
  return { a with destination := ← once a.destination (← socketAddress text) }

def parseConnect (arguments : List String) : Parsed Command := do
  let a ← takeArguments connectSpecs placeDestination arguments.length {} arguments
  return .connect (← valid a.destination) a.options

/-- A command without arguments of its own. -/
def parsePlain (command : Command) (arguments : List String) : Parsed Command := do
  let () ← takeArguments [helpOption] noPlace arguments.length () arguments
  return command

/-- Asks for help on one of a number of commands, or on all of them. -/
def parseHelp (commands : List String) : List String → Parsed Command
  | [] => .error .helpWanted
  | command :: rest =>
    if rest.isEmpty && commands.contains command then .error .helpWanted else .error .misused

def parseConfig (arguments : List String) : Parsed Command := do
  match ← takeOptions [helpOption] () arguments with
  | ((), "show" :: rest) => parsePlain .showSettings rest
  | ((), "init" :: rest) => parsePlain .createSettings rest
  | ((), "help" :: rest) => parseHelp ["show", "init", "help"] rest
  | _ => throw .misused

/-- Help on the command `config` may be about one of its own commands. -/
def parseHelpAll : List String → Parsed Command
  | ["config", command] => parseHelp ["show", "init", "help"] [command]
  | commands => parseHelp ["server", "connect", "config", "help"] commands

structure GlobalOptions where
  settingsPath : Option Path := none
  verbose : Bool := false

def globalSpecs : List (OptionSpec GlobalOptions) :=
  [{ long := "config".toList
     kind := .valued fun o text => do
       return { o with settingsPath := ← once o.settingsPath (← valid (path? text)) } },
    { long := "verbose".toList, short := 'v'
      kind := .flag fun o => do return { o with verbose := ← onceOnly o.verbose } },
    { long := "version".toList, short := 'V', kind := .flag fun _ => .error .versionWanted },
    helpOption]

/-- Reads all arguments. -/
def parse (arguments : List String) : Parsed Invocation := do
  let (o, rest) ← takeOptions globalSpecs {} arguments
  let command ← match rest with
    | "server" :: rest => parseServe rest
    | "connect" :: rest => parseConnect rest
    | "config" :: rest => parseConfig rest
    | "help" :: rest => parseHelpAll rest
    | _ => throw .misused
  return { settingsPath := o.settingsPath, verbose := o.verbose, command }

end CommandLine

end TransportConverter
