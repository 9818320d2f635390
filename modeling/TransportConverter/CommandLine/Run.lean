import TransportConverter.Client.Error
import TransportConverter.CommandLine.Configuration
import TransportConverter.Converter.Error
import TransportConverter.Settings.File
import TransportConverter.Settings.Location
import TransportConverter.Settings.Overrides
/-!
# Running the program

What the program does for an invocation, on a host that has files, an environment and a network
(`MonadHost`), and how it ends: with 0 if all went well, with 1 and a report of what went wrong, or
with 2 if the arguments make no sense.
-/
namespace TransportConverter

/-- Why a connection ends that was redirected. -/
inductive RelayError where
  | redirect (error : RedirectError)
  | receiving (error : IoError)
  | sending (error : IoError)
  deriving DecidableEq, Repr

class MonadHost (m : Type → Type) extends MonadStorage m where
  /-- A variable of the environment. -/
  environment? : String → m (Option Bytes)
  timestamp : m String
  print : String → m Unit
  printError : String → m Unit
  /-- Connects to a destination through a converter, and passes on what comes and goes until no more
  comes. -/
  relay : ClientConfig → SocketAddress → m (Except RelayError Unit)
  /-- Starts a converter, and says where it listens. -/
  startConverter : ServerConfig → m (Except ConverterError SocketAddress)
  /-- Waits until the program is interrupted and shuts the converter down. Says whether all sessions
  have ended. -/
  stopConverter : m Bool

namespace CommandLine

/-! ## Failures -/

inductive Failure where
  | loading (path : Path) (error : SettingsError)
  | settings (error : SettingsError)
  | noConverter (error : SettingsError)
  | alreadyThere (path : Path)
  | logFile (error : IoError)
  | converter (error : ConverterError)
  | relay (destination : SocketAddress) (error : RelayError)
  deriving DecidableEq, Repr

namespace Failure

def summary : Failure → String
  | loading path _ => s!"Failed to load settings from {path.quoted}"
  | settings error => error.message
  | noConverter _ => "No converter configured (set CONVERT_ADDR or --converter)"
  | alreadyThere path => s!"{path.quoted} already exists"
  | logFile _ => "Failed to open the log file"
  | converter error => error.message
  | relay destination (.redirect _) => s!"Redirect to {destination} failed"
  | relay _ (.receiving error) => error.message
  | relay _ (.sending _) => "Sending stdin failed"

/-- What lies behind a failure. -/
def cause? : Failure → Option String
  | loading _ error | noConverter error => some error.message
  | settings _ | alreadyThere _ | relay _ (.receiving _) => none
  | logFile error | relay _ (.sending error) => some error.message
  | converter error => error.cause?.map (·.message)
  | relay _ (.redirect error) => some error.toIoError.message

/-- What the user is shown. -/
def report (f : Failure) : String :=
  s!"Error: {f.summary}\n" ++
    match f.cause? with
    | some cause => s!"\nCaused by:\n    {cause}\n"
    | none => ""

end Failure

/-- How the program ends. -/
inductive ExitStatus where
  | success
  | failure
  | misuse
  deriving DecidableEq, Repr

def ExitStatus.code : ExitStatus → UInt8
  | success => 0
  | failure => 1
  | misuse => 2

variable {m : Type → Type} [Monad m] [MonadHost m]

/-! ## Logging -/

/-- Where the log goes: to a file, or to where everything is printed. -/
structure Logger where
  filter : LogFilter
  file : Option Path

def Logger.log (l : Logger) (r : LogRecord) : m Unit := do
  if l.filter.enables r then
    let line := r.line (← MonadHost.timestamp)
    match l.file with
    | some path => let _ ← MonadStorage.append path (Utf8.encode line)
    | none => MonadHost.print line

/-- Makes sure that there is a file to log to, and a directory for it (`file_appender`). -/
def openLogFile (directory path : Path) : m (Except IoError Unit) := do
  match ← MonadStorage.append path [] with
  | .ok () => return .ok ()
  | .error _ =>
    match ← MonadStorage.createDirectories directory with
    | .ok () => MonadStorage.append path []
    | .error error => return .error error

/-- Sets the log up and logs that (`init_logging`). -/
def startLogging (config : LogConfig) : ExceptT Failure m Logger := do
  let environment ← MonadHost.environment? (m := m) "RUST_LOG"
  let filter := config.filter (environment.bind Utf8.decode?)
  let file ← match config.file with
    | none => pure none
    | some file =>
      let (directory, name) := LogConfig.splitPath (.ofString file)
      let path := directory.join name
      match ← openLogFile (m := m) directory path with
      | .ok () => pure (some path)
      | .error error => throw (.logFile error)
  let logger : Logger := { filter, file }
  logger.log (m := m) config.announcement
  return logger

/-! ## Commands -/

/-- Raises what went wrong. -/
def require {ε α : Type} (failure : ε → Failure) (result : Except ε α) : ExceptT Failure m α :=
  match result with
  | .ok a => pure a
  | .error error => throw (failure error)

/-- Runs a converter until it is interrupted (`run_server`). -/
def serve (options : ServeOptions) (settings : Settings) : ExceptT Failure m Unit := do
  let config ← require .settings (options.config? settings)
  let address ← require .converter (← MonadHost.startConverter (m := m) config)
  MonadHost.print (m := m) s!"Converter listening on {address}\n"
  let drained ← MonadHost.stopConverter (m := m)
  unless drained do
    MonadHost.printError (m := m) "Some sessions were still open at exit\n"

/-- Connects to a destination through the converter and passes on what comes and goes (`relay`). -/
def connect (destination : SocketAddress) (options : ConnectOptions) (settings : Settings) :
    ExceptT Failure m Unit := do
  let config ← require .noConverter (options.config? settings)
  require (.relay destination) (← MonadHost.relay (m := m) config destination)

def createSettings (logger : Logger) (path : Path) : ExceptT Failure m Unit := do
  if ← MonadStorage.leadsSomewhere (m := m) path then throw (.alreadyThere path)
  require .settings (← Settings.saveTo (m := m) {} path)
  logger.log (m := m)
    { level := .info, target := "tconv_settings::config"
      message := s!"Saved settings to {path.quoted}" }
  MonadHost.print (m := m) s!"Wrote default settings to {path.quoted}\n"

/-- The environment's variables that the location of the settings depends on. -/
def locationVariables : List String := ["XDG_CONFIG_HOME", "HOME", "TMPDIR"]

/-- The environment's variables that override settings. -/
def overrideVariables : List String :=
  ["CONVERT_ADDR", "CONVERT_PORT", "CONVERT_COOKIE", "CONVERT_LOG"]

/-- The values of those variables that are there. -/
def valuesOf (names : List String) : m (List (String × Bytes)) := do
  let values ← names.mapM fun name => return (name, ← MonadHost.environment? name)
  return values.filterMap fun (name, value) => value.map fun value => (name, value)

/-- The settings in force. Variables that are no text count for nothing. -/
def loadSettings (path : Path) : ExceptT Failure m Settings := do
  let settings ← require (.loading path) (← Settings.load (m := m) path)
  let overrides ← valuesOf (m := m) overrideVariables
  return settings.withOverrides fun name => (overrides.lookup name).bind Utf8.decode?

/-- Does what the invocation asks for under the settings in force. -/
def perform (invocation : Invocation) (path : Path) (settings : Settings) :
    ExceptT Failure m Unit := do
  let logger ← startLogging (← require .settings (settings.log.config? invocation.verbose))
  match invocation.command with
  | .serve options => serve options settings
  | .connect destination options => connect destination options settings
  | .showSettings => MonadHost.print (m := m) (settings.text ++ "\n")
  | .createSettings => createSettings logger path

def execute (invocation : Invocation) : ExceptT Failure m Unit := do
  let location ← valuesOf (m := m) locationVariables
  let path := invocation.settingsPath.getD (Settings.defaultPath fun name => location.lookup name)
  perform invocation path (← loadSettings path)

/-! ## The program -/

def versionText : String := "tconv 0.1.0\n"

def helpText : String :=
  "Transport Converter for multipath connections\n\n" ++
    "Usage: tconv [--config FILE] [-v] COMMAND\n\nCommands:\n" ++
    "  server   Run a converter\n" ++
    "  connect  Connect to a destination through the converter\n" ++
    "  config   Show or create the settings file\n"

def misuseText : String :=
  "error: the arguments make no sense\n\nFor more information, try '--help'.\n"

/-- Runs the program with its arguments (`main`). -/
def run (arguments : List String) : m ExitStatus := do
  match parse arguments with
  | .error .misused => MonadHost.printError misuseText; return .misuse
  | .error .helpWanted => MonadHost.print helpText; return .success
  | .error .versionWanted => MonadHost.print versionText; return .success
  | .ok invocation =>
    match ← (execute invocation).run with
    | .ok () => return .success
    | .error failure => MonadHost.printError failure.report; return .failure

end CommandLine

end TransportConverter
