import TransportConverter.Logging.Filter
import TransportConverter.Path
/-!
# Setting up the log

What is logged follows from the environment, if that has a filter, and else from the settings. It is
written to a file if one is named, and printed otherwise.
-/
namespace TransportConverter

structure LogConfig where
  level : Option String := none
  /-- Log more about what the converter and the client do. -/
  verbose : Bool := false
  file : Option String := none
  deriving DecidableEq, Repr

namespace LogConfig

def defaultLevel : String := "info"

/-- The text of the filter for a level (`default_filter`). -/
def defaultFilter (level : Option String) (verbose : Bool) : String :=
  let level := level.getD defaultLevel
  if verbose then level ++ ",tconv=debug" else level

/-- The filter in use. `environment` is the text of the one that the environment has. -/
def filter (config : LogConfig) (environment : Option String) : LogFilter :=
  match environment.bind LogFilter.ofText? with
  | some filter => filter
  | none =>
    match LogFilter.ofText? (defaultFilter config.level config.verbose) with
    | some filter => filter
    | none => ⟨[{ threshold := LogLevel.info.rank }]⟩

/-- The name of a log file whose path does not end in one. -/
def defaultFileName : Bytes := Utf8.encode "tconv.log"

/-- The directory of a log file and its name in there (`split_log_path`). -/
def splitPath (p : Path) : Path × Bytes :=
  let directory := match p.parent? with
    | some parent => if parent.bytes = [] then ⟨Path.dot⟩ else parent
    | none => ⟨Path.dot⟩
  (directory, p.fileName?.getD defaultFileName)

/-- How a log file is shown when there may be none. -/
def fileText : Option String → String
  | some file => s!"Some({(Path.ofString file).quoted})"
  | none => "None"

/-- What is logged first. -/
def announcement (config : LogConfig) : LogRecord where
  level := .debug
  target := "tconv_logging"
  message :=
    let level := config.level.getD defaultLevel
    s!"Logging initialised (level: {level}, verbose: {config.verbose}, file: {fileText config.file})"

end LogConfig

/-- A record as a line of a log. -/
def LogRecord.line (r : LogRecord) (timestamp : String) : String :=
  let level := "".pushn ' ' (5 - r.level.name.length) ++ r.level.name
  s!"{timestamp} {level} {r.target}: {r.message}\n"

end TransportConverter
