import TransportConverter.Path
/-!
# Settings

What is kept between runs: how to run a converter, which converter a client uses, and what is
logged. The values are kept as they were written; whether they make sense is found out when they are
used (`TransportConverter.Settings.Checks`).
-/
namespace TransportConverter

/-! ## Defaults with a name -/

namespace Settings

def defaultListenAddress : String := "0.0.0.0:1234"

def defaultMaxSessions : UInt64 := 1024

def defaultTimeout : UInt64 := 10

def defaultFastOpenQueue : UInt32 := 128

def defaultTrue : Bool := true

def defaultDrainTimeout : UInt64 := 5

def defaultChunkSize : UInt64 := 16 * 1024

def defaultLogLevel : String := "info"

def defaultConverterPort : UInt16 := 1234

end Settings

/-! ## The sections

The values of the fields here are those of a section that is not there at all. What a field has that is
left out of a section is said elsewhere (`ConverterSettings.fieldDefaults`). -/

/-- How to run a converter (`ConverterSettings`, with its `default`). -/
structure ConverterSettings where
  listenAddress : String := Settings.defaultListenAddress
  cookies : List String := []
  blockedDestinations : List String := []
  maxSessions : UInt64 := Settings.defaultMaxSessions
  headerTimeoutSeconds : UInt64 := Settings.defaultTimeout
  connectTimeoutSeconds : UInt64 := Settings.defaultTimeout
  fastOpenQueue : UInt32 := Settings.defaultFastOpenQueue
  multipath : Bool := true
  drainTimeoutSeconds : UInt64 := Settings.defaultDrainTimeout
  chunkSize : UInt64 := Settings.defaultChunkSize
  deriving DecidableEq, Repr

/-- Which converter a client uses, and how (`ClientSettings`, with its `default`). -/
structure ClientSettings where
  /-- The address of the converter, without a port. -/
  converterAddress : Option String := none
  converterPort : UInt16 := Settings.defaultConverterPort
  cookie : Option String := none
  fastOpen : Bool := true
  multipath : Bool := true
  allowTcpFallback : Bool := true
  deriving DecidableEq, Repr

/-- What is logged (`LogSettings`, with its `default`). -/
structure LogSettings where
  level : String := Settings.defaultLogLevel
  /-- Log more about what the converter and the client do. -/
  verbose : Bool := false
  /-- The file to log to. -/
  file : Option String := none
  deriving DecidableEq, Repr

structure Settings where
  converter : ConverterSettings := {}
  client : ClientSettings := {}
  log : LogSettings := {}
  /-- The file they came from. -/
  path : Option Path := none
  deriving DecidableEq, Repr

end TransportConverter
