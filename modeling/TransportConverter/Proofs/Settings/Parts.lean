import TransportConverter.Proofs.Json.Records
/-!
# Parts of settings

An object may give any of the sections, and a section any of its fields. Such a `SettingsPart` is read as the
settings that have what it gives, and for all else the defaults (`Settings.ofJson?_of_givenBy`). A reader goes
by the default of each field, and whoever has no file by that of the section; the two are the same
(`ConverterSettings.fieldDefaults_eq` and its like). Settings as they are written are the part that gives
everything, so the text of settings is read as those settings (`Settings.ofText?_text`).
-/
namespace TransportConverter

open JsonValue (Gives Writable bool?_bool fields?_of_gives field_map field_rel gives_record list?_texts natural
  optional optional?_text text?_text word16?_natural word32?_natural word64?_natural)

/-! ## The converter -/

/-- Some of the fields of the converter's section. -/
structure ConverterPart where
  listenAddress : Option String := none
  cookies : Option (List String) := none
  blockedDestinations : Option (List String) := none
  maxSessions : Option UInt64 := none
  headerTimeoutSeconds : Option UInt64 := none
  connectTimeoutSeconds : Option UInt64 := none
  fastOpenQueue : Option UInt32 := none
  multipath : Option Bool := none
  drainTimeoutSeconds : Option UInt64 := none
  chunkSize : Option UInt64 := none

namespace ConverterPart

/-- What is given, in the order of the names. -/
def fields (p : ConverterPart) : List (Option JsonValue) :=
  let texts (l : List String) : JsonValue := .array (l.map .text)
  let word (n : UInt64) : JsonValue := natural n.toNat
  [p.listenAddress.map .text, p.cookies.map texts, p.blockedDestinations.map texts, p.maxSessions.map word,
    p.headerTimeoutSeconds.map word, p.connectTimeoutSeconds.map word,
    p.fastOpenQueue.map fun n => natural n.toNat, p.multipath.map .bool, p.drainTimeoutSeconds.map word,
    p.chunkSize.map word]

/-- The defaults with what is given in their place. -/
def settings (p : ConverterPart) : ConverterSettings :=
  let standard : ConverterSettings := {}
  { listenAddress := p.listenAddress.getD standard.listenAddress
    cookies := p.cookies.getD standard.cookies
    blockedDestinations := p.blockedDestinations.getD standard.blockedDestinations
    maxSessions := p.maxSessions.getD standard.maxSessions
    headerTimeoutSeconds := p.headerTimeoutSeconds.getD standard.headerTimeoutSeconds
    connectTimeoutSeconds := p.connectTimeoutSeconds.getD standard.connectTimeoutSeconds
    fastOpenQueue := p.fastOpenQueue.getD standard.fastOpenQueue
    multipath := p.multipath.getD standard.multipath
    drainTimeoutSeconds := p.drainTimeoutSeconds.getD standard.drainTimeoutSeconds
    chunkSize := p.chunkSize.getD standard.chunkSize }

/-- All fields of a section. -/
def whole (s : ConverterSettings) : ConverterPart where
  listenAddress := s.listenAddress
  cookies := s.cookies
  blockedDestinations := s.blockedDestinations
  maxSessions := s.maxSessions
  headerTimeoutSeconds := s.headerTimeoutSeconds
  connectTimeoutSeconds := s.connectTimeoutSeconds
  fastOpenQueue := s.fastOpenQueue
  multipath := s.multipath
  drainTimeoutSeconds := s.drainTimeoutSeconds
  chunkSize := s.chunkSize

end ConverterPart

namespace ConverterSettings

/-- A section without any of its fields is read as one that is not there. -/
theorem fieldDefaults_eq : fieldDefaults = ({} : ConverterSettings) := rfl

theorem ofJson?_of_gives {p : ConverterPart} {v : JsonValue} (gives : Gives fieldNames p.fields v) :
    ofJson? v = some p.settings := by
  rw [ofJson?, fields?_of_gives (by decide) rfl gives]
  simp only [fieldDefaults_eq, ConverterPart.fields, Option.bind_eq_bind, Option.bind_some,
    field_map text?_text, field_map list?_texts, field_map word64?_natural, field_map word32?_natural,
    field_map bool?_bool]
  rfl

theorem gives_toJson (s : ConverterSettings) : Gives fieldNames (ConverterPart.whole s).fields s.toJson :=
  gives_record (by rfl) fieldNames

theorem writable_toJson (s : ConverterSettings) : Writable s.toJson := by
  refine Writable.record ?_ fieldNames
  simp [Writable.text, Writable.texts, Writable.natural, Writable.bool]

end ConverterSettings

/-! ## The client -/

/-- Some of the fields of the client's section. A field that can be `null` may be given as that. -/
structure ClientPart where
  converterAddress : Option (Option String) := none
  converterPort : Option UInt16 := none
  cookie : Option (Option String) := none
  fastOpen : Option Bool := none
  multipath : Option Bool := none
  allowTcpFallback : Option Bool := none

namespace ClientPart

def fields (p : ClientPart) : List (Option JsonValue) :=
  [p.converterAddress.map (optional .text), p.converterPort.map fun n => natural n.toNat,
    p.cookie.map (optional .text), p.fastOpen.map .bool, p.multipath.map .bool, p.allowTcpFallback.map .bool]

def settings (p : ClientPart) : ClientSettings :=
  let standard : ClientSettings := {}
  { converterAddress := p.converterAddress.getD standard.converterAddress
    converterPort := p.converterPort.getD standard.converterPort
    cookie := p.cookie.getD standard.cookie
    fastOpen := p.fastOpen.getD standard.fastOpen
    multipath := p.multipath.getD standard.multipath
    allowTcpFallback := p.allowTcpFallback.getD standard.allowTcpFallback }

def whole (s : ClientSettings) : ClientPart where
  converterAddress := some s.converterAddress
  converterPort := s.converterPort
  cookie := some s.cookie
  fastOpen := s.fastOpen
  multipath := s.multipath
  allowTcpFallback := s.allowTcpFallback

end ClientPart

namespace ClientSettings

/-- A section without any of its fields is read as one that is not there. -/
theorem fieldDefaults_eq : fieldDefaults = ({} : ClientSettings) := rfl

theorem ofJson?_of_gives {p : ClientPart} {v : JsonValue} (gives : Gives fieldNames p.fields v) :
    ofJson? v = some p.settings := by
  rw [ofJson?, fields?_of_gives (by decide) rfl gives]
  simp only [fieldDefaults_eq, ClientPart.fields, Option.bind_eq_bind, Option.bind_some,
    field_map optional?_text, field_map word16?_natural, field_map bool?_bool]
  rfl

theorem gives_toJson (s : ClientSettings) : Gives fieldNames (ClientPart.whole s).fields s.toJson :=
  gives_record (by rfl) fieldNames

theorem writable_toJson (s : ClientSettings) : Writable s.toJson := by
  refine Writable.record ?_ fieldNames
  simp [Writable.optional, Writable.natural, Writable.bool]

end ClientSettings

/-! ## The log -/

/-- Some of the fields of the log's section. -/
structure LogPart where
  level : Option String := none
  verbose : Option Bool := none
  file : Option (Option String) := none

namespace LogPart

def fields (p : LogPart) : List (Option JsonValue) :=
  [p.level.map .text, p.verbose.map .bool, p.file.map (optional .text)]

def settings (p : LogPart) : LogSettings :=
  let standard : LogSettings := {}
  { level := p.level.getD standard.level
    verbose := p.verbose.getD standard.verbose
    file := p.file.getD standard.file }

def whole (s : LogSettings) : LogPart where
  level := s.level
  verbose := s.verbose
  file := some s.file

end LogPart

namespace LogSettings

/-- A section without any of its fields is read as one that is not there. -/
theorem fieldDefaults_eq : fieldDefaults = ({} : LogSettings) := rfl

theorem ofJson?_of_gives {p : LogPart} {v : JsonValue} (gives : Gives fieldNames p.fields v) :
    ofJson? v = some p.settings := by
  rw [ofJson?, fields?_of_gives (by decide) rfl gives]
  simp only [fieldDefaults_eq, LogPart.fields, Option.bind_eq_bind, Option.bind_some, field_map text?_text,
    field_map bool?_bool, field_map optional?_text]
  rfl

theorem gives_toJson (s : LogSettings) : Gives fieldNames (LogPart.whole s).fields s.toJson :=
  gives_record (by rfl) fieldNames

theorem writable_toJson (s : LogSettings) : Writable s.toJson := by
  refine Writable.record ?_ fieldNames
  simp [Writable.text, Writable.optional, Writable.bool]

end LogSettings

/-! ## All sections -/

/-- Some of the sections, with some of the fields of each. -/
structure SettingsPart where
  converter : Option ConverterPart := none
  client : Option ClientPart := none
  log : Option LogPart := none

namespace SettingsPart

/-- An object that gives the part: its sections give theirs. -/
def GivenBy (p : SettingsPart) (v : JsonValue) : Prop :=
  ∃ converter client log : Option JsonValue,
    Option.Rel (fun part => Gives ConverterSettings.fieldNames part.fields) p.converter converter ∧
    Option.Rel (fun part => Gives ClientSettings.fieldNames part.fields) p.client client ∧
    Option.Rel (fun part => Gives LogSettings.fieldNames part.fields) p.log log ∧
    Gives Settings.sectionNames [converter, client, log] v

/-- The defaults with what is given in their place, of no file yet. -/
def settings (p : SettingsPart) : Settings where
  converter := (p.converter.map ConverterPart.settings).getD {}
  client := (p.client.map ClientPart.settings).getD {}
  log := (p.log.map LogPart.settings).getD {}

/-- All fields of all sections. -/
def whole (s : Settings) : SettingsPart where
  converter := ConverterPart.whole s.converter
  client := ClientPart.whole s.client
  log := LogPart.whole s.log

theorem settings_whole (s : Settings) : (whole s).settings = { s with path := none } := rfl

end SettingsPart

namespace Settings

/-- **A part of settings is read as what it gives, with the defaults for all else.** -/
theorem ofJson?_of_givenBy {p : SettingsPart} {v : JsonValue} (given : p.GivenBy v) :
    ofJson? v = some p.settings := by
  obtain ⟨converter, client, log, ofConverter, ofClient, ofLog, gives⟩ := given
  rw [ofJson?, fields?_of_gives (by decide) rfl gives]
  simp only [Option.bind_eq_bind, Option.bind_some,
    field_rel ofConverter fun _ _ => ConverterSettings.ofJson?_of_gives,
    field_rel ofClient fun _ _ => ClientSettings.ofJson?_of_gives,
    field_rel ofLog fun _ _ => LogSettings.ofJson?_of_gives]
  rfl

theorem givenBy_toJson (s : Settings) : (SettingsPart.whole s).GivenBy s.toJson :=
  ⟨s.converter.toJson, s.client.toJson, s.log.toJson, .some s.converter.gives_toJson,
    .some s.client.gives_toJson, .some s.log.gives_toJson, gives_record (by rfl) sectionNames⟩

theorem writable_toJson (s : Settings) : Writable s.toJson := by
  refine Writable.record ?_ sectionNames
  simp [s.converter.writable_toJson, s.client.writable_toJson, s.log.writable_toJson]

/-- **The text of settings is read as those settings.** -/
theorem ofText?_text (s : Settings) : ofText? s.text = some { s with path := none } := by
  rw [ofText?, text, JsonValue.ofText?_pretty s.writable_toJson, Option.bind_some,
    ofJson?_of_givenBy s.givenBy_toJson, SettingsPart.settings_whole]

end Settings

end TransportConverter
