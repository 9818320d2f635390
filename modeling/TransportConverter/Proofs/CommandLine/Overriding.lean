import TransportConverter.CommandLine.Run
import TransportConverter.Proofs.CommandLine.GivenConverter
/-!
# Settings that are overridden

An argument takes the place of a setting, so two settings that differ only in such places (`Hides`) should be
as good as one. For a client they are: its arguments go into the settings before these are looked at. For a
converter the settings are looked at first. Of all that its arguments take the place of, only the address to
listen on can be wrong, and a wrong one is reported although it would not be used.

The main result is `CommandLine.overridden_settings`: **a client's overridden settings have no influence, and a
converter's have none as long as the addresses to listen on can both be read**.
-/
namespace TransportConverter

/-! ## Values that are passed over, and lists that are read -/

theorem getD_congr {α : Type} {given : Option α} {a a' : α} (same : given = none → a = a') :
    given.getD a = given.getD a' := by
  cases given with
  | some value => rfl
  | none => rw [same rfl]

theorem and_not_congr {given a a' : Bool} (same : given = false → a = a') :
    (a && !given) = (a' && !given) := by
  cases given with
  | true => rw [Bool.not_true, Bool.and_false, Bool.and_false]
  | false => rw [same rfl]

/-- An error about a list is one about an element of it. -/
theorem exists_of_mapM_eq_error {α β ε : Type} {f : α → Except ε β} {l : List α} {error : ε}
    (wrong : l.mapM f = .error error) : ∃ a ∈ l, f a = .error error := by
  induction l with
  | nil => cases wrong
  | cons a l ih =>
    rw [List.mapM_cons] at wrong
    cases first : f a with
    | error _ =>
      rw [first] at wrong
      cases wrong
      exact ⟨a, List.mem_cons_self, first⟩
    | ok b =>
      rw [first] at wrong
      cases others : l.mapM f with
      | error _ =>
        rw [others] at wrong
        cases wrong
        obtain ⟨a', mem, later⟩ := ih others
        exact ⟨a', List.mem_cons_of_mem a mem, later⟩
      | ok bs =>
        rw [others] at wrong
        cases wrong

/-! ## A client -/

namespace ConnectOptions

/-- Two sections differ only where the arguments take the place of what they say. -/
structure Hides (o : ConnectOptions) (s s' : ClientSettings) : Prop where
  converterAddress : o.converter = none → s.converterAddress = s'.converterAddress
  converterPort : o.converter = none → s.converterPort = s'.converterPort
  cookie : o.cookie = none → s.cookie = s'.cookie
  fastOpen : o.noFastOpen = false → s.fastOpen = s'.fastOpen
  multipath : s.multipath = s'.multipath
  allowTcpFallback : s.allowTcpFallback = s'.allowTcpFallback

variable {o : ConnectOptions} {s s' : ClientSettings}

/-- Overriding leaves no difference but in whether the request goes out early. -/
theorem override_of_hides (hides : o.Hides s s') :
    o.override s' = { o.override s with fastOpen := s'.fastOpen } := by
  obtain ⟨address, port, cookie, fastOpen, multipath, fallback⟩ := s
  obtain ⟨address', port', cookie', fastOpen', multipath', fallback'⟩ := s'
  obtain ⟨sameAddress, samePort, sameCookie, -, rfl, rfl⟩ := hides
  unfold override setConverter
  cases given : o.converter with
  | some converter =>
    cases given' : o.cookie with
    | some cookie => rfl
    | none =>
      cases sameCookie given'
      rfl
  | none =>
    cases sameAddress given
    cases samePort given
    cases given' : o.cookie with
    | some cookie => rfl
    | none =>
      cases sameCookie given'
      rfl

theorem fastOpen_override (o : ConnectOptions) (s : ClientSettings) : (o.override s).fastOpen = s.fastOpen := by
  unfold override setConverter
  cases o.converter <;> cases o.cookie <;> rfl

/-- **What a client's arguments hide has no influence.** -/
theorem config?_of_hides {s s' : Settings} (hides : o.Hides s.client s'.client) :
    o.config? s = o.config? s' := by
  have early : (s.client.fastOpen && !o.noFastOpen) = (s'.client.fastOpen && !o.noFastOpen) :=
    and_not_congr hides.fastOpen
  have reads : (o.override s'.client).converter? = (o.override s.client).converter? := by
    rw [override_of_hides hides]
    rfl
  simp only [config?, ClientSettings.config?, reads]
  cases (o.override s.client).converter? with
  | error error => rfl
  | ok converter =>
    simp only [override_of_hides hides, Except.map, bind, Except.bind, pure, Except.pure, fastOpen_override,
      early]

end ConnectOptions

/-! ## A converter -/

namespace ConverterSettings

/-- The address to listen on can be read. -/
def Listens (s : ConverterSettings) : Prop := ∃ address, s.listenAddress? = .ok address

/-- Both sections have an address to listen on, or the same text in its place. -/
def ListensAlike (s s' : ConverterSettings) : Prop :=
  s.listenAddress = s'.listenAddress ∨ s.Listens ∧ s'.Listens

variable {s s' : ConverterSettings}

theorem listens_of_text {address : SocketAddress}
    (reads : SocketAddress.ofText? s.listenAddress.toList = some address) : s.Listens :=
  ⟨address, by simp only [listenAddress?, reads]⟩

theorem listenAddress?_congr (same : s.listenAddress = s'.listenAddress) :
    s.listenAddress? = s'.listenAddress? := by
  simp only [listenAddress?, same]

theorem listenAddress?_eq_error {error : SettingsError} (wrong : s.listenAddress? = .error error) :
    error = .invalidValue "converter.listen_addr" s.listenAddress := by
  unfold listenAddress? at wrong
  split at wrong
  · cases wrong
  · cases wrong
    rfl

theorem blockedDestination?_eq_error {text : String} {error : SettingsError}
    (wrong : blockedDestination? text = .error error) :
    error = .invalidValue "converter.blocked_destinations" text := by
  unfold blockedDestination? at wrong
  split at wrong
  · cases wrong
  · cases wrong
    rfl

theorem blockedDestinations?_eq_error {error : SettingsError} (wrong : s.blockedDestinations? = .error error) :
    ∃ text, error = .invalidValue "converter.blocked_destinations" text := by
  obtain ⟨text, -, wrong⟩ := exists_of_mapM_eq_error wrong
  exact ⟨text, blockedDestination?_eq_error wrong⟩

theorem chunkSize?_eq_error {error : SettingsError} (wrong : s.chunkSize? = .error error) :
    error = .invalidValue "converter.chunk_size" "0" := by
  unfold chunkSize? at wrong
  split at wrong <;> cases wrong
  rfl

end ConverterSettings

namespace ServeOptions

/-- Two sections differ only where the arguments take the place of what they say. -/
structure Hides (o : ServeOptions) (s s' : ConverterSettings) : Prop where
  listenAddress : o.listen = none → s.listenAddress = s'.listenAddress
  cookies : o.cookies = [] → s.cookies = s'.cookies
  maxSessions : o.maxSessions = none → s.maxSessions = s'.maxSessions
  multipath : o.noMultipath = false → s.multipath = s'.multipath
  blockedDestinations : s.blockedDestinations = s'.blockedDestinations
  headerTimeout : s.headerTimeoutSeconds = s'.headerTimeoutSeconds
  connectTimeout : s.connectTimeoutSeconds = s'.connectTimeoutSeconds
  fastOpenQueue : s.fastOpenQueue = s'.fastOpenQueue
  drainTimeout : s.drainTimeoutSeconds = s'.drainTimeoutSeconds
  chunkSize : s.chunkSize = s'.chunkSize

/-- The configuration of a converter whose settings have an address to listen on. -/
def configAt? (o : ServeOptions) (s : ConverterSettings) (address : SocketAddress) :
    Except SettingsError ServerConfig := do
  let blockedDestinations ← s.blockedDestinations?
  let chunkSize ← s.chunkSize?
  return {
    listenAddress := o.listen.getD address
    cookies := (if o.cookies.isEmpty then s.cookies else o.cookies).map Utf8.encode
    blockedDestinations
    maxSessions := o.maxSessions.getD s.maxSessions.toNat
    headerTimeout := s.headerTimeout
    connectTimeout := s.connectTimeout
    fastOpenQueue := s.fastOpenQueue
    multipath := s.multipath && !o.noMultipath
    chunkSize
    drainTimeout := s.drainTimeout }

variable {o : ServeOptions}

theorem config?_eq (o : ServeOptions) (s : Settings) :
    o.config? s = s.converter.listenAddress? >>= o.configAt? s.converter := by
  unfold config? ConverterSettings.config? configAt?
  cases s.converter.listenAddress? with
  | error error => rfl
  | ok address =>
    cases s.converter.blockedDestinations? with
    | error error => rfl
    | ok blocked =>
      cases s.converter.chunkSize? with
      | error error => rfl
      | ok size =>
        simp [Except.map, bind, Except.bind, pure, Except.pure, override]
        split <;> rfl

theorem configAt?_of_hides {s s' : ConverterSettings} (hides : o.Hides s s') {address address' : SocketAddress}
    (same : o.listen = none → address = address') : o.configAt? s address = o.configAt? s' address' := by
  have listens : o.listen.getD address = o.listen.getD address' := getD_congr same
  have accepts : (if o.cookies.isEmpty then s.cookies else o.cookies) =
      if o.cookies.isEmpty then s'.cookies else o.cookies := by
    split
    · rename_i none
      exact hides.cookies (List.isEmpty_iff.1 none)
    · rfl
  have limit : o.maxSessions.getD s.maxSessions.toNat = o.maxSessions.getD s'.maxSessions.toNat :=
    getD_congr fun none => congrArg _ (hides.maxSessions none)
  have multipath : (s.multipath && !o.noMultipath) = (s'.multipath && !o.noMultipath) :=
    and_not_congr hides.multipath
  simp only [configAt?, ConverterSettings.blockedDestinations?, ConverterSettings.chunkSize?,
    ConverterSettings.headerTimeout, ConverterSettings.connectTimeout, ConverterSettings.drainTimeout,
    listens, accepts, limit, multipath, hides.blockedDestinations, hides.headerTimeout, hides.connectTimeout,
    hides.fastOpenQueue, hides.drainTimeout, hides.chunkSize]

/-- What is behind the address to listen on is reported under another name. -/
theorem configAt?_ne_error (o : ServeOptions) (s : ConverterSettings) (address : SocketAddress)
    (text : String) : o.configAt? s address ≠ .error (.invalidValue "converter.listen_addr" text) := by
  intro wrong
  unfold configAt? at wrong
  cases blocks : s.blockedDestinations? with
  | error error =>
    obtain ⟨_, rfl⟩ := ConverterSettings.blockedDestinations?_eq_error blocks
    rw [blocks] at wrong
    exact absurd wrong (by simp [bind, Except.bind])
  | ok blocked =>
    rw [blocks] at wrong
    cases moves : s.chunkSize? with
    | error error =>
      obtain rfl := ConverterSettings.chunkSize?_eq_error moves
      rw [moves] at wrong
      exact absurd wrong (by simp [bind, Except.bind])
    | ok size =>
      rw [moves] at wrong
      cases wrong

/-- A wrong address to listen on is reported, whatever the arguments. -/
theorem config?_of_wrong {s : Settings} {error : SettingsError}
    (wrong : s.converter.listenAddress? = .error error) : o.config? s = .error error := by
  rw [config?_eq, wrong]
  rfl

theorem config?_of_listens {s : Settings} {address : SocketAddress}
    (listens : s.converter.listenAddress? = .ok address) : o.config? s = o.configAt? s.converter address := by
  rw [config?_eq, listens]
  rfl

/-- **What a converter's arguments hide has no influence, but for an address that cannot be read.** -/
theorem config?_eq_iff {s s' : Settings} (hides : o.Hides s.converter s'.converter) :
    o.config? s = o.config? s' ↔ s.converter.ListensAlike s'.converter := by
  constructor
  · intro same
    cases reads : s.converter.listenAddress? with
    | error error =>
      have named := ConverterSettings.listenAddress?_eq_error reads
      rw [config?_of_wrong reads, named] at same
      cases reads' : s'.converter.listenAddress? with
      | error error' =>
        rw [config?_of_wrong reads', ConverterSettings.listenAddress?_eq_error reads'] at same
        exact .inl (SettingsError.invalidValue.inj (Except.error.inj same)).2
      | ok address' =>
        rw [config?_of_listens reads'] at same
        exact absurd same.symm (configAt?_ne_error o _ _ _)
    | ok address =>
      cases reads' : s'.converter.listenAddress? with
      | error error' =>
        rw [config?_of_listens reads, config?_of_wrong reads',
          ConverterSettings.listenAddress?_eq_error reads'] at same
        exact absurd same (configAt?_ne_error o _ _ _)
      | ok address' => exact .inr ⟨⟨address, reads⟩, ⟨address', reads'⟩⟩
  · rintro (same | ⟨⟨address, reads⟩, ⟨address', reads'⟩⟩)
    · rw [config?_eq, config?_eq, ConverterSettings.listenAddress?_congr same]
      cases s'.converter.listenAddress? with
      | error error => rfl
      | ok address => exact configAt?_of_hides hides fun _ => rfl
    · rw [config?_of_listens reads, config?_of_listens reads']
      refine configAt?_of_hides hides fun none => ?_
      have same := ConverterSettings.listenAddress?_congr (hides.listenAddress none)
      rw [reads, reads'] at same
      exact Except.ok.inj same

end ServeOptions

/-! ## The program -/

namespace CommandLine

/-- A command runs with the same under both settings, or has the same to say against them. -/
def RunsAlike (s s' : Settings) : Command → Prop
  | .serve o => o.config? s = o.config? s'
  | .connect _ o => o.config? s = o.config? s'
  | .showSettings => s.text = s'.text
  | .createSettings => True

theorem perform_congr {m : Type → Type} [Monad m] [MonadHost m] {invocation : Invocation} {s s' : Settings}
    (path : Path) (logs : s.log = s'.log) (alike : RunsAlike s s' invocation.command) :
    perform (m := m) invocation path s = perform invocation path s' := by
  obtain ⟨given, verbose, command⟩ := invocation
  cases command with
  | serve o =>
    have same : serve (m := m) o s = serve o s' := by
      unfold serve
      rw [show o.config? s = o.config? s' from alike]
    simp only [perform, logs, same]
  | connect destination o =>
    have same : connect (m := m) destination o s = connect destination o s' := by
      unfold connect
      rw [show o.config? s = o.config? s' from alike]
    simp only [perform, logs, same]
  | showSettings =>
    have same : s.text = s'.text := alike
    simp only [perform, logs, same]
  | createSettings => simp only [perform, logs]

/-- **Overridden settings have no influence, except for an address to listen on.** Settings that differ only
where the arguments take their place give a client the same configuration or the same error, and none about the
converter's address if the arguments give one. They do the same for a converter exactly if both have an address
to listen on or neither has and they write the same in its place; an address that cannot be read is reported
whatever the arguments. Where the log settings agree as well, the program does the same under both. -/
theorem overridden_settings (s s' : Settings) :
    (∀ o : ConnectOptions, o.Hides s.client s'.client → o.config? s = o.config? s') ∧
    (∀ o : ConnectOptions, o.converter ≠ none → ∃ config, o.config? s = .ok config) ∧
    (∀ o : ServeOptions, o.Hides s.converter s'.converter →
      (o.config? s = o.config? s' ↔ s.converter.ListensAlike s'.converter)) ∧
    (∀ (o : ServeOptions) (error : SettingsError), s.converter.listenAddress? = .error error →
      o.config? s = .error error) ∧
    ∀ (m : Type → Type) [Monad m] [MonadHost m] (invocation : Invocation) (path : Path), s.log = s'.log →
      (∀ destination o, invocation.command = .connect destination o → o.Hides s.client s'.client →
        perform (m := m) invocation path s = perform invocation path s') ∧
      ∀ o, invocation.command = .serve o → o.Hides s.converter s'.converter →
        s.converter.ListensAlike s'.converter →
        perform (m := m) invocation path s = perform invocation path s' := by
  refine ⟨fun o => o.config?_of_hides, fun o given => ?_, fun o => o.config?_eq_iff,
    fun o error => o.config?_of_wrong, fun m _ _ invocation path logs => ⟨?_, ?_⟩⟩
  · obtain ⟨address, given⟩ := Option.ne_none_iff_exists'.1 given
    obtain ⟨config, made, -⟩ := o.config?_of_given given s
    exact ⟨config, made⟩
  · intro destination o command hides
    refine perform_congr path logs ?_
    rw [command]
    exact o.config?_of_hides hides
  · intro o command hides listens
    refine perform_congr path logs ?_
    rw [command]
    exact (o.config?_eq_iff hides).2 listens

/-- All that arguments can take the place of is different, and the converter's address can be read under one of
the settings only. -/
theorem overridden_settings_all :
    let s : Settings :=
      { converter := { listenAddress := "127.0.0.1:80", cookies := ["a"], maxSessions := 0 }
        client := { converterAddress := some "nowhere", converterPort := 1, cookie := some "a" } }
    let s' : Settings :=
      { converter := { multipath := false }
        client := { converterAddress := some "192.0.2.1", fastOpen := false } }
    let address : SocketAddress := .v4 ⟨192, 0, 2, 7⟩ 99
    let o : ServeOptions :=
      { listen := some address, cookies := ["k"], maxSessions := some 7, noMultipath := true }
    let o' : ConnectOptions := { converter := some address, cookie := some "k", noFastOpen := true }
    o.Hides s.converter s'.converter ∧ o'.Hides s.client s'.client ∧
      s.converter.ListensAlike s'.converter ∧ o.config? s = o.config? s' ∧
      o'.config? s = o'.config? s' ∧ ∃ config, o'.config? s = .ok config := by
  intro s s' address o o'
  have hides : o.Hides s.converter s'.converter :=
    ⟨nofun, nofun, nofun, nofun, rfl, rfl, rfl, rfl, rfl, rfl⟩
  have hides' : o'.Hides s.client s'.client := ⟨nofun, nofun, nofun, nofun, rfl, rfl⟩
  have home : SocketAddress.ofText? "127.0.0.1:80".toList = some (.v4 ⟨127, 0, 0, 1⟩ 80) := rfl
  have anywhere : SocketAddress.ofText? "0.0.0.0:1234".toList = some (.v4 ⟨0, 0, 0, 0⟩ 1234) := rfl
  have alike : s.converter.ListensAlike s'.converter :=
    .inr ⟨ConverterSettings.listens_of_text home, ConverterSettings.listens_of_text anywhere⟩
  obtain ⟨client, reads, server, -⟩ := overridden_settings s s'
  exact ⟨hides, hides', alike, (server o hides).2 alike, client o' hides', reads o' nofun⟩

/-- A wrong address to listen on keeps a converter from starting that was given another. -/
theorem not_overridden_inert :
    ¬ ∀ (o : ServeOptions) (s s' : Settings), o.Hides s.converter s'.converter →
      o.config? s = o.config? s' := by
  intro inert
  let o : ServeOptions := { listen := some (.v4 ⟨127, 0, 0, 1⟩ 0) }
  have hides : o.Hides { listenAddress := "nowhere" } {} :=
    ⟨nofun, fun _ => rfl, fun _ => rfl, fun _ => rfl, rfl, rfl, rfl, rfl, rfl, rfl⟩
  have same := inert o { converter.listenAddress := "nowhere" } {} hides
  have wrong : o.config? { converter.listenAddress := "nowhere" } =
      .error (.invalidValue "converter.listen_addr" "nowhere") := rfl
  have listens : ∃ config, o.config? {} = .ok config := ⟨_, rfl⟩
  obtain ⟨config, made⟩ := listens
  rw [wrong, made] at same
  cases same

end CommandLine

end TransportConverter
