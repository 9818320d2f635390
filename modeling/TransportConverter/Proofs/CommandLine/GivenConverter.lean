import TransportConverter.Client.Socket
import TransportConverter.CommandLine.Run
import TransportConverter.Proofs.Address.Reading
/-!
# The converter given on the command line

The address of a converter that is given as an argument goes into the settings as text, next to its port, and
is read from there again. Its host survives that, since an address is read back from its text and its text has
no blanks that could be cut off. The zone does not: there is no place for it in the settings.

The main result is `ConnectOptions.given_converter_used`: **whatever the settings and the environment say, the
client connects to the host and the port of the given address, and to that very address exactly when it names
no zone**.
-/
namespace TransportConverter

/-! ## The text of an address in the settings -/

theorem trimBlanks_of_no_blank {text : List Char} (plain : ∀ c ∈ text, isBlank c = false) :
    trimBlanks text = text := by
  have kept {cs : List Char} (plain : ∀ c ∈ cs, isBlank c = false) : cs.dropWhile isBlank = cs := by
    cases cs with
    | nil => rfl
    | cons c cs => rw [List.dropWhile_cons_of_neg (by simp [plain c])]
  rw [trimBlanks, kept plain, kept fun c mem => plain c (List.mem_reverse.1 mem), List.reverse_reverse]

theorem isBlank_of_isDigitIn {c : Char} (digit : isDigitIn 16 c = true) : isBlank c = false := by
  have range : 48 ≤ c.toNat ∧ c.toNat ≤ 57 ∨ 97 ≤ c.toNat ∧ c.toNat ≤ 102 ∨
      65 ≤ c.toNat ∧ c.toNat ≤ 70 := by
    rw [isDigitIn, decide_eq_true_eq, digitValue] at digit
    split at digit
    · rename_i decimal
      exact .inl decimal
    split at digit
    · rename_i lower
      exact .inr (.inl lower)
    split at digit
    · rename_i upper
      exact .inr (.inr upper)
    · exact absurd digit (by decide)
  simp only [isBlank, Bool.or_eq_false_iff, Bool.and_eq_false_iff, decide_eq_false_iff_not]
  omega

/-- What the text of an address is made of. -/
def InAddress (c : Char) : Prop := isDigitIn 16 c = true ∨ c = ':' ∨ c = '.'

theorem InAddress.isBlank {c : Char} (written : InAddress c) : isBlank c = false := by
  obtain digit | rfl | rfl := written
  · exact isBlank_of_isDigitIn digit
  · decide
  · decide

namespace Ipv6

theorem mem_groupText {c : Char} {g : UInt16} (mem : c ∈ groupText g) : InAddress c :=
  .inl (isDigitIn_of_mem_toDigits (by decide) (by decide) mem)

theorem mem_groupsText {c : Char} {groups : List UInt16} (mem : c ∈ groupsText groups) : InAddress c := by
  cases groups with
  | nil => cases mem
  | cons g groups =>
    rw [groupsText_cons, List.mem_append, groupsBehind, List.mem_flatMap] at mem
    obtain mem | ⟨g', -, mem⟩ := mem
    · exact mem_groupText mem
    · rcases List.mem_cons.1 mem with rfl | mem
      · exact .inr (.inl rfl)
      · exact mem_groupText mem

end Ipv6

theorem Ipv4.mem_text {c : Char} {ip : Ipv4} (mem : c ∈ ip.text) : InAddress c := by
  have octet {n : Nat} (mem : c ∈ decimal n) : InAddress c := by
    have digit := isDigitIn_of_mem_toDigits (by decide) (by decide) mem
    rw [isDigitIn, decide_eq_true_eq] at digit
    exact .inl (decide_eq_true (Nat.lt_trans digit (by decide)))
  simp only [text, List.mem_append, List.mem_cons] at mem
  obtain ((mem | rfl | mem) | rfl | mem) | rfl | mem := mem
  · exact octet mem
  · exact .inr (.inr rfl)
  · exact octet mem
  · exact .inr (.inr rfl)
  · exact octet mem
  · exact .inr (.inr rfl)
  · exact octet mem

theorem Ipv6.mem_text {c : Char} {ip : Ipv6} (mem : c ∈ ip.text) : InAddress c := by
  unfold text at mem
  split at mem
  · rcases List.mem_append.1 mem with mem | mem
    · have head : "::ffff:".toList.all (fun c => isDigitIn 16 c || c == ':') = true := by decide
      have written := List.all_eq_true.1 head c mem
      simp only [Bool.or_eq_true, beq_iff_eq] at written
      obtain digit | colon := written
      · exact .inl digit
      · exact .inr (.inl colon)
    · exact Ipv4.mem_text mem
  · simp only [segmentsText] at mem
    split at mem
    · simp only [List.mem_append, List.mem_cons] at mem
      obtain mem | rfl | rfl | mem := mem
      · exact mem_groupsText mem
      · exact .inr (.inl rfl)
      · exact .inr (.inl rfl)
      · exact mem_groupsText mem
    · exact mem_groupsText mem

theorem IpAddress.mem_text {c : Char} {ip : IpAddress} (mem : c ∈ ip.text) : InAddress c := by
  cases ip with
  | v4 ip => exact Ipv4.mem_text mem
  | v6 ip => exact Ipv6.mem_text mem

theorem ClientSettings.converter?_of_text (s : ClientSettings) (ip : IpAddress) (port : UInt16) :
    { s with converterAddress := some (toString ip), converterPort := port }.converter? =
      .ok (.ofIp ip port) := by
  have plain : trimBlanks ip.text = ip.text :=
    trimBlanks_of_no_blank fun c mem => (IpAddress.mem_text mem).isBlank
  have text : (toString ip).toList = ip.text := String.toList_ofList
  simp only [ClientSettings.converter?, text, plain, ip.ofText?_text]

namespace SocketAddress

/-- The zone that an address is in; only IPv6 addresses name one. -/
def zone : SocketAddress → UInt32
  | v4 .. => 0
  | v6 _ _ _ zone => zone

def flowLabel : SocketAddress → UInt32
  | v4 .. => 0
  | v6 _ _ label _ => label

/-- Host and port are all of an address that has neither flow label nor zone. -/
theorem ofIp_eq_iff (address : SocketAddress) :
    ofIp address.ip address.port = address ↔ address.flowLabel = 0 ∧ address.zone = 0 := by
  cases address with
  | v4 ip port => exact iff_of_true rfl ⟨rfl, rfl⟩
  | v6 ip port label zone =>
    have same : ofIp (v6 ip port label zone).ip (v6 ip port label zone).port = v6 ip port 0 0 := rfl
    rw [same, v6.injEq]
    simp [flowLabel, SocketAddress.zone, eq_comm]

theorem family_ofIp (address : SocketAddress) (port : UInt16) :
    (ofIp address.ip port).family = address.family := by
  cases address <;> rfl

/-- No text of an address has a flow label. -/
theorem flowLabel_of_ofText? {cs : List Char} {address : SocketAddress}
    (accepted : ofText? cs = some address) : address.flowLabel = 0 := by
  have read : ∃ rest, read cs = some (address, rest) := by
    unfold ofText? readAll at accepted
    split at accepted
    · rename_i whole
      cases accepted
      exact ⟨_, whole⟩
    · cases accepted
  obtain ⟨rest, read⟩ := read
  cases four : readV4 cs with
  | some found =>
    rw [SocketAddress.read, four] at read
    cases read
    simp only [readV4, Option.bind_eq_bind, Option.bind_eq_some_iff, Option.pure_def, Option.some.injEq,
      Prod.mk.injEq] at four
    obtain ⟨_, -, _, -, rfl, -⟩ := four
    rfl
  | none =>
    have six : readV6 cs = some (address, rest) := by rwa [SocketAddress.read, four] at read
    simp only [readV6, Option.bind_eq_bind, Option.bind_eq_some_iff, Option.pure_def, Option.some.injEq,
      Prod.mk.injEq] at six
    obtain ⟨_, -, _, -, rfl, -⟩ := six
    rfl

end SocketAddress

theorem CommandLine.ofText?_of_socketAddress {text : String} {address : SocketAddress}
    (accepted : socketAddress text = .ok address) : SocketAddress.ofText? text.toList = some address := by
  unfold socketAddress valid at accepted
  split at accepted
  · rename_i read
    cases accepted
    exact read
  · cases accepted

namespace ConnectOptions

/-- The settings have the converter's host as text, and its port. -/
theorem converter?_override (o : ConnectOptions) {address : SocketAddress}
    (given : o.converter = some address) (s : ClientSettings) :
    (o.override s).converter? = .ok (.ofIp address.ip address.port) := by
  rw [← s.converter?_of_text]
  unfold override
  rw [given]
  cases o.cookie <;> rfl

theorem config?_of_given (o : ConnectOptions) {address : SocketAddress}
    (given : o.converter = some address) (s : Settings) :
    ∃ config, o.config? s = .ok config ∧ config.converter = .ofIp address.ip address.port := by
  have converter := converter?_override o given s.client
  simp only [config?, ClientSettings.config?, converter]
  exact ⟨_, rfl, rfl⟩

/-- **The given converter is the one used, but for its zone.** -/
theorem given_converter_used {text : String} {address : SocketAddress}
    (accepted : CommandLine.socketAddress text = .ok address) (o : ConnectOptions)
    (given : o.converter = some address) (s : Settings) (environment : String → Option String) :
    ∃ config, o.config? (s.withOverrides environment) = .ok config ∧
      config.converter.ip = address.ip ∧ config.converter.family = address.family ∧
      config.converter.port = address.port ∧ (config.converter = address ↔ address.zone = 0) ∧
      ∀ (m : Type → Type) [Monad m] [LawfulMonad m] [MonadHost m] (destination : SocketAddress),
        CommandLine.connect (m := m) destination o (s.withOverrides environment) = (do
          CommandLine.require (.relay destination) (← MonadHost.relay (m := m) config destination)) := by
  obtain ⟨config, made, converter⟩ := config?_of_given o given (s.withOverrides environment)
  refine ⟨config, made, ?_, ?_, ?_, ?_, fun m _ _ _ destination => ?_⟩
  · rw [converter, SocketAddress.ip_ofIp]
  · rw [converter, SocketAddress.family_ofIp]
  · rw [converter, SocketAddress.port_ofIp]
  · have unlabelled := SocketAddress.flowLabel_of_ofText? (CommandLine.ofText?_of_socketAddress accepted)
    rw [converter, SocketAddress.ofIp_eq_iff]
    exact and_iff_right unlabelled
  · simp only [CommandLine.connect, made, CommandLine.require, pure_bind]

/-- A mapped address stays one, and the environment's converter is passed over. -/
theorem given_converter_used_mapped :
    let address : SocketAddress := .v6 (Ipv4.toMapped ⟨192, 0, 2, 7⟩) 99 0 0
    let environment (name : String) := if name = "CONVERT_ADDR" then some "198.51.100.1" else none
    let settings : Settings := Settings.withOverrides {} environment
    CommandLine.socketAddress "[::ffff:192.0.2.7]:99" = .ok address ∧
      ∃ config, ConnectOptions.config? { converter := some address } settings = .ok config ∧
        config.converter = address := by
  intro address environment settings
  have accepted : CommandLine.socketAddress "[::ffff:192.0.2.7]:99" = .ok address := rfl
  obtain ⟨config, made, -, -, -, same, -⟩ :=
    given_converter_used accepted { converter := some address } rfl {} environment
  exact ⟨accepted, config, made, same.2 rfl⟩

/-- The zone of a given address is lost. -/
theorem not_given_converter_kept :
    ¬ ∀ (text : String) (address : SocketAddress) (o : ConnectOptions) (s : Settings)
        (environment : String → Option String) (config : ClientConfig),
      CommandLine.socketAddress text = .ok address → o.converter = some address →
      o.config? (s.withOverrides environment) = .ok config → config.converter = address := by
  intro kept
  let address : SocketAddress :=
    .v6 ⟨[0xfe, 0x80, 0, 0, 0, 0, 0, 0, 0, 0, 0, 0, 0, 0, 0, 1], rfl⟩ 9 0 2
  have accepted : CommandLine.socketAddress "[fe80::1%2]:9" = .ok address := rfl
  obtain ⟨config, made, converter⟩ :=
    config?_of_given { converter := some address } rfl (Settings.withOverrides {} fun _ => none)
  have same := kept _ address { converter := some address } {} _ config accepted rfl made
  rw [converter] at same
  exact absurd same (by decide)

end ConnectOptions

end TransportConverter
