import TransportConverter.Proofs.Converter.Advance
import TransportConverter.Proofs.Message.Truncation
/-!
# The checks that decide an answer

What a session can find out about its client (`Session.Findings`), and the nine checks that are made
of it in a fixed order (`Session.Check.order`). Each check is stated on its own and looks at the
findings alone; it is still pending when what it looks at is not known yet. The first that has not
passed decides the answer (`Session.Findings.verdict`).

A converter makes most of these checks nested in one another (`ServerConfig.judge`).
`Session.Findings.admission_eq` says that it comes to the same.
-/
namespace TransportConverter

theorem IoError.number?_eq_some_iff {error : IoError} {number : Int} :
    error.number? = some number ↔ error = .system number := by
  cases error <;> simp [IoError.number?]

namespace Session

/-- What became of the request of a client. -/
inductive Arrival where
  /-- It came in time, with as many bytes as its header says. -/
  | whole (message : Bytes)
  /-- Its header came in time and is of another version. -/
  | foreign (header : Bytes)
  /-- The time was over first. -/
  | late
  /-- The client closed its connection first, or the connection failed. -/
  | lost

/-- What a session has found out and its answer depends on. -/
structure Findings where
  arrival? : Option Arrival := none
  /-- The connects that were made, each with what came of it. -/
  attempts : List (SocketAddress × Timed (Except IoError Handle)) := []
  /-- Whether the converter was shutting down when the destination had been connected to. -/
  draining? : Option Bool := none
  /-- The connection failed when the reply was sent. -/
  cut : Bool := false

/-- What a check says. -/
inductive Verdict where
  | pending
  | passed
  | failed (code : ErrorCode)
  deriving DecidableEq, Repr

namespace Verdict

/-- What is demanded, or else a code. -/
def demand (holds : Bool) (code : ErrorCode) : Verdict := if holds then passed else failed code

/-- The first that has not passed. -/
def first : List Verdict → Verdict
  | [] => passed
  | passed :: rest => first rest
  | verdict :: _ => verdict

/-- What the client is sent. -/
def reply? : Verdict → Option Message
  | pending => none
  | passed => some .empty
  | failed code => some (.failure code)

@[simp] theorem demand_eq_passed_iff {holds : Bool} {code : ErrorCode} :
    demand holds code = passed ↔ holds = true := by
  cases holds <;> simp [demand]

theorem first_eq_passed_iff {verdicts : List Verdict} :
    first verdicts = passed ↔ ∀ verdict ∈ verdicts, verdict = passed := by
  induction verdicts with
  | nil => exact iff_of_true rfl (by simp)
  | cons verdict verdicts ih =>
    cases verdict with
    | passed => simpa [first] using ih
    | pending => simp [first]
    | failed code => simp [first]

theorem first_append (front rest : List Verdict) : first (front ++ rest) =
    match first front with
    | passed => first rest
    | verdict => verdict := by
  induction front with
  | nil => rfl
  | cons verdict front ih =>
    cases verdict with
    | passed => exact ih
    | pending => rfl
    | failed code => rfl

end Verdict

inductive Check where
  | version
  /-- The request came in time and makes sense. -/
  | decoding
  /-- The client was accepted below the limit. -/
  | permit
  /-- The request names a destination. -/
  | destination
  | cookieShown
  | cookieKnown
  | unblocked
  /-- The destination was connected to. -/
  | connecting
  /-- The converter is not shutting down. -/
  | serving
  deriving DecidableEq, Repr

namespace Check

/-- What is checked before the destination is connected to. -/
def admission : List Check :=
  [version, decoding, permit, destination, cookieShown, cookieKnown, unblocked]

def order : List Check := admission ++ [connecting, serving]

end Check

namespace Findings

variable (config : ServerConfig) (permitted : Bool) (f : Findings)

/-- The request, if it makes sense. -/
def request? : Option Message :=
  match f.arrival? with
  | some (.whole message) => (Message.decode message).toOption.map Prod.fst
  | _ => none

/-- What is demanded of the request. -/
def demand (holds : Message → Bool) (code : ErrorCode) : Verdict :=
  match f.request? with
  | some m => .demand (holds m) code
  | none => .pending

def check : Check → Verdict
  | .version =>
    match f.arrival? with
    | some (.whole bytes) | some (.foreign bytes) =>
      .demand (bytes.head? == some protocolVersion) .unsupportedVersion
    | some .late => .passed
    | some .lost | none => .pending
  | .decoding =>
    match f.arrival? with
    | some (.whole _) => .demand f.request?.isSome .malformedMessage
    | some (.foreign _) | some .late => .failed .malformedMessage
    | some .lost | none => .pending
  | .permit => .demand permitted .resourceExceeded
  | .destination => f.demand (fun m => m.connect.isSome) .unsupportedMessage
  | .cookieShown =>
    f.demand (fun m => config.cookies.isEmpty || m.cookie.isSome) .missingCookie
  | .cookieKnown =>
    f.demand (fun m => config.cookies.isEmpty || m.cookie.any config.cookies.contains)
      .notAuthorized
  | .unblocked =>
    f.demand (fun m => m.connect.all fun destination => !config.isBlocked destination.ip)
      .notAuthorized
  | .connecting =>
    match f.attempts with
    | [] => .pending
    | (_, .inTime (.ok _)) :: _ => .passed
    | (_, .inTime (.error error)) :: _ => .failed (connectErrorCode error)
    | (_, .late) :: _ => .failed .destinationUnreachable
  | .serving =>
    match f.draining? with
    | none => .pending
    | some draining => .demand (!draining) .resourceExceeded

/-- The first of some checks that has not passed. -/
def first (checks : List Check) : Verdict := .first (checks.map (f.check config permitted))

/-- **The first of all checks that has not passed.** -/
def verdict : Verdict := f.first config permitted Check.order

/-- The client may have the destination connected to: its whole request came in time and makes
sense, it was accepted below the limit, the request asks for that destination, and with a cookie
that is accepted unless none is asked for, and the destination is not blocked. -/
def Admits (destination : SocketAddress) : Prop :=
  permitted = true ∧ ∃ message m used, f.arrival? = some (.whole message) ∧
    Message.decode message = .ok (m, used) ∧ m.connect = some destination ∧
    (config.cookies = [] ∨ ∃ cookie ∈ config.cookies, m.cookie = some cookie) ∧
    config.isBlocked destination.ip = false

/-- What is connected to. -/
def destination? : Option SocketAddress :=
  match f.first config permitted Check.admission with
  | .passed => f.request?.bind (·.connect)
  | .pending | .failed _ => none

variable {config : ServerConfig} {permitted : Bool} {f : Findings}

theorem verdict_eq : f.verdict config permitted =
    match f.first config permitted Check.admission with
    | .passed => f.first config permitted [.connecting, .serving]
    | verdict => verdict := by
  rw [verdict, first, Check.order, List.map_append, Verdict.first_append]
  rfl

end Findings

/-! ## Connects that come to nothing -/

/-- What a client is told of a connect that came to nothing: that its destination refused it, that it is
not to be reached or took too long, or that something else was in the way. -/
inductive Unconnected : Timed (Except IoError Handle) → ErrorCode → Prop
  | refused {error : IoError} (kind : error.kind = .connectionRefused) :
      Unconnected (.inTime (.error error)) .connectionReset
  | late : Unconnected .late .destinationUnreachable
  | timedOut {error : IoError} (kind : error.kind = .timedOut) :
      Unconnected (.inTime (.error error)) .destinationUnreachable
  | unrouted {error : IoError}
      (number : error ∈ [.system IoError.hostUnreachable, .system IoError.networkUnreachable]) :
      Unconnected (.inTime (.error error)) .destinationUnreachable
  | hindered {error : IoError} (kind : error.kind ∉ [.connectionRefused, .timedOut])
      (number : error ∉ [.system IoError.hostUnreachable, .system IoError.networkUnreachable]) :
      Unconnected (.inTime (.error error)) .networkFailure

theorem unconnected_of_error (error : IoError) :
    Unconnected (.inTime (.error error)) (connectErrorCode error) := by
  unfold connectErrorCode
  split
  · rename_i kind
    exact .refused kind
  · rename_i kind
    exact .timedOut kind
  · rename_i unrefused untimed
    simp only [IoError.number?_eq_some_iff]
    split
    · rename_i number
      exact .unrouted (by simpa using number)
    · rename_i number
      exact .hindered (by simpa using ⟨unrefused, untimed⟩) (by simpa using number)

/-- **Each failure of a connect has its one code.** -/
theorem unconnected_iff {error : IoError} {code : ErrorCode} :
    Unconnected (.inTime (.error error)) code ↔ connectErrorCode error = code := by
  refine ⟨fun unconnected => ?_, fun same => same ▸ unconnected_of_error error⟩
  cases unconnected with
  | refused kind => rw [connectErrorCode, kind]
  | timedOut kind => rw [connectErrorCode, kind]
  | unrouted number =>
    obtain rfl | rfl := by simpa using number
    · rfl
    · rfl
  | hindered kind number =>
    have unrouted : ¬ (error.number? = some IoError.hostUnreachable ∨
        error.number? = some IoError.networkUnreachable) := by
      simpa only [IoError.number?_eq_some_iff, List.mem_cons, List.not_mem_nil, or_false] using number
    unfold connectErrorCode
    rw [if_neg unrouted]
    split
    · rename_i refused
      simp [refused] at kind
    · rename_i timed
      simp [timed] at kind
    · rfl

/-- The check of the connect says which failure it was. -/
theorem Findings.check_connecting_eq_failed_iff {config : ServerConfig} {permitted : Bool}
    {f : Findings} {code : ErrorCode} : f.check config permitted .connecting = .failed code ↔
      ∃ attempt rest, f.attempts = attempt :: rest ∧ Unconnected attempt.2 code := by
  have late : Unconnected .late code ↔ .destinationUnreachable = code :=
    ⟨fun unconnected => by cases unconnected; rfl, fun same => same ▸ .late⟩
  have connected (outbound : Handle) : ¬ Unconnected (.inTime (.ok outbound)) code := nofun
  simp only [check]
  rcases f.attempts with _ | ⟨⟨destination, (error | outbound) | -⟩, rest⟩
  · simp
  · simp [unconnected_iff]
  · simp [connected]
  · simp [late]

/-! ## What a converter makes of a request -/

end Session

open Session

namespace Message

/-- Where the header is of the one version, nothing else is of another one. -/
theorem replyCode_of_header {bytes : Bytes} {header : Header} {e : DecodeError}
    (opens : Header.decode bytes = .ok header) (refused : decode bytes = .error e) :
    (ConverterError.decode e).replyCode = some .malformedMessage := by
  obtain ⟨flags, hi, lo, rest, rfl, -⟩ := header_decode_eq_ok_iff.1 opens
  by_cases short : rest.length < hi.toNat * 256 + lo.toNat
  · rw [decode_of_header, if_pos short] at refused
    cases refused
    rfl
  · have wrong := decode_of_header_error flags hi lo rest (Nat.le_of_not_lt short) refused
    cases e with
    | unsupportedVersion version => cases wrong
    | _ => rfl

end Message

namespace Session

variable {config : ServerConfig} {permitted : Bool} {f : Findings} {message : Bytes}
  {header : Header}

theorem Findings.request?_of_whole (arrived : f.arrival? = some (.whole message)) :
    f.request? = (Message.decode message).toOption.map Prod.fst := by
  rw [request?, arrived]

theorem Findings.whole_of_request? {m : Message} (asked : f.request? = some m) :
    ∃ message used, f.arrival? = some (.whole message) ∧
      Message.decode message = .ok (m, used) := by
  unfold request? at asked
  split at asked
  · rename_i message arrived
    cases read : Message.decode message with
    | error e =>
      rw [read] at asked
      cases asked
    | ok result =>
      rw [read] at asked
      cases asked
      exact ⟨message, result.2, arrived, read⟩
  · cases asked

/-- What is checked of the request itself. -/
theorem Findings.first_of_request (config : ServerConfig) (permitted : Bool) {m : Message}
    (asked : f.request? = some m) :
    match config.grant m with
    | .ok destination => f.first config permitted [.destination, .cookieShown, .cookieKnown,
        .unblocked] = .passed ∧ m.connect = some destination
    | .error code => f.first config permitted [.destination, .cookieShown, .cookieKnown,
        .unblocked] = .failed code := by
  have checks : f.first config permitted [.destination, .cookieShown, .cookieKnown, .unblocked] =
      .first [.demand m.connect.isSome .unsupportedMessage,
        .demand (config.cookies.isEmpty || m.cookie.isSome) .missingCookie,
        .demand (config.cookies.isEmpty || m.cookie.any config.cookies.contains) .notAuthorized,
        .demand (m.connect.all fun destination => !config.isBlocked destination.ip)
          .notAuthorized] := by
    simp only [first, List.map_cons, List.map_nil, check, demand, asked]
  rw [checks]
  unfold ServerConfig.grant ServerConfig.cookieObjection ServerConfig.requiresCookie
    ServerConfig.cookieAllowed
  cases m.connect with
  | none => rfl
  | some destination =>
    cases config.cookies.isEmpty with
    | true =>
      by_cases blocked : config.isBlocked destination.ip <;> cases m.cookie <;>
        simp [blocked, Verdict.demand, Verdict.first]
    | false =>
      cases m.cookie with
      | none => rfl
      | some cookie =>
        by_cases known : cookie ∈ config.cookies <;>
          by_cases blocked : config.isBlocked destination.ip <;>
            simp [known, blocked, Verdict.demand, Verdict.first]

/-- **A request that came as a whole is admitted by the checks in their order**, and what they have
against it is what its converter says. -/
theorem Findings.admission_eq (config : ServerConfig) (permitted : Bool)
    (arrived : f.arrival? = some (.whole message)) (opens : Header.decode message = .ok header) :
    match config.judge permitted message with
    | .ok destination => f.first config permitted Check.admission = .passed ∧
        f.request?.bind (·.connect) = some destination
    | .error error => ∃ code, error.replyCode = some code ∧
        f.first config permitted Check.admission = .failed code := by
  have version : message.head? = some protocolVersion := by
    obtain ⟨flags, hi, lo, rest, rfl, -⟩ := Message.header_decode_eq_ok_iff.1 opens
    rfl
  have asked := request?_of_whole arrived
  have front : f.first config permitted Check.admission =
      .first (.demand f.request?.isSome .malformedMessage :: .demand permitted .resourceExceeded ::
        [Check.destination, .cookieShown, .cookieKnown, .unblocked].map
          (f.check config permitted)) := by
    simp [first, Check.admission, check, arrived, version, Verdict.demand, Verdict.first]
  rw [front, ServerConfig.judge]
  cases read : Message.decode message with
  | error e =>
    rw [read] at asked
    rw [asked]
    exact ⟨.malformedMessage, Message.replyCode_of_header opens read, rfl⟩
  | ok result =>
    obtain ⟨m, used⟩ := result
    rw [read] at asked
    have request := first_of_request config permitted asked
    rw [asked]
    cases permitted with
    | false => exact ⟨.resourceExceeded, rfl, rfl⟩
    | true =>
      cases granted : config.grant m with
      | ok destination =>
        simp only [granted] at request ⊢
        exact request
      | error code =>
        simp only [granted] at request ⊢
        exact ⟨code, rfl, request⟩

namespace Findings

/-- What the checks of a request that makes sense and names a destination come to. -/
theorem admission_eq_passed_iff {m : Message} {used : Nat} {destination : SocketAddress}
    (arrived : f.arrival? = some (.whole message)) (read : Message.decode message = .ok (m, used))
    (named : m.connect = some destination) :
    f.first config permitted Check.admission = .passed ↔ permitted = true ∧
      (config.cookies = [] ∨ ∃ cookie ∈ config.cookies, m.cookie = some cookie) ∧
      config.isBlocked destination.ip = false := by
  have asked : f.request? = some m := by
    rw [request?_of_whole arrived, read]
    rfl
  have version : message.head? = some protocolVersion := by
    obtain ⟨header, opens, -⟩ := Message.messageLength_of_decode read
    obtain ⟨flags, hi, lo, rest, rfl, -⟩ := Message.header_decode_eq_ok_iff.1 opens
    rfl
  have cookies : (config.cookies = [] ∨ m.cookie.isSome = true) ∧
      (config.cookies = [] ∨ m.cookie.any config.cookies.contains = true) ↔
      config.cookies = [] ∨ ∃ cookie ∈ config.cookies, m.cookie = some cookie := by
    cases m.cookie <;> simp
  rw [← cookies, first, Verdict.first_eq_passed_iff]
  simp [Check.admission, check, demand, arrived, version, asked, named, and_assoc]

/-- **The checks of a request admit what may be connected to.** -/
theorem destination?_eq_some_iff {destination : SocketAddress} :
    f.destination? config permitted = some destination ↔ f.Admits config permitted destination := by
  have split : f.destination? config permitted = some destination ↔
      f.first config permitted Check.admission = .passed ∧
        f.request?.bind (·.connect) = some destination := by
    unfold destination?
    split <;> simp_all
  rw [split]
  constructor
  · rintro ⟨passed, named⟩
    obtain ⟨m, asked, named⟩ := Option.bind_eq_some_iff.1 named
    obtain ⟨message, used, arrived, read⟩ := whole_of_request? asked
    obtain ⟨permit, known, unblocked⟩ := (admission_eq_passed_iff arrived read named).1 passed
    exact ⟨permit, message, m, used, arrived, read, named, known, unblocked⟩
  · rintro ⟨permit, message, m, used, arrived, read, named, known, unblocked⟩
    refine ⟨(admission_eq_passed_iff arrived read named).2 ⟨permit, known, unblocked⟩, ?_⟩
    rw [request?_of_whole arrived, read]
    exact named

theorem admission_of_unknown (unknown : f.arrival? = none ∨ f.arrival? = some .lost) :
    f.first config permitted Check.admission = .pending := by
  rcases unknown with unknown | unknown <;>
    simp [first, Check.admission, check, unknown, Verdict.first]

theorem admission_of_late (late : f.arrival? = some .late) :
    f.first config permitted Check.admission = .failed .malformedMessage := by
  simp [first, Check.admission, check, late, Verdict.first]

theorem admission_of_foreign {bytes : Bytes} (foreign : f.arrival? = some (.foreign bytes))
    (other : bytes.head? ≠ some protocolVersion) :
    f.first config permitted Check.admission = .failed .unsupportedVersion := by
  simp [first, Check.admission, check, foreign, other, Verdict.demand, Verdict.first]

/-- The checks come to this, and the destinations that were connected to are what they admit. -/
structure Concludes (config : ServerConfig) (permitted : Bool) (f : Findings) (v : Verdict) :
    Prop where
  verdict : f.verdict config permitted = v
  attempts : f.attempts.map Prod.fst = (f.destination? config permitted).toList

/-- Nothing is connected to before the checks of the request have passed. -/
theorem concludes_of_admission {v : Verdict}
    (admission : f.first config permitted Check.admission = v) (undecided : v ≠ .passed)
    (none : f.attempts = []) : f.Concludes config permitted v := by
  cases v with
  | passed => exact absurd rfl undecided
  | pending =>
    refine ⟨?_, ?_⟩
    · rw [verdict_eq, admission]
    · rw [destination?, admission, none]
      rfl
  | failed code =>
    refine ⟨?_, ?_⟩
    · rw [verdict_eq, admission]
    · rw [destination?, admission, none]
      rfl

/-- What is known once a request was granted. -/
theorem of_granted {destination : SocketAddress}
    (granted : config.judge permitted message = .ok destination)
    (arrived : f.arrival? = some (.whole message)) :
    f.verdict config permitted = f.first config permitted [.connecting, .serving] ∧
      f.destination? config permitted = some destination := by
  obtain ⟨m, used, read⟩ := Stage.judge_eq_ok granted
  obtain ⟨header, opens, -⟩ := Message.messageLength_of_decode read
  have admission := admission_eq config permitted arrived opens
  rw [granted] at admission
  obtain ⟨passed, named⟩ := admission
  refine ⟨?_, ?_⟩
  · rw [verdict_eq, passed]
  · rw [destination?, passed]
    exact named

/-- The destination of a granted request was connected to, and the answer depends on how. -/
theorem concludes_of_granted {destination : SocketAddress}
    {outcome : Timed (Except IoError Handle)}
    (granted : config.judge permitted message = .ok destination)
    (arrived : f.arrival? = some (.whole message)) (once : f.attempts = [(destination, outcome)]) :
    f.Concludes config permitted (f.first config permitted [.connecting, .serving]) := by
  obtain ⟨verdict, named⟩ := of_granted granted arrived
  refine ⟨verdict, ?_⟩
  rw [once, named]
  rfl

/-- Where the destinations that were connected to are those admitted, and at most one, all checks
have passed when that was done and no shutdown was seen. -/
theorem verdict_eq_passed_iff {next : List SocketAddress}
    (attempts : f.attempts.map Prod.fst ++ next = (f.destination? config permitted).toList) :
    f.verdict config permitted = .passed ↔
      (∃ destination outbound, f.attempts = [(destination, .inTime (.ok outbound))]) ∧
        f.draining? = some false := by
  have none_made (refused : f.destination? config permitted = none) : f.attempts = [] := by
    rw [refused] at attempts
    exact List.map_eq_nil_iff.1 (List.append_eq_nil_iff.1 attempts).1
  have few : f.attempts.length ≤ 1 := by
    have length := congrArg List.length attempts
    have := Option.length_toList_le (o := f.destination? config permitted)
    rw [List.length_append, List.length_map] at length
    omega
  rw [verdict_eq]
  cases admission : f.first config permitted Check.admission with
  | pending =>
    rw [none_made (by rw [destination?, admission])]
    exact iff_of_false nofun (by simp)
  | failed code =>
    rw [none_made (by rw [destination?, admission])]
    exact iff_of_false nofun (by simp)
  | passed =>
    simp only [first, List.map_cons, List.map_nil, check]
    match made : f.attempts with
    | [] => simp [Verdict.first]
    | _ :: _ :: _ =>
      rw [made] at few
      simp at few
    | [(destination, .late)] => simp [Verdict.first]
    | [(destination, .inTime (.error error))] => simp [Verdict.first]
    | [(destination, .inTime (.ok outbound))] =>
      rcases f.draining? with _ | _ | _ <;> simp [Verdict.first, Verdict.demand]

end Findings

end Session

end TransportConverter
