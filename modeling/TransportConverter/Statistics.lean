import TransportConverter.Bytes
import TransportConverter.IoError
/-!
# Statistics of a connection

What the system tells about the connection of a socket, at once and without a change to it
(`ConnectionStats::from_socket`). What it answers for each socket is a `SocketInfo`, so whoever
reports on a connection is stated for every answer that it can give.
-/
namespace TransportConverter

/-- The part that is told on of what the system knows of any connection. An older system fills only
the front of its record, and the rest stays zero. -/
structure TcpInfo where
  state : UInt8 := 0
  rtt : UInt32 := 0
  rttVariance : UInt32 := 0
  congestionWindow : UInt32 := 0
  slowStartThreshold : UInt32 := 0
  retransmitted : UInt32 := 0
  deriving DecidableEq, Repr

/-- What the system answers about the sockets in `σ`. -/
structure SocketInfo (σ : Type) where
  tcp : σ → Except IoError TcpInfo
  /-- The bytes that the system fills of its record of a multipath connection. -/
  multipath : σ → Except IoError Bytes

/-- How many subflows a multipath connection has. -/
structure SubflowStats where
  active : UInt8
  /-- The limit that was negotiated. -/
  most : UInt8
  deriving DecidableEq, Repr

structure ConnectionStats extends TcpInfo where
  /-- Known of multipath sockets alone. -/
  subflows : Option SubflowStats
  deriving DecidableEq, Repr

/-- The counters stand in the first and in the fourth byte (`subflow_stats`). -/
def SubflowStats.ofRecord? : Except IoError Bytes → Option SubflowStats
  | .ok (active :: _ :: _ :: most :: _) => some { active, most }
  | _ => none

/-- The statistics of a socket, unless the system has none (`from_socket`). -/
def SocketInfo.stats {σ : Type} (system : SocketInfo σ) (socket : σ) : Except IoError ConnectionStats :=
  (system.tcp socket).map fun info =>
    { toTcpInfo := info, subflows := SubflowStats.ofRecord? (system.multipath socket) }

end TransportConverter
