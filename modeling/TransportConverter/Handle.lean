/-!
# Handles

A handle names an open socket. It is the socket's descriptor read as an unsigned number. The system
hands a descriptor out again after the socket is closed, so whatever is kept under a handle has to
be released before that.
-/
namespace TransportConverter

structure Handle where
  raw : UInt64
  deriving DecidableEq, Repr, Hashable

namespace Handle

/-- The handle of a descriptor (`Handle::from`): its thirty-two bits, without a sign. -/
def ofDescriptor (fd : Int32) : Handle := ⟨fd.toUInt32.toUInt64⟩

def text (h : Handle) : String := s!"#{h.raw.toNat}"

end Handle

end TransportConverter
