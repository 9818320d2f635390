import TransportConverter.IoError.Descriptions
/-!
# Failures of the system

A call to the operating system fails with one of its error numbers. Failures made by the library
itself have only a kind, and possibly a text of their own. The kind of a numbered failure follows
from its number, and numbers of no particular meaning are `IoErrorKind.uncategorized`.
-/
namespace TransportConverter

inductive IoErrorKind where
  | notFound
  | permissionDenied
  | connectionRefused
  | connectionReset
  | hostUnreachable
  | networkUnreachable
  | connectionAborted
  | notConnected
  | addrInUse
  | addrNotAvailable
  | networkDown
  | brokenPipe
  | alreadyExists
  | wouldBlock
  | notADirectory
  | isADirectory
  | directoryNotEmpty
  | readOnlyFilesystem
  | filesystemLoop
  | staleNetworkFileHandle
  | invalidInput
  | invalidData
  | timedOut
  | writeZero
  | storageFull
  | notSeekable
  | quotaExceeded
  | fileTooLarge
  | resourceBusy
  | executableFileBusy
  | deadlock
  | crossesDevices
  | tooManyLinks
  | invalidFilename
  | argumentListTooLong
  | interrupted
  | unsupported
  | unexpectedEof
  | outOfMemory
  | inProgress
  | other
  | uncategorized
  deriving DecidableEq, Repr

namespace IoErrorKind

/-- Every kind, with its name and its description. -/
def table : List (IoErrorKind × String × String) :=
  [(notFound, "NotFound", "entity not found"),
    (permissionDenied, "PermissionDenied", "permission denied"),
    (connectionRefused, "ConnectionRefused", "connection refused"),
    (connectionReset, "ConnectionReset", "connection reset"),
    (hostUnreachable, "HostUnreachable", "host unreachable"),
    (networkUnreachable, "NetworkUnreachable", "network unreachable"),
    (connectionAborted, "ConnectionAborted", "connection aborted"),
    (notConnected, "NotConnected", "not connected"),
    (addrInUse, "AddrInUse", "address in use"),
    (addrNotAvailable, "AddrNotAvailable", "address not available"),
    (networkDown, "NetworkDown", "network down"),
    (brokenPipe, "BrokenPipe", "broken pipe"),
    (alreadyExists, "AlreadyExists", "entity already exists"),
    (wouldBlock, "WouldBlock", "operation would block"),
    (notADirectory, "NotADirectory", "not a directory"),
    (isADirectory, "IsADirectory", "is a directory"),
    (directoryNotEmpty, "DirectoryNotEmpty", "directory not empty"),
    (readOnlyFilesystem, "ReadOnlyFilesystem", "read-only filesystem or storage medium"),
    (filesystemLoop, "FilesystemLoop", "filesystem loop or indirection limit (e.g. symlink loop)"),
    (staleNetworkFileHandle, "StaleNetworkFileHandle", "stale network file handle"),
    (invalidInput, "InvalidInput", "invalid input parameter"),
    (invalidData, "InvalidData", "invalid data"),
    (timedOut, "TimedOut", "timed out"),
    (writeZero, "WriteZero", "write zero"),
    (storageFull, "StorageFull", "no storage space"),
    (notSeekable, "NotSeekable", "seek on unseekable file"),
    (quotaExceeded, "QuotaExceeded", "quota exceeded"),
    (fileTooLarge, "FileTooLarge", "file too large"),
    (resourceBusy, "ResourceBusy", "resource busy"),
    (executableFileBusy, "ExecutableFileBusy", "executable file busy"),
    (deadlock, "Deadlock", "deadlock"),
    (crossesDevices, "CrossesDevices", "cross-device link or rename"),
    (tooManyLinks, "TooManyLinks", "too many links"),
    (invalidFilename, "InvalidFilename", "invalid filename"),
    (argumentListTooLong, "ArgumentListTooLong", "argument list too long"),
    (interrupted, "Interrupted", "operation interrupted"),
    (unsupported, "Unsupported", "unsupported"),
    (unexpectedEof, "UnexpectedEof", "unexpected end of file"),
    (outOfMemory, "OutOfMemory", "out of memory"),
    (inProgress, "InProgress", "in progress"),
    (other, "Other", "other error"),
    (uncategorized, "Uncategorized", "uncategorized error")]

def name (kind : IoErrorKind) : String := ((table.lookup kind).map Prod.fst).getD ""

def description (kind : IoErrorKind) : String := ((table.lookup kind).map Prod.snd).getD ""

def ofName? (name : String) : Option IoErrorKind := (table.find? (·.2.1 == name)).map Prod.fst

/-- The kind of each error number that has one. -/
def ofNumber : Int → IoErrorKind
  | 1 => permissionDenied
  | 2 => notFound
  | 4 => interrupted
  | 7 => argumentListTooLong
  | 11 => wouldBlock
  | 12 => outOfMemory
  | 13 => permissionDenied
  | 16 => resourceBusy
  | 17 => alreadyExists
  | 18 => crossesDevices
  | 20 => notADirectory
  | 21 => isADirectory
  | 22 => invalidInput
  | 26 => executableFileBusy
  | 27 => fileTooLarge
  | 28 => storageFull
  | 29 => notSeekable
  | 30 => readOnlyFilesystem
  | 31 => tooManyLinks
  | 32 => brokenPipe
  | 35 => deadlock
  | 36 => invalidFilename
  | 38 => unsupported
  | 39 => directoryNotEmpty
  | 40 => filesystemLoop
  | 95 => unsupported
  | 98 => addrInUse
  | 99 => addrNotAvailable
  | 100 => networkDown
  | 101 => networkUnreachable
  | 103 => connectionAborted
  | 104 => connectionReset
  | 107 => notConnected
  | 110 => timedOut
  | 111 => connectionRefused
  | 113 => hostUnreachable
  | 115 => inProgress
  | 116 => staleNetworkFileHandle
  | 122 => quotaExceeded
  | _ => uncategorized

end IoErrorKind

inductive IoError where
  /-- A numbered failure of the operating system. -/
  | system (number : Int)
  | bare (kind : IoErrorKind)
  | described (kind : IoErrorKind) (text : String)
  deriving DecidableEq, Repr

namespace IoError

/-- The number of a connect that goes on in the background. -/
def connectInProgress : Int := 115

/-- No route leads to the network. -/
def networkUnreachable : Int := 101

/-- No route leads to the host. -/
def hostUnreachable : Int := 113

def kind : IoError → IoErrorKind
  | system number => .ofNumber number
  | bare kind => kind
  | described kind _ => kind

def number? : IoError → Option Int
  | system number => some number
  | _ => none

def message : IoError → String
  | system number => s!"{systemDescription number} (os error {number})"
  | bare kind => kind.description
  | described _ text => text

end IoError

end TransportConverter
