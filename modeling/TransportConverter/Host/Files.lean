import TransportConverter.Storage
/-!
# The files of this computer

Programs of `IO` work with the files that there are.
-/
namespace TransportConverter

/-- The number of an error, which may come with its sign turned. -/
def IoError.numbered (n : UInt32) : IoError := system (min n.toNat (UInt32.size - n.toNat))

/-- A failure of the system. -/
def IoError.ofSystem : IO.Error → IoError
  | .alreadyExists _ n _ | .otherError n _ | .resourceBusy n _ | .resourceVanished n _
  | .unsupportedOperation n _ | .hardwareFault n _ | .unsatisfiedConstraints n _
  | .illegalOperation n _ | .protocolError n _ | .timeExpired n _ | .interrupted _ n _
  | .noFileOrDirectory _ n _ | .invalidArgument _ n _ | .permissionDenied _ n _
  | .resourceExhausted _ n _ | .inappropriateType _ n _ | .noSuchThing _ n _ => numbered n
  | .unexpectedEof => bare .unexpectedEof
  | .userError text => described .other text

namespace Host

/-- What an action gives, or how it fails. -/
def attempt {α : Type} (action : IO α) : IO (Except IoError α) := do
  match ← action.toBaseIO with
  | .ok a => return .ok a
  | .error error => return .error (.ofSystem error)

/-- Does something with a file. Names that are no text cannot be passed on. -/
def withName {α : Type} (p : Path) (action : String → IO α) : IO (Except IoError α) :=
  match Utf8.decode? p.bytes with
  | some name => attempt (action name)
  | none => return .error (.bare .invalidFilename)

def bytesOf (data : ByteArray) : Bytes := data.data.toList

def dataOf (bytes : Bytes) : ByteArray := ⟨bytes.toArray⟩

instance : MonadStorage IO where
  leadsSomewhere p := return (← withName p fun name => discard (IO.FS.realPath name)).isOk
  isDirectory p :=
    return (← withName p fun name => do (← IO.FS.realPath name).isDir).toOption.getD false
  read p := withName p fun name => return bytesOf (← IO.FS.readBinFile name)
  write p bytes := withName p fun name => IO.FS.writeBinFile name (dataOf bytes)
  append p bytes := withName p fun name => do
    let file ← IO.FS.Handle.mk name .append
    file.write (dataOf bytes)
  makeDirectory p := withName p fun name => IO.FS.createDir name

end Host

end TransportConverter
