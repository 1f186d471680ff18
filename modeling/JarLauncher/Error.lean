import JarLauncher.Errno

/-! What goes wrong in a launch, as causes, and the text of each cause. -/

namespace JarLauncher

inductive IoKind where
  | notFound | permissionDenied | connectionRefused | connectionReset | connectionAborted
  | notConnected | addrInUse | addrNotAvailable | brokenPipe | alreadyExists | wouldBlock
  | invalidInput | invalidData | timedOut | writeZero | interrupted | unsupported | unexpectedEof
  | outOfMemory | other | storageFull
  /-- one of the kinds that are not named here -/
  | further (description : String)
  deriving DecidableEq, Repr

def IoKind.description : IoKind → String
  | notFound => "entity not found"
  | permissionDenied => "permission denied"
  | connectionRefused => "connection refused"
  | connectionReset => "connection reset"
  | connectionAborted => "connection aborted"
  | notConnected => "not connected"
  | addrInUse => "address in use"
  | addrNotAvailable => "address not available"
  | brokenPipe => "broken pipe"
  | alreadyExists => "entity already exists"
  | wouldBlock => "operation would block"
  | invalidInput => "invalid input parameter"
  | invalidData => "invalid data"
  | timedOut => "timed out"
  | writeZero => "write zero"
  | interrupted => "operation interrupted"
  | unsupported => "unsupported"
  | unexpectedEof => "unexpected end of file"
  | outOfMemory => "out of memory"
  | other => "other error"
  | storageFull => "no storage space"
  | further description => description

/-- a failed call on a stream: an error number of the system, a bare kind, or a kind with a text
of its own -/
inductive IoError where
  | system (number : Int)
  | bare (kind : IoKind)
  | custom (kind : IoKind) (text : String)
  deriving DecidableEq, Repr

namespace IoError

def text : IoError → String
  | system n => Errno.text n ++ " (os error " ++ toString n ++ ")"
  | bare kind => kind.description
  | custom _ text => text

/-- the call may be made again as it was -/
def isInterrupted : IoError → Bool
  | system n => n == Errno.interrupted
  | bare kind => kind == .interrupted
  | custom kind _ => kind == .interrupted

end IoError

inductive LaunchError where
  | workingDirectory (details : String)
  | shellSpawn (shell details : String)
  | console (cause : IoError)
  deriving DecidableEq, Repr

namespace LaunchError

def message : LaunchError → String
  | workingDirectory details => "Failed to resolve current directory: " ++ details
  | shellSpawn shell details => "Failed to start " ++ shell ++ ": " ++ details
  | console cause => "Failed to write to console: " ++ cause.text

end LaunchError

/-- a stream error that carries a launch error, and its text -/
def IoError.wrapping (kind : IoKind) (cause : LaunchError) : IoError := custom kind cause.message

end JarLauncher
