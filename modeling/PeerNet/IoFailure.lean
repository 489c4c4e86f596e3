/-!
# Failures of the system

What the operating system, or a stream that ends too early, reports: a kind and a text. A failure
without a text of its own has the description of its kind.
-/

namespace PeerNet

/-- The kinds of failure. -/
inductive IoKind where
  | addrInUse
  | addrNotAvailable
  | alreadyExists
  | argumentListTooLong
  | brokenPipe
  | connectionAborted
  | connectionRefused
  | connectionReset
  | crossesDevices
  | deadlock
  | directoryNotEmpty
  | executableFileBusy
  | fileTooLarge
  | hostUnreachable
  | interrupted
  | invalidData
  | invalidFilename
  | invalidInput
  | isADirectory
  | networkDown
  | networkUnreachable
  | notADirectory
  | notConnected
  | notFound
  | notSeekable
  | other
  | outOfMemory
  | permissionDenied
  | quotaExceeded
  | readOnlyFilesystem
  | resourceBusy
  | staleNetworkFileHandle
  | storageFull
  | timedOut
  | tooManyLinks
  | uncategorized
  | unexpectedEof
  | unsupported
  | wouldBlock
  | writeZero
  deriving DecidableEq, Repr

/-- The description of a kind of failure. -/
def IoKind.description : IoKind → String
  | .addrInUse => "address in use"
  | .addrNotAvailable => "address not available"
  | .alreadyExists => "entity already exists"
  | .argumentListTooLong => "argument list too long"
  | .brokenPipe => "broken pipe"
  | .connectionAborted => "connection aborted"
  | .connectionRefused => "connection refused"
  | .connectionReset => "connection reset"
  | .crossesDevices => "cross-device link or rename"
  | .deadlock => "deadlock"
  | .directoryNotEmpty => "directory not empty"
  | .executableFileBusy => "executable file busy"
  | .fileTooLarge => "file too large"
  | .hostUnreachable => "host unreachable"
  | .interrupted => "operation interrupted"
  | .invalidData => "invalid data"
  | .invalidFilename => "invalid filename"
  | .invalidInput => "invalid input parameter"
  | .isADirectory => "is a directory"
  | .networkDown => "network down"
  | .networkUnreachable => "network unreachable"
  | .notADirectory => "not a directory"
  | .notConnected => "not connected"
  | .notFound => "entity not found"
  | .notSeekable => "seek on unseekable file"
  | .other => "other error"
  | .outOfMemory => "out of memory"
  | .permissionDenied => "permission denied"
  | .quotaExceeded => "quota exceeded"
  | .readOnlyFilesystem => "read-only filesystem or storage medium"
  | .resourceBusy => "resource busy"
  | .staleNetworkFileHandle => "stale network file handle"
  | .storageFull => "no storage space"
  | .timedOut => "timed out"
  | .tooManyLinks => "too many links"
  | .uncategorized => "uncategorized error"
  | .unexpectedEof => "unexpected end of file"
  | .unsupported => "unsupported"
  | .wouldBlock => "operation would block"
  | .writeZero => "write zero"

/-- The name of a kind of failure. -/
def IoKind.name : IoKind → String
  | .addrInUse => "AddrInUse"
  | .addrNotAvailable => "AddrNotAvailable"
  | .alreadyExists => "AlreadyExists"
  | .argumentListTooLong => "ArgumentListTooLong"
  | .brokenPipe => "BrokenPipe"
  | .connectionAborted => "ConnectionAborted"
  | .connectionRefused => "ConnectionRefused"
  | .connectionReset => "ConnectionReset"
  | .crossesDevices => "CrossesDevices"
  | .deadlock => "Deadlock"
  | .directoryNotEmpty => "DirectoryNotEmpty"
  | .executableFileBusy => "ExecutableFileBusy"
  | .fileTooLarge => "FileTooLarge"
  | .hostUnreachable => "HostUnreachable"
  | .interrupted => "Interrupted"
  | .invalidData => "InvalidData"
  | .invalidFilename => "InvalidFilename"
  | .invalidInput => "InvalidInput"
  | .isADirectory => "IsADirectory"
  | .networkDown => "NetworkDown"
  | .networkUnreachable => "NetworkUnreachable"
  | .notADirectory => "NotADirectory"
  | .notConnected => "NotConnected"
  | .notFound => "NotFound"
  | .notSeekable => "NotSeekable"
  | .other => "Other"
  | .outOfMemory => "OutOfMemory"
  | .permissionDenied => "PermissionDenied"
  | .quotaExceeded => "QuotaExceeded"
  | .readOnlyFilesystem => "ReadOnlyFilesystem"
  | .resourceBusy => "ResourceBusy"
  | .staleNetworkFileHandle => "StaleNetworkFileHandle"
  | .storageFull => "StorageFull"
  | .timedOut => "TimedOut"
  | .tooManyLinks => "TooManyLinks"
  | .uncategorized => "Uncategorized"
  | .unexpectedEof => "UnexpectedEof"
  | .unsupported => "Unsupported"
  | .wouldBlock => "WouldBlock"
  | .writeZero => "WriteZero"

/-- All kinds of failure. -/
def IoKind.all : List IoKind :=
  [.addrInUse, .addrNotAvailable, .alreadyExists, .argumentListTooLong, .brokenPipe,
  .connectionAborted, .connectionRefused, .connectionReset, .crossesDevices, .deadlock,
  .directoryNotEmpty, .executableFileBusy, .fileTooLarge, .hostUnreachable, .interrupted,
  .invalidData, .invalidFilename, .invalidInput, .isADirectory, .networkDown, .networkUnreachable,
  .notADirectory, .notConnected, .notFound, .notSeekable, .other, .outOfMemory, .permissionDenied,
  .quotaExceeded, .readOnlyFilesystem, .resourceBusy, .staleNetworkFileHandle, .storageFull,
  .timedOut, .tooManyLinks, .uncategorized, .unexpectedEof, .unsupported, .wouldBlock, .writeZero]

/-- The kind of failure with this name. -/
def IoKind.ofName? (name : String) : Option IoKind := IoKind.all.find? (·.name == name)

/-- A failure of the system. -/
structure IoFailure where
  /-- Its kind. -/
  kind : IoKind
  /-- Its text. -/
  text : String
  deriving DecidableEq, Repr

namespace IoFailure

/-- A failure without a text of its own. -/
def ofKind (kind : IoKind) : IoFailure := ⟨kind, kind.description⟩

/-- A failure with the operating system's number for it. -/
def ofSystem (kind : IoKind) (text : String) (number : Nat) : IoFailure :=
  ⟨kind, s!"{text} (os error {number})"⟩

/-- No route leads to the address. -/
def networkUnreachable : IoFailure := ofSystem .networkUnreachable "Network is unreachable" 101

/-- The address is bound by another socket. -/
def addressInUse : IoFailure := ofSystem .addrInUse "Address already in use" 98

/-- The address is none of the host's. -/
def addressNotAvailable : IoFailure :=
  ofSystem .addrNotAvailable "Cannot assign requested address" 99

/-- An argument of a system call makes no sense. -/
def invalidArgument : IoFailure := ofSystem .invalidInput "Invalid argument" 22

/-- The address belongs to another family than the socket. -/
def familyNotSupported : IoFailure :=
  ofSystem .uncategorized "Address family not supported by protocol" 97

/-- The datagram is too long for the network. -/
def messageTooLong : IoFailure := ofSystem .uncategorized "Message too long" 90

/-- Nobody listens at the address. -/
def connectionRefused : IoFailure := ofSystem .connectionRefused "Connection refused" 111

/-- The other side has thrown the connection away. -/
def connectionReset : IoFailure := ofSystem .connectionReset "Connection reset by peer" 104

/-- The other side no longer reads. -/
def brokenPipe : IoFailure := ofSystem .brokenPipe "Broken pipe" 32

/-- A stream ended before as many bytes as were wanted. -/
def endOfStream : IoFailure := ⟨.unexpectedEof, "failed to fill whole buffer"⟩

end IoFailure

end PeerNet
