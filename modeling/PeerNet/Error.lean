import PeerNet.Endpoint.Basic
import PeerNet.IoFailure
import PeerNet.Buffer.Fault
import PeerNet.Config.Fault

/-!
# Errors

The errors that cross the boundaries of the library's parts. `Error.isSessionFatal` says after which
of them the session they arose in has to be torn down.
-/

namespace PeerNet

/-- An error of any part of the library. -/
inductive Error where
  /-- An operation came at a time when it makes no sense. -/
  | illegalState (text : String)
  /-- The bytes from the other side follow no rule of the protocol. -/
  | malformedProtocol (text : String)
  /-- A value is of no use. -/
  | invalidValue (text : String)
  /-- A failure of the system, told in words. -/
  | detailedIo (text : String)
  /-- A failure of the system. -/
  | io (failure : IoFailure)
  /-- A message found nobody to take it. -/
  | channelSend (text : String)
  /-- An answer will never come. -/
  | channelRecv (text : String)
  /-- An operation was refused. -/
  | invalidOperation (text : String)
  /-- A configuration could not be used. -/
  | config (fault : Config.Fault)
  /-- A message is longer than allowed. -/
  | messageTooLarge (text : String)
  /-- There is no room for another one. -/
  | capacityExceeded (text : String)
  /-- The session to this peer has stopped. -/
  | sessionStopped (remote : Endpoint)
  /-- The frame is not complete yet. -/
  | incomplete
  deriving DecidableEq, Repr

namespace Error

/-- The description of an error. -/
def message : Error → String
  | illegalState text => s!"illegal state: {text}"
  | malformedProtocol text => s!"malformed protocol : {text}"
  | invalidValue text => s!"invalid value: {text}"
  | detailedIo text => s!"I/O error: {text}"
  | io failure => s!"io error: {failure.text}"
  | channelSend text => s!"channel send error: {text}"
  | channelRecv text => s!"channel recv error: {text}"
  | invalidOperation text => s!"invalid operation: {text}"
  | config fault => s!"config file error: {fault.message}"
  | messageTooLarge text => s!"message too large: {text}"
  | capacityExceeded text => s!"capacity exceeded: {text}"
  | sessionStopped remote => s!"session to {remote} is not running"
  | incomplete => "incomplete frame"

/-- The name of the kind of an error. -/
def name : Error → String
  | illegalState _ => "IllegalStateError"
  | malformedProtocol _ => "MalformedProtocol"
  | invalidValue _ => "InvalidValue"
  | detailedIo _ => "DetailedIoError"
  | io _ => "IoError"
  | channelSend _ => "ChannelSendError"
  | channelRecv _ => "ChannelRecvError"
  | invalidOperation _ => "InvalidOperation"
  | config _ => "ConfigFileError"
  | messageTooLarge _ => "MessageTooLarge"
  | capacityExceeded _ => "CapacityExceeded"
  | sessionStopped _ => "SessionStopped"
  | incomplete => "Incomplete"

/-- Whether the session or connection that an error arose in has to be torn down. -/
def isSessionFatal : Error → Bool
  | malformedProtocol _ | io _ | detailedIo _ | sessionStopped _ => true
  | _ => false

/-- A message was sent into a channel that nobody reads any more. -/
def closedChannel : Error := channelSend "sending into a closed channel"

/-- The other end of an answer was thrown away. -/
def droppedAnswer : Error := channelRecv "channel closed"

instance : Coe Buffer.Fault Error := ⟨fun fault => invalidOperation fault.message⟩

end Error

end PeerNet
