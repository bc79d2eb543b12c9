import SocketReactor.Errno
import SocketReactor.Text.Quoted

/-!
# Faults

The ways in which an operation of the library can fail. A fault that comes from
a system call keeps the call's error number. Each fault has a message, a hint
that names the failing call, and a place among the general kinds of
input and output errors.
-/

namespace SocketReactor

inductive Fault where
  /-- A text is no address of the family. -/
  | badAddress (input family : String)
  /-- A text or a socket address is no endpoint. -/
  | badEndpoint (input reason : String)
  /-- A host name has no address. -/
  | unresolved (host : String) (code : Int32) (reason : String)
  /-- The operation does not work for the family. -/
  | unsupportedFamily (family : String)
  /-- A protocol is not of the kind of socket that was asked for. -/
  | wrongKind (protocol expected : String)
  /-- A socket could not be created. -/
  | socketFailed (errno : Errno) (protocol : String)
  /-- A socket could not be bound. -/
  | bindFailed (errno : Errno) (endpoint : String)
  /-- A socket could not be made a listener. -/
  | listenFailed (errno : Errno) (backlog : Int32)
  /-- No connection could be accepted. -/
  | acceptFailed (errno : Errno)
  /-- A connection could not be made. -/
  | connectFailed (errno : Errno) (endpoint : String)
  /-- A transfer or a query on a socket failed. -/
  | transferFailed (errno : Errno) (call : String)
  /-- The peer closed the connection. -/
  | closedByPeer
  /-- A socket option could not be written. -/
  | setOptionFailed (errno : Errno) (option : String)
  /-- A socket option could not be read. -/
  | getOptionFailed (errno : Errno) (option : String)
  /-- Closing a descriptor reported an error. -/
  | closeFailed (errno : Errno)
  /-- The operation is not allowed in the present state. -/
  | wrongState (operation state : String)
  /-- An interest set has operations that the channel never becomes ready for. -/
  | badInterest (requested valid : UInt32)
  /-- The channel is registered with another selector. -/
  | alreadyRegistered
  /-- The selector is not open. -/
  | notOpen
  /-- A call to the readiness backend failed. -/
  | backendFailed (errno : Errno) (call : String)
  deriving DecidableEq, Repr

inductive IoKind where
  | notFound
  | permissionDenied
  | connectionRefused
  | connectionReset
  | notConnected
  | addressInUse
  | addressNotAvailable
  | brokenPipe
  | wouldBlock
  | invalidInput
  | timedOut
  | interrupted
  | unsupported
  | unexpectedEnd
  | other
  deriving DecidableEq, Repr

/-- The kind of an error number; numbers without a kind of their own are `other`. -/
def Errno.ioKind (errno : Errno) : IoKind :=
  if errno = accessDenied ∨ errno = notPermitted then .permissionDenied
  else if errno = addressInUse then .addressInUse
  else if errno = addressNotAvailable then .addressNotAvailable
  else if errno = tryAgain then .wouldBlock
  else if errno = connectionRefused then .connectionRefused
  else if errno = connectionReset then .connectionReset
  else if errno = interrupted then .interrupted
  else if errno = invalidArgument then .invalidInput
  else if errno = notConnected then .notConnected
  else if errno = brokenPipe then .brokenPipe
  else if errno = timedOut then .timedOut
  else .other

namespace Fault

/-- The error number, if the fault came from a system call. -/
def errno? : Fault → Option Errno
  | socketFailed errno _ | bindFailed errno _ | listenFailed errno _ | acceptFailed errno
  | connectFailed errno _ | transferFailed errno _ | setOptionFailed errno _
  | getOptionFailed errno _ | closeFailed errno | backendFailed errno _ => some errno
  | badAddress _ _ | badEndpoint _ _ | unresolved _ _ _ | unsupportedFamily _ | wrongKind _ _
  | closedByPeer | wrongState _ _ | badInterest _ _ | alreadyRegistered | notOpen => none

def hint : Fault → String
  | badAddress _ _ => "Address::parse"
  | badEndpoint _ _ => "Endpoint::parse"
  | unresolved _ _ _ => "getaddrinfo"
  | unsupportedFamily _ => "Address::resolve"
  | wrongKind _ _ => "create"
  | socketFailed _ _ => "socket"
  | bindFailed _ _ => "bind"
  | listenFailed _ _ => "listen"
  | acceptFailed _ => "accept"
  | connectFailed _ _ => "connect"
  | transferFailed _ call => call
  | closedByPeer => "recv"
  | setOptionFailed _ _ => "setsockopt"
  | getOptionFailed _ _ => "getsockopt"
  | closeFailed _ => "close"
  | wrongState operation _ => operation
  | badInterest _ _ => "register"
  | alreadyRegistered => "register"
  | notOpen => "Selector"
  | backendFailed _ call => call

def callMessage (call argument : String) (errno : Errno) : String :=
  call ++ "(" ++ argument ++ ") failed: " ++ errno.text

def message : Fault → String
  | badAddress input family => "invalid " ++ family ++ " address: " ++ Text.quoted input
  | badEndpoint input reason => "invalid endpoint " ++ Text.quoted input ++ ": " ++ reason
  | unresolved host code reason =>
      "cannot resolve " ++ Text.quoted host ++ ": " ++ reason ++
        " (code " ++ Numeral.signed code.toInt ++ ")"
  | unsupportedFamily family => "address family " ++ family ++ " is not supported here"
  | wrongKind protocol expected => protocol ++ " is not a " ++ expected ++ " protocol"
  | socketFailed errno protocol => callMessage "socket" protocol errno
  | bindFailed errno endpoint => callMessage "bind" endpoint errno
  | listenFailed errno backlog =>
      callMessage "listen" ("backlog=" ++ Numeral.signed backlog.toInt) errno
  | acceptFailed errno => callMessage "accept" "" errno
  | connectFailed errno endpoint => callMessage "connect" endpoint errno
  | transferFailed errno call => callMessage call "" errno
  | closedByPeer => "connection closed by peer"
  | setOptionFailed errno option => callMessage "setsockopt" option errno
  | getOptionFailed errno option => callMessage "getsockopt" option errno
  | closeFailed errno => callMessage "close" "" errno
  | wrongState operation state =>
      operation ++ " is not valid while the socket is " ++ state
  | badInterest requested valid =>
      "interest ops " ++ Numeral.binary requested.toNat ++ " not within valid ops " ++
        Numeral.binary valid.toNat
  | alreadyRegistered => "channel is already registered with another selector"
  | notOpen => "selector is not open"
  | backendFailed errno call => callMessage call "" errno

def ioKind : Fault → IoKind
  | badAddress _ _ | badEndpoint _ _ | badInterest _ _ => .invalidInput
  | unresolved _ _ _ => .notFound
  | unsupportedFamily _ | wrongKind _ _ => .unsupported
  | closedByPeer => .unexpectedEnd
  | wrongState _ _ | alreadyRegistered | notOpen => .other
  | socketFailed errno _ | bindFailed errno _ | listenFailed errno _ | acceptFailed errno
  | connectFailed errno _ | transferFailed errno _ | setOptionFailed errno _
  | getOptionFailed errno _ | closeFailed errno | backendFailed errno _ => errno.ioKind

end Fault

end SocketReactor
