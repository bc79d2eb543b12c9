import SocketReactor.Handle.Basic
import SocketReactor.Lookup
import SocketReactor.Socket.Options

/-!
# The life of a handle

The methods that write the fields of a handle. Connecting writes a provisional state
before its call, and closing clears the fields before the descriptor is given back. Two
methods on a handle that still owns a descriptor are a mistake of the caller and not a
fault.
-/

namespace SocketReactor

/-- A mistake of the caller: the handle still owns a descriptor. -/
inductive Misuse where
  | create (descriptor : Descriptor)
  | adopt (descriptor : Descriptor)
  deriving DecidableEq, Repr

/-- The text that names the mistake, and the descriptor as `shown` writes it. -/
def Misuse.message (shown : Descriptor → String) : Misuse → String
  | create descriptor =>
      "SocketHandle::create on a handle that already owns fd " ++ shown descriptor
  | adopt descriptor =>
      "SocketHandle::adopt into a handle that still owns fd " ++ shown descriptor

inductive Connection where
  | connected
  | inProgress
  deriving DecidableEq, Repr

inductive Accepted (α : Type) where
  | accepted (value : α) (peer : Endpoint)
  /-- No connection is queued. -/
  | wouldBlock
  /-- A signal interrupted the call. -/
  | interrupted
  deriving DecidableEq, Repr

def Accepted.map {α β : Type} (change : α → β) : Accepted α → Accepted β
  | accepted value peer => accepted (change value) peer
  | wouldBlock => wouldBlock
  | interrupted => interrupted

namespace Handle

/-- Gets a descriptor from the host and begins a new life with it. -/
def allocate (protocol : Protocol) : Method Unit := do
  let descriptor ← Attempt.ofCall
    (Program.request (.socket protocol.family protocol.kind protocol.number))
    (.socketFailed · protocol.text)
  modify ({ · with
    descriptor? := some descriptor
    state := .created
    shut := 0
    protocol? := some protocol
    bound := false
    listening := false
    target? := none })

def create (handle : Handle) (protocol : Protocol) : Except Misuse (Method Unit) :=
  match handle.descriptor? with
  | some descriptor => .error (.create descriptor)
  | none => .ok (allocate protocol)

def openNew (protocol : Protocol) : Attempt Handle := ExceptT.mk do
  let (outcome, handle) ← (allocate protocol).on empty
  return outcome.map fun () => handle

def bindEndpoint (endpoint : Endpoint) : Method Unit := do
  let handle ← get
  Attempt.ofExcept (handle.require "bind" [.created])
  Attempt.ofExcept (handle.checkFamily endpoint)
  Attempt.ofCall (Program.request (.bind handle.descriptor endpoint.wire))
    (.bindFailed · endpoint.toText)
  modify ({ · with bound := true })

/-- The endpoint of a host and port in the handle's family, once `operation` is allowed. -/
def endpointOf (handle : Handle) (operation : String) (host : String) (port : UInt16) :
    Attempt Endpoint := do
  Attempt.ofExcept (handle.require operation [.created])
  let family ← Attempt.ofExcept handle.family
  return .new (← Lookup.resolve host family) port

/-- Binds to a host and port; port 0 leaves the choice to the host. -/
def bind (host : String) (port : UInt16) : Method Unit := do
  let endpoint ← (← get).endpointOf "bind" host port
  bindEndpoint endpoint

def listen (backlog : Int32) : Method Unit := do
  let handle ← get
  Attempt.ofExcept (handle.require "listen" [.created])
  if !handle.bound then throw (.wrongState "listen" "created but not bound")
  Attempt.ofCall (Program.request (.listen handle.descriptor backlog)) (.listenFailed · backlog)
  modify ({ · with state := .opened, listening := true })

/-- Takes a queued connection as a new handle of the listener's protocol. The listener is
borrowed and stays as it is. -/
def accept (handle : Handle) : Attempt (Accepted Handle) := do
  Attempt.ofExcept (handle.require "accept" [.opened])
  if !handle.listening then throw (.wrongState "accept" "open but not listening")
  match ← Attempt.ofProgram (Program.request (.accept handle.descriptor)) with
  | .ok (descriptor, peer) => match peer.endpoint with
    | .ok peer =>
        return .accepted ⟨some descriptor, .opened, 0, handle.protocol?, true, false, none⟩ peer
    | .error fault => do
        let _ ← Attempt.ofProgram (Program.request (.close descriptor))
        throw fault
  | .error errno =>
      if errno = .tryAgain then return .wouldBlock
      else if errno = .interrupted then return .interrupted
      else throw (.acceptFailed errno)

/-- Connects to an endpoint. A connection that is still being made leaves its target. -/
def connectEndpoint (endpoint : Endpoint) : Method Connection := do
  let handle ← get
  Attempt.ofExcept (handle.require "connect" [.created])
  Attempt.ofExcept (handle.checkFamily endpoint)
  modify ({ · with state := .opening })
  match ← Attempt.ofProgram (Program.request (.connect handle.descriptor endpoint.wire)) with
  | .ok () => do
      modify ({ · with state := .opened })
      return .connected
  | .error errno =>
      if errno = .inProgress ∨ errno = .interrupted then do
        modify ({ · with target? := some endpoint })
        return .inProgress
      else do
        modify ({ · with state := .created })
        throw (.connectFailed errno endpoint.toText)

def connect (host : String) (port : UInt16) : Method Connection := do
  let endpoint ← (← get).endpointOf "connect" host port
  connectEndpoint endpoint

/-- Asks whether a pending connection has been made. A refused one is reported once, and
the handle may connect again. -/
def finishConnect : Method Bool := do
  let handle ← get
  match handle.state with
  | .opened =>
      if !handle.listening then return true
      else throw (.wrongState "finish_connect" SocketState.opened.name)
  | .opening => do
      let endpoint := (handle.target?.map Endpoint.toText).getD ""
      match ← handle.descriptor.takeError with
      | some errno => do
          modify ({ · with state := .created, target? := none })
          throw (.connectFailed errno endpoint)
      | none => match ← Attempt.ofProgram (Program.request (.peerName handle.descriptor)) with
        | .ok _ => do
            modify ({ · with state := .opened, target? := none })
            return true
        | .error errno =>
            if errno = .notConnected then return false
            else throw (.transferFailed errno "getpeername")
  | state => throw (.wrongState "finish_connect" state.name)

def shutdownName : Half → String
  | .read => "shutdown_read"
  | .write => "shutdown_write"

/-- Shuts one half of a connection down; a half that is down already stays so. -/
def shutdown (half : Half) : Method Unit := do
  let handle ← get
  Attempt.ofExcept (handle.require (shutdownName half) [.opened, .opening])
  if handle.isShut half then return ()
  Attempt.ofCall (Program.request (.shutdown handle.descriptor half))
    (.transferFailed · "shutdown")
  modify fun handle => { handle with shut := handle.shut ||| half.bit }

/-- Gives the descriptor back. The fields are cleared whatever the host replies; the
protocol is remembered. -/
def close : Method Unit := do
  match (← get).descriptor? with
  | none => return ()
  | some descriptor => do
      modify ({ · with
        descriptor? := none
        state := .closed
        shut := 0
        bound := false
        listening := false
        target? := none })
      Attempt.ofCall (Program.request (.close descriptor)) .closeFailed

def discard (handle : Handle) : Program Unit := do
  let _ ← close.on handle

/-- Moves the fields out of a handle. Gives what was held and what is left. -/
def take (handle : Handle) : Handle × Handle := (handle, empty)

/-- Moves another handle into one that owns nothing. -/
def adopt (handle other : Handle) : Except Misuse Handle :=
  match handle.descriptor? with
  | some descriptor => .error (.adopt descriptor)
  | none => .ok other

end Handle

end SocketReactor
