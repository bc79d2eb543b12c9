import SocketReactor.Handle.Basic

/-!
# Sockets

A socket owns at most one descriptor of the host. It is closed, or it is live and
then holds its protocol, the halves that were shut down, and the stage that it has
reached. `Socket.state` is the state as callers see it. What is done to a socket is done
to its handle: `Handle.ofSocket` gives the fields, and `Handle.socket` reads them.
-/

namespace SocketReactor

inductive Stage where
  | fresh
  | listening
  | connected
  | connecting (target : Endpoint)
  deriving DecidableEq, Repr

def Stage.state : Stage → SocketState
  | fresh => .created
  | listening | connected => .opened
  | connecting _ => .opening

structure LiveSocket where
  descriptor : Descriptor
  protocol : Protocol
  bound : Bool
  readShut : Bool
  writeShut : Bool
  stage : Stage
  deriving DecidableEq, Repr

inductive Socket where
  | closed (last : Option Protocol)
  | live (parts : LiveSocket)
  deriving DecidableEq, Repr

namespace Socket

def empty : Socket := closed none

instance : Inhabited Socket := ⟨empty⟩

def live? : Socket → Option LiveSocket
  | live parts => some parts
  | closed _ => none

def owned? (socket : Socket) : Option Descriptor := socket.live?.map LiveSocket.descriptor

/-- The descriptor that calls are made with, -1 for a closed socket. -/
def descriptor (socket : Socket) : Descriptor := socket.owned?.getD Descriptor.absent

def state : Socket → SocketState
  | live parts => parts.stage.state
  | closed _ => .closed

def protocol? : Socket → Option Protocol
  | live parts => some parts.protocol
  | closed last => last

def isValid (socket : Socket) : Bool := socket.owned?.isSome

def isBound (socket : Socket) : Bool := socket.live?.any LiveSocket.bound

def isListening (socket : Socket) : Bool := socket.live?.any (·.stage = .listening)

def isConnected (socket : Socket) : Bool := socket.state = .opened && !socket.isListening

def isConnecting (socket : Socket) : Bool := socket.state = .opening

def isReadShut (socket : Socket) : Bool := socket.live?.any LiveSocket.readShut

def isWriteShut (socket : Socket) : Bool := socket.live?.any LiveSocket.writeShut

def target? (socket : Socket) : Option Endpoint :=
  match socket.live?.map LiveSocket.stage with
  | some (.connecting target) => some target
  | _ => none

def isStream (socket : Socket) : Bool := socket.protocol?.any (·.kind = .stream)

theorem isValid_iff (socket : Socket) : socket.isValid = true ↔ socket.state ≠ .closed := by
  cases socket with
  | closed last => simp [isValid, owned?, live?, state]
  | live parts =>
      cases stage : parts.stage <;>
        simp [isValid, owned?, live?, state, stage, Stage.state]

end Socket

namespace LiveSocket

/-- The family of the socket's addresses; sockets within the host have none. -/
def addressFamily (parts : LiveSocket) : Except Fault Family :=
  match parts.protocol.family with
  | .unix => .error (.unsupportedFamily Family.unix.name)
  | family => .ok family

def checkFamily (parts : LiveSocket) (endpoint : Endpoint) : Except Fault Unit := do
  if endpoint.family ≠ (← parts.addressFamily) then
    throw (.unsupportedFamily endpoint.family.name)

end LiveSocket

/-! ## Sockets as handles -/

def Stage.target? : Stage → Option Endpoint
  | connecting target => some target
  | fresh | listening | connected => none

namespace Handle

variable {α : Type}

def shutBits (readShut writeShut : Bool) : UInt8 :=
  (if readShut then Half.read.bit else 0) ||| if writeShut then Half.write.bit else 0

def ofSocket : Socket → Handle
  | .closed last => { empty with protocol? := last }
  | .live parts =>
      { descriptor? := some parts.descriptor
        state := parts.stage.state
        shut := shutBits parts.readShut parts.writeShut
        protocol? := some parts.protocol
        bound := parts.bound
        listening := parts.stage = .listening
        target? := parts.stage.target? }

def stage (handle : Handle) : Stage :=
  match handle.state, handle.target? with
  | .opening, some target => .connecting target
  | .opened, _ => if handle.listening then .listening else .connected
  | _, _ => .fresh

def socket (handle : Handle) : Socket :=
  match handle.descriptor?, handle.protocol? with
  | some descriptor, some protocol =>
      .live ⟨descriptor, protocol, handle.bound, handle.isShut .read, handle.isShut .write,
        handle.stage⟩
  | _, last => .closed last

theorem shutBits_and_bit (readShut writeShut : Bool) (half : Half) :
    decide (shutBits readShut writeShut &&& half.bit ≠ 0) =
      match half with
      | .read => readShut
      | .write => writeShut := by
  cases readShut <;> cases writeShut <;> cases half <;> decide

/-- A handle whose bits are those of two halves. -/
theorem socket_live (descriptor : Descriptor) (state : SocketState) (readShut writeShut : Bool)
    (protocol : Protocol) (bound listening : Bool) (target? : Option Endpoint) :
    socket ⟨some descriptor, state, shutBits readShut writeShut, some protocol, bound, listening,
        target?⟩ =
      .live ⟨descriptor, protocol, bound, readShut, writeShut,
        stage ⟨some descriptor, state, shutBits readShut writeShut, some protocol, bound,
          listening, target?⟩⟩ := by
  simp only [socket, isShut, shutBits_and_bit]

@[simp] theorem socket_ofSocket (socket : Socket) : (ofSocket socket).socket = socket := by
  cases socket with
  | closed last => rfl
  | live parts =>
      obtain ⟨descriptor, protocol, bound, readShut, writeShut, stage⟩ := parts
      rw [ofSocket, socket_live]
      cases stage <;> rfl

end Handle

def Socket.through {α : Type} (socket : Socket) (method : Handle.Method α) :
    Program (Except Fault α × Socket) := do
  let (outcome, handle) ← method.on (.ofSocket socket)
  return (outcome, handle.socket)

end SocketReactor
