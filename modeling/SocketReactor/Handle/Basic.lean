import SocketReactor.Host.Program

/-!
# Handles

A handle is what is stored of a socket: seven fields that its methods write one by one.
Nothing in their types ties them to each other. A method runs on the fields and may end
with a fault; what it has written before stays written.
-/

namespace SocketReactor

inductive SocketState where
  | closed
  | created
  /-- Listening or connected. -/
  | opened
  /-- A connection is being made. -/
  | opening
  deriving DecidableEq, Repr

instance : Inhabited SocketState := ⟨.closed⟩

def SocketState.name : SocketState → String
  | closed => "closed"
  | created => "created"
  | opened => "open"
  | opening => "opening"

/-- The bit that is set once a half has been shut down. -/
def Half.bit : Half → UInt8
  | read => 0b01
  | write => 0b10

structure Handle where
  descriptor? : Option Descriptor
  state : SocketState
  /-- The bits of the halves that have been shut down. -/
  shut : UInt8
  protocol? : Option Protocol
  bound : Bool
  listening : Bool
  /-- Where a connection is being made to. -/
  target? : Option Endpoint
  deriving DecidableEq, Repr

namespace Handle

variable {α : Type}

def empty : Handle := ⟨none, .closed, 0, none, false, false, none⟩

instance : Inhabited Handle := ⟨empty⟩

/-- The descriptor that calls are made with, -1 without one. -/
def descriptor (handle : Handle) : Descriptor := handle.descriptor?.getD Descriptor.absent

def isShut (handle : Handle) (half : Half) : Bool := handle.shut &&& half.bit ≠ 0

def isStream (handle : Handle) : Bool := handle.protocol?.any (·.kind = .stream)

def require (handle : Handle) (operation : String) (allowed : List SocketState) :
    Except Fault Unit :=
  if handle.state ∈ allowed then .ok () else .error (.wrongState operation handle.state.name)

/-- The family of the handle's addresses; sockets within the host have none. -/
def family (handle : Handle) : Except Fault Family :=
  match handle.protocol? with
  | none => .error (.wrongState "resolve" handle.state.name)
  | some protocol => match protocol.family with
    | .unix => .error (.unsupportedFamily Family.unix.name)
    | family => .ok family

def checkFamily (handle : Handle) (endpoint : Endpoint) : Except Fault Unit := do
  if endpoint.family ≠ (← handle.family) then
    throw (.unsupportedFamily endpoint.family.name)

abbrev Method (α : Type) := ExceptT Fault (StateT Handle Program) α

/-- An attempt does not see the fields. -/
instance : MonadLift Attempt Method where
  monadLift attempt := ExceptT.mk (StateT.lift attempt.run)

/-- Runs a method; gives its outcome and the fields that it leaves. -/
def Method.on (method : Method α) (handle : Handle) : Program (Except Fault α × Handle) :=
  method.run.run handle

end Handle

end SocketReactor
