import SocketReactor.Duration
import SocketReactor.Owner.Recipe

/-!
# Steps of a session

A session is a list of steps on named sockets, selectors and keys. Where a step needs a
port it may name one that an earlier step has saved.
-/

namespace SocketReactor.Session

inductive PortRef where
  | number (port : UInt16)
  | saved (name : String)
  deriving DecidableEq, Repr

/-- An endpoint that is still to be read: the literal of its address, its port if it is set,
and its scope. -/
structure Place where
  address : String
  port : Option PortRef
  scope : Option UInt32
  deriving DecidableEq, Repr

inductive Alarm where
  | wakeup
  | close
  deriving DecidableEq, Repr

inductive Step where
  | make (name : String) (recipe : Recipe)
  | makeServer (name : String) (builder : Setup.ServerBuilder) (host : String) (port : PortRef)
  | makeServerAt (name : String) (builder : Setup.ServerBuilder) (place : Place)
  | makeConnected (name : String) (builder : Setup.StreamBuilder) (host : String) (port : PortRef)
  | makeDatagram (name : String) (builder : Setup.DatagramBuilder) (host : String)
      (port : PortRef)
  | wrap (socket name : String)
  | take (socket name : String)
  | adopt (socket source : String)
  | accept (socket name : String)
  | drop (socket : String)
  | ask (socket : String) (command : Command)
  | bind (socket host : String) (port : PortRef)
  | bindAt (socket : String) (place : Place)
  | connect (socket host : String) (port : PortRef)
  | connectAt (socket : String) (place : Place)
  | sendTo (socket : String) (data : List UInt8) (place : Place)
  /-- Asks whether a buffer has at least some size. -/
  | holds (socket : String) (option : IntOption) (size : UInt64)
  | savePort (socket name : String)
  | showSocket (socket : String)
  /-- Closes the descriptor without telling its owner. -/
  | closeBehind (socket : String)
  /-- Sends until it would have to wait. -/
  | fill (socket : String)
  /-- Receives until nothing comes any more. -/
  | drain (socket : String)
  | register (socket selector : String) (interest : OpSet) (name : String)
      (attachment : Option String)
  | showChannel (socket : String)
  | newSelector (name : String) (selection : Setup.Selection)
  | openSelector (selector : String)
  | closeSelector (selector : String)
  | cloneSelector (selector name : String)
  | dropSelector (selector : String)
  | wakeup (selector : String)
  | isOpen (selector : String)
  | showSelector (selector : String)
  | keys (selector : String)
  /-- Lets another thread act on a selector after some milliseconds. -/
  | later (selector : String) (alarm : Alarm) (milliseconds : UInt64)
  | poll (selector : String) (limit : Option Duration) (countOnly : Bool)
  /-- Polls several times without waiting. -/
  | pollRepeatedly (selector : String) (times : Nat)
  /-- Registers without a channel and without a descriptor. -/
  | registerBare (selector : String) (validOps interest : OpSet) (name : String)
      (attachment : Option String)
  | showKey (key : String)
  | sameKey (first second : String)
  | setInterest (key : String) (interest : OpSet)
  | cancel (key : String)
  | attach (key : String) (attachment : Option String)
  deriving DecidableEq, Repr

namespace Step

def socket? : Step → Option String
  | wrap socket _ | take socket _ | adopt socket _ | accept socket _ | drop socket
  | ask socket _ | bind socket _ _ | bindAt socket _ | connect socket _ _ | connectAt socket _
  | sendTo socket _ _ | holds socket _ _ | savePort socket _ | showSocket socket
  | closeBehind socket | fill socket | drain socket | register socket _ _ _ _
  | showChannel socket => some socket
  | _ => none

/-- The pause before a step, in microseconds, in which what was sent arrives. -/
def pause : Step → Nat
  | accept _ _ | sendTo _ _ _ | poll _ _ _ | pollRepeatedly _ _ => 1000
  | ask _ command => match command with
    | .finishConnect | .send _ | .receive _ | .receiveFrom _ | .readOctets _ | .writeOctets _
    | .readOption .pendingError => 1000
    | _ => 0
  | _ => 0

end Step

end SocketReactor.Session
