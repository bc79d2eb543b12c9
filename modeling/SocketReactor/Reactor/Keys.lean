import SocketReactor.Reactor.Basic

/-!
# Keys of a reactor

Registering channels with selectors and acting on the keys. A channel has one key at a
time: registering again with the selector of a key that counts changes that key, and
registering with another selector is refused.
-/

namespace SocketReactor.Reactor

def setInterest (reactor : Reactor) (id : KeyId) (interest : OpSet) :
    Program (Except Fault Unit × Reactor) :=
  reactor.onSelector id.selector (.error Selector.cancelled)
    fun selector => selector.setInterest id.serial interest

def cancel (reactor : Reactor) (id : KeyId) : Program Reactor :=
  reactor.stepSelector id.selector fun selector => selector.cancel id.serial

/-- Replaces the attachment of a key; gives the one before. -/
def attach (reactor : Reactor) (id : KeyId) (attachment : Option String) :
    Option String × Reactor :=
  match reactor.selector? id.selector with
  | none => (none, reactor)
  | some selector =>
      let (previous, after) := selector.attach id.serial attachment
      (previous, reactor.setSelector id.selector after)

def registerNew (reactor : Reactor) (name : String) (channel : Channel) (selector : Nat)
    (interest : OpSet) (attachment : Option String) : Program (Except Fault KeyId × Reactor) := do
  let (outcome, after) ← reactor.onSelector selector (.error .notOpen) fun selector =>
    selector.register channel.socket.descriptor channel.use.validOps interest attachment
  match outcome with
  | .ok serial =>
      let id : KeyId := ⟨selector, serial⟩
      return (.ok id, after.setOwner name (.watchable { channel with key := some id }))
  | .error fault => return (.error fault, after)

/-- Changes the interest and the attachment of a key that a channel already has. -/
def registerAgain (reactor : Reactor) (id : KeyId) (interest : OpSet)
    (attachment : Option String) : Program (Except Fault KeyId × Reactor) := do
  let (outcome, after) ← reactor.setInterest id interest
  match outcome with
  | .ok () => return (.ok id, (after.attach id attachment).2)
  | .error fault => return (.error fault, after)

def registerChannel (reactor : Reactor) (name : String) (channel : Channel) (selector : Nat)
    (interest : OpSet) (attachment : Option String) : Program (Except Fault KeyId × Reactor) :=
  match Key.checkInterest channel.use.validOps interest with
  | .error fault => return (.error fault, reactor)
  | .ok () => match channel.key.filter reactor.isValid with
    | none => reactor.registerNew name channel selector interest attachment
    | some id =>
        if id.selector = selector then reactor.registerAgain id interest attachment
        else return (.error .alreadyRegistered, reactor)

def register (reactor : Reactor) (name : String) (selector : Nat) (interest : OpSet)
    (attachment : Option String) : Program (Except Refusal KeyId × Reactor) :=
  match reactor.owner? name with
  | none => return (.error (.unknown .socket name), reactor)
  | some (.watchable channel) => do
      let (outcome, after) ←
        reactor.registerChannel name channel selector interest attachment
      return (outcome.mapError .fault, after)
  | some _ => return (.error .notOffered, reactor)

def unregister (reactor : Reactor) (name : String) : Program Reactor :=
  match reactor.owner? name with
  | some (.watchable channel) => do
      let forgotten := reactor.setOwner name (.watchable { channel with key := none })
      match channel.key with
      | some id => forgotten.cancel id
      | none => return forgotten
  | _ => return reactor

end SocketReactor.Reactor
