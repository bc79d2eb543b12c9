import SocketReactor.Reactor.Keys

/-!
# Sockets of a reactor

Making, asking and dropping named owners of sockets. The key of a channel is cancelled
before its descriptor is given back, and a new owner is made before the older one of its
name goes.
-/

namespace SocketReactor.Reactor

/-- Lets an owner go that no name stands for any more. -/
def dispose (reactor : Reactor) (owner : Owner) : Program Reactor := do
  let cancelled ← match owner.key? with
    | some id => reactor.cancel id
    | none => pure reactor
  owner.socket.discard
  return cancelled

def place (reactor : Reactor) (name : String) (owner : Owner) : Program Reactor :=
  match reactor.owner? name with
  | none => return reactor.setOwner name owner
  | some older => (reactor.setOwner name owner).dispose older

def drop (reactor : Reactor) (name : String) : Program (Except Refusal Unit × Reactor) :=
  match reactor.owner? name with
  | none => return (.error (.unknown .socket name), reactor)
  | some owner => do
      let after ← { reactor with owners := reactor.owners.erase name }.dispose owner
      return (.ok (), after)

/-- Makes an owner under a name. If that fails, the name keeps the owner that it had. -/
def make (reactor : Reactor) (name : String) (recipe : Recipe) :
    Program (Except Refusal Unit × Reactor) := do
  match ← recipe.make.run with
  | .error fault => return (.error (.fault fault), reactor)
  | .ok owner => return (.ok (), ← reactor.place name owner)

/-- Carries a command out on the socket of a name. Closing a channel cancels its key first. -/
def ask (reactor : Reactor) (name : String) (access : Access) (command : Command) :
    Program (Except Refusal Reply × Reactor) :=
  match reactor.owner? name with
  | none => return (.error (.unknown .socket name), reactor)
  | some owner =>
      if !owner.grants access command then return (.error .notOffered, reactor)
      else do
        let before ← if command = .close then reactor.unregister name else pure reactor
        let (outcome, socket) ← owner.socket.perform command
        return (outcome.mapError .failed, before.setSocket name socket)

def accept (reactor : Reactor) (listener : String) (access : Access) (name : String) :
    Program (Except Refusal (Accepted Unit) × Reactor) :=
  match reactor.owner? listener with
  | none => return (.error (.unknown .socket listener), reactor)
  | some owner => match (owner.lend access).filter Owner.takesConnections with
    | none => return (.error .notOffered, reactor)
    | some lent => do
        match ← lent.accept.run with
        | .error fault => return (.error (.fault fault), reactor)
        | .ok (.accepted connection peer) =>
            return (.ok (.accepted () peer), ← reactor.place name connection)
        | .ok .wouldBlock => return (.ok .wouldBlock, reactor)
        | .ok .interrupted => return (.ok .interrupted, reactor)

def take (reactor : Reactor) (source name : String) : Program (Except Refusal Unit × Reactor) :=
  match reactor.owner? source with
  | some (.handle socket) => do
      let (held, left) := socket.take
      let after ← (reactor.setOwner source (.handle left)).place name (.handle held)
      return (.ok (), after)
  | some _ => return (.error .notOffered, reactor)
  | none => return (.error (.unknown .socket source), reactor)

/-- Moves what a handle holds into another handle. If that still owns a descriptor, or
there is no such handle, what was held is closed. -/
def adopt (reactor : Reactor) (name source : String) : Program (Except Refusal Unit × Reactor) :=
  match reactor.owner? source with
  | some (.handle socket) =>
      let (held, left) := socket.take
      let between := reactor.setOwner source (.handle left)
      match between.owner? name with
      | some (.handle receiver) => match receiver.adopt held with
        | .ok after => return (.ok (), between.setOwner name (.handle after))
        | .error misuse => do
            held.discard
            return (.error (.failed (.misuse misuse)), between)
      | some _ => do
          held.discard
          return (.error .notOffered, between)
      | none => do
          held.discard
          return (.error (.unknown .socket name), between)
  | some _ => return (.error .notOffered, reactor)
  | none => return (.error (.unknown .socket source), reactor)

/-- Makes a channel of a stream. The stream's name no longer stands for it, also if that
fails. -/
def wrap (reactor : Reactor) (source name : String) : Program (Except Refusal Unit × Reactor) :=
  match reactor.owner? source with
  | some (.typed .stream socket) => do
      let without := { reactor with owners := reactor.owners.erase source }
      match ← (Channel.ofSocket .stream socket).run with
      | .ok channel => return (.ok (), ← without.place name (.watchable channel))
      | .error fault => return (.error (.fault fault), without)
  | _ => return (.error .noStream, reactor)

end SocketReactor.Reactor
