import SocketReactor.Handle.Command

/-!
# What a caller does with its handles

A caller may hold any number of handles. They are numbered in the order of their birth,
and a handle that has been dropped or moved elsewhere leaves its number empty.
-/

namespace SocketReactor

/-- One thing that a caller does with the handles it holds. -/
inductive Deed where
  | new
  | openNew (protocol : Protocol)
  | ask (number : Nat) (command : Command)
  | accept (number : Nat)
  /-- Moves the fields of a handle into a new one. -/
  | take (number : Nat)
  /-- Moves another handle into one. -/
  | adopt (number other : Nat)
  | drop (number : Nat)
  deriving DecidableEq, Repr

abbrev Rack := List (Option Handle)

namespace Rack

def held? (rack : Rack) (number : Nat) : Option Handle := rack[number]?.join

def visit (rack : Rack) (number : Nat) (step : Handle → Program (Option Failure × Rack)) :
    Program (Option Failure × Rack) :=
  match rack.held? number with
  | none => return (none, rack)
  | some handle => step handle

/-- Carries a deed out. Gives why it failed, if it did. -/
def act (rack : Rack) : Deed → Program (Option Failure × Rack)
  | .new => return (none, rack ++ [some .empty])
  | .openNew protocol => do
      match ← (Handle.openNew protocol).run with
      | .ok handle => return (none, rack ++ [some handle])
      | .error fault => return (some (.fault fault), rack)
  | .ask number command => rack.visit number fun handle => do
      match ← handle.perform command with
      | (.ok _, after) => return (none, rack.set number (some after))
      | (.error failure, after) => return (some failure, rack.set number (some after))
  | .accept number => rack.visit number fun handle => do
      match ← handle.accept.run with
      | .ok (.accepted value _) => return (none, rack ++ [some value])
      | .ok .wouldBlock | .ok .interrupted => return (none, rack)
      | .error fault => return (some (.fault fault), rack)
  | .take number => rack.visit number fun handle =>
      return (none, rack.set number (some handle.take.2) ++ [some handle.take.1])
  | .adopt number other =>
      -- Nothing can be moved into itself.
      if number = other then return (none, rack)
      else rack.visit number fun handle => rack.visit other fun moved =>
        match handle.adopt moved with
        | .ok after => return (none, (rack.set other none).set number (some after))
        | .error misuse => do
            moved.discard
            return (some (.misuse misuse), rack.set other none)
  | .drop number => rack.visit number fun handle => do
      handle.discard
      return (none, rack.set number none)

end Rack

end SocketReactor
