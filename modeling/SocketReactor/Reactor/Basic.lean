import SocketReactor.Owner.Recipe
import SocketReactor.Selector.Poll
import SocketReactor.Selector.Registration

/-!
# The reactor

All owners of sockets under their names and all selectors under their numbers. A name that
is used again lets go of what it named before.
-/

namespace SocketReactor

structure Reactor where
  owners : Table String Owner
  selectors : Table Nat Selector
  /-- How many selectors have been made. -/
  made : Nat
  deriving DecidableEq

inductive Noun where
  | socket
  | selector
  | key
  | port
  deriving DecidableEq, Repr

/-- The word for what a name was expected to stand for. -/
def Noun.word : Noun → String
  | socket => "socket"
  | selector => "selector"
  | key => "key"
  | port => "port"

inductive Refusal where
  /-- Nothing has that name. -/
  | unknown (noun : Noun) (name : String)
  /-- A stream was asked for, and the name stands for none. -/
  | noStream
  /-- The owner does not offer the command. -/
  | notOffered
  | failed (failure : Failure)
  deriving DecidableEq, Repr

def Refusal.fault (fault : Fault) : Refusal := failed (.fault fault)

namespace Reactor

def empty : Reactor := ⟨∅, ∅, 0⟩

instance : EmptyCollection Reactor := ⟨empty⟩

instance : Inhabited Reactor := ⟨empty⟩

def owner? (reactor : Reactor) (name : String) : Option Owner := reactor.owners.get? name

def selector? (reactor : Reactor) (id : Nat) : Option Selector := reactor.selectors.get? id

def key? (reactor : Reactor) (id : KeyId) : Option Key :=
  (reactor.selector? id.selector).bind fun selector => selector.key? id.serial

def isValid (reactor : Reactor) (id : KeyId) : Bool := (reactor.key? id).any Key.valid

def validKey? (reactor : Reactor) (owner : Owner) : Option KeyId :=
  owner.key?.filter reactor.isValid

def setOwner (reactor : Reactor) (name : String) (owner : Owner) : Reactor :=
  { reactor with owners := reactor.owners.insert name owner }

def setSocket (reactor : Reactor) (name : String) (socket : Socket) : Reactor :=
  { reactor with owners := reactor.owners.modify name (·.withSocket socket) }

/-- Puts a selector in the place of the one with a number. -/
def setSelector (reactor : Reactor) (id : Nat) (selector : Selector) : Reactor :=
  { reactor with selectors := reactor.selectors.insert id selector }

theorem owner?_setOwner (reactor : Reactor) (name other : String) (owner : Owner) :
    (reactor.setOwner name owner).owner? other =
      if other = name then some owner else reactor.owner? other :=
  Table.get?_insert reactor.owners name other owner

theorem owner?_setSocket (reactor : Reactor) (name other : String) (socket : Socket) :
    (reactor.setSocket name socket).owner? other =
      if other = name then (reactor.owner? other).map (·.withSocket socket)
      else reactor.owner? other :=
  Table.get?_modify reactor.owners name other (·.withSocket socket)

theorem selector?_setSelector (reactor : Reactor) (id other : Nat) (selector : Selector) :
    (reactor.setSelector id selector).selector? other =
      if other = id then some selector else reactor.selector? other :=
  Table.get?_insert reactor.selectors id other selector

@[simp] theorem selector?_setOwner (reactor : Reactor) (name : String) (owner : Owner) (id : Nat) :
    (reactor.setOwner name owner).selector? id = reactor.selector? id := rfl

def onSelector {α : Type} (reactor : Reactor) (id : Nat) (absent : α)
    (step : Selector → Program (α × Selector)) : Program (α × Reactor) :=
  match reactor.selector? id with
  | none => return (absent, reactor)
  | some selector => do
      let (result, after) ← step selector
      return (result, reactor.setSelector id after)

def stepSelector (reactor : Reactor) (id : Nat) (step : Selector → Program Selector) :
    Program Reactor :=
  match reactor.selector? id with
  | none => return reactor
  | some selector => do
      let after ← step selector
      return reactor.setSelector id after

def addSelector (reactor : Reactor) (selection : Setup.Selection) : Nat × Reactor :=
  (reactor.made, { reactor.setSelector reactor.made (.new selection) with made := reactor.made + 1 })

end Reactor

end SocketReactor
