import SocketReactor.Proofs.Host.Runs
import SocketReactor.Reactor.Sockets

/-!
# Runs of a reactor

Everything that callers can do with owners, keys and selectors, and the runs
that are made of such operations one after the other.  What happened in a run is
kept as a list of entries.
-/

namespace SocketReactor

inductive Operation where
  | make (name : String) (recipe : Recipe)
  | accept (listener : String) (access : Access) (name : String)
  | wrap (source name : String)
  | take (source name : String)
  | adopt (name source : String)
  | ask (name : String) (access : Access) (command : Command)
  | drop (name : String)
  | register (name : String) (selector : Nat) (interest : OpSet) (attachment : Option String)
  | setInterest (id : KeyId) (interest : OpSet)
  | cancel (id : KeyId)
  | attach (id : KeyId) (attachment : Option String)
  | newSelector (selection : Setup.Selection)
  | openSelector (id : Nat)
  | poll (id : Nat) (limit : Option Duration)
  | wakeup (id : Nat)
  | closeSelector (id : Nat)
  | dropSelector (id : Nat)
  deriving DecidableEq

namespace Operation

/-- The type of the result of an operation. -/
@[reducible] def Result : Operation → Type
  | make _ _ | wrap _ _ | take _ _ | adopt _ _ | drop _ => Except Refusal Unit
  | accept _ _ _ => Except Refusal (Accepted Unit)
  | ask _ _ _ => Except Refusal Reply
  | register _ _ _ _ => Except Refusal KeyId
  | setInterest _ _ | openSelector _ | wakeup _ => Except Fault Unit
  | poll _ _ => Except Fault (List Nat)
  | attach _ _ => Option String
  | newSelector _ => Nat
  | cancel _ | closeSelector _ | dropSelector _ => Unit

def perform (reactor : Reactor) : (operation : Operation) → Program (operation.Result × Reactor)
  | make name recipe => reactor.make name recipe
  | accept listener access name => reactor.accept listener access name
  | wrap source name => reactor.wrap source name
  | take source name => reactor.take source name
  | adopt name source => reactor.adopt name source
  | ask name access command => reactor.ask name access command
  | drop name => reactor.drop name
  | register name selector interest attachment =>
      reactor.register name selector interest attachment
  | setInterest id interest => reactor.setInterest id interest
  | cancel id => do return ((), ← reactor.cancel id)
  | attach id attachment => return reactor.attach id attachment
  | newSelector selection => return reactor.addSelector selection
  | openSelector id => reactor.onSelector id (.error .notOpen) Selector.openBackend
  | poll id limit => reactor.onSelector id (.error .notOpen) (·.poll limit)
  | wakeup id => reactor.onSelector id (.error .notOpen) Selector.wakeup
  | closeSelector id => do return ((), ← reactor.stepSelector id Selector.close)
  | dropSelector id => do return ((), ← reactor.stepSelector id Selector.finish)

/-- Whether an operation asks for a connection on a key: a change of the key's interest, or
another registration of the channel that has the key, with connecting in it. -/
def Asks (reactor : Reactor) (key : KeyId) : Operation → Prop
  | setInterest id interest => id = key ∧ interest.connect = true
  | register name selector interest _ => selector = key.selector ∧ interest.connect = true ∧
      ∃ owner, reactor.owner? name = some owner ∧ reactor.validKey? owner = some key
  | _ => False

def Polls (selector : Nat) : Operation → Prop
  | poll id _ => id = selector
  | _ => False

def Commands (name : String) (command : Command) : Operation → Prop
  | ask target _ given => target = name ∧ given = command
  | _ => False

end Operation

/-- An operation of a run with its result and the reactor before and after it. -/
structure Entry where
  before : Reactor
  operation : Operation
  result : operation.Result
  after : Reactor

/-- What has happened when the operations of a list have been carried out, the last entry
being the latest operation. -/
inductive History {σ : Type} (answers : Answering σ) (start : Reactor) (origin : σ) :
    List Entry → Reactor → σ → Prop where
  | nil : History answers start origin [] start origin
  | snoc {trace : List Entry} {before after : Reactor} {state later : σ}
      {operation : Operation} {result : operation.Result}
      (past : History answers start origin trace before state)
      (run : (operation.perform before).Runs answers state (result, after) later) :
      History answers start origin (trace ++ [⟨before, operation, result, after⟩]) after later

namespace History

variable {σ : Type} {answers : Answering σ} {start reactor : Reactor} {origin state : σ}
  {trace : List Entry}

/-- A history with one more operation before it. -/
theorem cons {before : Reactor} {former : σ} {operation : Operation}
    {result : operation.Result}
    (run : (operation.perform before).Runs answers former (result, start) origin)
    (history : History answers start origin trace reactor state) :
    History answers before former (⟨before, operation, result, start⟩ :: trace)
      reactor state := by
  induction history with
  | nil => exact History.nil.snoc run
  | snoc _ last ih => exact ih.snoc last

/-- A history carries over to every host that allows the answers. -/
theorem mono {other : Answering σ}
    (admits : ∀ call before reply later, answers call before reply later →
      other call before reply later)
    (history : History answers start origin trace reactor state) :
    History other start origin trace reactor state := by
  induction history with
  | nil => exact .nil
  | snoc _ run ih => exact ih.snoc (run.mono id admits)

end History

/-- Something has happened in a run, and something has been the case ever since. -/
def EverSince (event still : Entry → Prop) (trace : List Entry) : Prop :=
  ∃ past entry rest, trace = past ++ entry :: rest ∧ event entry ∧
    ∀ other ∈ entry :: rest, still other

theorem everSince_of_last {event still : Entry → Prop} {entry : Entry} (happens : event entry)
    (now : still entry) (trace : List Entry) : EverSince event still (trace ++ [entry]) :=
  ⟨trace, entry, [], rfl, happens, fun _ mem => List.mem_singleton.mp mem ▸ now⟩

theorem EverSince.snoc {event still : Entry → Prop} {trace : List Entry} {entry : Entry}
    (since : EverSince event still trace) (now : still entry) :
    EverSince event still (trace ++ [entry]) := by
  obtain ⟨past, first, rest, rfl, happened, lasts⟩ := since
  refine ⟨past, first, rest ++ [entry], ?_, happened, fun other mem => ?_⟩
  · rw [List.append_assoc, List.cons_append]
  · rw [← List.cons_append] at mem
    rcases List.mem_append.mp mem with older | newest
    · exact lasts other older
    · exact List.mem_singleton.mp newest ▸ now

def replay {σ : Type} (machine : Program.Machine σ) :
    Reactor → σ → List Operation → Option (List Entry × Reactor × σ)
  | reactor, host, [] => some ([], reactor, host)
  | reactor, host, operation :: rest =>
      match (operation.perform reactor).run machine host with
      | none => none
      | some ((result, after), later) =>
          (replay machine after later rest).map fun (trace, last) =>
            (⟨reactor, operation, result, after⟩ :: trace, last)

/-- What a machine replays is a history on every host that admits its answers. -/
theorem history_of_replay {σ : Type} {machine : Program.Machine σ} {answers : Answering σ}
    (admits : ∀ call before reply later, machine call before = some (reply, later) →
      answers call before reply later)
    {operations : List Operation} {start reactor : Reactor} {origin state : σ}
    {trace : List Entry}
    (played : replay machine start origin operations = some (trace, reactor, state)) :
    History answers start origin trace reactor state := by
  induction operations generalizing start origin trace with
  | nil =>
      cases played
      exact .nil
  | cons operation rest ih =>
      unfold replay at played
      split at played
      · cases played
      · rename_i result after later made
        obtain ⟨⟨others, last, final⟩, played', same⟩ := Option.map_eq_some_iff.mp played
        cases same
        have run := (Program.runs_ofMachine.mpr made).mono id admits
        exact (ih played').cons run

end SocketReactor
