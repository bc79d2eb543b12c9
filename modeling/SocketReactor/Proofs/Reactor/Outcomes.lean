import SocketReactor.Proofs.Host.Runs
import SocketReactor.Proofs.Socket.Outline
import SocketReactor.Reactor.Sockets

/-!
# Outcomes of operations on owners

What each operation on the named owners of a reactor may do, whatever the host answers: what
runs on the host, the result, and the reactor afterwards.  Every later statement about these
operations is read off here.
-/

namespace SocketReactor.Reactor

variable {σ : Type} {answers : Answering σ} {reactor later : Reactor} {name source : String}
  {state after : σ}

def without (reactor : Reactor) (name : String) : Reactor :=
  { reactor with owners := reactor.owners.erase name }

theorem owner?_without (reactor : Reactor) (name other : String) :
    (reactor.without name).owner? other = if other = name then none else reactor.owner? other :=
  Table.get?_erase reactor.owners name other

/-- The reactor with what a handle held moved out of it. -/
def emptied (reactor : Reactor) (name : String) : Reactor :=
  reactor.setOwner name (.handle .empty)

inductive Made (answers : Answering σ) (reactor : Reactor) (name : String) (recipe : Recipe)
    (state : σ) : Except Refusal Unit → Reactor → σ → Prop where
  | failed {fault : Fault} {after : σ}
      (made : recipe.make.run.Runs answers state (.error fault) after) :
      Made answers reactor name recipe state (.error (.fault fault)) reactor after
  | placed {owner : Owner} {later : Reactor} {between after : σ}
      (made : recipe.make.run.Runs answers state (.ok owner) between)
      (placing : (reactor.place name owner).Runs answers between later after) :
      Made answers reactor name recipe state (.ok ()) later after

theorem made_of_runs {recipe : Recipe} {result : Except Refusal Unit}
    (run : (reactor.make name recipe).Runs answers state (result, later) after) :
    reactor.Made answers name recipe state result later after := by
  obtain ⟨outcome, between, made, rest⟩ := Program.runs_bind.mp run
  cases outcome with
  | error fault =>
      obtain ⟨same, rfl⟩ := rest
      cases same
      exact .failed made
  | ok owner =>
      obtain ⟨placed, last, placing, same, rfl⟩ := Program.runs_bind.mp rest
      cases same
      exact .placed made placing

inductive Received (answers : Answering σ) (reactor : Reactor) (listener : String)
    (access : Access) (name : String) (state : σ) :
    Except Refusal (Accepted Unit) → Reactor → σ → Prop where
  | refused (refusal : Refusal)
      (unfit : ∀ owner lent, reactor.owner? listener = some owner →
        owner.lend access = some lent → lent.takesConnections = false) :
      Received answers reactor listener access name state (.error refusal) reactor state
  | missed {owner lent : Owner} {outcome : Except Fault (Accepted Owner)} {after : σ}
      (named : reactor.owner? listener = some owner) (lends : owner.lend access = some lent)
      (taken : lent.accept.run.Runs answers state outcome after)
      (nothing : ∀ connection peer, outcome ≠ .ok (.accepted connection peer)) :
      Received answers reactor listener access name state
        ((outcome.map (Accepted.map fun _ => ())).mapError .fault) reactor after
  | placed {owner lent connection : Owner} {peer : Endpoint} {later : Reactor}
      {between after : σ} (named : reactor.owner? listener = some owner)
      (lends : owner.lend access = some lent)
      (taken : lent.accept.run.Runs answers state (.ok (.accepted connection peer)) between)
      (placing : (reactor.place name connection).Runs answers between later after) :
      Received answers reactor listener access name state (.ok (.accepted () peer)) later after

theorem received_of_runs {listener : String} {access : Access}
    {result : Except Refusal (Accepted Unit)}
    (run : (reactor.accept listener access name).Runs answers state (result, later) after) :
    reactor.Received answers listener access name state result later after := by
  unfold accept at run
  split at run
  · rename_i absent
    obtain ⟨same, rfl⟩ := run
    cases same
    refine .refused _ fun owner lent named => ?_
    cases absent.symm.trans named
  · rename_i owner named
    split at run
    · rename_i unfit
      obtain ⟨same, rfl⟩ := run
      cases same
      refine .refused _ fun other lent named' lends => ?_
      obtain rfl : owner = other := Option.some.inj (named.symm.trans named')
      simpa using Option.filter_eq_none_iff.mp unfit lent lends
    · rename_i lent fit
      have lends := (Option.filter_eq_some_iff.mp fit).1
      obtain ⟨outcome, between, taken, rest⟩ := Program.runs_bind.mp run
      rcases outcome with fault | ⟨connection, peer⟩ | - | -
      · obtain ⟨same, rfl⟩ := rest
        cases same
        exact .missed named lends taken fun _ _ impossible => by cases impossible
      · obtain ⟨placed, last, placing, same, rfl⟩ := Program.runs_bind.mp rest
        cases same
        exact .placed named lends taken placing
      · obtain ⟨same, rfl⟩ := rest
        cases same
        exact .missed named lends taken fun _ _ impossible => by cases impossible
      · obtain ⟨same, rfl⟩ := rest
        cases same
        exact .missed named lends taken fun _ _ impossible => by cases impossible

/-- What moving a handle to a name may lead to. -/
inductive Taken (answers : Answering σ) (reactor : Reactor) (source name : String) (state : σ) :
    Except Refusal Unit → Reactor → σ → Prop where
  | refused (refusal : Refusal)
      (absent : ∀ socket, reactor.owner? source ≠ some (.handle socket)) :
      Taken answers reactor source name state (.error refusal) reactor state
  | placed {socket : Socket} {later : Reactor} {after : σ}
      (named : reactor.owner? source = some (.handle socket))
      (placing : ((reactor.emptied source).place name (.handle socket)).Runs answers state later
        after) : Taken answers reactor source name state (.ok ()) later after

theorem taken_of_runs {result : Except Refusal Unit}
    (run : (reactor.take source name).Runs answers state (result, later) after) :
    reactor.Taken answers source name state result later after := by
  unfold take at run
  split at run
  · rename_i socket named
    rw [Socket.take_eq] at run
    obtain ⟨placed, between, placing, same, rfl⟩ := Program.runs_bind.mp run
    cases same
    exact .placed named placing
  · rename_i other another found
    obtain ⟨same, rfl⟩ := run
    cases same
    refine .refused _ fun socket named => ?_
    exact another socket (Option.some.inj (found.symm.trans named))
  · rename_i absent
    obtain ⟨same, rfl⟩ := run
    cases same
    refine .refused _ fun socket named => ?_
    cases absent.symm.trans named

/-- What moving a handle into another one may lead to. -/
inductive Adopted (answers : Answering σ) (reactor : Reactor) (name source : String) (state : σ) :
    Except Refusal Unit → Reactor → σ → Prop where
  | refused {refusal : Refusal}
      (absent : ∀ socket, reactor.owner? source ≠ some (.handle socket))
      (plain : ∀ misuse, refusal ≠ .failed (.misuse misuse)) :
      Adopted answers reactor name source state (.error refusal) reactor state
  | adopted {socket : Socket} {former : Option Protocol}
      (named : reactor.owner? source = some (.handle socket))
      (bare : (reactor.emptied source).owner? name = some (.handle (.closed former))) :
      Adopted answers reactor name source state (.ok ())
        ((reactor.emptied source).setOwner name (.handle socket)) state
  /-- What was to be moved is closed. -/
  | discarded {socket : Socket} {refusal : Refusal} {after : σ}
      (named : reactor.owner? source = some (.handle socket))
      (discarded : socket.discard.Runs answers state () after)
      (apart : ∀ misuse, refusal = .failed (.misuse misuse) → name ≠ source) :
      Adopted answers reactor name source state (.error refusal) (reactor.emptied source) after

theorem adopted_of_runs {result : Except Refusal Unit}
    (run : (reactor.adopt name source).Runs answers state (result, later) after) :
    reactor.Adopted answers name source state result later after := by
  unfold adopt at run
  split at run
  · rename_i socket named
    rw [Socket.take_eq] at run
    dsimp only at run
    split at run
    · rename_i receiver named'
      rw [Socket.adopt_eq] at run
      cases receiver with
      | closed former =>
          obtain ⟨same, rfl⟩ := run
          cases same
          exact .adopted named named'
      | live parts =>
          obtain ⟨⟨⟩, between, discarded, same, rfl⟩ := Program.runs_bind.mp run
          cases same
          refine .discarded named discarded ?_
          rintro - - rfl
          rw [owner?_setOwner, if_pos rfl] at named'
          cases named'
    · obtain ⟨⟨⟩, between, discarded, same, rfl⟩ := Program.runs_bind.mp run
      cases same
      exact .discarded named discarded fun _ impossible => by cases impossible
    · obtain ⟨⟨⟩, between, discarded, same, rfl⟩ := Program.runs_bind.mp run
      cases same
      exact .discarded named discarded fun _ impossible => by cases impossible
  · rename_i other another found
    obtain ⟨same, rfl⟩ := run
    cases same
    refine .refused (fun socket named => ?_) fun _ impossible => by cases impossible
    exact another socket (Option.some.inj (found.symm.trans named))
  · rename_i absent
    obtain ⟨same, rfl⟩ := run
    cases same
    refine .refused (fun socket named => ?_) fun _ impossible => by cases impossible
    cases absent.symm.trans named

/-- What making a channel of a stream may lead to. -/
inductive Wrapped (answers : Answering σ) (reactor : Reactor) (source name : String) (state : σ) :
    Except Refusal Unit → Reactor → σ → Prop where
  | refused (absent : ∀ socket, reactor.owner? source ≠ some (.typed .stream socket)) :
      Wrapped answers reactor source name state (.error .noStream) reactor state
  | failed {socket : Socket} {fault : Fault} {after : σ}
      (named : reactor.owner? source = some (.typed .stream socket))
      (made : (Channel.ofSocket .stream socket).run.Runs answers state (.error fault) after) :
      Wrapped answers reactor source name state (.error (.fault fault)) (reactor.without source)
        after
  | placed {socket : Socket} {channel : Channel} {later : Reactor} {between after : σ}
      (named : reactor.owner? source = some (.typed .stream socket))
      (made : (Channel.ofSocket .stream socket).run.Runs answers state (.ok channel) between)
      (placing : ((reactor.without source).place name (.watchable channel)).Runs answers between
        later after) : Wrapped answers reactor source name state (.ok ()) later after

theorem wrapped_of_runs {result : Except Refusal Unit}
    (run : (reactor.wrap source name).Runs answers state (result, later) after) :
    reactor.Wrapped answers source name state result later after := by
  unfold wrap at run
  split at run
  · rename_i socket named
    obtain ⟨outcome, between, made, rest⟩ := Program.runs_bind.mp run
    cases outcome with
    | ok channel =>
        obtain ⟨placed, last, placing, same, rfl⟩ := Program.runs_bind.mp rest
        cases same
        exact .placed named made placing
    | error fault =>
        obtain ⟨same, rfl⟩ := rest
        cases same
        exact .failed named made
  · rename_i absent
    obtain ⟨same, rfl⟩ := run
    cases same
    exact .refused absent

inductive Dropped (answers : Answering σ) (reactor : Reactor) (name : String) (state : σ) :
    Except Refusal Unit → Reactor → σ → Prop where
  | refused (absent : reactor.owner? name = none) :
      Dropped answers reactor name state (.error (.unknown .socket name)) reactor state
  | dropped {owner : Owner} {later : Reactor} {after : σ}
      (named : reactor.owner? name = some owner)
      (disposed : ((reactor.without name).dispose owner).Runs answers state later after) :
      Dropped answers reactor name state (.ok ()) later after

theorem dropped_of_runs {result : Except Refusal Unit}
    (run : (reactor.drop name).Runs answers state (result, later) after) :
    reactor.Dropped answers name state result later after := by
  unfold drop at run
  split at run
  · rename_i absent
    obtain ⟨same, rfl⟩ := run
    cases same
    exact .refused absent
  · rename_i owner named
    obtain ⟨settled, between, disposed, same, rfl⟩ := Program.runs_bind.mp run
    cases same
    exact .dropped named disposed

/-- What asking a name may lead to.  A channel that is closed loses its key first. -/
inductive Asked (answers : Answering σ) (reactor : Reactor) (name : String) (access : Access)
    (state : σ) : Command → Except Refusal Reply → Reactor → σ → Prop where
  | refused {command : Command} {refusal : Refusal}
      (ungranted : ∀ owner, reactor.owner? name = some owner →
        owner.grants access command = false)
      (plain : ∀ failure, refusal ≠ .failed failure) :
      Asked answers reactor name access state command (.error refusal) reactor state
  | performed {command : Command} {owner : Owner} {outcome : Except Failure Reply}
      {moved : Socket} {after : σ} (named : reactor.owner? name = some owner)
      (granted : owner.grants access command = true) (other : command ≠ .close)
      (performed : (owner.socket.perform command).Runs answers state (outcome, moved) after) :
      Asked answers reactor name access state command (outcome.mapError .failed)
        (reactor.setSocket name moved) after
  | closed {owner : Owner} {readied : Reactor} {outcome : Except Failure Reply} {moved : Socket}
      {between after : σ} (named : reactor.owner? name = some owner)
      (granted : owner.grants access .close = true)
      (unregistered : (reactor.unregister name).Runs answers state readied between)
      (performed : (owner.socket.perform .close).Runs answers between (outcome, moved) after) :
      Asked answers reactor name access state .close (outcome.mapError .failed)
        (readied.setSocket name moved) after

theorem asked_of_runs {access : Access} {command : Command} {result : Except Refusal Reply}
    (run : (reactor.ask name access command).Runs answers state (result, later) after) :
    reactor.Asked answers name access state command result later after := by
  unfold ask at run
  split at run
  · rename_i absent
    obtain ⟨same, rfl⟩ := run
    cases same
    refine .refused (fun owner named => ?_) fun _ impossible => by cases impossible
    cases absent.symm.trans named
  · rename_i owner named
    split at run
    · rename_i ungranted
      obtain ⟨same, rfl⟩ := run
      cases same
      refine .refused (fun other named' => ?_) fun _ impossible => by cases impossible
      obtain rfl : owner = other := Option.some.inj (named.symm.trans named')
      simpa using ungranted
    · rename_i refused
      have granted : owner.grants access command = true := by simpa using refused
      dsimp only at run
      split at run
      · rename_i closing
        subst closing
        obtain ⟨readied, between, unregistered, rest⟩ := Program.runs_bind.mp run
        obtain ⟨⟨outcome, moved⟩, last, performed, same, rfl⟩ := Program.runs_bind.mp rest
        cases same
        exact .closed named granted unregistered performed
      · rename_i other
        obtain ⟨readied, between, ⟨rfl, rfl⟩, rest⟩ := Program.runs_bind.mp run
        obtain ⟨⟨outcome, moved⟩, last, performed, same, rfl⟩ := Program.runs_bind.mp rest
        cases same
        exact .performed named granted other performed

/-- What registering the channel of a name may lead to.  A key that counts already is changed,
if it is a key of this selector; without one the channel gets a new key. -/
inductive Enrolled (answers : Answering σ) (reactor : Reactor) (name : String) (selector : Nat)
    (interest : OpSet) (attachment : Option String) (state : σ) :
    Except Refusal KeyId → Reactor → σ → Prop where
  | refused {refusal : Refusal}
      (plain : ∀ fault, refusal = .fault fault → fault.errno? = none) :
      Enrolled answers reactor name selector interest attachment state (.error refusal) reactor
        state
  | fresh {channel : Channel} {outcome : Except Fault KeyId} {later : Reactor} {after : σ}
      (named : reactor.owner? name = some (.watchable channel))
      (lapsed : reactor.validKey? (.watchable channel) = none)
      (registered : (reactor.registerNew name channel selector interest attachment).Runs answers
        state (outcome, later) after) :
      Enrolled answers reactor name selector interest attachment state (outcome.mapError .fault)
        later after
  | unchanged {channel : Channel} {id : KeyId} {fault : Fault} {later : Reactor} {after : σ}
      (named : reactor.owner? name = some (.watchable channel))
      (counts : reactor.validKey? (.watchable channel) = some id) (here : id.selector = selector)
      (changed : (reactor.setInterest id interest).Runs answers state (.error fault, later) after) :
      Enrolled answers reactor name selector interest attachment state (.error (.fault fault))
        later after
  | changed {channel : Channel} {id : KeyId} {later : Reactor} {after : σ}
      (named : reactor.owner? name = some (.watchable channel))
      (counts : reactor.validKey? (.watchable channel) = some id) (here : id.selector = selector)
      (changed : (reactor.setInterest id interest).Runs answers state (.ok (), later) after) :
      Enrolled answers reactor name selector interest attachment state (.ok id)
        (later.attach id attachment).2 after

theorem enrolled_of_registerChannel {channel : Channel} {selector : Nat} {interest : OpSet}
    {attachment : Option String} {result : Except Fault KeyId}
    (named : reactor.owner? name = some (.watchable channel))
    (run : (reactor.registerChannel name channel selector interest attachment).Runs answers state
      (result, later) after) :
    reactor.Enrolled answers name selector interest attachment state (result.mapError .fault) later
      after := by
  unfold registerChannel at run
  split at run
  · rename_i fault failed
    obtain ⟨same, rfl⟩ := run
    cases same
    unfold Key.checkInterest at failed
    split at failed
    · cases failed
    · cases failed
      exact .refused fun fault same => by cases same; rfl
  · split at run
    · rename_i lapsed
      exact .fresh named lapsed run
    · rename_i id counts
      split at run
      · rename_i here
        obtain ⟨⟨outcome, middle⟩, between, changed, rest⟩ := Program.runs_bind.mp run
        cases outcome with
        | error fault =>
            obtain ⟨same, rfl⟩ := rest
            cases same
            exact .unchanged named counts here changed
        | ok done =>
            obtain ⟨same, rfl⟩ := rest
            cases same
            exact .changed named counts here changed
      · obtain ⟨same, rfl⟩ := run
        cases same
        exact .refused fun fault same => by cases same; rfl

theorem enrolled_of_runs {selector : Nat} {interest : OpSet} {attachment : Option String}
    {result : Except Refusal KeyId}
    (run : (reactor.register name selector interest attachment).Runs answers state (result, later)
      after) :
    reactor.Enrolled answers name selector interest attachment state result later after := by
  unfold register at run
  split at run
  · obtain ⟨same, rfl⟩ := run
    cases same
    exact .refused fun fault same => by cases same
  · rename_i channel named
    obtain ⟨⟨outcome, settled⟩, between, registered, same, rfl⟩ := Program.runs_bind.mp run
    cases same
    exact enrolled_of_registerChannel named registered
  · obtain ⟨same, rfl⟩ := run
    cases same
    exact .refused fun fault same => by cases same

end SocketReactor.Reactor
