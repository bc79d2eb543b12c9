import SocketReactor.Proofs.Owner.Gains
import SocketReactor.Proofs.Owner.Prompting
import SocketReactor.Proofs.Reactor.Operations
import SocketReactor.Proofs.Reactor.Outcomes
import SocketReactor.Proofs.Selector.Actions
import SocketReactor.Proofs.Selector.Custody

/-!
# Moves of a reactor

Every operation is a chain of moves, each of which does one thing to the owners,
to one selector or to the host.  In between one owner may be on its way to or
from a name.  What every move preserves holds in every run.
-/

namespace SocketReactor

variable {σ : Type}

/-- The reactor in the middle of an operation. -/
structure Scene (σ : Type) where
  reactor : Reactor
  /-- The owner that no name stands for yet, or any more. -/
  loose : Option Owner
  host : σ

namespace Scene

/-- The owner in a place: under a name, or on its way. -/
def owner? (scene : Scene σ) : Option String → Option Owner
  | some name => scene.reactor.owner? name
  | none => scene.loose

end Scene

def Reactor.assign (reactor : Reactor) (name : String) : Option Owner → Reactor
  | some owner => reactor.setOwner name owner
  | none => { reactor with owners := reactor.owners.erase name }

def Reactor.Lapsed (reactor : Reactor) (owner : Owner) : Prop :=
  ∀ id, owner.key? = some id → reactor.isValid id = false

theorem Reactor.lapsed_of_validKey? {reactor : Reactor} {owner : Owner}
    (lapsed : reactor.validKey? owner = none) : reactor.Lapsed owner := fun id has =>
  Bool.eq_false_iff.mpr (Option.filter_eq_none_iff.mp lapsed id has)

/-- One thing that happens in an operation.  Connections are asked for on some keys only,
some selectors only are polled, and some commands only are carried out. -/
inductive Move (answers : Answering σ) (asks : KeyId → Prop) (polls : Nat → Prop)
    (commands : String → Command → Prop) : Scene σ → Scene σ → Prop where
  /-- A selector acts. -/
  | act {reactor : Reactor} {loose : Option Owner} {host after : σ} {id : Nat}
      {selector later : Selector} {action : Selector.Action}
      (known : reactor.selector? id = some selector)
      (outcome : selector.Acts answers action host later after)
      (asked : ∀ serial, action.Asks serial → asks ⟨id, serial⟩)
      (polled : action.Polls → polls id)
      (tended : ∀ hand, selector.Fits hand →
        answers.Tended Call.Minds hand later.Fits host after) :
      Move answers asks polls commands ⟨reactor, loose, host⟩
        ⟨reactor.setSelector id later, loose, after⟩
  /-- A selector is made. -/
  | add {reactor : Reactor} {loose : Option Owner} {host : σ} (selection : Setup.Selection) :
      Move answers asks polls commands ⟨reactor, loose, host⟩
        ⟨(reactor.addSelector selection).2, loose, host⟩
  /-- A selector refuses to register a channel. -/
  | refuse {reactor : Reactor} {loose : Option Owner} {host after : σ} {id : Nat}
      {selector later : Selector} {descriptor : Descriptor} {validOps interest : OpSet}
      {attachment : Option String} {fault : Fault}
      (known : reactor.selector? id = some selector)
      (outcome : selector.Registered answers descriptor validOps interest attachment
        host (.error fault) later after)
      (tended : ∀ hand, selector.Fits hand →
        answers.Tended Call.Minds hand later.Fits host after) :
      Move answers asks polls commands ⟨reactor, loose, host⟩
        ⟨reactor.setSelector id later, loose, after⟩
  /-- A selector issues a key to a channel whose key does not count. -/
  | issue {reactor : Reactor} {loose : Option Owner} {host after : σ} {name : String}
      {channel : Channel} {id serial : Nat} {selector later : Selector} {interest : OpSet}
      {attachment : Option String}
      (named : reactor.owner? name = some (.watchable channel))
      (lapsed : reactor.Lapsed (.watchable channel))
      (known : reactor.selector? id = some selector)
      (outcome : selector.Registered answers channel.socket.descriptor channel.use.validOps
        interest attachment host (.ok serial) later after)
      (tended : ∀ hand, selector.Fits hand →
        answers.Tended Call.Minds hand later.Fits host after) :
      Move answers asks polls commands ⟨reactor, loose, host⟩
        ⟨(reactor.setSelector id later).setOwner name
          (.watchable { channel with key := some ⟨id, serial⟩ }), loose, after⟩
  /-- A channel forgets its key. -/
  | forget {reactor : Reactor} {loose : Option Owner} {host : σ} {name : String}
      {channel : Channel} (named : reactor.owner? name = some (.watchable channel))
      (lapsed : reactor.Lapsed (.watchable channel)) :
      Move answers asks polls commands ⟨reactor, loose, host⟩
        ⟨reactor.setOwner name (.watchable { channel with key := none }), loose, host⟩
  /-- A new owner comes to be. -/
  | gain {reactor : Reactor} {host after : σ} {owner : Owner} {lent : List Descriptor}
      (tended : answers.Tended (Call.Carefully lent) [] owner.Born host after)
      (prompted : ∀ channel, owner = .watchable channel →
        channel.socket.Prompted answers after) :
      Move answers asks polls commands ⟨reactor, none, host⟩ ⟨reactor, some owner, after⟩
  /-- No new owner comes to be. -/
  | miss {reactor : Reactor} {loose : Option Owner} {host after : σ} {lent : List Descriptor}
      (tended : answers.Tended (Call.Carefully lent) [] (· = []) host after) :
      Move answers asks polls commands ⟨reactor, loose, host⟩ ⟨reactor, loose, after⟩
  /-- A stream is made a channel. -/
  | wrap {reactor : Reactor} {host after : σ} {use : Use} {socket : Socket}
      (quietly : answers.Quietly host after)
      (tended : ∀ hand, socket.Fits hand →
        answers.Tended (Call.Carefully []) hand (· = hand) host after)
      (prompted : socket.Prompted answers after) :
      Move answers asks polls commands ⟨reactor, some (.typed use socket), host⟩
        ⟨reactor, some (.watchable ⟨use, socket, none⟩), after⟩
  /-- A name changes its owner. -/
  | swap {reactor : Reactor} {loose : Option Owner} {host : σ} (name : String) :
      Move answers asks polls commands ⟨reactor, loose, host⟩
        ⟨reactor.assign name loose, reactor.owner? name, host⟩
  /-- An owner whose key does not count is let go. -/
  | discard {reactor : Reactor} {host between after : σ} {owner : Owner}
      (lapsed : reactor.Lapsed owner) (quietly : answers.Quietly host between)
      (discarded : owner.socket.discard.Runs answers between () after)
      (tended : ∀ hand, owner.socket.Fits hand →
        answers.Tended (Call.Carefully []) hand (· = []) host after) :
      Move answers asks polls commands ⟨reactor, some owner, host⟩ ⟨reactor, none, after⟩
  /-- The socket of an owner carries a command out. -/
  | perform {reactor : Reactor} {loose : Option Owner} {host after : σ} {name : String}
      {owner : Owner} {access : Access} {command : Command} {later : Socket}
      (named : reactor.owner? name = some owner) (granted : owner.grants access command = true)
      (commanded : commands name command)
      (lapsed : command = .close → reactor.Lapsed owner)
      (outcome : owner.socket.Performed answers command host later after)
      (tended : ∀ hand, owner.socket.Fits hand →
        answers.Tended (Call.Carefully []) hand (owner.socket.Turned hand command later)
          host after)
      (ran : ∃ outcome, (owner.socket.perform command).Runs answers host (outcome, later) after) :
      Move answers asks polls commands ⟨reactor, loose, host⟩
        ⟨reactor.setSocket name later, loose, after⟩

abbrev Moves (answers : Answering σ) (asks : KeyId → Prop) (polls : Nat → Prop)
    (commands : String → Command → Prop) : Scene σ → Scene σ → Prop :=
  Relation.ReflTransGen (Move answers asks polls commands)

section Chains

variable {answers : Answering σ} {asks : KeyId → Prop} {polls : Nat → Prop}
  {commands : String → Command → Prop}
  {reactor later : Reactor} {loose : Option Owner} {host after : σ}

/-- A key that was cancelled does not count. -/
theorem isValid_of_cancelled {id : KeyId} {selector settled : Selector}
    (outcome : selector.Cancelled answers id.serial host settled after) :
    (reactor.setSelector id.selector settled).isValid id = false := by
  have found : (reactor.setSelector id.selector settled).key? id = settled.key? id.serial := by
    rw [Reactor.key?, Reactor.selector?_setSelector, if_pos rfl]
    rfl
  rw [Reactor.isValid, found]
  cases outcome with
  | stale gone =>
      cases known : selector.key? id.serial with
      | none => rfl
      | some key => exact gone key known
  | deleted | forgotten | released =>
      rw [Selector.key?_setKey, if_pos rfl]
      rfl

/-- Cancelling a key makes it count no more and leaves the owners alone. -/
theorem lapsed_of_cancel {id : KeyId} (run : (reactor.cancel id).Runs answers host later after) :
    later.isValid id = false ∧ later.owners = reactor.owners := by
  unfold Reactor.cancel Reactor.stepSelector at run
  split at run
  · rename_i absent
    obtain ⟨rfl, rfl⟩ := run
    refine ⟨?_, rfl⟩
    simp [Reactor.isValid, Reactor.key?, absent]
  · obtain ⟨settled, between, cancelled, rfl, rfl⟩ := Program.runs_bind.mp run
    exact ⟨isValid_of_cancelled (Selector.cancelled_of_runs cancelled), rfl⟩

theorem moves_cancel {id : KeyId} (run : (reactor.cancel id).Runs answers host later after) :
    Moves answers asks polls commands ⟨reactor, loose, host⟩ ⟨later, loose, after⟩ := by
  unfold Reactor.cancel Reactor.stepSelector at run
  split at run
  · obtain ⟨rfl, rfl⟩ := run
    exact .refl
  · rename_i selector known
    obtain ⟨settled, between, cancelled, rfl, rfl⟩ := Program.runs_bind.mp run
    exact .single (.act known (.cancel (Selector.cancelled_of_runs cancelled))
      (fun _ => False.elim) False.elim fun hand fits =>
        (Selector.tends_cancel id.serial fits).tended cancelled)

/-- An owner is let go after its key. -/
theorem moves_dispose {owner : Owner}
    (run : (reactor.dispose owner).Runs answers host later after) :
    Moves answers asks polls commands ⟨reactor, some owner, host⟩ ⟨later, none, after⟩ := by
  unfold Reactor.dispose at run
  cases key : owner.key? with
  | none =>
      simp only [key] at run
      obtain ⟨settled, middle, ⟨rfl, rfl⟩, rest⟩ := Program.runs_bind.mp run
      obtain ⟨⟨⟩, between, discarded, rfl, rfl⟩ := Program.runs_bind.mp rest
      refine .single (.discard ?_ .refl discarded fun hand fits =>
        (Socket.tends_discard fits).tended discarded)
      intro id found
      rw [key] at found
      cases found
  | some id =>
      simp only [key] at run
      obtain ⟨middle, between, cancelled, rest⟩ := Program.runs_bind.mp run
      obtain ⟨⟨⟩, last, discarded, rfl, rfl⟩ := Program.runs_bind.mp rest
      refine (moves_cancel cancelled).tail (.discard ?_ .refl discarded fun hand fits =>
        (Socket.tends_discard fits).tended discarded)
      intro other found
      rw [key] at found
      cases found
      exact (lapsed_of_cancel cancelled).1

theorem moves_place {name : String} {owner : Owner}
    (run : (reactor.place name owner).Runs answers host later after) :
    Moves answers asks polls commands ⟨reactor, some owner, host⟩ ⟨later, none, after⟩ := by
  unfold Reactor.place at run
  have swapped : Move answers asks polls commands ⟨reactor, some owner, host⟩
      ⟨reactor.setOwner name owner, reactor.owner? name, host⟩ := .swap name
  cases older : reactor.owner? name with
  | none =>
      simp only [older] at run swapped
      obtain ⟨rfl, rfl⟩ := run
      exact .single swapped
  | some owner' =>
      simp only [older] at run swapped
      exact (moves_dispose run).head swapped

theorem moves_drop {name : String} {result : Except Refusal Unit}
    (run : (reactor.drop name).Runs answers host (result, later) after) :
    Moves answers asks polls commands ⟨reactor, none, host⟩ ⟨later, none, after⟩ := by
  cases Reactor.dropped_of_runs run with
  | refused absent => exact .refl
  | dropped named disposed =>
      have swapped : Move answers asks polls commands ⟨reactor, none, host⟩
          ⟨reactor.assign name none, reactor.owner? name, host⟩ := .swap name
      rw [named] at swapped
      exact (moves_dispose disposed).head swapped

theorem moves_make {name : String} {recipe : Recipe} {result : Except Refusal Unit}
    (run : (reactor.make name recipe).Runs answers host (result, later) after) :
    Moves answers asks polls commands ⟨reactor, none, host⟩ ⟨later, none, after⟩ := by
  have tends : recipe.make.Tends (Call.Carefully []) Owner.Born (· = []) [] := recipe.born_make
  cases Reactor.made_of_runs run with
  | failed made => exact .single (.miss (Program.Tends.tended tends made))
  | placed made placing =>
      have tended := Program.Tends.tended tends made
      refine (moves_place placing).head (.gain tended ?_)
      rintro channel rfl
      exact Recipe.prompted_of_runs made

theorem moves_accept {listener name : String} {access : Access}
    {result : Except Refusal (Accepted Unit)}
    (run : (reactor.accept listener access name).Runs answers host (result, later) after) :
    Moves answers asks polls commands ⟨reactor, none, host⟩ ⟨later, none, after⟩ := by
  cases Reactor.received_of_runs run with
  | refused refusal unfit => exact .refl
  | @missed owner lent outcome after named lends taken nothing =>
      have tended := Program.Tends.tended lent.born_accept taken
      rcases outcome with fault | ⟨connection, peer⟩ | - | -
      · exact .single (.miss tended)
      · exact absurd rfl (nothing connection peer)
      · exact .single (.miss tended)
      · exact .single (.miss tended)
  | @placed owner lent connection peer later between after named lends taken placing =>
      have tended := Program.Tends.tended lent.born_accept taken
      refine (moves_place placing).head (.gain tended ?_)
      rintro channel rfl
      exact Owner.prompted_of_runs taken

/-- What a handle holds is moved out of it. -/
theorem moves_empty {name : String} {socket : Socket}
    (named : reactor.owner? name = some (.handle socket)) :
    Moves answers asks polls commands ⟨reactor, none, host⟩
      ⟨reactor.emptied name, some (.handle socket), host⟩ := by
  have empty : answers.Tended (Call.Carefully []) [] (Owner.handle .empty).Born host host :=
    .refl Owner.born_empty
  have gained : Move answers asks polls commands ⟨reactor, none, host⟩
      ⟨reactor, some (.handle .empty), host⟩ := .gain empty fun _ impossible => by cases impossible
  have swapped : Move answers asks polls commands ⟨reactor, some (.handle .empty), host⟩
      ⟨reactor.emptied name, reactor.owner? name, host⟩ := .swap name
  rw [named] at swapped
  exact (Relation.ReflTransGen.single gained).tail swapped

theorem moves_take {source name : String} {result : Except Refusal Unit}
    (run : (reactor.take source name).Runs answers host (result, later) after) :
    Moves answers asks polls commands ⟨reactor, none, host⟩ ⟨later, none, after⟩ := by
  cases Reactor.taken_of_runs run with
  | refused refusal absent => exact .refl
  | placed named placing => exact (moves_empty named).trans (moves_place placing)

/-- A handle that is held is closed. -/
theorem move_discard_handle {socket : Socket}
    (run : socket.discard.Runs answers host () after) :
    Move answers asks polls commands ⟨reactor, some (.handle socket), host⟩ ⟨reactor, none, after⟩ :=
  .discard nofun .refl run fun _ fits => (Socket.tends_discard fits).tended run

theorem moves_adopt {name source : String} {result : Except Refusal Unit}
    (run : (reactor.adopt name source).Runs answers host (result, later) after) :
    Moves answers asks polls commands ⟨reactor, none, host⟩ ⟨later, none, after⟩ := by
  cases Reactor.adopted_of_runs run with
  | refused absent plain => exact .refl
  | @adopted socket former named bare =>
      have swapped : Move answers asks polls commands
          ⟨reactor.emptied source, some (.handle socket), host⟩
          ⟨(reactor.emptied source).setOwner name (.handle socket),
            (reactor.emptied source).owner? name, host⟩ := .swap name
      rw [bare] at swapped
      exact ((moves_empty named).tail swapped).tail (move_discard_handle ⟨rfl, rfl⟩)
  | discarded named discarded apart =>
      exact (moves_empty named).tail (move_discard_handle discarded)

/-- A socket becomes a channel without a key, or is closed. -/
theorem channel_of_runs {use : Use} {socket : Socket} {outcome : Except Fault Channel}
    (run : (Channel.ofSocket use socket).run.Runs answers host outcome after) :
    (outcome = .ok ⟨use, socket, none⟩ ∧ answers.Quietly host after) ∨
      ∃ fault between, outcome = .error fault ∧ answers.Quietly host between ∧
        socket.discard.Runs answers between () after := by
  have turns : socket.Turns .close (socket.observe (socket.setNonblocking true)) :=
    Socket.turns_observe (socket.within_setNonblocking true)
  have quiet := (turns _ socket.fits_new).quiet
  rcases Attempt.runs_bind.mp run with ⟨fault, failed, rfl⟩ | ⟨value, between, passed, rest⟩
  · obtain ⟨⟨reply, settled⟩, middle, observed, rest⟩ := Program.runs_bind.mp failed
    have quietly := (quiet.quietly observed).1
    obtain ⟨made, last, tried, same, rfl⟩ := Program.runs_bind.mp observed
    cases same
    cases reply with
    | ok value => obtain ⟨impossible, -⟩ := rest; cases impossible
    | error cause =>
        obtain ⟨⟨⟩, last', discarded, -, rfl⟩ := Program.runs_bind.mp rest
        exact .inr ⟨fault, _, rfl, quietly, discarded⟩
  · obtain ⟨rfl, rfl⟩ := rest
    obtain ⟨⟨reply, settled⟩, middle, observed, rest⟩ := Program.runs_bind.mp passed
    have quietly := (quiet.quietly observed).1
    cases reply with
    | ok value =>
        obtain ⟨-, rfl⟩ := rest
        exact .inl ⟨rfl, quietly⟩
    | error cause =>
        obtain ⟨⟨⟩, last', discarded, impossible, -⟩ := Program.runs_bind.mp rest
        cases impossible

theorem moves_wrap {source name : String} {result : Except Refusal Unit}
    (run : (reactor.wrap source name).Runs answers host (result, later) after) :
    Moves answers asks polls commands ⟨reactor, none, host⟩ ⟨later, none, after⟩ := by
  have swapped : Move answers asks polls commands ⟨reactor, none, host⟩
      ⟨reactor.without source, reactor.owner? source, host⟩ := .swap source
  have tended : ∀ {socket outcome after}, (Channel.ofSocket .stream socket).run.Runs answers host
      outcome after → ∀ hand, socket.Fits hand →
        answers.Tended (Call.Carefully []) hand _ host after :=
    fun made hand fits => Program.Tends.tended (Channel.tends_ofSocket .stream fits) made
  cases Reactor.wrapped_of_runs run with
  | refused absent => exact .refl
  | failed named made =>
      rw [named] at swapped
      rcases channel_of_runs made with ⟨impossible, -⟩ | ⟨fault, middle, -, quietly, discarded⟩
      · cases impossible
      · exact (Relation.ReflTransGen.single swapped).tail
          (.discard nofun quietly discarded (tended made))
  | placed named made placing =>
      rw [named] at swapped
      rcases channel_of_runs made with ⟨same, quietly⟩ | ⟨fault, middle, impossible, -⟩
      · cases same
        refine ((moves_place placing).head (.wrap quietly ?_ ?_)).head swapped
        · intro hand fits
          exact (tended made hand fits).mono (fun _ _ => id) fun _ => And.right
        · exact (Channel.prompted_of_runs made).2
      · cases impossible

/-- Giving a name an owner and cancelling a key do not get in each other's way. -/
theorem cancel_setOwner {name : String} {owner : Owner} {id : KeyId}
    (run : ((reactor.setOwner name owner).cancel id).Runs answers host later after) :
    ∃ middle, (reactor.cancel id).Runs answers host middle after ∧
      later = middle.setOwner name owner := by
  unfold Reactor.cancel Reactor.stepSelector at run ⊢
  rw [Reactor.selector?_setOwner] at run
  split at run
  · obtain ⟨rfl, rfl⟩ := run
    exact ⟨reactor, ⟨rfl, rfl⟩, rfl⟩
  · obtain ⟨settled, between, cancelled, rfl, rfl⟩ := Program.runs_bind.mp run
    exact ⟨_, Program.runs_bind.mpr ⟨settled, _, cancelled, rfl, rfl⟩, rfl⟩

/-- The owner of a name is left with no key that counts. -/
theorem moves_unregister {name : String} {owner : Owner}
    (named : reactor.owner? name = some owner)
    (run : (reactor.unregister name).Runs answers host later after) :
    Moves answers asks polls commands ⟨reactor, loose, host⟩ ⟨later, loose, after⟩ ∧
      ∃ settled, later.owner? name = some settled ∧ settled.socket = owner.socket ∧
        settled.offers = owner.offers ∧ later.Lapsed settled := by
  unfold Reactor.unregister at run
  cases owner with
  | handle socket =>
      simp only [named] at run
      obtain ⟨rfl, rfl⟩ := run
      exact ⟨.refl, _, named, rfl, rfl, nofun⟩
  | typed use socket =>
      simp only [named] at run
      obtain ⟨rfl, rfl⟩ := run
      exact ⟨.refl, _, named, rfl, rfl, nofun⟩
  | watchable channel =>
      have forgotten : ∀ reactor : Reactor, (reactor.setOwner name
          (.watchable { channel with key := none })).owner? name =
            some (.watchable { channel with key := none }) := by
        intro reactor
        rw [Reactor.owner?_setOwner, if_pos rfl]
      simp only [named] at run
      cases key : channel.key with
      | none =>
          simp only [key] at run
          obtain ⟨rfl, rfl⟩ := run
          refine ⟨.single (.forget named ?_), _, forgotten reactor, rfl, rfl, nofun⟩
          intro id found
          cases key.symm.trans found
      | some id =>
          simp only [key] at run
          obtain ⟨middle, cancelled, rfl⟩ := cancel_setOwner run
          obtain ⟨lapsed, owners⟩ := lapsed_of_cancel cancelled
          have named' : middle.owner? name = some (.watchable channel) := by
            rw [Reactor.owner?, owners]
            exact named
          refine ⟨(moves_cancel cancelled).tail (.forget named' ?_), _, forgotten middle, rfl, rfl,
            nofun⟩
          intro other found
          cases key.symm.trans found
          exact lapsed

theorem moves_ask {name : String} {access : Access} {command : Command}
    {result : Except Refusal Reply} (commanded : commands name command)
    (run : (reactor.ask name access command).Runs answers host (result, later) after) :
    Moves answers asks polls commands ⟨reactor, none, host⟩ ⟨later, none, after⟩ := by
  cases Reactor.asked_of_runs run with
  | refused ungranted plain => exact .refl
  | performed named granted other performed =>
      have outcome := Socket.performed_of_runs performed
      exact .single (.perform named granted commanded (fun closing => absurd closing other) outcome
        (fun hand fits => (Socket.tends_perform _ fits).tended performed) ⟨_, performed⟩)
  | closed named granted unregistered performed =>
      obtain ⟨moves, settled, named', socket', offers, lapsed⟩ :=
        moves_unregister named unregistered
      have granted' : settled.grants .own .close = true :=
        Owner.grants_own (offers ▸ (Owner.eq_own_of_grants granted rfl).2)
      rw [← socket'] at performed
      have outcome := Socket.performed_of_runs performed
      exact moves.tail (.perform named' granted' commanded (fun _ => lapsed) outcome
        (fun hand fits => (Socket.tends_perform _ fits).tended performed) ⟨_, performed⟩)

theorem moves_setInterest {id : KeyId} {interest : OpSet} {result : Except Fault Unit}
    (asked : interest.connect = true → asks id)
    (run : (reactor.setInterest id interest).Runs answers host (result, later) after) :
    Moves answers asks polls commands ⟨reactor, loose, host⟩ ⟨later, loose, after⟩ := by
  unfold Reactor.setInterest Reactor.onSelector at run
  split at run
  · obtain ⟨same, rfl⟩ := run
    cases same
    exact .refl
  · rename_i selector known
    obtain ⟨⟨outcome, settled⟩, between, changed, same, rfl⟩ := Program.runs_bind.mp run
    cases same
    refine .single (.act known (.change (Selector.changed_of_runs changed)) ?_ False.elim
      fun hand fits => ((Selector.settled_setInterest _ _).tends fits).tended changed)
    rintro serial ⟨rfl, connect⟩
    exact asked connect

theorem moves_attach (id : KeyId) (attachment : Option String) :
    Moves answers asks polls commands ⟨reactor, loose, host⟩
      ⟨(reactor.attach id attachment).2, loose, host⟩ := by
  unfold Reactor.attach
  split
  · exact .refl
  · rename_i selector known
    exact .single (.act known (.attach id.serial attachment) (fun _ => False.elim) False.elim
      fun hand fits => .refl (fits.of_phase rfl))

theorem moves_registerNew {name : String} {channel : Channel} {selector : Nat}
    {interest : OpSet} {attachment : Option String} {result : Except Fault KeyId}
    (named : reactor.owner? name = some (.watchable channel))
    (lapsed : reactor.Lapsed (.watchable channel))
    (run : (reactor.registerNew name channel selector interest attachment).Runs answers
      host (result, later) after) :
    Moves answers asks polls commands ⟨reactor, loose, host⟩ ⟨later, loose, after⟩ := by
  obtain ⟨⟨reply, middle⟩, between, stepped, rest⟩ := Program.runs_bind.mp run
  unfold Reactor.onSelector at stepped
  split at stepped
  · obtain ⟨same, rfl⟩ := stepped
    cases same
    obtain ⟨same, rfl⟩ := rest
    cases same
    exact .refl
  · rename_i selector' known
    obtain ⟨⟨given, settled⟩, last, registered, same, rfl⟩ := Program.runs_bind.mp stepped
    cases same
    have outcome := Selector.registered_of_runs registered
    have tended : ∀ hand, selector'.Fits hand →
        answers.Tended Call.Minds hand settled.Fits host between := fun hand fits =>
      ((Selector.settled_register _ _ _ _).tends fits).tended registered
    cases reply with
    | error fault =>
        obtain ⟨same, rfl⟩ := rest
        cases same
        exact .single (.refuse known outcome tended)
    | ok serial =>
        obtain ⟨same, rfl⟩ := rest
        cases same
        exact .single (.issue named lapsed known outcome tended)

theorem moves_register {name : String} {selector : Nat} {interest : OpSet}
    {attachment : Option String} {result : Except Refusal KeyId}
    (asked : ∀ id, id.selector = selector → interest.connect = true →
      (∃ owner, reactor.owner? name = some owner ∧ reactor.validKey? owner = some id) → asks id)
    (run : (reactor.register name selector interest attachment).Runs answers
      host (result, later) after) :
    Moves answers asks polls commands ⟨reactor, loose, host⟩ ⟨later, loose, after⟩ := by
  cases Reactor.enrolled_of_runs run with
  | refused => exact .refl
  | fresh named lapsed registered =>
      exact moves_registerNew named (Reactor.lapsed_of_validKey? lapsed) registered
  | unchanged named counts here changed =>
      exact moves_setInterest (fun connect => asked _ here connect ⟨_, named, counts⟩) changed
  | changed named counts here changed =>
      exact (moves_setInterest (fun connect => asked _ here connect ⟨_, named, counts⟩)
        changed).trans (moves_attach _ attachment)

/-- A step of a selector with a result is an action. -/
theorem moves_onSelector {α : Type} {id : Nat} {absent result : α}
    {step : Selector → Program (α × Selector)} (action : Selector.Action)
    (asked : ∀ serial, action.Asks serial → asks ⟨id, serial⟩) (polled : action.Polls → polls id)
    (acts : ∀ selector settled result, ∀ state after : σ,
      (step selector).Runs answers state (result, settled) after →
        selector.Acts answers action state settled after)
    (tends : ∀ selector : Selector, ∀ hand, selector.Fits hand →
      (step selector).Tends Call.Minds (fun result last => result.2.Fits last) hand)
    (run : (reactor.onSelector id absent step).Runs answers host (result, later) after) :
    Moves answers asks polls commands ⟨reactor, loose, host⟩ ⟨later, loose, after⟩ := by
  unfold Reactor.onSelector at run
  split at run
  · obtain ⟨same, rfl⟩ := run
    cases same
    exact .refl
  · rename_i selector known
    obtain ⟨⟨outcome, settled⟩, between, stepped, same, rfl⟩ := Program.runs_bind.mp run
    cases same
    exact .single (.act known (acts _ _ _ _ _ stepped) asked polled fun hand fits =>
      (tends selector hand fits).tended stepped)

/-- A step of a selector without a result is an action. -/
theorem moves_stepSelector {id : Nat} {step : Selector → Program Selector}
    (action : Selector.Action) (asked : ∀ serial, action.Asks serial → asks ⟨id, serial⟩)
    (polled : action.Polls → polls id)
    (acts : ∀ selector settled, ∀ state after : σ,
      (step selector).Runs answers state settled after →
        selector.Acts answers action state settled after)
    (tends : ∀ selector : Selector, ∀ hand, selector.Fits hand →
      (step selector).Tends Call.Minds (fun later last => later.Fits last) hand)
    (run : (reactor.stepSelector id step).Runs answers host later after) :
    Moves answers asks polls commands ⟨reactor, loose, host⟩ ⟨later, loose, after⟩ := by
  unfold Reactor.stepSelector at run
  split at run
  · obtain ⟨rfl, rfl⟩ := run
    exact .refl
  · rename_i selector known
    obtain ⟨settled, between, stepped, rfl, rfl⟩ := Program.runs_bind.mp run
    exact .single (.act known (acts _ _ _ _ stepped) asked polled fun hand fits =>
      (tends selector hand fits).tended stepped)

/-- Every operation is a chain of moves, which ask for connections, poll and carry out only
what the operation asks for, polls and commands. -/
theorem moves_of_runs {operation : Operation} {result : operation.Result}
    (run : (operation.perform reactor).Runs answers host (result, later) after) :
    Moves answers (operation.Asks reactor ·) (operation.Polls ·) (operation.Commands · ·)
      ⟨reactor, none, host⟩ ⟨later, none, after⟩ := by
  cases operation with
  | make name recipe => exact moves_make run
  | accept listener access name => exact moves_accept run
  | wrap source name => exact moves_wrap run
  | take source name => exact moves_take run
  | adopt name source => exact moves_adopt run
  | ask name access command => exact moves_ask ⟨rfl, rfl⟩ run
  | drop name => exact moves_drop run
  | register name selector interest attachment =>
      refine moves_register ?_ run
      intro id same connect counts
      exact ⟨same.symm, connect, counts⟩
  | setInterest id interest =>
      exact moves_setInterest (fun connect => ⟨rfl, connect⟩) run
  | cancel id =>
      obtain ⟨settled, between, cancelled, same, rfl⟩ := Program.runs_bind.mp run
      cases same
      exact moves_cancel cancelled
  | attach id attachment =>
      obtain ⟨same, rfl⟩ := run
      obtain rfl : later = (reactor.attach id attachment).2 := congrArg Prod.snd same
      exact moves_attach id attachment
  | newSelector selection =>
      obtain ⟨same, rfl⟩ := run
      cases same
      exact .single (.add selection)
  | openSelector id =>
      refine moves_onSelector .opening (fun _ => False.elim) False.elim ?_
        (fun _ _ => Selector.tends_openBackend) run
      intro selector settled result state after stepped
      exact .opening (Selector.opening_of_runs stepped)
  | poll id limit =>
      refine moves_onSelector .poll (fun _ => False.elim) (fun _ => rfl) ?_
        (fun _ _ => Selector.tends_poll limit) run
      intro selector settled result state after stepped
      exact .poll (Selector.polled_of_runs stepped)
  | wakeup id =>
      refine moves_onSelector .wakeup (fun _ => False.elim) False.elim ?_
        (fun _ _ => Selector.settled_wakeup.tends) run
      intro selector settled result state after stepped
      obtain ⟨same, quietly⟩ := Selector.wakeup_of_runs stepped
      rw [same]
      exact .wakeup _ quietly
  | closeSelector id =>
      obtain ⟨settled, between, stepped, same, rfl⟩ := Program.runs_bind.mp run
      cases same
      refine moves_stepSelector .close (fun _ => False.elim) False.elim ?_
        (fun _ _ => Selector.tends_close) stepped
      intro selector settled state after closed
      exact .close (Selector.closing_of_runs closed)
  | dropSelector id =>
      obtain ⟨settled, between, stepped, same, rfl⟩ := Program.runs_bind.mp run
      cases same
      refine moves_stepSelector .finish (fun _ => False.elim) False.elim ?_
        (fun _ _ => Selector.tends_finish) stepped
      intro selector settled state after finished
      exact .finish (Selector.finishing_of_runs finished)

end Chains

end SocketReactor
