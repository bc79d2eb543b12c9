import SocketReactor.Proofs.Owner.Roles
import SocketReactor.Proofs.Reactor.Owners

/-!
# Roles in a reactor

Every typed socket and every channel of a reactor keeps to its use.  Each operation
preserves this: it turns a socket by a command that its use offers, moves a socket to
another owner of the same use, or makes a new one of the right kind.
-/

namespace SocketReactor

variable {σ : Type} {answers : Answering σ} {before after reactor later : Reactor}
  {host afterwards : σ} {name : String}

namespace Reactor

/-- What the socket under a name is used for, if for one purpose only, and the socket. -/
def part? (reactor : Reactor) (name : String) : Option (Option Use × Socket) :=
  (reactor.owner? name).map fun owner => (owner.use?, owner.socket)

theorem part?_of_owner? {owner : Owner} (named : reactor.owner? name = some owner) :
    reactor.part? name = some (owner.use?, owner.socket) := by
  rw [part?, named]
  rfl

theorem part?_of_owners (same : after.owners = before.owners) (other : String) :
    after.part? other = before.part? other := by
  rw [part?, owner?, same]
  rfl

theorem part?_setSocket (reactor : Reactor) (name other : String) (socket : Socket) :
    (reactor.setSocket name socket).part? other =
      if other = name then (reactor.part? other).map fun part => (part.1, socket)
      else reactor.part? other := by
  rw [part?, owner?_setSocket]
  split
  · simp [part?, Function.comp_def]
  · rfl

/-- A channel that is given another key is used as before. -/
theorem part?_setOwner_key {channel : Channel} (key : Option KeyId)
    (named : reactor.owner? name = some (.watchable channel)) (other : String) :
    (reactor.setOwner name (.watchable { channel with key := key })).part? other =
      reactor.part? other := by
  rw [part?, owner?_setOwner]
  split
  · rename_i here
    rw [here, part?_of_owner? named]
    rfl
  · rfl

theorem part?_of_unregister (run : (reactor.unregister name).Runs answers host later afterwards)
    (other : String) : later.part? other = reactor.part? other := by
  unfold unregister at run
  split at run
  · rename_i channel named
    have forgotten := part?_setOwner_key none named other
    dsimp only at run
    split at run
    · exact (part?_of_owners (lapsed_of_cancel run).2 other).trans forgotten
    · obtain ⟨rfl, -⟩ := run
      exact forgotten
  · obtain ⟨rfl, -⟩ := run
    rfl

theorem part?_of_registerNew {channel : Channel} {selector : Nat} {interest : OpSet}
    {attachment : Option String} {result : Except Fault KeyId}
    (named : reactor.owner? name = some (.watchable channel))
    (run : (reactor.registerNew name channel selector interest attachment).Runs answers host
      (result, later) afterwards) (other : String) : later.part? other = reactor.part? other := by
  obtain ⟨⟨outcome, middle⟩, between, stepped, rest⟩ := Program.runs_bind.mp run
  have same : middle.owners = reactor.owners := Operation.owners_of_onSelector stepped
  cases outcome with
  | error fault =>
      obtain ⟨given, -⟩ := rest
      cases given
      exact part?_of_owners same other
  | ok serial =>
      obtain ⟨given, -⟩ := rest
      cases given
      have named' : middle.owner? name = some (.watchable channel) := by
        rw [owner?, same]
        exact named
      exact (part?_setOwner_key _ named' other).trans (part?_of_owners same other)

/-! ## Keeping to roles -/

def InRoles (reactor : Reactor) : Prop :=
  ∀ name use socket, reactor.part? name = some (some use, socket) → use.Keeps socket

theorem inRoles_empty : (∅ : Reactor).InRoles := by
  intro name use socket found
  cases found

theorem InRoles.inRole {owner : Owner} (roles : reactor.InRoles)
    (named : reactor.owner? name = some owner) : owner.InRole := by
  intro use used
  refine roles name use owner.socket ?_
  rw [part?_of_owner? named, used]

/-- Every part is an old one, or that of an owner in its role. -/
theorem InRoles.grow (roles : before.InRoles)
    (grown : ∀ other, after.part? other = before.part? other ∨ after.owner? other = none ∨
      ∃ owner : Owner, owner.InRole ∧ after.owner? other = some owner) : after.InRoles := by
  intro other use socket found
  rcases grown other with same | gone | ⟨owner, role, given⟩
  · exact roles other use socket (same ▸ found)
  · rw [part?, gone] at found
    cases found
  · rw [part?_of_owner? given] at found
    cases owner_eq : owner.use? with
    | none =>
        rw [owner_eq] at found
        cases found
    | some use' =>
        rw [owner_eq] at found
        cases found
        exact role use owner_eq

theorem InRoles.of_part? (roles : before.InRoles)
    (same : ∀ other, after.part? other = before.part? other) : after.InRoles :=
  roles.grow fun other => .inl (same other)

theorem InRoles.of_owners (roles : before.InRoles) (same : after.owners = before.owners) :
    after.InRoles := roles.of_part? (part?_of_owners same)

theorem InRoles.without (roles : reactor.InRoles) (name : String) :
    (reactor.without name).InRoles := by
  refine roles.grow fun other => ?_
  by_cases here : other = name
  · exact .inr (.inl ((owner?_without reactor name other).trans (if_pos here)))
  · refine .inl (congrArg (Option.map _) ?_)
    exact (owner?_without reactor name other).trans (if_neg here)

theorem InRoles.setOwner {owner : Owner} (roles : reactor.InRoles) (role : owner.InRole) :
    (reactor.setOwner name owner).InRoles := by
  refine roles.grow fun other => ?_
  by_cases here : other = name
  · exact .inr (.inr ⟨owner, role, (owner?_setOwner reactor name other owner).trans (if_pos here)⟩)
  · refine .inl (congrArg (Option.map _) ?_)
    exact (owner?_setOwner reactor name other owner).trans (if_neg here)

theorem InRoles.place {owner : Owner} (roles : reactor.InRoles) (role : owner.InRole)
    (run : (reactor.place name owner).Runs answers host later afterwards) : later.InRoles := by
  have placed : (reactor.setOwner name owner).InRoles := roles.setOwner role
  refine placed.of_part? fun other => congrArg (Option.map _) ?_
  exact (owner?_of_place run other).trans (owner?_setOwner reactor name other owner).symm

theorem InRoles.emptied (roles : reactor.InRoles) (name : String) :
    (reactor.emptied name).InRoles := roles.setOwner (Owner.inRole_handle .empty)

end Reactor

namespace Operation

open Reactor

theorem inRoles_make {recipe : Recipe} {result : Except Refusal Unit} (roles : before.InRoles)
    (run : (before.make name recipe).Runs answers host (result, after) afterwards) :
    after.InRoles := by
  cases made_of_runs run with
  | failed made => exact roles
  | @placed owner later between after made placing =>
      exact roles.place ((recipe.yields_make.of_runs made).1 owner rfl) placing

/-- The connection that a listener in its role gives is in its own. -/
theorem inRoles_accept {listener : String} {access : Access}
    {result : Except Refusal (Accepted Unit)} (roles : before.InRoles)
    (run : (before.accept listener access name).Runs answers host (result, after) afterwards) :
    after.InRoles := by
  cases received_of_runs run with
  | refused | missed => exact roles
  | @placed owner lent connection peer later between after named lends taken placing =>
      refine roles.place ?_ placing
      obtain ⟨parts, descriptor, live, listens, used, given⟩ :=
        Owner.connection_of_runs_accept taken
      intro use plays
      rw [used] at plays
      obtain ⟨part, played, rfl⟩ := Option.map_eq_some_iff.mp plays
      have keeps : part.Keeps (.live parts) :=
        live ▸ (roles.inRole named).lend lends part played
      -- Only a server listens, and the connection has the listener's protocol.
      have stream : parts.protocol.kind = .stream := by
        have reached := keeps.2
        rw [listens] at reached
        cases part with
        | server => exact keeps.1
        | stream | datagram => exact reached.elim
      rw [given]
      exact ⟨stream, trivial⟩

theorem inRoles_wrap {source : String} {result : Except Refusal Unit} (roles : before.InRoles)
    (run : (before.wrap source name).Runs answers host (result, after) afterwards) :
    after.InRoles := by
  cases wrapped_of_runs run with
  | refused absent => exact roles
  | failed named made => exact roles.without source
  | @placed socket channel later between after named made placing =>
      refine (roles.without source).place ?_ placing
      rcases channel_of_runs made with ⟨same, -⟩ | ⟨fault, middle, impossible, -⟩
      · cases same
        rintro _ ⟨⟩
        exact roles.inRole named .stream rfl
      · cases impossible

theorem inRoles_take {source : String} {result : Except Refusal Unit} (roles : before.InRoles)
    (run : (before.take source name).Runs answers host (result, after) afterwards) :
    after.InRoles := by
  cases taken_of_runs run with
  | refused refusal absent => exact roles
  | placed named placing => exact (roles.emptied source).place (Owner.inRole_handle _) placing

theorem inRoles_adopt {source : String} {result : Except Refusal Unit} (roles : before.InRoles)
    (run : (before.adopt name source).Runs answers host (result, after) afterwards) :
    after.InRoles := by
  cases adopted_of_runs run with
  | refused absent plain => exact roles
  | discarded named discarded apart => exact roles.emptied source
  | adopted named bare => exact (roles.emptied source).setOwner (Owner.inRole_handle _)

/-- A command that an owner grants leaves its socket in its role. -/
theorem inRoles_setSocket {readied : Reactor} {owner : Owner} {access : Access}
    {command : Command} {outcome : Except Failure Reply} {moved : Socket} (roles : before.InRoles)
    (named : before.owner? name = some owner) (granted : owner.grants access command = true)
    (same : ∀ other, readied.part? other = before.part? other)
    (run : (owner.socket.perform command).Runs answers host (outcome, moved) afterwards) :
    (readied.setSocket name moved).InRoles := by
  obtain ⟨hand, last, turned⟩ := Socket.turned_of_runs run
  intro other use socket found
  rw [part?_setSocket, same other] at found
  by_cases here : other = name
  · rw [if_pos here, here, part?_of_owner? named] at found
    obtain ⟨used, rfl⟩ := Prod.mk.inj (Option.some.inj found)
    exact (roles.inRole named use used).granted used granted turned
  · rw [if_neg here] at found
    exact roles other use socket found

theorem inRoles_ask {access : Access} {command : Command} {result : Except Refusal Reply}
    (roles : before.InRoles) (run : (before.ask name access command).Runs answers host (result, after) afterwards) :
    after.InRoles := by
  cases asked_of_runs run with
  | refused ungranted plain => exact roles
  | performed named granted other performed =>
      exact inRoles_setSocket roles named granted (fun _ => rfl) performed
  | closed named granted unregistered performed =>
      exact inRoles_setSocket roles named granted (part?_of_unregister unregistered) performed

theorem inRoles_drop {result : Except Refusal Unit} (roles : before.InRoles)
    (run : (before.drop name).Runs answers host (result, after) afterwards) : after.InRoles := by
  cases dropped_of_runs run with
  | refused absent => exact roles
  | dropped named disposed =>
      exact (roles.without name).of_owners (owners_of_dispose disposed)

theorem inRoles_register {selector : Nat} {interest : OpSet} {attachment : Option String}
    {result : Except Refusal KeyId} (roles : before.InRoles)
    (run : (before.register name selector interest attachment).Runs answers host (result, after)
      afterwards) : after.InRoles := by
  cases enrolled_of_runs run with
  | refused => exact roles
  | fresh named _ registered => exact roles.of_part? (part?_of_registerNew named registered)
  | unchanged _ _ _ changed => exact roles.of_owners (owners_of_onSelector changed)
  | changed _ _ _ changed =>
      exact roles.of_owners ((owners_attach _ _).trans (owners_of_onSelector changed))

/-- No operation leads a socket out of its role. -/
theorem inRoles_of_runs {operation : Operation} {result : operation.Result}
    (roles : before.InRoles)
    (run : (operation.perform before).Runs answers host (result, after) afterwards) :
    after.InRoles := by
  cases operation with
  | make name recipe => exact inRoles_make roles run
  | accept listener access name => exact inRoles_accept roles run
  | wrap source name => exact inRoles_wrap roles run
  | take source name => exact inRoles_take roles run
  | adopt name source => exact inRoles_adopt roles run
  | ask name access command => exact inRoles_ask roles run
  | drop name => exact inRoles_drop roles run
  | register name selector interest attachment => exact inRoles_register roles run
  | setInterest | openSelector | poll | wakeup => exact roles.of_owners (owners_of_onSelector run)
  | cancel | closeSelector | dropSelector =>
      obtain ⟨settled, between, stepped, same, rfl⟩ := Program.runs_bind.mp run
      cases same
      exact roles.of_owners (owners_of_stepSelector stepped)
  | attach id attachment =>
      obtain ⟨same, -⟩ := run
      obtain rfl : after = (before.attach id attachment).2 := congrArg Prod.snd same
      exact roles.of_owners (owners_attach id attachment)
  | newSelector selection =>
      obtain ⟨same, -⟩ := run
      cases same
      exact roles.of_owners rfl

end Operation

theorem History.inRoles {start reactor : Reactor} {origin state : σ} {trace : List Entry}
    (roles : start.InRoles) (history : History answers start origin trace reactor state) :
    reactor.InRoles := by
  induction history with
  | nil => exact roles
  | snoc past run ih => exact Operation.inRoles_of_runs ih run

/-! ## Open listeners and streams -/

/-- What an open listener may answer when it is asked for a connection. -/
theorem Reactor.InRoles.accept {listener : String} {access : Access} {owner lent : Owner}
    {result : Except Refusal (Accepted Unit)} (roles : reactor.InRoles)
    (named : reactor.owner? listener = some owner) (lends : owner.lend access = some lent)
    (serves : lent.use? = some .server) (opened : owner.socket.state = .opened)
    (run : (reactor.accept listener access name).Runs answers host (result, later) afterwards) :
    (∀ refusal, result = .error refusal → ∃ fault, refusal = .fault fault ∧ ¬fault.IsWrongState) ∧
    ∀ peer, result = .ok (.accepted () peer) → ∃ connection descriptor,
      later.owner? name = some connection ∧ connection.use? = some .stream ∧
        ∃ parts, owner.socket = .live parts ∧ connection.socket = parts.connection descriptor := by
  obtain ⟨parts, live, ⟨-, listens⟩ | ⟨impossible, -⟩⟩ :=
    (roles.inRole named .server (Owner.use?_of_lend lends serves)).opened opened
  · have yields := Owner.yields_accept ((Owner.socket_of_lend lends).trans live) listens
    cases received_of_runs run with
    | refused refusal unfit =>
        cases (Owner.takesConnections_of_use? serves).symm.trans (unfit owner lent named lends)
    | @missed owner' lent' outcome after named' lends' taken nothing =>
        cases named.symm.trans named'
        cases lends.symm.trans lends'
        have right := yields.of_runs taken
        rcases outcome with fault | ⟨connection, peer⟩ | - | -
        · refine ⟨?_, fun _ impossible => by cases impossible⟩
          rintro _ ⟨⟩
          exact ⟨fault, rfl, right.2 fault rfl⟩
        · exact absurd rfl (nothing connection peer)
        all_goals constructor <;> rintro _ ⟨⟩
    | @placed owner' lent' connection peer later between after named' lends' taken placing =>
        cases named.symm.trans named'
        cases lends.symm.trans lends'
        obtain ⟨used, descriptor, socket⟩ := (yields.of_runs taken).1 _ rfl connection peer rfl
        refine ⟨fun _ impossible => (by cases impossible),
          fun _ _ => ⟨connection, descriptor, ?_, ?_, parts, live, socket⟩⟩
        · exact (owner?_of_place placing name).trans (if_pos rfl)
        · rw [used, serves]
          rfl
  · cases impossible

theorem Reactor.InRoles.finishConnect {owner : Owner} (roles : reactor.InRoles)
    (named : reactor.owner? name = some owner) (carries : owner.use? = some .stream)
    (opened : owner.socket.state = .opened) :
    reactor.ask name .own .finishConnect =
      return (.ok (.truth true), reactor.setSocket name owner.socket) := by
  obtain ⟨parts, live, ⟨impossible, -⟩ | ⟨-, connected⟩⟩ :=
    (roles.inRole named .stream carries).opened opened
  · cases impossible
  · have granted := Owner.grants_own (Owner.offers_finishConnect carries)
    simp only [ask, named, granted, live, Socket.perform_eq, Socket.respond,
      Socket.finishConnect_eq, connected]
    rfl

/-- After every run, whatever the host replies: every typed socket and every channel is of the
kind of its use and shows only the states of that use.  An open listener that is asked for a
connection, itself or by the typed socket that it lends, never says that it is in the wrong state,
and a connection that it gives is an open stream of its protocol with both halves up and nothing
pending.  An open stream is always done with connecting.  What can be done with a borrowed socket
leaves it as it is. -/
theorem typed_sockets_keep_roles {origin state : σ} {trace : List Entry} {reactor : Reactor}
    (history : History answers ∅ origin trace reactor state) :
    (∀ name owner use, reactor.owner? name = some owner → owner.use? = some use →
      owner.socket.protocol?.map Protocol.kind = some use.kind ∧ use.Shows owner.socket) ∧
    (∀ listener access name owner lent result after later,
      reactor.owner? listener = some owner → owner.lend access = some lent →
      lent.use? = some .server → owner.socket.state = .opened →
      ((Operation.accept listener access name).perform reactor).Runs answers state (result, after)
        later →
      (∀ refusal, result = .error refusal →
        ∃ fault, refusal = .fault fault ∧ ¬fault.IsWrongState) ∧
      ∀ peer, result = .ok (.accepted () peer) → ∃ connection,
        after.owner? name = some connection ∧ connection.use? = some .stream ∧
          connection.socket.state = .opened ∧
          connection.socket.protocol? = owner.socket.protocol? ∧
          (∀ half, connection.socket.isShut half = false) ∧ connection.socket.target? = none) ∧
    (∀ name owner, reactor.owner? name = some owner → owner.use? = some .stream →
      owner.socket.state = .opened → (Operation.ask name .own .finishConnect).perform reactor =
        return (.ok (.truth true), reactor.setSocket name owner.socket)) ∧
    (∀ (socket : Socket) command outcome moved before later, command.isShared = true →
      (socket.perform command).Runs answers before (outcome, moved) later → moved = socket) ∧
    ∀ (socket : Socket) outcome moved before later,
      socket.accept.Runs answers before (outcome, moved) later → moved = socket := by
  have roles := history.inRoles Reactor.inRoles_empty
  refine ⟨?_, ?_, fun _ _ => roles.finishConnect, ?_, ?_⟩
  · intro name owner use named used
    have keeps := roles.inRole named use used
    exact ⟨keeps.kind, keeps.shows⟩
  · intro listener access name owner lent result after later named lends serves opened run
    obtain ⟨fails, gives⟩ := roles.accept named lends serves opened run
    refine ⟨fails, fun peer given => ?_⟩
    obtain ⟨connection, descriptor, placed, used, parts, live, socket⟩ := gives peer given
    refine ⟨connection, placed, used, ?_⟩
    rw [socket, live]
    exact ⟨rfl, rfl, fun half => by cases half <;> rfl, rfl⟩
  · intro socket command outcome moved before later shared run
    obtain ⟨hand, last, turned⟩ := Socket.turned_of_runs run
    exact turned.eq_of_isShared shared
  · intro socket outcome moved before later run
    obtain ⟨given, between, -, same, -⟩ := Program.runs_bind.mp run
    cases same
    rfl

/-- What a host replies where somebody connects to every listener. -/
def servingReply : (call : Call) → Option call.Reply
  | .accept _ => some (.ok (⟨4⟩, .ofOctets (Endpoint.new .loopbackV4 4000).wire 16))
  | call => obligingReply [] call

/-- A host where somebody connects to every listener. -/
def servingHost : Program.Machine Unit := fun call _ => (servingReply call).map fun reply => (reply, ())

def servedRun : List Operation :=
  [.make "door" (.typed .server .tcp4), .ask "door" .own (.bindEndpoint (.new .loopbackV4 80)),
    .ask "door" .own (.listen 4), .accept "door" .own "guest"]

theorem served_listener_keeps_role :
    ∃ trace reactor door guest, replay servingHost ∅ () servedRun = some (trace, reactor, ()) ∧
      reactor.owner? "door" = some (.typed .server door) ∧ Use.server.Shows door ∧
      reactor.owner? "guest" = some (.typed .stream guest) ∧ Use.stream.Shows guest ∧
      (Operation.ask "guest" .own .finishConnect).perform reactor =
        return (.ok (.truth true), reactor.setSocket "guest" guest) := by
  have plays : ((replay servingHost ∅ () servedRun).bind fun played =>
      (played.2.1.owner? "door").bind fun door => (played.2.1.owner? "guest").map fun guest =>
        (door, guest)) =
      some (.typed .server (.live ⟨⟨3⟩, .tcp4, true, false, false, .listening⟩),
        .typed .stream (.live ⟨⟨4⟩, .tcp4, true, false, false, .connected⟩)) := by
    decide +kernel
  obtain ⟨⟨trace, reactor, ⟨⟩⟩, played, rest⟩ := Option.bind_eq_some_iff.mp plays
  obtain ⟨door, named, rest⟩ := Option.bind_eq_some_iff.mp rest
  obtain ⟨guest, named', same⟩ := Option.map_eq_some_iff.mp rest
  obtain ⟨rfl, rfl⟩ := Prod.mk.inj same
  have history : History (.ofMachine servingHost) ∅ () trace reactor () :=
    history_of_replay (fun _ _ _ _ => id) played
  obtain ⟨shows, -, finished, -⟩ := typed_sockets_keep_roles history
  exact ⟨trace, reactor, _, _, played, named, (shows _ _ _ named rfl).2, named',
    (shows _ _ _ named' rfl).2, finished _ _ named' rfl rfl⟩

end SocketReactor
