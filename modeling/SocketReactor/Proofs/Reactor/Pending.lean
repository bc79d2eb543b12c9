import SocketReactor.Proofs.Reactor.Issuing
import SocketReactor.Proofs.Reactor.Polling
import SocketReactor.Proofs.Reactor.Readiness
import SocketReactor.Proofs.Reactor.Registrations
import SocketReactor.Proofs.Socket.Refinement

/-!
# Waiting for connections that are not pending

A poll reports a connection by the interest of a key and by the events that it finds,
and has no regard to the state of the channel's socket.  So a connection is reported
on a channel that has none pending if its key was made to wait for one when none was
pending, or was left waiting when the pending one was settled.
-/

namespace SocketReactor

variable {σ : Type} {answers : Answering σ}

namespace Reactor

def state? (reactor : Reactor) (name : String) : Option SocketState :=
  (reactor.socket? name).map Socket.state

/-- The owner of a name shows the key, and the key waits for a connection. -/
def Awaits (reactor : Reactor) (name : String) (id : KeyId) : Prop :=
  reactor.Shows name id ∧ ∃ key, reactor.key? id = some key ∧ key.interest.connect = true

end Reactor

/-- The entry has a key wait for a connection that is not pending. -/
inductive Entry.Lapses (name : String) (id : KeyId) : Entry → Prop where
  /-- The name is registered for connecting and given the key while no connection is pending. -/
  | registered {before after : Reactor} {number : Nat} {interest : OpSet}
      {attachment : Option String} (wanted : interest.connect = true)
      (idle : before.state? name ≠ some .opening) :
      Lapses name id ⟨before, .register name number interest attachment, .ok id, after⟩
  /-- Connecting is asked for on the key of the name while no connection is pending. -/
  | asked {before after : Reactor} {operation : Operation} {result : operation.Result}
      (asks : operation.Asks before id) (shown : before.Shows name id)
      (idle : before.state? name ≠ some .opening) : Lapses name id ⟨before, operation, result, after⟩
  /-- The connection is settled, and has not been reported on the key that waits for it. -/
  | settled {before after : Reactor} {result : Except Refusal Reply}
      (waits : before.Awaits name id) (pending : before.state? name = some .opening)
      (ended : after.state? name = some .opened ∨ after.state? name = some .created) :
      Lapses name id ⟨before, .ask name .own .finishConnect, result, after⟩

/-- Since some entry the key of a name has been waiting for a connection that is not pending. -/
def Stalled (trace : List Entry) (name : String) (id : KeyId) : Prop :=
  ∃ past entry rest, trace = past ++ entry :: rest ∧ entry.Lapses name id ∧
    ∀ other ∈ entry :: rest, other.after.Awaits name id ∧ other.after.state? name ≠ some .opening

theorem stalled_of_lapses {past : List Entry} {entry : Entry} {name : String} {id : KeyId}
    (lapses : entry.Lapses name id) (waits : entry.after.Awaits name id)
    (idle : entry.after.state? name ≠ some .opening) : Stalled (past ++ [entry]) name id := by
  exact everSince_of_last lapses ⟨waits, idle⟩ past

theorem Stalled.snoc {trace : List Entry} {entry : Entry} {name : String} {id : KeyId}
    (stalled : Stalled trace name id) (waits : entry.after.Awaits name id)
    (idle : entry.after.state? name ≠ some .opening) : Stalled (trace ++ [entry]) name id := by
  have since : EverSince (·.Lapses name id) (fun other => other.after.Awaits name id ∧
    other.after.state? name ≠ some .opening) trace := stalled
  exact since.snoc ⟨waits, idle⟩

/-! ## One operation -/

namespace Reactor

variable {reactor later : Reactor} {asks : KeyId → Prop} {polls : Nat → Prop} {name : String}
  {id : KeyId} {key : Key} {host after : σ} {operation : Operation} {result : operation.Result}

theorem state?_of_socket? (same : later.socket? name = reactor.socket? name) :
    later.state? name = reactor.state? name := congrArg (Option.map Socket.state) same

theorem state?_of_owner? (same : later.owner? name = reactor.owner? name) :
    later.state? name = reactor.state? name :=
  state?_of_socket? (congrArg (Option.map Owner.socket) same)

/-- Asking for a connection on a key leaves every socket as it is. -/
theorem state?_of_asks (asks : operation.Asks reactor id)
    (run : (operation.perform reactor).Runs answers host (result, later) after) (name : String) :
    later.state? name = reactor.state? name := by
  cases operation with
  | setInterest key interest =>
      exact state?_of_socket?
        (Operation.socket?_of_owners (Operation.owners_of_onSelector run) name)
  | register target number interest attachment =>
      exact state?_of_socket? (Operation.socket?_of_register run name)
  | _ => exact asks.elim

theorem state?_setSocket {owner : Owner} (named : reactor.owner? name = some owner)
    (socket : Socket) : (reactor.setSocket name socket).state? name = some socket.state := by
  rw [state?, socket?, owner?_setSocket, if_pos rfl, named]
  exact congrArg (some ∘ Socket.state) (owner.socket_withSocket socket)

/-- As long as the key of a channel counts, only finishing settles its pending connection. -/
theorem settled_of_runs (slotted : (⟨reactor, none, host⟩ : Scene σ).Slotted)
    (becomes : reactor.Becomes asks polls later)
    (run : (operation.perform reactor).Runs answers host (result, later) after)
    (bears : reactor.Bears name id) (valid : later.isValid id = true)
    (pending : reactor.state? name = some .opening) (idle : later.state? name ≠ some .opening) :
    operation = .ask name .own .finishConnect ∧
      (later.state? name = some .opened ∨ later.state? name = some .created) := by
  cases operation with
  | ask target access command =>
      cases asked_of_runs run with
      | refused ungranted plain => exact absurd pending idle
      | @performed command owner outcome moved after named granted other performed =>
          by_cases here : name = target
          · subst here
            have opening : owner.socket.state = .opening := by
              rw [state?, socket?, named] at pending
              exact Option.some.inj pending
            -- The socket has left its state along an edge of the command, one from `opening`.
            have edge := Socket.edge_of_runs performed
            have shown := state?_setSocket named moved
            rw [opening] at edge
            rw [shown] at idle ⊢
            generalize moved.state = state at idle edge
            cases edge with
            | stay => exact absurd rfl idle
            | finished => exact ⟨by rw [(Owner.eq_own_of_grants granted rfl).1], .inl rfl⟩
            | refused => exact ⟨by rw [(Owner.eq_own_of_grants granted rfl).1], .inr rfl⟩
            | close => exact absurd rfl other
          · have same : (reactor.setSocket target moved).owner? name = reactor.owner? name :=
              (reactor.owner?_setSocket target name moved).trans (if_neg here)
            rw [state?_of_owner? same] at idle
            exact absurd pending idle
      | @closed owner readied outcome moved between after named granted unregistered performed =>
          by_cases here : name = target
          · subst here
            cases (lapsed_of_unregister unregistered bears).symm.trans valid
          · have same : (readied.setSocket target moved).owner? name = reactor.owner? name :=
              (readied.owner?_setSocket target name moved).trans
                ((if_neg here).trans (holds_unregister unregistered name id bears valid))
            rw [state?_of_owner? same] at idle
            exact absurd pending idle
  | _ =>
      have holds := holds_of_runs (fun _ _ _ same => by cases same) slotted becomes run
      rw [state?_of_owner? (holds name id bears valid)] at idle
      exact absurd pending idle

end Reactor

/-! ## Runs -/

namespace History

variable {origin state after : σ} {trace past rest : List Entry} {entry : Entry}
  {reactor later : Reactor} {name : String} {id : KeyId}

/-- A key that waits for a connection which is not pending did so before, or the operation is
the reason. -/
theorem lapses_of_runs {operation : Operation} {result : operation.Result}
    (history : History answers ∅ origin trace reactor state)
    (run : (operation.perform reactor).Runs answers state (result, later) after)
    (waits : later.Awaits name id) (idle : later.state? name ≠ some .opening) :
    Entry.Lapses name id ⟨reactor, operation, result, later⟩ ∨
      (reactor.Awaits name id ∧ reactor.state? name ≠ some .opening) := by
  have linked := history.linked (.empty origin)
  have slotted := history.slotted (.empty origin) (.empty origin)
  have becomes := (moves_of_runs run).becomes linked
  have single := Reactor.singlyKeyed_of_history (history.snoc run)
  obtain ⟨shown, key, found, connect⟩ := waits
  have counts := single.counts name id shown
  rcases issues_of_runs linked.kept run found with ⟨former, found'⟩ | issues
  · obtain ⟨after, found'', become⟩ := becomes.forth id former found'
    cases found.symm.trans found''
    -- The key was in the same slot before, and counted.
    have counted := becomes.isValid found' counts
    obtain ⟨source, shown'⟩ :=
      ((Reactor.singlyKeyed_of_history history).one id counted).exists
    have bears := (Reactor.shows_iff.mp shown').1
    have kept := Reactor.keeps_of_runs slotted becomes run source id bears counts
    obtain rfl := (single.one id counts).unique (Reactor.shows_iff.mpr ⟨kept, counts⟩) shown
    rcases become.connect connect with waited | asks
    · by_cases pending : reactor.state? source = some .opening
      · obtain ⟨rfl, ended⟩ :=
          Reactor.settled_of_runs slotted becomes run bears counts pending idle
        exact .inl (.settled ⟨shown', former, found', waited⟩ pending ended)
      · exact .inr ⟨⟨shown', former, found', waited⟩, pending⟩
    · exact .inl (.asked asks shown' (Reactor.state?_of_asks asks run source ▸ idle))
  · cases issues with
    | @registered target number interest attachment channel selector backend named lapsed known
        isOpen newest sync =>
        have enrols : (Operation.register target number interest attachment).Enrols target id
            (.ok id) := ⟨rfl, rfl⟩
        have given := Reactor.shows_iff.mpr ⟨enrols.bears run, counts⟩
        obtain rfl := (single.one id counts).unique given shown
        have wanted : interest.connect = true := by
          rw [sync.eq_armed.1] at connect
          exact connect
        have same := Reactor.state?_of_socket? (Operation.socket?_of_register run target)
        exact .inl (.registered wanted (same ▸ idle))

/-- A key waits for a connection that is pending, or has been stalled. -/
theorem pending_or_stalled (history : History answers ∅ origin trace reactor state)
    (waits : reactor.Awaits name id) :
    reactor.state? name = some .opening ∨ Stalled trace name id := by
  induction history with
  | nil =>
      obtain ⟨-, key, found, -⟩ := waits
      cases found
  | snoc past run ih =>
      rw [or_iff_not_imp_left]
      intro idle
      rcases past.lapses_of_runs run waits idle with lapses | ⟨waited, idle'⟩
      · exact stalled_of_lapses lapses waits idle
      · exact ((ih waited).resolve_left idle').snoc waits idle

/-- A connection is reported on a key that waited for one, and the poll leaves the channel
alone. -/
theorem awaits_of_reports (history : History answers ∅ origin (past ++ entry :: rest) reactor state)
    (reports : entry.ReportsConnection id) (shown : entry.after.Shows name id) :
    entry.before.Awaits name id ∧ entry.after.state? name = entry.before.state? name := by
  obtain ⟨selected, key, gives, mem, found, connect⟩ := reports
  obtain ⟨before, after, earlier, run, later⟩ := history.cut
  obtain ⟨-, -, selector, settled, -, -, changed, -, -⟩ := history.polled_of_gives gives
  obtain ⟨former, same, found', present, -, wanted, -, -⟩ :=
    ((history.presents gives).2 id.serial mem).ready
  cases found.symm.trans present
  have owners : entry.after.owners = entry.before.owners := by rw [changed]; rfl
  have owner : entry.after.owner? name = entry.before.owner? name :=
    congrArg (Table.get? · name) owners
  have becomes := (moves_of_runs run).becomes (earlier.linked (.empty origin))
  obtain ⟨bears, valid⟩ := Reactor.shows_iff.mp shown
  have shown' : entry.before.Shows name id :=
    Reactor.shows_iff.mpr ⟨Reactor.bears_of_owner? owner.symm bears, becomes.isValid found' valid⟩
  have waited : former.interest.connect = true :=
    ((OpSet.contains_iff _ _).mp wanted).2.1 connect
  exact ⟨⟨shown', former, found', waited⟩, Reactor.state?_of_owner? owner⟩

end History

/-! ## Reports -/

theorem OpSet.connect_roused (interest : OpSet) (reads writes : Bool) :
    (interest.roused reads writes).connect = (writes && interest.connect) := by
  obtain ⟨accept, connect, read, write⟩ := interest
  cases reads <;> cases writes <;> cases connect <;> rfl

/-- A key becomes ready for a connection by waiting for one and by an event of its own. -/
theorem Key.connect_gathered_iff {key : Key} {events : List ReadyEvent} :
    (key.gathered events).connect = true ↔ key.interest.connect = true ∧
      ∃ event ∈ events, event.token = key.token ∧ event.writes = true := by
  have told : ((events.filter fun event => event.token = key.token).any ReadyEvent.writes) = true ↔
      ∃ event ∈ events, event.token = key.token ∧ event.writes = true := by
    simp only [List.any_eq_true, List.mem_filter, decide_eq_true_eq, and_assoc]
  rw [← told, gathered, OpSet.connect_roused, Bool.and_eq_true, and_comm]

/-- A poll reports a connection on a key that waits for one just when it finds an event under
the key's token that tells of room to write, of an end or of an error. -/
theorem Reactor.reports_iff_of_poll {reactor later : Reactor} {name : String} {id : KeyId}
    {selector : Selector} {events : List ReadyEvent} {limit : Option Duration}
    {result : Except Fault (List Nat)} {state after : σ} (waits : reactor.Awaits name id)
    (known : reactor.selector? id.selector = some selector) (kept : selector.Kept)
    (bound : selector.issued < 2 ^ 64)
    (run : ((Operation.poll id.selector limit).perform reactor).Runs (answers.finding events) state
      (result, later) after) :
    Entry.ReportsConnection ⟨reactor, .poll id.selector limit, result, later⟩ id ↔
      ∃ event ∈ events, event.token = UInt64.ofNat id.serial ∧ event.writes = true := by
  obtain ⟨shown, key, found, connect⟩ := waits
  have present : selector.key? id.serial = some key := (key?_of_selector? known).symm.trans found
  have valid : key.valid = true := (isValid_of_key? found).symm.trans (shows_iff.mp shown).2
  have listed := kept.registered bound.le id.serial key present valid
  have isOpen : selector.isOpen = true := by
    by_contra shut
    cases (kept.shut (Bool.eq_false_iff.mpr shut) key.token).symm.trans listed
  obtain ⟨selected, settled, rfl, settles, reckons⟩ := reckons_of_poll known kept isOpen run
  obtain ⟨armed, heard⟩ :=
    reckons.heard id.serial key present ⟨listed, kept.reserved bound present⟩
  have found' := (key?_of_selector? settles).trans heard
  have heeds : (key.gathered events).connect = true ↔ key.interest.connect = true ∧
      ∃ event ∈ events, event.token = UInt64.ofNat id.serial ∧ event.writes = true := by
    rw [← kept.token id.serial key present]
    exact Key.connect_gathered_iff
  constructor
  · rintro ⟨given, key', gives, mem, present', connected⟩
    cases found'.symm.trans present'
    exact (heeds.mp connected).2
  · intro told
    have connected := heeds.mpr ⟨connect, told⟩
    refine ⟨selected, _, rfl, (reckons.ready_iff id.serial).mpr ⟨_, heard, ?_, ?_⟩, found', connected⟩
    · rw [reckons.registry]
      exact listed
    · intro empty
      have silent : key.gathered events = .none := empty
      rw [silent] at connected
      cases connected

/-- In every run from the empty reactor, on every host: if a poll reports a connection on a key,
then the one channel that shows the key has a connection pending, or it has not had one since
connecting was asked for on the key when none was pending, or since the pending one was settled
before it was reported, and the key has been waiting for a connection all that time.  And a
poll reports a connection on a key that waits for one just when it finds an event of the key
that tells of room to write, of an end or of an error, whether or not a connection is
pending. -/
theorem connections_are_reported_by_interest {origin state : σ} {trace : List Entry}
    {reactor : Reactor} (history : History answers ∅ origin trace reactor state) :
    (∀ past entry rest id, trace = past ++ entry :: rest → entry.ReportsConnection id →
      (∃! name, entry.after.Shows name id) ∧
        ∀ name, entry.after.Shows name id →
          entry.after.state? name = some .opening ∨ Stalled past name id) ∧
    ∀ name id selector, reactor.Awaits name id →
      reactor.selector? id.selector = some selector → selector.issued < 2 ^ 64 →
        ∀ events limit result later after,
          ((Operation.poll id.selector limit).perform reactor).Runs (answers.finding events) state
            (result, later) after →
              (Entry.ReportsConnection ⟨reactor, .poll id.selector limit, result, later⟩ id ↔
                ∃ event ∈ events, event.token = UInt64.ofNat id.serial ∧
                  event.writes = true) := by
  constructor
  · rintro past entry rest id rfl reports
    obtain ⟨before, after, earlier, run, -⟩ := history.cut
    constructor
    · obtain ⟨selected, key, gives, mem, -⟩ := reports
      obtain ⟨given, -, -, present, valid, -⟩ := ((history.presents gives).2 id.serial mem).held
      exact (Reactor.singlyKeyed_of_history (earlier.snoc run)).one id
        ((Reactor.isValid_of_key? present).trans valid)
    · intro name shown
      obtain ⟨waited, same⟩ := history.awaits_of_reports reports shown
      rw [same]
      exact earlier.pending_or_stalled waited
  · intro name id selector waits known bound events limit result later after run
    have kept := (history.linked (.empty origin)).kept id.selector selector known
    exact Reactor.reports_iff_of_poll waits known kept bound run

/-- The channel of `connectingRun` has begun no connection, and the poll reports one on it. -/
theorem unconnected_channel_is_reported :
    ∃ trace reactor past entry, replay eagerHost ∅ () connectingRun = some (trace, reactor, ()) ∧
      trace = past ++ [entry] ∧ entry.ReportsConnection ⟨0, 0⟩ ∧
      entry.after.Shows "peer" ⟨0, 0⟩ ∧ entry.after.state? "peer" = some .created ∧
      Stalled past "peer" ⟨0, 0⟩ := by
  have plays : ((replay eagerHost ∅ () connectingRun).bind fun played =>
      played.1.getLast?.bind fun entry =>
        (entry.after.owner? "peer").bind fun owner =>
          (entry.after.key? ⟨0, 0⟩).map fun key =>
            ((entry.given?, key.ready.connect),
              (entry.after.validKey? owner, entry.after.state? "peer"))) =
      some ((some (0, [0]), true), (some ⟨0, 0⟩, some .created)) := by
    decide +kernel
  obtain ⟨⟨trace, reactor, ⟨⟩⟩, played, rest⟩ := Option.bind_eq_some_iff.mp plays
  obtain ⟨entry, last, rest⟩ := Option.bind_eq_some_iff.mp rest
  obtain ⟨owner, named, rest⟩ := Option.bind_eq_some_iff.mp rest
  obtain ⟨key, found, same⟩ := Option.map_eq_some_iff.mp rest
  simp only [Prod.mk.injEq] at same
  obtain ⟨⟨gives, connect⟩, counts, created⟩ := same
  obtain ⟨past, rfl⟩ := List.getLast?_eq_some_iff.mp last
  have history := history_of_replay (fun _ _ _ _ answered => answered) played
  have reports : entry.ReportsConnection ⟨0, 0⟩ :=
    ⟨[0], key, gives, List.mem_singleton_self 0, found, connect⟩
  have shown : entry.after.Shows "peer" ⟨0, 0⟩ := ⟨owner, named, counts⟩
  obtain ⟨-, reported⟩ :=
    (connections_are_reported_by_interest history).1 past entry [] ⟨0, 0⟩ rfl reports
  refine ⟨_, reactor, past, entry, played, rfl, reports, shown, created, ?_⟩
  refine (reported "peer" shown).resolve_left fun opening => ?_
  cases created.symm.trans opening

end SocketReactor
