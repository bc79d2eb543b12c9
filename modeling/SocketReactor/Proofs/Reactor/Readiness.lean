import SocketReactor.Proofs.Reactor.Lineage
import SocketReactor.Proofs.Selector.Reports

/-!
# No stale readiness

Over every run, whatever the host answers and whatever events it makes up: a
poll gives only keys that are registered and count, ready within what they were
interested in; a key stays ready only until the next poll of its selector; and a
connection is reported once for each time that it was asked for.
-/

namespace SocketReactor

variable {σ : Type} {answers : Answering σ}

namespace Entry

def given? : Entry → Option (Nat × List Nat)
  | ⟨_, .poll number _, .ok selected, _⟩ => some (number, selected)
  | _ => none

def Gives (entry : Entry) (number : Nat) (selected : List Nat) : Prop :=
  entry.given? = some (number, selected)

theorem Gives.eq_poll {entry : Entry} {number : Nat} {selected : List Nat}
    (gives : entry.Gives number selected) :
    ∃ before limit after, entry = ⟨before, .poll number limit, .ok selected, after⟩ := by
  unfold Gives given? at gives
  split at gives
  · cases gives
    exact ⟨_, _, _, rfl⟩
  · cases gives

def ReportsConnection (entry : Entry) (id : KeyId) : Prop :=
  ∃ selected key, entry.Gives id.selector selected ∧ id.serial ∈ selected ∧
    entry.after.key? id = some key ∧ key.ready.connect = true

/-- The entry cancels a key that was issued, or closes or drops the channel that has it. -/
inductive Retires : Entry → KeyId → Prop where
  | cancel (before after : Reactor) (id : KeyId) (issued : before.key? id ≠ none) :
      Retires ⟨before, .cancel id, (), after⟩ id
  | close (before after : Reactor) (name : String) (result : Except Refusal Reply)
      (channel : Channel) (id : KeyId) (issued : before.key? id ≠ none)
      (named : before.owner? name = some (.watchable channel)) (has : channel.key = some id) :
      Retires ⟨before, .ask name .own .close, result, after⟩ id
  | drop (before after : Reactor) (name : String) (result : Except Refusal Unit)
      (channel : Channel) (id : KeyId) (issued : before.key? id ≠ none)
      (named : before.owner? name = some (.watchable channel)) (has : channel.key = some id) :
      Retires ⟨before, .drop name, result, after⟩ id

/-- What holds of a key that the poll of an entry has given. -/
structure Presents (entry : Entry) (id : KeyId) : Prop where
  /-- Its selector is open and has it registered. -/
  registered : ∃ selector key, entry.after.selector? id.selector = some selector ∧
    selector.isOpen = true ∧ selector.key? id.serial = some key ∧
    selector.registry.get? key.token = some id.serial
  /-- It counts, and a channel has it. -/
  held : ∃ key name channel, entry.after.key? id = some key ∧ key.valid = true ∧
    entry.after.owner? name = some (.watchable channel) ∧ channel.key = some id ∧
    channel.socket.descriptor = key.descriptor
  /-- It is ready for something that it was interested in before, and waits for a connection
  no longer if it has reported one. -/
  ready : ∃ before key, entry.before.key? id = some before ∧
    entry.after.key? id = some key ∧ key.ready ≠ .none ∧
    before.interest.contains key.ready = true ∧
    key.validOps.contains before.interest = true ∧
    (key.ready.connect = true → key.interest.connect = false)

end Entry

section Polls

variable {reactor later : Reactor} {number : Nat} {limit : Option Duration}
  {result : Except Fault (List Nat)} {state after : σ}

/-- A poll concerns one selector. -/
theorem polled_of_perform
    (run : ((Operation.poll number limit).perform reactor).Runs answers state
      (result, later) after) :
    (reactor.selector? number = none ∧ result = .error .notOpen ∧ later = reactor) ∨
      ∃ selector settled, reactor.selector? number = some selector ∧
        later = reactor.setSelector number settled ∧
        selector.Polled answers state result settled after := by
  simp only [Operation.perform, Reactor.onSelector] at run
  split at run
  · rename_i absent
    obtain ⟨same, rfl⟩ := run
    cases same
    exact .inl ⟨absent, rfl, rfl⟩
  · rename_i selector known
    obtain ⟨⟨given, settled⟩, between, polled, same, rfl⟩ := Program.runs_bind.mp run
    cases same
    exact .inr ⟨selector, settled, known, rfl, Selector.polled_of_runs polled⟩

/-- Once a channel has been closed or let go, the key that it had does not count. -/
theorem isValid_of_dispose {channel : Channel} {id : KeyId} (has : channel.key = some id)
    (run : (reactor.dispose (.watchable channel)).Runs answers state later after) :
    later.isValid id = false := by
  have key : (Owner.watchable channel).key? = some id := has
  simp only [Reactor.dispose, key] at run
  obtain ⟨settled, between, cancelled, rest⟩ := Program.runs_bind.mp run
  obtain ⟨⟨⟩, last, discarded, rfl, rfl⟩ := Program.runs_bind.mp rest
  exact (lapsed_of_cancel cancelled).1

/-- The operation of an entry that retires a key leaves it not counting. -/
theorem isValid_of_retires {entry : Entry} {id : KeyId} (retires : entry.Retires id)
    (run : (entry.operation.perform entry.before).Runs answers state
      (entry.result, entry.after) after) : entry.after.isValid id = false := by
  cases retires with
  | cancel before later id issued =>
      obtain ⟨settled, between, cancelled, same, rfl⟩ := Program.runs_bind.mp run
      cases same
      exact (lapsed_of_cancel cancelled).1
  | close before later name result channel id issued named has =>
      dsimp only at run ⊢
      cases Reactor.asked_of_runs run with
      | refused ungranted => cases ungranted _ named
      | performed _ _ other => exact absurd rfl other
      | closed _ _ unregistered =>
          simp only [Reactor.unregister, named, has] at unregistered
          exact (lapsed_of_cancel unregistered).1
  | drop before later name result channel id issued named has =>
      cases Reactor.dropped_of_runs run with
      | refused absent => cases absent.symm.trans named
      | dropped named' disposed =>
          obtain rfl := Option.some.inj (named.symm.trans named')
          exact isValid_of_dispose has disposed

end Polls

namespace History

variable {reactor : Reactor} {origin state : σ} {trace past between rest : List Entry}
  {first entry : Entry} {id : KeyId}

/-- What the poll of an entry did to its selector. -/
theorem polled_of_gives {number : Nat} {selected : List Nat}
    (history : History answers ∅ origin (past ++ entry :: rest) reactor state)
    (gives : entry.Gives number selected) :
    ∃ before after selector settled, selector.Kept ∧
      entry.before.selector? number = some selector ∧
      entry.after = entry.before.setSelector number settled ∧
      (⟨entry.after, none, after⟩ : Scene σ).Linked ∧
      selector.Polled answers before (.ok selected) settled after := by
  obtain ⟨before, after, earlier, run, -⟩ := history.cut
  have linked := earlier.linked (.empty origin)
  have linked' := linked.moves (moves_of_runs run)
  obtain ⟨reactor, limit, later, rfl⟩ := gives.eq_poll
  rcases polled_of_perform run with ⟨-, impossible, -⟩ |
    ⟨selector, settled, known, changed, polled⟩
  · cases impossible
  · exact ⟨before, after, selector, settled, linked.kept _ _ known, known, changed, linked',
      polled⟩

/-- A poll gives no key twice, and none but keys that are registered, count and are ready. -/
theorem presents {number : Nat} {selected : List Nat}
    (history : History answers ∅ origin (past ++ entry :: rest) reactor state)
    (gives : entry.Gives number selected) :
    selected.Nodup ∧ ∀ serial ∈ selected, entry.Presents ⟨number, serial⟩ := by
  obtain ⟨before, after, selector, settled, kept, known, changed, linked, polled⟩ :=
    history.polled_of_gives gives
  obtain ⟨isOpen, nodup, reports⟩ := polled.reports kept
  refine ⟨nodup, ?_⟩
  intro serial mem
  obtain ⟨former, key, reported⟩ := reports serial mem
  have present : entry.after.selector? number = some settled := by
    rw [changed, Reactor.selector?_setSelector, if_pos rfl]
  have found : entry.after.key? ⟨number, serial⟩ = some key :=
    (Reactor.key?_of_selector? present).trans reported.found
  have found' : entry.before.key? ⟨number, serial⟩ = some former :=
    (Reactor.key?_of_selector? known).trans reported.former
  obtain ⟨place, channel, owned, has, same⟩ := linked.held _ key found reported.valid
  cases place with
  | none => cases owned
  | some name =>
      exact ⟨⟨settled, key, present, isOpen, reported.found, reported.registered⟩,
        ⟨key, name, channel, found, reported.valid, owned, has, same⟩,
        ⟨former, key, found', found, reported.ready, reported.wanted, reported.within,
          reported.retired⟩⟩

/-- A key is ready only if the last poll of its selector gave it. -/
theorem ready_of_last_poll (history : History answers ∅ origin trace reactor state)
    {selector : Selector} (known : reactor.selector? id.selector = some selector)
    (bound : selector.issued ≤ 2 ^ 64) {key : Key} (found : reactor.key? id = some key)
    (ready : key.ready ≠ .none) :
    ∃ past entry rest selected, trace = past ++ entry :: rest ∧
      entry.Gives id.selector selected ∧ id.serial ∈ selected ∧
      ∀ other ∈ rest, ¬other.operation.Polls id.selector := by
  induction history generalizing selector key with
  | nil => cases found
  | snoc former run ih =>
      rename_i trace before after state later operation result
      have linked := former.linked (.empty origin)
      -- Either the last entry polls this selector and gave the key, or the one before is asked.
      by_cases polls : operation.Polls id.selector
      · cases operation with
        | poll number limit =>
            obtain rfl : number = id.selector := polls
            rcases polled_of_perform run with ⟨absent, -, rfl⟩ |
              ⟨former', settled, known', rfl, polled⟩
            · cases absent.symm.trans known
            · rw [Reactor.selector?_setSelector, if_pos rfl] at known
              rw [Reactor.key?_setSelector, if_pos rfl] at found
              obtain rfl : settled = selector := Option.some.inj known
              have kept := linked.kept _ _ known'
              have rekeyed : Selector.Rekeyed (fun _ => False) True former' settled :=
                polled.rekeyed kept
              obtain ⟨selected, rfl, mem⟩ :=
                polled.selected_of_ready kept (rekeyed.issued ▸ bound) found ready
              exact ⟨trace, _, [], selected, rfl, rfl, mem,
                fun other mem => absurd mem List.not_mem_nil⟩
        | _ => exact polls.elim
      · have becomes := (moves_of_runs run).becomes linked
        rcases becomes.ready id key found ready with ⟨key', found', ready'⟩ | polled
        · have held : ∃ selector', before.selector? id.selector = some selector' := by
            unfold Reactor.key? at found'
            obtain ⟨selector', known', -⟩ := Option.bind_eq_some_iff.mp found'
            exact ⟨selector', known'⟩
          obtain ⟨selector', known'⟩ := held
          obtain ⟨later', known'', grown⟩ := becomes.issued _ _ known'
          cases known.symm.trans known''
          obtain ⟨past, entry, rest, selected, cut, gives, mem, silent⟩ :=
            ih known' (grown.trans bound) found' ready'
          refine ⟨past, entry, rest ++ [⟨before, operation, result, after⟩], selected, ?_, gives, mem,
            ?_⟩
          · rw [cut, List.append_assoc, List.cons_append]
          · intro other mem'
            rcases List.mem_append.mp mem' with older | newest
            · exact silent other older
            · rw [List.mem_singleton] at newest
              subst newest
              exact polls
        · exact absurd polled polls

/-- Between two polls that report a connection on a key, a connection is asked for. -/
theorem asked_between {second : Entry}
    (history : History answers ∅ origin (past ++ first :: (between ++ second :: rest))
      reactor state)
    (one : first.ReportsConnection id) (other : second.ReportsConnection id) :
    ∃ entry ∈ between, entry.operation.Asks entry.before id := by
  obtain ⟨selected, key, gives, mem, found, connect⟩ := one
  obtain ⟨selected', key', gives', mem', found', connect'⟩ := other
  obtain ⟨before, after, earlier, run, later⟩ := history.cut
  have linked := (earlier.linked (.empty origin)).moves (moves_of_runs run)
  obtain ⟨before', after', middle, -, -⟩ := later.cut
  have becomes := middle.becomes linked
  -- The first poll took the interest away, and the second needed it.
  obtain ⟨former, calm, -, present, -, -, -, retired⟩ :=
    ((history.presents gives).2 id.serial mem).ready
  cases found.symm.trans present
  have history' : History answers ∅ origin ((past ++ first :: between) ++ second :: rest)
      reactor state := by
    rw [List.append_assoc, List.cons_append]
    exact history
  obtain ⟨waiting, reported, waited, present', -, wanted, -, -⟩ :=
    ((history'.presents gives').2 id.serial mem').ready
  cases found'.symm.trans present'
  have waits : waiting.interest.connect = true :=
    ((OpSet.contains_iff _ _).mp wanted).2.1 connect'
  obtain ⟨same, known, become⟩ := becomes.forth id key found
  cases waited.symm.trans known
  rcases become.connect waits with still | asked
  · rw [retired connect] at still
    cases still
  · exact asked

/-- A key that was cancelled, or whose channel was closed or dropped, is given no more. -/
theorem not_given_of_retires {second : Entry} {selected : List Nat}
    (history : History answers ∅ origin (past ++ first :: (between ++ second :: rest))
      reactor state)
    (retires : first.Retires id) (gives : second.Gives id.selector selected) :
    id.serial ∉ selected := by
  intro mem
  obtain ⟨before, after, earlier, run, later⟩ := history.cut
  have linked := earlier.linked (.empty origin)
  have linked' := linked.moves (moves_of_runs run)
  have stale := isValid_of_retires retires run
  have issued : first.before.key? id ≠ none := by
    cases retires <;> assumption
  obtain ⟨key, found⟩ := Option.ne_none_iff_exists'.mp issued
  obtain ⟨key', found', -⟩ := ((moves_of_runs run).becomes linked).forth id key found
  obtain ⟨before', after', middle, run', -⟩ := later.cut
  have becomes := (middle.snoc run').becomes linked'
  obtain ⟨last, known, become⟩ := becomes.forth id key' found'
  have history' : History answers ∅ origin ((past ++ first :: between) ++ second :: rest)
      reactor state := by
    rw [List.append_assoc, List.cons_append]
    exact history
  obtain ⟨given, name, channel, present, valid, -⟩ :=
    ((history'.presents gives).2 id.serial mem).held
  cases known.symm.trans present
  rw [Reactor.isValid_of_key? found', become.valid valid] at stale
  cases stale

end History

/-- In every run from the empty reactor, on every host, readiness is never stale.  A poll
gives each key once, and only keys that are registered, count, belong to a channel and are
ready within their interest; it gives no key after it was cancelled or its channel closed.
A key that is ready counts, and it was given by the last poll of its selector unless that
has issued more keys than there are tokens.  Between two reports of a connection on one key,
a connection is asked for. -/
theorem readiness_is_current {origin state : σ} {trace : List Entry} {reactor : Reactor}
    (history : History answers ∅ origin trace reactor state) :
    (∀ entry ∈ trace, ∀ number selected, entry.Gives number selected →
      selected.Nodup ∧ ∀ serial ∈ selected, entry.Presents ⟨number, serial⟩) ∧
    (∀ past first between second rest id selected,
      trace = past ++ first :: (between ++ second :: rest) →
      first.Retires id → second.Gives id.selector selected → id.serial ∉ selected) ∧
    (∀ id selector key, reactor.selector? id.selector = some selector →
      reactor.key? id = some key → key.ready ≠ .none →
      key.valid = true ∧ (selector.issued ≤ 2 ^ 64 →
        ∃ past entry rest selected, trace = past ++ entry :: rest ∧
          entry.Gives id.selector selected ∧ id.serial ∈ selected ∧
          ∀ other ∈ rest, ¬other.operation.Polls id.selector)) ∧
    (∀ past first between second rest id,
      trace = past ++ first :: (between ++ second :: rest) →
      first.ReportsConnection id → second.ReportsConnection id →
      ∃ entry ∈ between, entry.operation.Asks entry.before id) := by
  refine ⟨?_, ?_, ?_, ?_⟩
  · intro entry mem number selected gives
    obtain ⟨past, rest, rfl⟩ := List.append_of_mem mem
    exact history.presents gives
  · rintro past first between second rest id selected rfl retires gives
    exact history.not_given_of_retires retires gives
  · intro id selector key known found ready
    have linked := history.linked (.empty origin)
    have kept := linked.kept _ _ known
    have present := (Reactor.key?_of_selector? known).symm.trans found
    refine ⟨?_, fun bound => history.ready_of_last_poll known bound found ready⟩
    by_contra stale
    exact ready ((kept.sane id.serial key present).rested (Bool.eq_false_iff.mpr stale))
  · rintro past first between second rest id rfl one other
    exact history.asked_between one other

/-- A host on which every call succeeds and every wait finds the first key writable. -/
def eagerHost : Program.Machine Unit
  | .socket _ _ _, state => some (.ok ⟨6⟩, state)
  | .statusFlags _, state => some (.ok 0, state)
  | .setStatusFlags _ _, state => some (.ok (), state)
  | .openBackend, state => some (.ok ⟨3⟩, state)
  | .openPipe, state => some (.ok (⟨4⟩, ⟨5⟩), state)
  | .watch _ _, state => some (.ok (), state)
  | .await _ _ _, state => some (.ok [⟨0, outputEvent⟩], state)
  | _, _ => none

def connectingRun : List Operation :=
  [.newSelector .usual, .openSelector 0, .make "peer" (.channel .stream .tcp4),
    .register "peer" 0 .connecting none, .poll 0 none]

theorem connecting_channel_is_presented :
    ∃ trace reactor, replay eagerHost ∅ () connectingRun = some (trace, reactor, ()) ∧
      ∃ entry ∈ trace, entry.Gives 0 [0] ∧ entry.Presents ⟨0, 0⟩ := by
  have plays : ((replay eagerHost ∅ () connectingRun).bind fun played =>
      played.1.getLast?.bind Entry.given?) = some (0, [0]) := by decide +kernel
  obtain ⟨⟨trace, reactor, ⟨⟩⟩, played, rest⟩ := Option.bind_eq_some_iff.mp plays
  obtain ⟨entry, last, gives⟩ := Option.bind_eq_some_iff.mp rest
  have mem := List.mem_of_getLast? last
  have current := readiness_is_current
    (history_of_replay (fun _ _ _ _ answered => answered) played)
  exact ⟨trace, reactor, played, entry, mem, gives,
    (current.1 entry mem 0 [0] gives).2 0 (List.mem_singleton_self 0)⟩

end SocketReactor
