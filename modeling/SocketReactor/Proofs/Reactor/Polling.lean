import SocketReactor.Proofs.Reactor.Agreement
import SocketReactor.Proofs.Selector.Reckoning

/-!
# What polls make of events

A poll of an open selector gives exactly the keys that the events of its wait
make ready, whatever the events are.  On a kernel that refuses a change of a
watched set only for the descriptor's sake, every event of a registered channel
is one that makes its key ready.
-/

namespace SocketReactor

variable {σ : Type} {answers : Answering σ}

/-- If the call is a wait, then these events are found. -/
def Call.Finds (events : List ReadyEvent) : (call : Call) → call.Reply → Prop
  | .await _ _ _, reply => reply = .ok events
  | _, _ => True

def Answering.finding (answers : Answering σ) (events : List ReadyEvent) : Answering σ :=
  fun call state reply after => answers call state reply after ∧ call.Finds events reply

section Finding

variable {events : List ReadyEvent} {limit : Option Duration}
  {result : Except Fault (List Nat)} {state later : σ}

theorem Selector.processed_of_runs_poll {selector settled : Selector} {backend : Backend}
    (isOpen : selector.phase = .opened backend)
    (run : (selector.poll limit).Runs (answers.finding events) state (result, settled) later) :
    ∃ between, Processed (answers.finding events) backend events selector between result
      settled later := by
  unfold poll beginPoll at run
  simp only [backend_eq_ok_iff.mpr isOpen, Backend.wait] at run
  obtain ⟨reply, between, waited, rest⟩ := Program.runs_bind.mp run
  obtain rfl : reply = .ok events := (Program.runs_request.mp waited).2
  exact ⟨between, processed_of_runs isOpen rest⟩

/-- A poll reckons the events that its wait finds. -/
theorem Reactor.reckons_of_poll {reactor after : Reactor} {id : Nat} {selector : Selector}
    (known : reactor.selector? id = some selector) (kept : selector.Kept)
    (isOpen : selector.isOpen = true)
    (run : ((Operation.poll id limit).perform reactor).Runs (answers.finding events) state
      (result, after) later) :
    ∃ selected settled, result = .ok selected ∧ after.selector? id = some settled ∧
      selector.Reckons events selected settled := by
  simp only [Operation.perform, onSelector, known] at run
  obtain ⟨⟨given, settled⟩, between, polled, same, rfl⟩ := Program.runs_bind.mp run
  cases same
  unfold Selector.isOpen at isOpen
  split at isOpen
  · rename_i backend phase
    obtain ⟨middle, processed⟩ := Selector.processed_of_runs_poll phase polled
    obtain ⟨selected, rfl, reckons⟩ := processed.reckons kept
    refine ⟨selected, settled, rfl, ?_, reckons⟩
    simp [selector?_setSelector]
  · cases isOpen

end Finding

/-- A kernel with room for two sockets on which every wait finds these events and the pipe
is empty. -/
def tellingHost (events : List ReadyEvent) : Program.Machine Kernel
  | .socket _ _ _, kernel =>
      ((kernel.giveOut? ⟨6⟩).map fun after => (.ok ⟨6⟩, after)).or
        ((kernel.giveOut? ⟨7⟩).map fun after => (.ok ⟨7⟩, after))
  | .await _ _ _, kernel => some (.ok events, kernel)
  | .readPipe _ _, kernel => some (.error .tryAgain, kernel)
  | call, kernel => thriftyHost call kernel

theorem answers_tellingHost (events : List ReadyEvent) (call : Call) (kernel : Kernel)
    (reply : call.Reply) (after : Kernel)
    (answered : tellingHost events call kernel = some (reply, after)) :
    Kernel.Answers.finding events call kernel reply after := by
  cases call with
  | socket family kind number =>
      rcases Option.or_eq_some_iff.mp answered with given | ⟨-, given⟩
      all_goals
        obtain ⟨later, given, same⟩ := Option.map_eq_some_iff.mp given
        cases same
        exact ⟨Kernel.fresh_of_giveOut? given, trivial⟩
  | await backend capacity milliseconds =>
      cases answered
      exact ⟨rfl, rfl⟩
  | readPipe descriptor capacity =>
      cases answered
      exact ⟨rfl, trivial⟩
  | _ => exact ⟨answers_thriftyHost _ kernel reply after answered, trivial⟩

/-- One channel waits for a connection and another one for data and for room. -/
def attentiveRun : List Operation :=
  [.newSelector .usual, .openSelector 0, .make "caller" (.channel .stream .tcp4),
    .make "reader" (.channel .stream .tcp4), .register "caller" 0 .connecting none,
    .register "reader" 0 (.reading ∪ .writing) none]

/-- Events of an unknown token, of the pipe, and of both channels, one of them twice. -/
def mixedEvents : List ReadyEvent :=
  [⟨9, inputEvent⟩, ⟨Backend.notifyToken, inputEvent⟩, ⟨1, inputEvent⟩,
    ⟨0, outputEvent ||| hangUpEvent⟩, ⟨1, outputEvent⟩]

/-- What the run above comes to, and a poll that finds the events after it. -/
theorem polled_after_attentiveRun :
    ∃ trace reactor kernel selector after later,
      History Kernel.Answers ∅ Kernel.bare trace reactor kernel ∧
      reactor.selector? 0 = some selector ∧
      selector.phase = .opened ⟨⟨3⟩, ⟨4⟩, ⟨5⟩⟩ ∧ selector.issued = 2 ∧
      kernel.watch? ⟨3⟩ ⟨6⟩ = some (0, outputEvent) ∧
      ((Operation.poll 0 none).perform reactor).Runs (Kernel.Answers.finding mixedEvents) kernel
        (.ok [1, 0], after) later := by
  have plays : ((replay (tellingHost mixedEvents) ∅ Kernel.bare attentiveRun).bind fun played =>
      (played.2.1.selector? 0).bind fun selector =>
        (((Operation.poll 0 none).perform played.2.1).run (tellingHost mixedEvents)
          played.2.2).map fun polled =>
            ((selector.phase, selector.issued),
              (played.2.2.watch? ⟨3⟩ ⟨6⟩, (polled.1.1 : Except Fault (List Nat)).toOption))) =
      some ((.opened ⟨⟨3⟩, ⟨4⟩, ⟨5⟩⟩, 2), (some (0, outputEvent), some [1, 0])) := by
    decide +kernel
  obtain ⟨⟨trace, reactor, kernel⟩, played, rest⟩ := Option.bind_eq_some_iff.mp plays
  obtain ⟨selector, known, rest⟩ := Option.bind_eq_some_iff.mp rest
  obtain ⟨⟨⟨result, after⟩, later⟩, polled, same⟩ := Option.map_eq_some_iff.mp rest
  simp only [Prod.mk.injEq] at same
  obtain ⟨⟨isOpen, issued⟩, watched, given⟩ := same
  obtain rfl : result = .ok [1, 0] := by
    cases result <;> simp_all [Except.toOption]
  have history := history_of_replay
    (fun call before reply after answered =>
      (answers_tellingHost mixedEvents call before reply after answered).1) played
  have run := (Program.runs_ofMachine.mpr polled).mono id (answers_tellingHost mixedEvents)
  exact ⟨trace, reactor, kernel, selector, after, later, history, known, isOpen, issued,
    watched, run⟩

/-- In every state that a run from the empty reactor leads to, on every host, a poll of an
open selector makes of the events that its wait finds, whatever they are, what
`Selector.Reckons` says; no key has the token of the pipe as long as fewer keys have been
issued than there are tokens; and in another order the same events make the same keys ready
for the same. -/
theorem poll_reckons_events {origin state later : σ} {trace : List Entry}
    {reactor after : Reactor} (history : History answers ∅ origin trace reactor state)
    {id : Nat} {selector : Selector} (known : reactor.selector? id = some selector)
    (isOpen : selector.isOpen = true) {events : List ReadyEvent} {limit : Option Duration}
    {result : Except Fault (List Nat)}
    (run : ((Operation.poll id limit).perform reactor).Runs (answers.finding events) state
      (result, after) later) :
    ∃ selected settled, result = .ok selected ∧ after.selector? id = some settled ∧
      selector.Reckons events selected settled ∧
      (selector.issued < 2 ^ 64 → selector.registry.get? Backend.notifyToken = none) ∧
      ∀ events' limit' result' after' later', events.Perm events' →
        ((Operation.poll id limit').perform reactor).Runs (answers.finding events') state
          (result', after') later' →
        ∃ selected' settled', result' = .ok selected' ∧ after'.selector? id = some settled' ∧
          selected.Perm selected' ∧
          ∀ serial, (settled.key? serial).map Key.ready = (settled'.key? serial).map Key.ready := by
  have kept := (history.linked (.empty origin)).kept id selector known
  obtain ⟨selected, settled, same, settles, reckons⟩ :=
    Reactor.reckons_of_poll known kept isOpen run
  refine ⟨selected, settled, same, settles, reckons, ?_, ?_⟩
  · intro bound
    cases piped : selector.registry.get? Backend.notifyToken with
    | none => rfl
    | some serial =>
        obtain ⟨key, found, -, own⟩ := kept.listed _ _ piped
        exact absurd own (kept.reserved bound found)
  · intro events' limit' result' after' later' shuffled run'
    obtain ⟨selected', settled', same', settles', reckons'⟩ :=
      Reactor.reckons_of_poll known kept isOpen run'
    obtain ⟨given, ready⟩ := reckons.perm kept reckons' shuffled
    exact ⟨selected', settled', same', settles', given, ready⟩

theorem mixed_events_are_reckoned :
    ∃ trace reactor kernel selector settled, ∃ after : Reactor,
      History Kernel.Answers ∅ Kernel.bare trace reactor kernel ∧
      reactor.selector? 0 = some selector ∧ selector.isOpen = true ∧
      after.selector? 0 = some settled ∧ selector.Reckons mixedEvents [1, 0] settled := by
  obtain ⟨trace, reactor, kernel, selector, after, later, history, known, phase, -, -, run⟩ :=
    polled_after_attentiveRun
  have isOpen : selector.isOpen = true := by rw [Selector.isOpen, phase]
  obtain ⟨selected, settled, same, settles, reckons, -, -⟩ :=
    poll_reckons_events history known isOpen run
  cases same
  exact ⟨trace, reactor, kernel, selector, settled, after, history, known, isOpen, settles,
    reckons⟩

/-- What a kernel may tell of a descriptor that a backend watches: an event with the token and
some of the bits of the watch, or of an error or an end. -/
structure Kernel.MayTell (kernel : Kernel) (backend descriptor : Descriptor)
    (event : ReadyEvent) : Prop where
  some_bits : event.events ≠ 0
  watched : ∃ bits, kernel.watch? backend descriptor = some (event.token, bits) ∧
    event.events &&& (bits ||| errorEvent ||| hangUpEvent) = event.events

/-- In every run from the empty reactor, on every kernel that refuses a change of a watched
set only for the descriptor's sake, no event of a registered key is swallowed: a poll that
finds an event which the kernel may tell of a descriptor other than the pipe's gives the key
of the event's token, ready for something, as long as fewer keys have been issued than there
are tokens.  So no poll that gives nothing has found such an event. -/
theorem poll_swallows_no_event {origin kernel later : Kernel} {trace : List Entry}
    {reactor after : Reactor} (history : History Kernel.Answers ∅ origin trace reactor kernel)
    {id : Nat} {selector : Selector} (known : reactor.selector? id = some selector)
    (bound : selector.issued < 2 ^ 64) {backend : Backend}
    (isOpen : selector.phase = .opened backend) {events : List ReadyEvent} {event : ReadyEvent}
    (found : event ∈ events) {descriptor : Descriptor} (apart : descriptor ≠ backend.reader)
    (told : kernel.MayTell backend.poll descriptor event) {limit : Option Duration}
    {result : Except Fault (List Nat)}
    (run : ((Operation.poll id limit).perform reactor).Runs (Kernel.Answers.finding events) kernel
      (result, after) later) :
    ∃ selected settled serial key, result = .ok selected ∧ serial ∈ selected ∧
      after.selector? id = some settled ∧
      settled.registry.get? event.token = some serial ∧ settled.key? serial = some key ∧
      key.token = event.token ∧ key.ready ≠ .none := by
  have coherent := history.coherent
  have kept := coherent.linked.kept id selector known
  have watched := coherent.watched id selector backend known isOpen bound.le
  obtain ⟨some_bits, bits, watch, within⟩ := told
  -- The descriptor is watched for a key, under its token and for its interest.
  obtain ⟨serial, key, present, valid, armed, rfl⟩ :=
    watched.only descriptor (by simp [watch]) apart
  have own := (watched.own serial key present valid).symm.trans watch
  rw [watchFor, if_pos armed] at own
  obtain ⟨token, rfl⟩ := Prod.mk.inj (Option.some.inj own)
  have wanted := ((watched.armed serial key present valid).mp armed).1
  have listed := kept.registered bound.le serial key present valid
  have rouses := Key.gathered_ne_none_of_within token.symm wanted some_bits within
  have ready : key.gathered events ≠ .none :=
    Key.gathered_ne_none_iff.mpr ⟨event, found, rouses⟩
  have opened : selector.isOpen = true := by rw [Selector.isOpen, isOpen]
  obtain ⟨selected, settled, same, settles, reckons⟩ :=
    Reactor.reckons_of_poll known kept opened run
  obtain ⟨armed', heard⟩ := reckons.heard serial key present ⟨listed, kept.reserved bound present⟩
  have registered : settled.registry.get? event.token = some serial := by
    rw [reckons.registry, ← token]
    exact listed
  refine ⟨selected, settled, serial, _, same, ?_, settles, registered, heard, token, ready⟩
  exact (reckons.ready_iff serial).mpr ⟨_, heard, token ▸ registered, ready⟩

theorem hang_up_of_caller_is_given :
    ∃ trace reactor kernel selector settled serial key, ∃ after : Reactor,
      History Kernel.Answers ∅ Kernel.bare trace reactor kernel ∧
      reactor.selector? 0 = some selector ∧ selector.issued < 2 ^ 64 ∧
      kernel.MayTell ⟨3⟩ ⟨6⟩ ⟨0, outputEvent ||| hangUpEvent⟩ ∧
      after.selector? 0 = some settled ∧ serial ∈ [1, 0] ∧
      settled.key? serial = some key ∧ key.token = 0 ∧ key.ready ≠ .none := by
  obtain ⟨trace, reactor, kernel, selector, after, later, history, known, phase, issued, watch,
    run⟩ := polled_after_attentiveRun
  have bound : selector.issued < 2 ^ 64 := by omega
  have told : kernel.MayTell ⟨3⟩ ⟨6⟩ ⟨0, outputEvent ||| hangUpEvent⟩ :=
    ⟨by decide, outputEvent, watch, by decide⟩
  have found : (⟨0, outputEvent ||| hangUpEvent⟩ : ReadyEvent) ∈ mixedEvents := by decide
  obtain ⟨selected, settled, serial, key, same, mem, settles, listed, present, own, ready⟩ :=
    poll_swallows_no_event history known bound phase found (by decide) told run
  cases same
  exact ⟨trace, reactor, kernel, selector, settled, serial, key, after, history, known, bound,
    told, settles, mem, present, own, ready⟩

end SocketReactor
