import SocketReactor.Proofs.Reactor.Agreement
import SocketReactor.Proofs.Selector.Shutdown
import SocketReactor.Proofs.Selector.Wakeups

/-!
# Closing a selector under a poll

A selector that is shut refuses to be opened, polled, woken and registered with.
Together with what closing leaves behind this says what threads find that close a
selector of a reactor while another one polls it.
-/

namespace SocketReactor

/-! ## Selectors that are shut -/

/-- Opening, polling, waking and registering are refused, and nothing is asked of the host. -/
structure Selector.Refuses (selector : Selector) : Prop where
  opening : selector.openBackend = pure (.error .notOpen, selector)
  polling : ∀ limit, selector.poll limit = pure (.error .notOpen, selector)
  waking : selector.wakeup = pure (.error .notOpen, selector)
  registering : ∀ descriptor validOps interest attachment,
    validOps.contains interest = true →
      selector.register descriptor validOps interest attachment = pure (.error .notOpen, selector)

namespace Selector.IsShut

variable {selector : Selector}

theorem backend (shut : selector.IsShut) : selector.backend = .error .notOpen := by
  obtain ⟨closed, -⟩ := shut
  unfold isOpen at closed
  unfold Selector.backend
  cases phase : selector.phase with
  | opened backend => simp [phase] at closed
  | unopened | closing _ | closed | ended => rfl

theorem refuses (shut : selector.IsShut) : selector.Refuses where
  opening := by
    obtain ⟨closed, begun⟩ := shut
    unfold isOpen at closed
    unfold openBackend
    cases phase : selector.phase with
    | opened backend => simp [phase] at closed
    | unopened => exact absurd phase begun
    | closing _ | closed | ended => rfl
  polling limit := by
    rw [poll, beginPoll, shut.backend]
    rfl
  waking := by
    rw [wakeup, shut.backend]
  registering descriptor validOps interest attachment within := by
    rw [register, (Key.checkInterest_eq_ok_iff validOps interest).mpr within, shut.backend]
    rfl

end Selector.IsShut

/-- A channel without a key that counts is refused by a selector that is shut. -/
theorem Reactor.register_of_shut {reactor : Reactor} {selector : Selector} {name : String}
    {channel : Channel} {number : Nat} {interest : OpSet} {attachment : Option String}
    (known : reactor.selector? number = some selector) (shut : selector.IsShut)
    (named : reactor.owner? name = some (.watchable channel))
    (unregistered : reactor.validKey? (.watchable channel) = none)
    (within : channel.use.validOps.contains interest = true) :
    reactor.register name number interest attachment =
      pure (.error (.fault .notOpen), reactor.setSelector number selector) := by
  have bare : channel.key.filter reactor.isValid = none := unregistered
  have refused := shut.refuses.registering channel.socket.descriptor channel.use.validOps interest
    attachment within
  simp only [register, named, registerChannel,
    (Key.checkInterest_eq_ok_iff channel.use.validOps interest).mpr within, bare, registerNew,
    onSelector, known, refused]
  rfl

/-! ## Closing under a poll -/

/-- However threads that close and wake a selector take turns with one that polls it, and
whatever events it waits for: once a close that found the selector open has returned, no
poll that has the backend is left waiting on an empty pipe; once a close has emptied the
registry, a poll that comes to process its events returns without a key; and once a close
that found the selector open has returned, the registry is empty, every key that no other
close has in hand is let go as long as no token has repeated, and the selector refuses to be
opened, polled, woken and registered with. -/
theorem closing_frees_poll_and_keys {σ ι : Type} [DecidableEq ι] {answers : Answering σ}
    {origin host : σ} {trace : List Entry} {reactor : Reactor} {number : Nat}
    {selector : Selector} {contents : List UInt8} {deeds : List (Teardown.Deed ι)}
    {state : Teardown ι} (history : History answers ∅ origin trace reactor host)
    (known : reactor.selector? number = some selector)
    (run : (Teardown.idle selector contents).Run deeds state) (who : ι) :
    (.close who .notify ∈ deeds → state.poller.Blocked → state.contents ≠ []) ∧
    (.close who .empty ∈ deeds → state.ReturnsEmpty) ∧
    (.close who .notify ∈ deeds →
      state.selector.registry = ∅ ∧
      (selector.issued ≤ 2 ^ 64 → ∀ serial key, state.selector.key? serial = some key →
        (∀ other, serial ∉ (state.closer other).hand) → key.LetGo) ∧
      state.selector.Refuses ∧
      ∀ later name channel interest attachment,
        Reactor.selector? later number = some state.selector →
        later.owner? name = some (.watchable channel) →
        later.validKey? (.watchable channel) = none →
        channel.use.validOps.contains interest = true →
          later.register name number interest attachment =
            pure (.error (.fault .notOpen), later.setSelector number state.selector)) := by
  have ordered := Teardown.ordered_idle (ι := ι) selector contents
  have torn : .close who .notify ∈ deeds → state.Torn := fun did =>
    run.since (fun step ordered => ordered.step step) (fun step ordered => ordered.torn step)
      (fun step torn => torn.step step) did ordered
  refine ⟨fun did => (torn did).roused, ?_, ?_⟩
  · intro did
    refine Teardown.returnsEmpty_of_empty ?_
    exact run.since (fun step ordered => ordered.step step)
      (fun step _ => Teardown.empty_of_close step)
      (fun step empty => Teardown.empty_of_step empty step) did ordered
  · intro did
    obtain ⟨shut, empty, -⟩ := torn did
    refine ⟨empty, ?_, shut.refuses, ?_⟩
    · intro bound serial key found unheld
      have linked := history.linked (Scene.Linked.empty origin)
      have accounted : (Teardown.idle selector contents : Teardown ι).Accounted :=
        Teardown.accounted_idle (linked.kept number selector known) bound
      have accounted' : state.Accounted :=
        run.keeps (fun step accounted => accounted.step step) accounted
      -- A key is let go, still in the registry, or in the hand of another close.
      rcases accounted' serial key found with gone | listed | ⟨other, minds⟩
      · exact gone
      · rw [Selector.registered, empty] at listed
        cases listed
      · exact absurd minds.mem_hand (unheld other)
    · intro later name channel interest attachment known' named unregistered within
      exact Reactor.register_of_shut known' shut named unregistered within

def watchingRun : List Operation :=
  [.newSelector .usual, .openSelector 0, .make "only" (.channel .stream .tcp4),
    .register "only" 0 .reading none]

def Key.sample : Key :=
  { Key.new 0 ⟨6⟩ Use.stream.validOps .reading none with armed := true }

def Selector.watching : Selector :=
  { Selector.sample with keys := ⟨[(0, .sample)]⟩, registry := ⟨[(0, 0)]⟩, issued := 1 }

section Example

open Teardown

/-- The selector is closed after a poll has fetched the backend, and a wakeup is noted on the
way. -/
def closingDeeds : List (Teardown.Deed Unit) :=
  [.poll .fetch, .wake (.enter ()), .close () .shut, .poll .forget, .close () .empty,
    .wake (.note ()), .close () (.invalidate 0), .close () .disarm, .close () .notify]

theorem run_closingDeeds : ∃ state, (idle .watching []).Run closingDeeds state ∧
    state.poller = .waiting .sample ∧ state.contents = [1] ∧ (state.closer ()).hand = [] ∧
      state.selector.key? 0 = some { Key.sample.invalidate with armed := false } :=
  ⟨_, .cons (.poll_from rfl (.fetch rfl)) (.cons (.wake (.enter rfl rfl) rfl)
    (.cons (.close_from () rfl .shut) (.cons (.poll_from rfl .forget)
    (.cons (.close_from () rfl .empty) (.cons (.wake (.note rfl rfl) rfl)
    (.cons (.close_from () rfl (.invalidate List.mem_cons_self))
    (.cons (.close_from () rfl .disarm)
    (.cons (.close_from () rfl (.notify (runs_of_eagerPipe rfl))) .nil)))))))), rfl, rfl, rfl, rfl⟩

/-- The poll finds the pipe readable and returns without a key, the only key is let go, and
its channel cannot be registered again. -/
theorem poll_is_freed_by_close :
    ∃ trace reactor kernel state returned,
      replay thriftyHost ∅ Kernel.bare watchingRun = some (trace, reactor, kernel) ∧
      reactor.selector? 0 = some .watching ∧ (idle .watching []).Run closingDeeds state ∧
      state.poller.Blocked ∧ state.contents ≠ [] ∧
      state.Step (.poll .wait) returned ∧ (∃ middle, returned.Step (.poll .process) middle) ∧
      returned.ReturnsEmpty ∧ state.selector.registry = ∅ ∧
      (∃ key, state.selector.key? 0 = some key ∧ key.LetGo) ∧ state.selector.Refuses ∧
      (reactor.setSelector 0 state.selector).register "only" 0 .reading none =
        pure (.error (.fault .notOpen),
          (reactor.setSelector 0 state.selector).setSelector 0 state.selector) := by
  have plays : ((replay thriftyHost ∅ Kernel.bare watchingRun).bind fun played =>
      (played.2.1.owner? "only").bind fun owner => owner.channel?.map fun channel =>
        (played.2.1.selector? 0, channel.key, channel.use.validOps.contains .reading)) =
      some (some .watching, some ⟨0, 0⟩, true) := by
    decide +kernel
  obtain ⟨⟨trace, reactor, kernel⟩, played, rest⟩ := Option.bind_eq_some_iff.mp plays
  obtain ⟨owner, named, rest⟩ := Option.bind_eq_some_iff.mp rest
  obtain ⟨channel, isChannel, same⟩ := Option.map_eq_some_iff.mp rest
  obtain ⟨known, others⟩ := Prod.mk.inj same
  obtain ⟨keyed, within⟩ := Prod.mk.inj others
  have history := history_of_replay answers_thriftyHost played
  obtain ⟨state, run, waiting, held, released, gone⟩ := run_closingDeeds
  have waited : (Backend.sample.wait state.selector.waitCapacity none).Runs Pipe.Answers
      state.contents (.ok [⟨Backend.notifyToken, inputEvent⟩]) [1] := by
    rw [held]
    exact runs_of_eagerPipe rfl
  have returned := Step.poll_from waiting (.wait waited)
  have blocked : state.poller.Blocked := by
    rw [waiting]
    trivial
  obtain ⟨roused, -, left⟩ := closing_frees_poll_and_keys history known run ()
  obtain ⟨-, returns, -⟩ := closing_frees_poll_and_keys history known
    (run.append (.cons returned .nil)) ()
  obtain ⟨empty, letGo, refuses, refused⟩ := left (by simp [closingDeeds])
  -- Nothing is registered any more, so no key is to be disarmed.
  have retired : ∀ events, ((state.selector.absorb events).selector.disarmAll .sample
      (state.selector.absorb events).selected).Runs Pipe.Answers [1]
      (state.selector.absorb events).selector [1] := by
    intro events
    rw [Selector.selected_absorb_of_empty empty]
    exact ⟨rfl, rfl⟩
  refine ⟨trace, reactor, kernel, state, _, played, known, run, blocked,
    roused (by simp [closingDeeds]) blocked, returned, ?_, returns (by simp [closingDeeds]), empty,
    ⟨_, gone, ?_⟩, refuses, ?_⟩
  · exact ⟨_, Step.poll_from rfl (.process rfl (retired _))⟩
  · refine letGo (by decide) 0 _ gone fun _ => ?_
    rw [released]
    exact List.not_mem_nil
  · have placed : (reactor.setSelector 0 state.selector).selector? 0 = some state.selector := by
      rw [Reactor.selector?_setSelector, if_pos rfl]
    cases owner with
    | handle | typed => cases isChannel
    | watchable given =>
        obtain rfl : given = channel := Option.some.inj isChannel
        refine refused _ "only" given .reading none placed named ?_ within
        change given.key.filter _ = none
        rw [keyed]
        have lapsed : (reactor.setSelector 0 state.selector).isValid ⟨0, 0⟩ = false := by
          rw [Reactor.isValid_of_key? ((Reactor.key?_of_selector? placed).trans gone)]
          rfl
        simp [lapsed]

end Example

end SocketReactor
