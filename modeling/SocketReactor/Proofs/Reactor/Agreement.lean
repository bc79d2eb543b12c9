import SocketReactor.Proofs.Reactor.Coherence

/-!
# Registry, keys and watched sets agree

The registry of a selector, the flags of its keys and what its backend watches
never drift apart, over every run on a kernel that refuses a change of a watched
set only for the descriptor's sake.
-/

namespace SocketReactor

/-- The registry of a selector, the flags of its keys and what its backend watches agree. -/
structure Selector.Agrees (selector : Selector) (kernel : Kernel) : Prop where
  /-- No token is listed twice. -/
  unique : selector.registry.Unique
  /-- Listed are exactly the keys that count, each under its own token. -/
  registered : ∀ token serial, selector.registry.get? token = some serial ↔
    ∃ key, selector.key? serial = some key ∧ key.valid = true ∧ key.token = token
  distinct : ∀ serial other key key', selector.key? serial = some key →
    selector.key? other = some key' → key.token = key'.token → serial = other
  /-- No key has the token of the pipe. -/
  reserved : ∀ serial key, selector.key? serial = some key → key.token ≠ Backend.notifyToken
  /-- The backend of an open selector watches its pipe and the registered keys that are
  armed, each under its token and for its interest, and nothing else. -/
  watched : ∀ backend, selector.phase = .opened backend → ∀ descriptor token events,
    kernel.watch? backend.poll descriptor = some (token, events) ↔
      (descriptor = backend.reader ∧ (token, events) = pipeWatch) ∨
      ∃ serial key, selector.registry.get? token = some serial ∧
        selector.key? serial = some key ∧ key.armed = true ∧ key.descriptor = descriptor ∧
        key.token = token ∧ (Directions.ofOps key.interest).events = events
  /-- A registered key of an open selector is armed just when it is interested in something
  and its descriptor is open. -/
  armed : ∀ backend, selector.phase = .opened backend → ∀ token serial key,
    selector.registry.get? token = some serial → selector.key? serial = some key →
      (key.armed = true ↔ key.interest ≠ .none ∧ key.descriptor ∈ kernel.opened)
  /-- A selector that is not open has let all its keys go. -/
  shut : selector.isOpen = false → selector.registry = ∅ ∧ ∀ serial key,
    selector.key? serial = some key →
      key.valid = false ∧ key.armed = false ∧ key.ready = .none

section Agreement

variable {selector : Selector} {serial other : Nat} {key key' : Key}

/-- As long as no token has repeated, keys have different tokens. -/
theorem Selector.Kept.distinct (kept : selector.Kept) (bound : selector.issued ≤ 2 ^ 64)
    (found : selector.key? serial = some key) (found' : selector.key? other = some key')
    (same : key.token = key'.token) : serial = other := by
  have less := kept.counted serial key found
  have less' := kept.counted other key' found'
  rw [kept.token serial key found, kept.token other key' found'] at same
  have equal := congrArg UInt64.toNat same
  rw [UInt64.toNat_ofNat', UInt64.toNat_ofNat'] at equal
  omega

/-- The last token, which the pipe has, is never reached. -/
theorem Selector.Kept.reserved (kept : selector.Kept) (bound : selector.issued < 2 ^ 64)
    (found : selector.key? serial = some key) : key.token ≠ Backend.notifyToken := by
  have less := kept.counted serial key found
  rw [kept.token serial key found]
  intro same
  have equal := congrArg UInt64.toNat same
  have last : Backend.notifyToken.toNat = 2 ^ 64 - 1 := rfl
  rw [UInt64.toNat_ofNat', last] at equal
  omega

/-- In every run from the empty reactor, on every kernel that refuses a change of a watched
set only for the descriptor's sake, a selector's registry, its keys and what its backend
watches agree, as long as the selector has issued fewer keys than there are tokens. -/
theorem registry_agrees_with_watched_set {origin kernel : Kernel} {trace : List Entry}
    {reactor : Reactor} (history : History Kernel.Answers ∅ origin trace reactor kernel)
    {id : Nat} (known : reactor.selector? id = some selector)
    (bound : selector.issued < 2 ^ 64) : selector.Agrees kernel := by
  have coherent := history.coherent
  have kept := coherent.linked.kept id selector known
  have valid_of_listed : ∀ token serial key, selector.registry.get? token = some serial →
      selector.key? serial = some key → key.valid = true ∧ key.token = token := by
    intro token serial key listed found
    obtain ⟨given, found', valid, own⟩ := kept.listed token serial listed
    cases found.symm.trans found'
    exact ⟨valid, own⟩
  constructor
  case unique => exact kept.unique
  case registered =>
    intro token serial
    constructor
    · exact kept.listed token serial
    · rintro ⟨key, found, valid, rfl⟩
      exact kept.registered bound.le serial key found valid
  case distinct =>
    intro serial other key key' found found' same
    exact kept.distinct bound.le found found' same
  case reserved =>
    intro serial key found
    exact kept.reserved bound found
  case watched =>
    intro backend isOpen descriptor token events
    have watched := coherent.watched id selector backend known isOpen bound.le
    constructor
    · intro present
      -- The pipe is the one watched descriptor that belongs to no key.
      by_cases piped : descriptor = backend.reader
      · subst piped
        exact .inl ⟨rfl, Option.some.inj (present.symm.trans watched.pipe)⟩
      · right
        have some_watch : kernel.watch? backend.poll descriptor ≠ none := by simp [present]
        obtain ⟨serial, key, found, valid, armed, rfl⟩ :=
          watched.only descriptor some_watch piped
        have own := (watched.own serial key found valid).symm.trans present
        rw [watchFor, armed, if_pos rfl] at own
        cases own
        exact ⟨serial, key, kept.registered bound.le serial key found valid, found, armed,
          rfl, rfl, rfl⟩
    · rintro (⟨rfl, same⟩ | ⟨serial, key, listed, found, armed, rfl, rfl, rfl⟩)
      · rw [same]
        exact watched.pipe
      · have valid := (valid_of_listed _ serial key listed found).1
        have own := watched.own serial key found valid
        rw [watchFor, armed, if_pos rfl] at own
        exact own
  case armed =>
    intro backend isOpen token serial key listed found
    have valid := (valid_of_listed token serial key listed found).1
    exact (coherent.watched id selector backend known isOpen bound.le).armed serial key
      found valid
  case shut =>
    intro shut
    refine ⟨selector.registry.eq_empty_of_get? (kept.shut shut), ?_⟩
    intro serial key found
    have invalid := kept.invalid_of_shut bound.le shut found
    exact ⟨invalid, kept.unwatched bound.le serial key found invalid,
      (kept.sane serial key found).rested invalid⟩

end Agreement

def Kernel.bare : Kernel where
  opened := ∅
  watch? _ _ := none
  absent_not_mem := Finset.notMem_empty _
  watch_mem _ _ found := absurd rfl found

def Kernel.giveOut? (kernel : Kernel) (descriptor : Descriptor) : Option Kernel :=
  if descriptor ∉ kernel.opened ∧ descriptor ≠ .absent then some (kernel.openFile descriptor)
  else none

def thriftyHost : Program.Machine Kernel
  | .openBackend, kernel => (kernel.giveOut? ⟨3⟩).map fun after => (.ok ⟨3⟩, after)
  | .openPipe, kernel => (kernel.giveOut? ⟨4⟩).bind fun middle =>
      (middle.giveOut? ⟨5⟩).map fun after => (.ok (⟨4⟩, ⟨5⟩), after)
  | .socket _ _ _, kernel => (kernel.giveOut? ⟨6⟩).map fun after => (.ok ⟨6⟩, after)
  | .close descriptor, kernel => some (.ok (), kernel.closeFile descriptor)
  | .watch backend change, kernel => match kernel.change? backend change with
      | some after => some (.ok (), after)
      | none => some (.error .badDescriptor, kernel)
  | .statusFlags _, kernel => some (.ok 0, kernel)
  | .setStatusFlags _ _, kernel => some (.ok (), kernel)
  | _, _ => none

theorem Kernel.fresh_of_giveOut? {kernel after : Kernel} {descriptor : Descriptor}
    (given : kernel.giveOut? descriptor = some after) :
    kernel.Fresh descriptor ∧ after = kernel.openFile descriptor := by
  unfold giveOut? at given
  split at given
  · exact ⟨‹_›, (Option.some.inj given).symm⟩
  · cases given

theorem answers_thriftyHost (call : Call) (kernel : Kernel) (reply : call.Reply) (after : Kernel)
    (answered : thriftyHost call kernel = some (reply, after)) :
    Kernel.Answers call kernel reply after := by
  cases call with
  | socket family kind number =>
      obtain ⟨later, given, same⟩ := Option.map_eq_some_iff.mp answered
      cases same
      exact Kernel.fresh_of_giveOut? given
  | openBackend =>
      obtain ⟨later, given, same⟩ := Option.map_eq_some_iff.mp answered
      cases same
      exact Kernel.fresh_of_giveOut? given
  | openPipe =>
      obtain ⟨middle, given, rest⟩ := Option.bind_eq_some_iff.mp answered
      obtain ⟨later, given', same⟩ := Option.map_eq_some_iff.mp rest
      cases same
      obtain ⟨fresh, rfl⟩ := Kernel.fresh_of_giveOut? given
      exact ⟨fresh, Kernel.fresh_of_giveOut? given'⟩
  | watch backend change =>
      simp only [thriftyHost] at answered
      split at answered
      · cases answered
        assumption
      · cases answered
        exact ⟨‹_›, rfl⟩
  | close descriptor | statusFlags descriptor | setStatusFlags descriptor flags =>
      cases answered
      rfl
  | _ => cases answered

/-- A channel is registered and closed, and another one gets its number and is registered. -/
def reusingRun : List Operation :=
  [.newSelector .usual, .openSelector 0, .make "first" (.channel .stream .tcp4),
    .register "first" 0 .reading none, .ask "first" .own .close,
    .make "second" (.channel .stream .tcp4), .register "second" 0 .writing none]

theorem agreement_of_reused_descriptor :
    ∃ trace reactor kernel selector,
      replay thriftyHost ∅ Kernel.bare reusingRun = some (trace, reactor, kernel) ∧
      reactor.selector? 0 = some selector ∧ selector.issued < 2 ^ 64 ∧
      kernel.watch? ⟨3⟩ ⟨6⟩ = some (1, outputEvent) ∧ selector.Agrees kernel := by
  have plays : ((replay thriftyHost ∅ Kernel.bare reusingRun).bind fun played =>
      (played.2.1.selector? 0).map fun selector =>
        (selector.issued, played.2.2.watch? ⟨3⟩ ⟨6⟩)) = some (2, some (1, outputEvent)) := by
    decide +kernel
  obtain ⟨⟨trace, reactor, kernel⟩, played, rest⟩ := Option.bind_eq_some_iff.mp plays
  obtain ⟨selector, known, same⟩ := Option.map_eq_some_iff.mp rest
  obtain ⟨issued, watched⟩ := Prod.mk.inj same
  have bound : selector.issued < 2 ^ 64 := by omega
  have history := history_of_replay answers_thriftyHost played
  exact ⟨trace, reactor, kernel, selector, played, known, bound, watched,
    registry_agrees_with_watched_set history known bound⟩

end SocketReactor
