import SocketReactor.Proofs.Reactor.Accounts
import SocketReactor.Proofs.Selector.Watching

/-!
# Watched sets in a run

The invariant of a run on a kernel that refuses a change of a watched set only
for the descriptor's sake.  It joins the books of the selectors, the accounts of
the descriptors and what is watched, since a descriptor can be watched anew only
if no other key still has it.
-/

namespace SocketReactor

variable {asks : KeyId → Prop} {polls : Nat → Prop}
  {commands : String → Command → Prop}

structure Scene.Coherent (scene : Scene Kernel) : Prop where
  linked : scene.Linked
  accounted : Accounted scene.held? scene.host
  watched : ∀ id selector backend, scene.reactor.selector? id = some selector →
    selector.phase = .opened backend → selector.issued ≤ 2 ^ 64 →
      selector.Watched backend scene.host

namespace Scene

variable {scene later : Scene Kernel} {id : Nat} {selector : Selector} {backend : Backend}

/-- The descriptor of a key that counts is held by the channel that has the key, if it is
one. -/
theorem Linked.holder (linked : scene.Linked) {name : KeyId} {key : Key}
    (found : scene.reactor.key? name = some key) (valid : key.valid = true)
    (present : key.descriptor ≠ .absent) :
    ∃ place channel, scene.owner? place = some (.watchable channel) ∧
      channel.key = some name ∧ scene.held? (.owner place) = some key.descriptor := by
  obtain ⟨place, channel, owned, has, same⟩ := linked.held name key found valid
  refine ⟨place, channel, owned, has, ?_⟩
  have held : scene.held? (.owner place) = channel.socket.owned? := by
    rw [held?, owned]
    rfl
  rw [held]
  unfold Socket.descriptor at same
  cases owner : channel.socket.owned? with
  | none =>
      rw [owner] at same
      exact absurd same.symm present
  | some descriptor =>
      rw [owner] at same
      exact congrArg some same

/-- The parts of an open selector's backend are held by the selector. -/
theorem held?_of_opened (known : scene.reactor.selector? id = some selector)
    (isOpen : selector.phase = .opened backend) (part : Part) :
    scene.held? (.backend id part) = some (backend.part part) := by
  rw [held?, known, Option.bind_some, Selector.held?_of_phase isOpen]
  rfl

namespace Coherent

theorem separate (coherent : scene.Coherent)
    (known : scene.reactor.selector? id = some selector)
    (isOpen : selector.phase = .opened backend) :
    selector.Separate backend scene.host := by
  have found : ∀ serial key, selector.key? serial = some key →
      scene.reactor.key? ⟨id, serial⟩ = some key := by
    intro serial key present
    exact (Reactor.key?_of_selector? known).trans present
  have named : ∀ descriptor, descriptor ∈ scene.host.opened → descriptor ≠ .absent := by
    rintro descriptor mem rfl
    exact scene.host.absent_not_mem mem
  constructor
  case apart =>
    intro serial other key key' present valid present' valid' same mem
    obtain ⟨place, channel, owned, has, held⟩ :=
      coherent.linked.holder (found serial key present) valid (named _ mem)
    obtain ⟨place', channel', owned', has', held'⟩ :=
      coherent.linked.holder (found other key' present') valid' (named _ (same ▸ mem))
    rw [← same] at held'
    have places := Holder.owner.inj (coherent.accounted.apart _ _ _ held held')
    rw [places, owned'] at owned
    cases owned
    cases has.symm.trans has'
    rfl
  case pipe =>
    intro serial key present valid same
    have reader := held?_of_opened known isOpen .reader
    have mem := coherent.accounted.opened _ _ reader
    have mem' : key.descriptor ∈ scene.host.opened := by
      rw [same]
      exact mem
    obtain ⟨place, channel, owned, has, held⟩ :=
      coherent.linked.holder (found serial key present) valid (named _ mem')
    rw [same] at held
    cases coherent.accounted.apart _ _ _ held reader

/-- What a selector uses is open, but for the descriptors of channels that were closed. -/
theorem knows (coherent : scene.Coherent)
    (known : scene.reactor.selector? id = some selector)
    (isOpen : selector.phase = .opened backend) :
    scene.host.Knows (selector.Uses backend) := by
  rintro descriptor (rfl | rfl | ⟨serial, key, present, valid, rfl⟩)
  · exact .inr (coherent.accounted.opened _ _ (held?_of_opened known isOpen .poll))
  · exact .inr (coherent.accounted.opened _ _ (held?_of_opened known isOpen .reader))
  · by_cases absent : key.descriptor = .absent
    · exact .inl absent
    · have found : scene.reactor.key? ⟨id, serial⟩ = some key :=
        (Reactor.key?_of_selector? known).trans present
      obtain ⟨place, channel, owned, has, held⟩ := coherent.linked.holder found valid absent
      exact .inr (coherent.accounted.opened _ _ held)

/-- A selector uses nothing that another selector holds, or an owner whose key does not
count. -/
theorem unused (coherent : scene.Coherent)
    (known : scene.reactor.selector? id = some selector)
    (isOpen : selector.phase = .opened backend) {holder : Holder} {descriptor : Descriptor}
    (held : scene.held? holder = some descriptor)
    (foreign : ∀ part, holder ≠ .backend id part)
    (lapsed : ∀ place owner, holder = .owner place → scene.owner? place = some owner →
      scene.reactor.Lapsed owner) : ¬selector.Uses backend descriptor := by
  rintro (rfl | rfl | ⟨serial, key, present, valid, rfl⟩)
  · exact foreign _ (coherent.accounted.apart _ _ _ held (held?_of_opened known isOpen .poll))
  · exact foreign _ (coherent.accounted.apart _ _ _ held (held?_of_opened known isOpen .reader))
  · have mem := coherent.accounted.opened _ _ held
    have found : scene.reactor.key? ⟨id, serial⟩ = some key :=
      (Reactor.key?_of_selector? known).trans present
    obtain ⟨place, channel, owned, has, held'⟩ := coherent.linked.holder found valid
      fun absent => scene.host.absent_not_mem (absent ▸ mem)
    have stale := lapsed place _ (coherent.accounted.apart _ _ _ held held') owned _ has
    rw [Reactor.isValid_of_key? found, valid] at stale
    cases stale

/-- A selector uses nothing of an owner whose key does not count. -/
theorem unused_of_lapsed (coherent : scene.Coherent)
    (known : scene.reactor.selector? id = some selector)
    (isOpen : selector.phase = .opened backend) {place : Option String} {owner : Owner}
    {descriptor : Descriptor} (held : scene.held? (.owner place) = some descriptor)
    (present : scene.owner? place = some owner) (lapsed : scene.reactor.Lapsed owner) :
    ¬selector.Uses backend descriptor := by
  refine coherent.unused known isOpen held ?_ ?_
  · intro part same
    cases same
  · intro other given same owned
    cases same
    cases present.symm.trans owned
    exact lapsed

/-- What is watched is right after a move that spares what every open selector uses. -/
theorem watched_of_spares (coherent : scene.Coherent)
    (selectors : later.reactor.selectors = scene.reactor.selectors)
    (spares : ∀ id selector backend, scene.reactor.selector? id = some selector →
      selector.phase = .opened backend →
        Kernel.Spares (selector.Uses backend) scene.host later.host) :
    ∀ id selector backend, later.reactor.selector? id = some selector →
      selector.phase = .opened backend → selector.issued ≤ 2 ^ 64 →
        selector.Watched backend later.host := by
  intro id selector backend known isOpen bound
  rw [Reactor.selector?_of_selectors selectors] at known
  exact (coherent.watched id selector backend known isOpen bound).spare
    (spares id selector backend known isOpen)

/-- What is watched is right after a selector acts, if it is for that selector. -/
theorem watched_of_effect {reactor : Reactor} {loose : Option Owner} {kernel after : Kernel}
    {settled : Selector} (coherent : (⟨reactor, loose, kernel⟩ : Scene Kernel).Coherent)
    (known : reactor.selector? id = some selector)
    (effect : selector.Effect settled kernel after)
    (own : ∀ backend, settled.phase = .opened backend → settled.issued ≤ 2 ^ 64 →
      settled.Watched backend after) :
    ∀ other given backend, (reactor.setSelector id settled).selector? other = some given →
      given.phase = .opened backend → given.issued ≤ 2 ^ 64 → given.Watched backend after := by
  intro other given backend found isOpen bound
  rcases Reactor.found_in_setSelector found with ⟨-, rfl⟩ | ⟨apart, known'⟩
  · exact own backend isOpen bound
  · refine (coherent.watched other given backend known' isOpen bound).spare ?_
    refine effect.spares (coherent.knows known' isOpen) ?_
    intro parts held part
    have holds := Scene.held?_backend loose kernel known part
    rw [held] at holds
    refine coherent.unused known' isOpen holds ?_ ?_
    · intro part' same
      cases same
      exact apart rfl
    · intro place owner same
      cases same

/-- The descriptor of a channel whose key does not count is not used by any selector. -/
theorem unshared (coherent : scene.Coherent) {name : String} {channel : Channel}
    (named : scene.reactor.owner? name = some (.watchable channel))
    (lapsed : scene.reactor.Lapsed (.watchable channel))
    (known : scene.reactor.selector? id = some selector)
    (isOpen : selector.phase = .opened backend)
    (mem : channel.socket.descriptor ∈ scene.host.opened) :
    ¬selector.Uses backend channel.socket.descriptor := by
  have held : scene.held? (.owner (some name)) = some channel.socket.descriptor := by
    have owned : scene.held? (.owner (some name)) = channel.socket.owned? :=
      Scene.held?_of_named scene.host named
    rw [owned]
    unfold Socket.descriptor at mem ⊢
    cases owner : channel.socket.owned? with
    | none =>
        rw [owner] at mem
        exact absurd mem scene.host.absent_not_mem
    | some descriptor => rfl
  exact coherent.unused_of_lapsed known isOpen held named lapsed

/-- A channel whose key does not count may be registered. -/
theorem free (coherent : scene.Coherent) {name : String} {channel : Channel}
    (named : scene.reactor.owner? name = some (.watchable channel))
    (lapsed : scene.reactor.Lapsed (.watchable channel))
    (known : scene.reactor.selector? id = some selector)
    (isOpen : selector.phase = .opened backend) :
    channel.socket.descriptor ≠ backend.reader ∧
      ∀ other key, selector.key? other = some key → key.valid = true →
        key.descriptor = channel.socket.descriptor →
          channel.socket.descriptor ∉ scene.host.opened := by
  constructor
  · intro shared
    have mem := coherent.accounted.opened _ _ (held?_of_opened known isOpen .reader)
    exact coherent.unshared named lapsed known isOpen (shared ▸ mem) (.inr (.inl shared))
  · intro other key found valid same mem
    exact coherent.unshared named lapsed known isOpen mem
      (.inr (.inr ⟨other, key, found, valid, same⟩))

/-- Every move keeps registries, keys and watched sets together. -/
theorem move (coherent : scene.Coherent) (step : Move Kernel.Answers asks polls commands scene later) :
    later.Coherent := by
  refine ⟨coherent.linked.move step, coherent.accounted.move coherent.linked step, ?_⟩
  cases step with
  | act known outcome asked polled tended =>
      have kept := coherent.linked.kept _ _ known
      have idle := coherent.linked.idle _ _ known
      refine coherent.watched_of_effect known (outcome.effect kept idle.1 idle.2) ?_
      intro backend isOpen bound
      -- An action issues no key, so the bound speaks of the selector before it as well.
      rw [(outcome.becomes kept).issued] at bound
      refine outcome.watched kept bound ?_ isOpen
      intro backend isOpen
      exact ⟨coherent.separate known isOpen, coherent.watched _ _ _ known isOpen bound⟩
  | refuse known outcome tended =>
      refine coherent.watched_of_effect known outcome.effect ?_
      intro backend isOpen bound
      obtain ⟨phase, grown⟩ := outcome.frame
      refine outcome.watched (coherent.linked.kept _ _ known)
        (coherent.watched _ _ _ known (phase ▸ isOpen) (grown.trans bound)) (phase ▸ isOpen) ?_
      intro issued same
      cases same
  | issue named lapsed known outcome tended =>
      refine coherent.watched_of_effect known outcome.effect ?_
      intro backend isOpen bound
      obtain ⟨phase, grown⟩ := outcome.frame
      rw [phase] at isOpen
      refine outcome.watched (coherent.linked.kept _ _ known)
        (coherent.watched _ _ _ known isOpen (grown.trans bound)) isOpen ?_
      intro issued _
      exact coherent.free named lapsed known isOpen
  | add selection =>
      rename_i reactor loose kernel
      intro id selector backend known isOpen bound
      have grown : (reactor.addSelector selection).2.selector? id =
          if id = reactor.made then some (.new selection) else reactor.selector? id :=
        reactor.selector?_setSelector reactor.made id (.new selection)
      have found := grown.symm.trans known
      split at found
      · cases found
        cases isOpen
      · exact coherent.watched id selector backend found isOpen bound
  | gain tended prompted =>
      refine coherent.watched_of_spares rfl ?_
      intro id selector backend known isOpen
      exact .adds (coherent.knows known isOpen) tended.gained_born.adds
  | miss tended =>
      refine coherent.watched_of_spares rfl ?_
      intro id selector backend known isOpen
      exact .adds (coherent.knows known isOpen) tended.gained_none.adds
  | forget named lapsed => exact coherent.watched_of_spares rfl fun _ _ _ _ _ => .refl _
  | wrap quietly tended prompted =>
      refine coherent.watched_of_spares rfl ?_
      intro id selector backend known isOpen
      rw [Kernel.eq_of_quiet_answers quietly]
      exact .refl _
  | swap name =>
      rename_i reactor loose kernel
      have selectors : (reactor.assign name loose).selectors = reactor.selectors := by
        cases loose <;> rfl
      exact coherent.watched_of_spares selectors fun _ _ _ _ _ => .refl _
  | discard lapsed quietly discarded tended =>
      rename_i reactor kernel between after owner
      refine coherent.watched_of_spares rfl ?_
      intro id selector backend known isOpen
      rw [Kernel.eq_of_quiet_answers quietly] at discarded
      rw [Socket.eq_of_runs_discard discarded]
      -- What is closed belongs to an owner whose key does not count, so nothing watches it.
      refine .without ?_
      intro descriptor owned
      have held : (⟨reactor, some owner, kernel⟩ : Scene Kernel).held? (.owner none) =
        some descriptor := owned
      exact coherent.unused_of_lapsed known isOpen held rfl lapsed
  | perform named granted commanded lapsed outcome tended ran =>
      rename_i reactor loose kernel after name owner access command socket
      refine coherent.watched_of_spares rfl ?_
      intro id selector backend known isOpen
      cases outcome with
      | steady quietly same =>
          rw [Kernel.eq_of_quiet_answers quietly]
          exact .refl _
      | created bare gained => exact .adds (coherent.knows known isOpen) gained.adds
      | closed bare discarded =>
          rw [Socket.eq_of_runs_discard discarded]
          refine .without ?_
          intro descriptor owned
          have held : (⟨reactor, loose, kernel⟩ : Scene Kernel).held? (.owner (some name)) =
            some descriptor := (Scene.held?_of_named kernel named).trans owned
          exact coherent.unused_of_lapsed known isOpen held named (lapsed rfl)

/-- A chain of moves keeps registries, keys and watched sets together. -/
theorem moves (coherent : scene.Coherent) (steps : Moves Kernel.Answers asks polls commands scene later) :
    later.Coherent := by
  induction steps with
  | refl => exact coherent
  | tail _ step ih => exact ih.move step

/-- A reactor without owners and selectors holds nothing. -/
theorem empty (kernel : Kernel) : (⟨∅, none, kernel⟩ : Scene Kernel).Coherent := by
  have bare : ∀ holder, (⟨∅, none, kernel⟩ : Scene Kernel).held? holder = none := by
    intro holder
    cases holder with
    | owner place => cases place <;> rfl
    | backend id part => rfl
  refine ⟨.empty kernel, ⟨?_, ?_⟩, ?_⟩
  · intro holder descriptor held
    rw [bare] at held
    cases held
  · intro holder other descriptor held
    rw [bare] at held
    cases held
  · intro id selector backend known
    cases known

end Coherent

end Scene

/-- Every run from the empty reactor keeps registries, keys and watched sets together. -/
theorem History.coherent {origin kernel : Kernel} {trace : List Entry} {reactor : Reactor}
    (history : History Kernel.Answers ∅ origin trace reactor kernel) :
    (⟨reactor, none, kernel⟩ : Scene Kernel).Coherent := by
  induction history with
  | nil => exact .empty origin
  | snoc past run ih => exact ih.moves (moves_of_runs run)

end SocketReactor
