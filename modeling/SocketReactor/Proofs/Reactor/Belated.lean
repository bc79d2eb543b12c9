import SocketReactor.Proofs.Reactor.Agreement
import SocketReactor.Proofs.Reactor.Issuing
import SocketReactor.Proofs.Reactor.Registrations

/-!
# Registering a closed channel

Closing a channel cancels its key, but a closed channel may be registered again.  A
registration that is interested in something fails, since there is no descriptor to
watch.  One that is interested in nothing asks nothing of the host and succeeds, so that
a key counts which is for no descriptor at all.  No other key does.
-/

namespace SocketReactor

/-- The entry has registered a closed channel with interest in nothing, and given it the key. -/
inductive Entry.Belated (name : String) (id : KeyId) : Entry → Prop where
  | registered {before after : Reactor} {channel : Channel} {number : Nat}
      {attachment : Option String} (named : before.owner? name = some (.watchable channel))
      (closed : channel.socket.state = .closed) :
      Belated name id ⟨before, .register name number .none attachment, .ok id, after⟩

theorem Entry.Belated.enrols {entry : Entry} {name : String} {id : KeyId}
    (belated : entry.Belated name id) : entry.operation.Enrols name id entry.result := by
  cases belated with
  | registered named closed => exact ⟨rfl, rfl⟩

/-! ## Closed sockets -/

theorem OpSet.contains_none (set : OpSet) : set.contains .none = true :=
  (OpSet.contains_iff _ _).mpr ⟨nofun, nofun, nofun, nofun⟩

theorem Socket.owned?_eq_none_iff {socket : Socket} :
    socket.owned? = none ↔ socket.state = .closed := by
  have owns := socket.isValid_iff
  rw [Socket.isValid, ← Option.ne_none_iff_isSome] at owns
  exact not_iff_not.mp owns

theorem Socket.descriptor_of_closed {socket : Socket} (closed : socket.state = .closed) :
    socket.descriptor = .absent := by
  rw [descriptor, owned?_eq_none_iff.mpr closed]
  rfl

/-- The kernel adds no watch for a descriptor that is absent. -/
theorem Kernel.not_add_absent {kernel after : Kernel} {backend : Descriptor} {token : UInt64}
    {events : UInt32} : kernel.change? backend (.add .absent token events) ≠ some after := by
  intro changed
  rw [Kernel.change?, Option.ite_none_right_eq_some] at changed
  exact kernel.absent_not_mem changed.1.2.1

section Registering

variable {kernel after : Kernel} {reactor later : Reactor} {name : String} {channel : Channel}
  {number : Nat} {selector : Selector} {backend : Backend} {key synced : Key}
  {interest : OpSet} {attachment : Option String}

/-- A new key without a descriptor is accepted by the backend only without interest. -/
theorem Key.Synced.idle_of_absent (fresh : key.armed = false) (absent : key.descriptor = .absent)
    (sync : Key.Synced Kernel.Answers backend key interest kernel (.ok ()) synced after) :
    interest = .none := by
  cases sync with
  | idle empty unarmed => exact empty
  | deleted empty armed answered => exact empty
  | modified wanted armed answered => cases fresh.symm.trans armed
  | added wanted unarmed answered =>
      rw [absent] at answered
      exact absurd answered Kernel.not_add_absent

theorem Key.Synced.eq_of_fresh {errno : Errno} (fresh : key.armed = false)
    (sync : Key.Synced Kernel.Answers backend key interest kernel (.error errno) synced after) :
    after = kernel := by
  cases sync with
  | deleted empty armed answered => cases fresh.symm.trans armed
  | modified wanted armed answered => cases fresh.symm.trans armed
  | refused wanted unarmed answered => exact answered.2

def Selector.issueIdle (selector : Selector) (descriptor : Descriptor) (validOps : OpSet)
    (attachment : Option String) : Selector :=
  { selector with
    issued := selector.issued + 1
    keys := selector.keys.insert selector.issued
      (Key.new (UInt64.ofNat selector.issued) descriptor validOps .none attachment)
    registry := selector.registry.insert (UInt64.ofNat selector.issued) selector.issued }

/-- Registering with interest in nothing asks nothing of the host, and does not fail. -/
theorem Selector.register_without_interest (isOpen : selector.phase = .opened backend)
    (descriptor : Descriptor) (validOps : OpSet) (attachment : Option String) :
    selector.register descriptor validOps .none attachment =
      pure (.ok selector.issued, selector.issueIdle descriptor validOps attachment) := by
  have within : Key.checkInterest validOps .none = .ok () :=
    (Key.checkInterest_eq_ok_iff _ _).mpr validOps.contains_none
  have fetched : selector.backend = .ok backend := by
    rw [Selector.backend, isOpen]
  simp only [Selector.register, within, fetched]
  rfl

namespace Reactor

/-- A channel whose key does not count gets one from an open selector when it is registered
with interest in nothing, whether or not it is closed. -/
theorem register_without_interest (named : reactor.owner? name = some (.watchable channel))
    (lapsed : reactor.validKey? (.watchable channel) = none)
    (known : reactor.selector? number = some selector)
    (isOpen : selector.phase = .opened backend) (attachment : Option String) :
    ∃ later, reactor.register name number .none attachment =
      pure (.ok ⟨number, selector.issued⟩, later) ∧ later.Shows name ⟨number, selector.issued⟩ := by
  have within : Key.checkInterest channel.use.validOps .none = .ok () :=
    (Key.checkInterest_eq_ok_iff _ _).mpr (OpSet.contains_none _)
  have bare : channel.key.filter reactor.isValid = none := lapsed
  have registered := Selector.register_without_interest isOpen channel.socket.descriptor
    channel.use.validOps attachment
  refine ⟨(reactor.setSelector number (selector.issueIdle channel.socket.descriptor
    channel.use.validOps attachment)).setOwner name
      (.watchable { channel with key := some ⟨number, selector.issued⟩ }), ?_, ?_⟩
  · simp only [register, named, registerChannel, within, bare, registerNew, onSelector, known,
      registered]
    rfl
  · refine shows_iff.mpr ⟨⟨_, (owner?_setOwner _ _ _ _).trans (if_pos rfl), rfl⟩, ?_⟩
    have issued := (key?_setSelector reactor number (selector.issueIdle channel.socket.descriptor
      channel.use.validOps attachment) ⟨number, selector.issued⟩).trans (if_pos rfl)
    exact isValid_of_key? (issued.trans (Table.get?_insert_self _ _ _))

/-- A closed channel whose key does not count is refused with any other interest, and nothing
that the host holds is changed. -/
theorem refused_of_closed {result : Except Refusal KeyId}
    (named : reactor.owner? name = some (.watchable channel))
    (closed : channel.socket.state = .closed)
    (lapsed : reactor.validKey? (.watchable channel) = none) (wanted : interest ≠ .none)
    (run : (reactor.register name number interest attachment).Runs Kernel.Answers kernel
      (result, later) after) :
    (∃ refusal, result = .error refusal) ∧ later.owners = reactor.owners ∧ after = kernel := by
  have absent := Socket.descriptor_of_closed closed
  cases enrolled_of_runs run with
  | refused plain => exact ⟨⟨_, rfl⟩, rfl, rfl⟩
  | unchanged named' counts here changed =>
      cases named.symm.trans named'
      cases counts.symm.trans lapsed
  | changed named' counts here changed =>
      cases named.symm.trans named'
      cases counts.symm.trans lapsed
  | fresh named' _ registered =>
      cases named.symm.trans named'
      obtain ⟨⟨reply, middle⟩, between, stepped, rest⟩ := Program.runs_bind.mp registered
      have owners := Operation.owners_of_onSelector stepped
      unfold onSelector at stepped
      split at stepped
      · obtain ⟨same, rfl⟩ := stepped
        cases same
        obtain ⟨same, rfl⟩ := rest
        cases same
        exact ⟨⟨_, rfl⟩, rfl, rfl⟩
      · obtain ⟨⟨given, settled⟩, last, registered, same, rfl⟩ := Program.runs_bind.mp stepped
        cases same
        cases Selector.registered_of_runs registered with
        | unasked plain =>
            obtain ⟨same, rfl⟩ := rest
            cases same
            exact ⟨⟨_, rfl⟩, owners, rfl⟩
        | refused isOpen sync =>
            obtain ⟨same, rfl⟩ := rest
            cases same
            exact ⟨⟨_, rfl⟩, owners, sync.eq_of_fresh rfl⟩
        | issued isOpen within sync => exact absurd (sync.idle_of_absent rfl absent) wanted

end Reactor

end Registering

/-! ## Runs -/

namespace Scene.Coherent

variable {scene : Scene Kernel} {name : String} {owner : Owner}

theorem opened_of_owned (coherent : scene.Coherent)
    (named : scene.reactor.owner? name = some owner) {descriptor : Descriptor}
    (owned : owner.socket.owned? = some descriptor) : descriptor ∈ scene.host.opened := by
  have held : scene.held? (.owner (some name)) = owner.socket.owned? :=
    Scene.held?_of_named scene.host named
  exact coherent.accounted.opened _ _ (held.trans owned)

/-- Only a closed socket has no descriptor. -/
theorem closed_of_absent (coherent : scene.Coherent)
    (named : scene.reactor.owner? name = some owner)
    (absent : owner.socket.descriptor = .absent) : owner.socket.state = .closed := by
  rw [← Socket.owned?_eq_none_iff, Option.eq_none_iff_forall_ne_some]
  intro descriptor owned
  have mem := coherent.opened_of_owned named owned
  rw [Socket.descriptor, owned] at absent
  cases absent
  exact scene.host.absent_not_mem mem

end Scene.Coherent

namespace History

variable {origin kernel : Kernel} {trace : List Entry} {reactor : Reactor} {name : String}
  {channel : Channel} {id : KeyId} {key : Key}

/-- A key for no descriptor was given when a closed channel was registered. -/
theorem belated_of_absent (history : History Kernel.Answers ∅ origin trace reactor kernel)
    (found : reactor.key? id = some key) (valid : key.valid = true)
    (absent : key.descriptor = .absent) : ∃ name, ∃ entry ∈ trace, entry.Belated name id := by
  induction history generalizing key with
  | nil => cases found
  | snoc past run ih =>
      have coherent := past.coherent
      rcases issues_of_runs coherent.linked.kept run found with ⟨former, found'⟩ | issues
      · obtain ⟨after, found'', become⟩ :=
          ((moves_of_runs run).becomes coherent.linked).forth id former found'
        cases found.symm.trans found''
        obtain ⟨name, entry, mem, belated⟩ :=
          ih found' (become.valid valid) (become.descriptor.symm.trans absent)
        exact ⟨name, entry, List.mem_append_left _ mem, belated⟩
      · cases issues with
        | @registered name number interest attachment channel selector backend named lapsed known
            isOpen newest sync =>
            have same : key.descriptor = channel.socket.descriptor := by
              rw [sync.eq_armed.1]
              rfl
            have absent' := same.symm.trans absent
            obtain rfl := sync.idle_of_absent rfl absent'
            exact ⟨name, _, List.mem_append_right _ (List.mem_singleton_self _),
              .registered named (coherent.closed_of_absent named absent')⟩

/-- A key that counts is shown by a channel that owns the key's descriptor, which is open, or
was registered when it was closed. -/
theorem owned_or_belated (history : History Kernel.Answers ∅ origin trace reactor kernel)
    (found : reactor.key? id = some key) (valid : key.valid = true) :
    ∃ name channel, reactor.owner? name = some (.watchable channel) ∧
      reactor.validKey? (.watchable channel) = some id ∧
      ((channel.socket.owned? = some key.descriptor ∧ key.descriptor ∈ kernel.opened) ∨
        (channel.socket.state = .closed ∧ ∃ entry ∈ trace, entry.Belated name id)) := by
  have coherent := history.coherent
  have single := Reactor.singlyKeyed_of_history history
  have counts : reactor.isValid id = true := (Reactor.isValid_of_key? found).trans valid
  obtain ⟨place, channel, owned, has, same⟩ := coherent.linked.held id key found valid
  cases place with
  | none => cases owned
  | some name =>
      have named : reactor.owner? name = some (.watchable channel) := owned
      have shows' : reactor.Shows name id := Reactor.shows_iff.mpr ⟨⟨_, named, has⟩, counts⟩
      refine ⟨name, channel, named, Option.filter_eq_some_iff.mpr ⟨has, counts⟩, ?_⟩
      by_cases absent : key.descriptor = .absent
      · obtain ⟨other, entry, mem, belated⟩ := history.belated_of_absent found valid absent
        have same' := (single.one id counts).unique shows' (single.own _ mem _ _ belated.enrols counts)
        exact .inr ⟨coherent.closed_of_absent named (same.trans absent), entry, mem,
          same' ▸ belated⟩
      · left
        have holds : channel.socket.owned? = some key.descriptor := by
          cases owner : channel.socket.owned? with
          | none =>
              rw [Socket.descriptor, owner] at same
              exact absurd same.symm absent
          | some descriptor =>
              rw [Socket.descriptor, owner] at same
              exact congrArg some same
        exact ⟨holds, coherent.opened_of_owned named holds⟩

/-- What a closed channel shows, or what a selector lists of its keys, it was given when it
was closed. -/
theorem belated_of_closed (history : History Kernel.Answers ∅ origin trace reactor kernel)
    (named : reactor.owner? name = some (.watchable channel))
    (closed : channel.socket.state = .closed) (shows' : reactor.Shows name id) :
    ∃ entry ∈ trace, entry.Belated name id := by
  have single := Reactor.singlyKeyed_of_history history
  have counts := single.counts name id shows'
  obtain ⟨key, found, valid⟩ := Reactor.exists_of_isValid counts
  obtain ⟨other, holder, named', has, held⟩ := history.owned_or_belated found valid
  obtain rfl := (single.one id counts).unique ⟨_, named', has⟩ shows'
  cases named.symm.trans named'
  rcases held with ⟨owned, -⟩ | ⟨-, belated⟩
  · cases (Socket.owned?_eq_none_iff.mpr closed).symm.trans owned
  · exact belated

end History

/-- In every run from the empty reactor, on every kernel that refuses a change of a watched
set only for the descriptor's sake: a key that counts is shown by a channel that owns the
key's descriptor, which is open, or that is closed and was given the key when it was
registered, already closed, with interest in nothing.  So only such a registration makes a
closed channel show a key, or a selector list one that was given for it.  And it always can
be made: a closed channel without a key that counts gets one from every open selector if it is
interested in nothing, and is refused with any other interest. -/
theorem closed_channels_are_registered_belatedly {origin kernel : Kernel} {trace : List Entry}
    {reactor : Reactor} (history : History Kernel.Answers ∅ origin trace reactor kernel) :
    (∀ id key, reactor.key? id = some key → key.valid = true →
      ∃ name channel, reactor.owner? name = some (.watchable channel) ∧
        reactor.validKey? (.watchable channel) = some id ∧
        ((channel.socket.owned? = some key.descriptor ∧ key.descriptor ∈ kernel.opened) ∨
          (channel.socket.state = .closed ∧ ∃ entry ∈ trace, entry.Belated name id))) ∧
    ∀ name channel, reactor.owner? name = some (.watchable channel) →
      channel.socket.state = .closed →
        (∀ id, reactor.validKey? (.watchable channel) = some id ∨
          (∃ entry ∈ trace, entry.operation.Enrols name id entry.result) ∧
            (∃ selector, reactor.selector? id.selector = some selector ∧
              id.serial ∈ selector.validKeys) →
          ∃ entry ∈ trace, entry.Belated name id) ∧
        (reactor.validKey? (.watchable channel) = none →
          ∀ number selector, reactor.selector? number = some selector → selector.isOpen = true →
            ∀ attachment,
              (∃ later, reactor.register name number .none attachment =
                pure (.ok ⟨number, selector.issued⟩, later) ∧
                  later.Shows name ⟨number, selector.issued⟩) ∧
              ∀ interest, interest ≠ .none → ∀ result later after,
                (reactor.register name number interest attachment).Runs Kernel.Answers kernel
                  (result, later) after →
                    (∃ refusal, result = .error refusal) ∧ later.owners = reactor.owners ∧
                      after = kernel) := by
  have single := Reactor.singlyKeyed_of_history history
  refine ⟨fun id key found valid => history.owned_or_belated found valid, ?_⟩
  intro name channel named closed
  constructor
  · rintro id (counts | ⟨⟨entry, mem, enrols⟩, selector, known, listed⟩)
    · exact history.belated_of_closed named closed ⟨_, named, counts⟩
    · have valid := (single.listed _ _ known).2 _ listed
      exact history.belated_of_closed named closed (single.own entry mem name id enrols valid)
  · intro lapsed number selector known isOpen attachment
    obtain ⟨backend, opened⟩ : ∃ backend, selector.phase = .opened backend := by
      unfold Selector.isOpen at isOpen
      split at isOpen
      · exact ⟨_, ‹_›⟩
      · cases isOpen
    refine ⟨Reactor.register_without_interest named lapsed known opened attachment, ?_⟩
    intro interest wanted result later after run
    exact Reactor.refused_of_closed named closed lapsed wanted run

def belatedRun : List Operation :=
  [.newSelector .usual, .openSelector 0, .make "late" (.channel .stream .tcp4),
    .ask "late" .own .close, .register "late" 0 .none none]

theorem closed_channel_shows_key :
    ∃ trace reactor kernel channel,
      replay thriftyHost ∅ Kernel.bare belatedRun = some (trace, reactor, kernel) ∧
      reactor.owner? "late" = some (.watchable channel) ∧ channel.socket.state = .closed ∧
      reactor.validKey? (.watchable channel) = some ⟨0, 0⟩ ∧
      ∃ entry ∈ trace, entry.Belated "late" ⟨0, 0⟩ := by
  have plays : ((replay thriftyHost ∅ Kernel.bare belatedRun).bind fun played =>
      (played.2.1.owner? "late").bind fun owner => owner.channel?.map fun channel =>
        (played.2.1.validKey? owner, channel.socket.state)) = some (some ⟨0, 0⟩, .closed) := by
    decide +kernel
  obtain ⟨⟨trace, reactor, kernel⟩, played, rest⟩ := Option.bind_eq_some_iff.mp plays
  obtain ⟨owner, named, rest⟩ := Option.bind_eq_some_iff.mp rest
  obtain ⟨channel, isChannel, same⟩ := Option.map_eq_some_iff.mp rest
  obtain ⟨counts, closed⟩ := Prod.mk.inj same
  cases owner with
  | handle | typed => cases isChannel
  | watchable given =>
      obtain rfl : given = channel := Option.some.inj isChannel
      have history := history_of_replay answers_thriftyHost played
      have late := (closed_channels_are_registered_belatedly history).2 _ _ named closed
      exact ⟨trace, reactor, kernel, given, played, named, closed, counts,
        late.1 _ (.inl counts)⟩

end SocketReactor
