import SocketReactor.Proofs.Reactor.Refusals
import SocketReactor.Proofs.Reactor.Slots

/-!
# One registration at a time

A channel has at most one key that counts.  As long as it counts, registering the
channel elsewhere is refused and registering it again changes that key.  A key
that does not count reaches nothing but itself.
-/

namespace SocketReactor

namespace Selector

/-- A selector lists the keys that count and are registered. -/
theorem Kept.mem_validKeys_iff {selector : Selector} (kept : selector.Kept) {serial : Nat} :
    serial ∈ selector.validKeys ↔ ∃ key, selector.key? serial = some key ∧ key.valid = true ∧
      selector.registry.get? key.token = some serial := by
  rw [validKeys, List.mem_filter]
  constructor
  · rintro ⟨listed, counts⟩
    obtain ⟨⟨token, given⟩, entry, rfl⟩ := List.mem_map.mp listed
    have present := (kept.unique.mem_entries_iff token given).mp entry
    obtain ⟨key, found, valid, rfl⟩ := kept.listed token given present
    exact ⟨key, found, valid, present⟩
  · rintro ⟨key, found, valid, present⟩
    refine ⟨mem_registered_of_get? present, ?_⟩
    rw [found]
    exact valid

/-- A selector lists no key twice. -/
theorem Kept.nodup_validKeys {selector : Selector} (kept : selector.Kept) :
    selector.validKeys.Nodup := by
  refine List.Nodup.filter _ (List.Nodup.map_on ?_ (List.Nodup.of_map _ kept.unique))
  rintro ⟨token, serial⟩ entry ⟨other, same⟩ entry' rfl
  obtain ⟨key, found, -, own⟩ :=
    kept.listed _ _ ((kept.unique.mem_entries_iff token serial).mp entry)
  obtain ⟨key', found', -, own'⟩ :=
    kept.listed _ _ ((kept.unique.mem_entries_iff other serial).mp entry')
  cases found.symm.trans found'
  exact Prod.ext (own.symm.trans own') rfl

section Stale

variable {selector : Selector} {serial : Nat}
  (stale : ∀ key, selector.key? serial = some key → key.valid = false)

include stale

/-- The interest of a key that does not count is not changed. -/
theorem setInterest_of_stale (interest : OpSet) :
    ∃ fault, selector.setInterest serial interest = pure (.error fault, selector) := by
  unfold setInterest
  cases found : selector.key? serial with
  | none => exact ⟨_, rfl⟩
  | some key =>
      cases asked : selector.changeable key interest with
      | error fault =>
          refine ⟨fault, ?_⟩
          simp only [asked]
      | ok backend =>
          have valid := (changeable_eq_ok_iff.mp asked).2.1
          rw [stale key found] at valid
          cases valid

/-- A key that does not count is not cancelled again. -/
theorem cancel_of_stale : selector.cancel serial = pure selector := by
  unfold cancel
  cases found : selector.key? serial with
  | none => rfl
  | some key =>
      simp only [stale key found]
      rfl

end Stale

end Selector

def Operation.Wields (id : KeyId) : Operation → Prop
  | setInterest key _ | cancel key | attach key _ => key = id
  | _ => False

namespace Reactor

variable {σ : Type} {answers : Answering σ} {reactor later : Reactor} {name : String}
  {id other : KeyId} {number : Nat} {selector settled : Selector} {interest : OpSet}
  {attachment : Option String} {host after : σ}

/-- The owner of a name shows the key: it is in the owner's slot and counts. -/
def Shows (reactor : Reactor) (name : String) (id : KeyId) : Prop :=
  ∃ owner, reactor.owner? name = some owner ∧ reactor.validKey? owner = some id

theorem shows_iff : reactor.Shows name id ↔ reactor.Bears name id ∧ reactor.isValid id = true := by
  simp only [Shows, Bears, validKey?, Option.filter_eq_some_iff, exists_and_right, ← and_assoc]

theorem Shows.eq (shows' : reactor.Shows name id) (others : reactor.Shows name other) :
    id = other := by
  obtain ⟨owner, owned, key⟩ := shows'
  obtain ⟨owner', owned', key'⟩ := others
  cases owned.symm.trans owned'
  exact Option.some.inj (key.symm.trans key')

/-- No channel has two keys that count, and no key that counts two channels. -/
structure SinglyKeyed (trace : List Entry) (reactor : Reactor) : Prop where
  /-- A key that counts is shown by one channel. -/
  one : ∀ id, reactor.isValid id = true → ∃! name, reactor.Shows name id
  /-- It is the channel for which the key was given. -/
  own : ∀ entry ∈ trace, ∀ name id, entry.operation.Enrols name id entry.result →
    reactor.isValid id = true → reactor.Shows name id
  /-- A channel shows one key, and one that counts. -/
  alone : ∀ name id other, reactor.Shows name id → reactor.Shows name other → id = other
  counts : ∀ name id, reactor.Shows name id → reactor.isValid id = true
  /-- A selector lists keys of its own that count, each once. -/
  listed : ∀ number selector, reactor.selector? number = some selector →
    selector.validKeys.Nodup ∧
      ∀ serial ∈ selector.validKeys, reactor.isValid ⟨number, serial⟩ = true
  /-- As long as no token has repeated, it lists all of them. -/
  complete : ∀ id, reactor.isValid id = true → ∃ selector,
    reactor.selector? id.selector = some selector ∧
      (selector.issued ≤ 2 ^ 64 → id.serial ∈ selector.validKeys)

/-- Nothing but the interest and the attachment of a key has been changed, and whether its
descriptor is watched. -/
structure Retells (before : Reactor) (id : KeyId) (interest : OpSet)
    (attachment : Option String) (after : Reactor) : Prop where
  owners : after.owners = before.owners
  registries : ∀ number, (after.selector? number).map Selector.registry =
    (before.selector? number).map Selector.registry
  key : ∃ former armed, before.key? id = some former ∧ after.key? id =
    some { former with interest := interest, attachment := attachment, armed := armed }
  others : ∀ other, other ≠ id → after.key? other = before.key? other

/-- Nothing but the attachment of a key has been changed. -/
structure Spares (before : Reactor) (id : KeyId) (after : Reactor) : Prop where
  owners : after.owners = before.owners
  selectors : ∀ number, (after.selector? number).map Selector.keyless =
    (before.selector? number).map Selector.keyless
  key : ∃ attachment, after.key? id =
    (before.key? id).map fun key => { key with attachment := attachment }
  others : ∀ other, other ≠ id → after.key? other = before.key? other

/-! ## Keys that count -/

theorem exists_of_isValid (valid : reactor.isValid id = true) :
    ∃ key, reactor.key? id = some key ∧ key.valid = true := by
  rw [isValid] at valid
  cases found : reactor.key? id with
  | none =>
      rw [found] at valid
      cases valid
  | some key =>
      rw [found] at valid
      exact ⟨key, rfl, valid⟩

/-- The books of all selectors and the slots of all channels fit together. -/
theorem singlyKeyed_of_history {origin : σ} {trace : List Entry}
    (history : History answers ∅ origin trace reactor host) : reactor.SinglyKeyed trace := by
  have linked := history.linked (.empty origin)
  have slotted := history.slotted (.empty origin) (.empty origin)
  constructor
  case one =>
    intro id valid
    obtain ⟨key, found, counts⟩ := exists_of_isValid valid
    obtain ⟨place, channel, owned, has, -⟩ := linked.held id key found counts
    cases place with
    | none => cases owned
    | some name =>
        have bears : reactor.Bears name id := ⟨_, owned, has⟩
        refine ⟨name, shows_iff.mpr ⟨bears, valid⟩, fun other shows' => ?_⟩
        exact Option.some.inj
          (slotted.apart (some other) (some name) id (shows_iff.mp shows').1 bears)
  case own =>
    intro entry mem name id enrols valid
    have bears := (history.bears_of_enrols (.empty origin) (.empty origin) mem enrols).2
    exact shows_iff.mpr ⟨bears valid, valid⟩
  case alone =>
    intro name id other shows' others
    exact shows'.eq others
  case counts =>
    intro name id shows'
    exact (shows_iff.mp shows').2
  case listed =>
    intro number selector known
    have kept := linked.kept number selector known
    refine ⟨kept.nodup_validKeys, fun serial listed => ?_⟩
    obtain ⟨key, found, valid, -⟩ := kept.mem_validKeys_iff.mp listed
    have found' : reactor.key? ⟨number, serial⟩ = some key := (key?_of_selector? known).trans found
    exact (isValid_of_key? found').trans valid
  case complete =>
    intro id valid
    obtain ⟨key, found, counts⟩ := exists_of_isValid valid
    obtain ⟨selector, known, found'⟩ := Option.bind_eq_some_iff.mp found
    have kept := linked.kept id.selector selector known
    refine ⟨selector, known, fun bound => kept.mem_validKeys_iff.mpr ?_⟩
    exact ⟨key, found', counts, kept.registered bound id.serial key found' counts⟩

/-! ## Registering again -/

/-- Another attachment of a key of a selector that has just been put in its place. -/
theorem selector?_attach (reactor : Reactor) (id : KeyId) (selector : Selector)
    (attachment : Option String) (number : Nat) :
    ((reactor.setSelector id.selector selector).attach id attachment).2.selector? number =
      if number = id.selector then some (selector.attach id.serial attachment).2
      else reactor.selector? number := by
  have placed := (reactor.selector?_setSelector id.selector id.selector selector).trans (if_pos rfl)
  simp only [attach, placed, selector?_setSelector]
  split <;> rfl

/-- A change of one key of one selector leaves the other keys alone. -/
theorem key?_of_replaced (known : reactor.selector? id.selector = some selector)
    (selectors : ∀ number, later.selector? number =
      if number = id.selector then some settled else reactor.selector? number)
    (same : ∀ serial, serial ≠ id.serial → settled.key? serial = selector.key? serial)
    (apart : other ≠ id) : later.key? other = reactor.key? other := by
  rw [key?, key?, selectors]
  split
  · rename_i here
    rw [here, known]
    refine same other.serial fun serial => apart ?_
    cases other
    cases id
    simp_all
  · rfl

/-- A channel whose key counts is not registered with another selector. -/
theorem register_elsewhere {channel : Channel}
    (named : reactor.owner? name = some (.watchable channel))
    (counts : reactor.validKey? (.watchable channel) = some id) (elsewhere : number ≠ id.selector)
    (within : channel.use.validOps.contains interest = true) :
    reactor.register name number interest attachment =
      pure (.error (.fault .alreadyRegistered), reactor) := by
  have counts' : channel.key.filter reactor.isValid = some id := counts
  have checked : Key.checkInterest channel.use.validOps interest = .ok () :=
    (Key.checkInterest_eq_ok_iff _ _).mpr within
  simp only [register, named, registerChannel, checked, counts', if_neg elsewhere.symm]
  rfl

/-- A change of interest that succeeds is stored in the key. -/
theorem stored_of_setInterest
    (run : (reactor.setInterest id interest).Runs answers host (.ok (), later) after) :
    ∃ selector key armed, reactor.selector? id.selector = some selector ∧
      selector.key? id.serial = some key ∧ later = reactor.setSelector id.selector
        (selector.setKey id.serial { key with interest := interest, armed := armed }) := by
  unfold setInterest onSelector at run
  split at run
  · cases run.1
  · rename_i selector known
    obtain ⟨⟨outcome, settled⟩, between, changed, same, rfl⟩ := Program.runs_bind.mp run
    cases same
    have outcome := Selector.changed_of_runs changed
    generalize done : (Except.ok () : Except Fault Unit) = result at outcome
    cases outcome with
    | unasked plain => cases done
    | @stored _ key synced _ _ found within valid isOpen present sync =>
        refine ⟨selector, key, synced.armed, known, found, ?_⟩
        exact congrArg (fun key => reactor.setSelector id.selector (selector.setKey id.serial key))
          sync.eq_armed.1

/-- Registering a channel again with the selector of its key changes that key. -/
theorem retells_of_register {channel : Channel} {given : KeyId}
    (named : reactor.owner? name = some (.watchable channel))
    (counts : reactor.validKey? (.watchable channel) = some id)
    (run : (reactor.register name id.selector interest attachment).Runs answers host
      (.ok given, later) after) : given = id ∧ reactor.Retells id interest attachment later := by
  have outcome := enrolled_of_runs run
  generalize done : (Except.ok given : Except Refusal KeyId) = result at outcome
  cases outcome with
  | refused plain => cases done
  | fresh named' lapsed registered =>
      cases named.symm.trans named'
      cases counts.symm.trans lapsed
  | unchanged named' counts' here changed => cases done
  | @changed _ _ middle _ named' counts' here changed =>
      cases done
      cases named.symm.trans named'
      cases counts.symm.trans counts'
      refine ⟨rfl, ?_⟩
      have owners := (Operation.owners_attach id attachment).trans
        (Operation.owners_of_onSelector changed)
      obtain ⟨selector, key, armed, known, found, rfl⟩ := stored_of_setInterest changed
      have selectors := reactor.selector?_attach id
        (selector.setKey id.serial { key with interest := interest, armed := armed }) attachment
      refine ⟨owners, fun number => ?_, ⟨key, armed, ?_, ?_⟩, fun other => ?_⟩
      · rw [selectors]
        split
        · rename_i here
          rw [here, known]
          rfl
        · rfl
      · exact (key?_of_selector? known).trans found
      · refine (key?_of_selector? ((selectors id.selector).trans (if_pos rfl))).trans ?_
        refine (Table.get?_modify _ _ _ _).trans ((if_pos rfl).trans ?_)
        exact congrArg _ (Table.get?_insert_self _ _ _)
      · refine key?_of_replaced known selectors fun serial apart => ?_
        refine (Table.get?_modify _ _ _ _).trans ((if_neg apart).trans ?_)
        exact (Table.get?_insert _ _ _ _).trans (if_neg apart)

/-! ## Keys that do not count -/

theorem Spares.refl (reactor : Reactor) (id : KeyId) : reactor.Spares id reactor where
  owners := rfl
  selectors _ := rfl
  key := by
    cases found : reactor.key? id with
    | none => exact ⟨none, rfl⟩
    | some key => exact ⟨key.attachment, rfl⟩
  others _ _ := rfl

/-- A selector in which only the attachment of one key is different. -/
theorem spares_setSelector (known : reactor.selector? id.selector = some selector)
    (keyless : settled.keyless = selector.keyless)
    (key : ∃ attachment, settled.key? id.serial =
      (selector.key? id.serial).map fun key => { key with attachment := attachment })
    (same : ∀ serial, serial ≠ id.serial → settled.key? serial = selector.key? serial) :
    reactor.Spares id (reactor.setSelector id.selector settled) where
  owners := rfl
  selectors number := by
    rw [selector?_setSelector]
    split
    · rename_i here
      rw [here, known]
      exact congrArg some keyless
    · rfl
  key := by
    rw [key?_setSelector, if_pos rfl, key?_of_selector? known]
    exact key
  others _ := key?_of_replaced known (reactor.selector?_setSelector id.selector · settled) same

theorem spares_setSelector_self (known : reactor.selector? id.selector = some selector) :
    reactor.Spares id (reactor.setSelector id.selector selector) := by
  have unchanged := (Spares.refl reactor id).key
  rw [key?_of_selector? known] at unchanged
  exact spares_setSelector known rfl unchanged fun _ _ => rfl

theorem spares_attach (id : KeyId) (attachment : Option String) :
    reactor.Spares id (reactor.attach id attachment).2 := by
  unfold attach
  split
  · exact .refl reactor id
  · rename_i selector known
    refine spares_setSelector known rfl ⟨attachment, ?_⟩ fun serial apart => ?_
    · exact (Table.get?_modify _ _ _ _).trans (if_pos rfl)
    · exact (Table.get?_modify _ _ _ _).trans (if_neg apart)

/-- An operation on a key that does not count asks nothing of the host. -/
theorem perform_of_invalid {operation : Operation} (invalid : reactor.isValid id = false)
    (wields : operation.Wields id) :
    ∃ result after, operation.perform reactor = pure (result, after) ∧ reactor.Spares id after := by
  have stale : ∀ {selector}, reactor.selector? id.selector = some selector →
      ∀ key, selector.key? id.serial = some key → key.valid = false := by
    intro selector known key found
    rw [← isValid_of_key? ((key?_of_selector? known).trans found)]
    exact invalid
  cases operation with
  | setInterest key interest =>
      obtain rfl : key = id := wields
      simp only [Operation.perform, setInterest, onSelector]
      cases known : reactor.selector? key.selector with
      | none => exact ⟨_, _, rfl, .refl reactor key⟩
      | some selector =>
          obtain ⟨fault, refused⟩ := selector.setInterest_of_stale (stale known) interest
          simp only [refused]
          exact ⟨_, _, rfl, spares_setSelector_self known⟩
  | cancel key =>
      obtain rfl : key = id := wields
      simp only [Operation.perform, cancel, stepSelector]
      cases known : reactor.selector? key.selector with
      | none => exact ⟨_, _, rfl, .refl reactor key⟩
      | some selector =>
          simp only [selector.cancel_of_stale (stale known)]
          exact ⟨_, _, rfl, spares_setSelector_self known⟩
  | attach key attachment =>
      obtain rfl : key = id := wields
      exact ⟨_, _, rfl, spares_attach key attachment⟩
  | _ => exact wields.elim

end Reactor

/-- In every run from the empty reactor, whatever the host answers: every key that counts is
shown by exactly one channel, the one that it was given for, and listed by exactly its
selector; as long as it counts, registering the channel with another selector is refused and
asks nothing of the host, and registering it with the same selector again changes just the
interest and the attachment of the key; and an operation on a key that does not count asks
nothing of the host and changes nothing but the attachment of that key. -/
theorem channels_have_one_registration {σ : Type} {answers : Answering σ} {origin state : σ}
    {trace : List Entry} {reactor : Reactor}
    (history : History answers ∅ origin trace reactor state) :
    reactor.SinglyKeyed trace ∧
    (∀ name channel id, reactor.owner? name = some (.watchable channel) →
      reactor.validKey? (.watchable channel) = some id →
        (∀ number interest attachment, number ≠ id.selector →
          channel.use.validOps.contains interest = true →
            reactor.register name number interest attachment =
              pure (.error (.fault .alreadyRegistered), reactor)) ∧
        ∀ interest attachment given later after,
          (reactor.register name id.selector interest attachment).Runs answers state
            (.ok given, later) after →
              given = id ∧ reactor.Retells id interest attachment later) ∧
    ∀ id, reactor.isValid id = false → ∀ operation : Operation, operation.Wields id →
      ∃ result after, operation.perform reactor = pure (result, after) ∧
        reactor.Spares id after := by
  refine ⟨Reactor.singlyKeyed_of_history history, ?_, ?_⟩
  · intro name channel id named counts
    constructor
    · intro number interest attachment elsewhere within
      exact Reactor.register_elsewhere named counts elsewhere within
    · intro interest attachment given later after run
      exact Reactor.retells_of_register named counts run
  · intro id invalid operation wields
    exact Reactor.perform_of_invalid invalid wields

/-- A channel is registered, its key is cancelled, and it is registered again. -/
def renewingRun : List Operation :=
  [.newSelector .usual, .openSelector 0, .newSelector .usual,
    .make "only" (.channel .stream .tcp4), .register "only" 0 .reading none, .cancel ⟨0, 0⟩,
    .register "only" 0 .writing none]

/-- The second key is the only one that counts, and the first one does not reach it. -/
theorem renewed_registration_is_single :
    ∃ trace reactor kernel,
      replay thriftyHost ∅ Kernel.bare renewingRun = some (trace, reactor, kernel) ∧
      reactor.SinglyKeyed trace ∧ reactor.Shows "only" ⟨0, 1⟩ ∧
      reactor.register "only" 1 .reading none =
        pure (.error (.fault .alreadyRegistered), reactor) ∧
      reactor.isValid ⟨0, 0⟩ = false ∧
      ∃ result after, (Operation.cancel ⟨0, 0⟩).perform reactor = pure (result, after) ∧
        reactor.Spares ⟨0, 0⟩ after := by
  have plays : ((replay thriftyHost ∅ Kernel.bare renewingRun).bind fun played =>
      (played.2.1.owner? "only").bind fun owner => owner.channel?.map fun channel =>
        (played.2.1.validKey? owner, channel.use.validOps.contains .reading,
          played.2.1.isValid ⟨0, 0⟩)) = some (some ⟨0, 1⟩, true, false) := by
    decide +kernel
  obtain ⟨⟨trace, reactor, kernel⟩, played, rest⟩ := Option.bind_eq_some_iff.mp plays
  obtain ⟨owner, named, rest⟩ := Option.bind_eq_some_iff.mp rest
  obtain ⟨channel, isChannel, same⟩ := Option.map_eq_some_iff.mp rest
  obtain ⟨counts, others⟩ := Prod.mk.inj same
  obtain ⟨within, stale⟩ := Prod.mk.inj others
  cases owner with
  | handle | typed => cases isChannel
  | watchable given =>
      obtain rfl : given = channel := Option.some.inj isChannel
      have history := history_of_replay answers_thriftyHost played
      obtain ⟨single, registered, spared⟩ := channels_have_one_registration history
      refine ⟨trace, reactor, kernel, played, single, ⟨_, named, counts⟩, ?_, stale, ?_⟩
      · exact (registered _ _ _ named counts).1 1 .reading none (by decide) within
      · exact spared ⟨0, 0⟩ stale (.cancel ⟨0, 0⟩) rfl

end SocketReactor
