import Mathlib.Logic.Equiv.Basic
import SocketReactor.Proofs.Reactor.Owners
import SocketReactor.Proofs.Reactor.Lineage

/-!
# Keys in the slots of channels

A channel keeps the key of its last registration in a slot.  No key is ever in
two slots, every key that counts is in one, and a key that counts stays in the
slot of the channel that was registered for it.
-/

namespace SocketReactor

variable {σ : Type} {answers : Answering σ} {asks : KeyId → Prop} {polls : Nat → Prop}
  {commands : String → Command → Prop}

@[simp] theorem Owner.key?_withSocket (owner : Owner) (socket : Socket) :
    (owner.withSocket socket).key? = owner.key? := by
  cases owner <;> rfl

/-- A key that is issued was not there before. -/
theorem Selector.Registered.fresh {selector later : Selector} {descriptor : Descriptor}
    {validOps interest : OpSet} {attachment : Option String} {serial : Nat} {state after : σ}
    (outcome : selector.Registered answers descriptor validOps interest attachment state
      (.ok serial) later after) (kept : selector.Kept) :
    selector.key? serial = none ∧ ∃ key, later.key? serial = some key := by
  cases outcome with
  | issued isOpen within sync =>
      refine ⟨?_, _, Table.get?_insert_self _ _ _⟩
      rw [Option.eq_none_iff_forall_ne_some]
      intro key found
      exact absurd (kept.counted _ key found) (Nat.lt_irrefl _)

def Reactor.Bears (reactor : Reactor) (name : String) (id : KeyId) : Prop :=
  ∃ owner, reactor.owner? name = some owner ∧ owner.key? = some id

def Scene.Bears (scene : Scene σ) (place : Option String) (id : KeyId) : Prop :=
  ∃ owner, scene.owner? place = some owner ∧ owner.key? = some id

/-- What is in slots has been issued, and is in one slot only. -/
structure Scene.Slotted (scene : Scene σ) : Prop where
  issued : ∀ place id, scene.Bears place id → ∃ key, scene.reactor.key? id = some key
  apart : ∀ place other id, scene.Bears place id → scene.Bears other id → place = other

namespace Scene.Slotted

variable {scene later : Scene σ}

/-- Slots trade places, and no other key comes into one. -/
theorem rearrange (slotted : scene.Slotted) (from? : Equiv.Perm (Option String))
    (becomes : scene.reactor.Becomes asks polls later.reactor)
    (back : ∀ place id, later.Bears place id → scene.Bears (from? place) id) :
    later.Slotted where
  issued := by
    intro place id bears
    obtain ⟨key, found⟩ := slotted.issued _ id (back place id bears)
    obtain ⟨after, found', -⟩ := becomes.forth id key found
    exact ⟨after, found'⟩
  apart := by
    intro place other id bears bears'
    exact from?.injective (slotted.apart _ _ id (back place id bears) (back other id bears'))

/-- A key that was not issued before comes into the slot of a name. -/
theorem issue {reactor after : Reactor} {loose : Option Owner} {host host' : σ} {name : String}
    {owner : Owner} {new : KeyId} (slotted : (⟨reactor, loose, host⟩ : Scene σ).Slotted)
    (becomes : reactor.Becomes asks polls after) (owners : after.owners = reactor.owners)
    (fresh : reactor.key? new = none) (key : owner.key? = some new)
    (present : ∃ issued, after.key? new = some issued) :
    (⟨after.setOwner name owner, loose, host'⟩ : Scene σ).Slotted := by
  have source : ∀ place id,
      Scene.Bears (⟨after.setOwner name owner, loose, host'⟩ : Scene σ) place id →
        (place = some name ∧ id = new) ∨
          (id ≠ new ∧ Scene.Bears (⟨reactor, loose, host⟩ : Scene σ) place id) := by
    rintro place id ⟨other, owned, has⟩
    have older : ∀ id, Scene.Bears (⟨reactor, loose, host⟩ : Scene σ) place id → id ≠ new := by
      rintro id bears rfl
      obtain ⟨given, found⟩ := slotted.issued place id bears
      cases fresh.symm.trans found
    cases place with
    | none => exact .inr ⟨older id ⟨other, owned, has⟩, other, owned, has⟩
    | some given =>
        have owned' := (after.owner?_setOwner name given owner).symm.trans owned
        split at owned'
        · rename_i same
          cases owned'
          exact .inl ⟨congrArg some same, Option.some.inj (has.symm.trans key)⟩
        · have bears : Scene.Bears (⟨reactor, loose, host⟩ : Scene σ) (some given) id :=
            ⟨other, (congrArg (Table.get? · given) owners).symm.trans owned', has⟩
          exact .inr ⟨older id bears, bears⟩
  constructor
  case issued =>
    intro place id bears
    rcases source place id bears with ⟨-, rfl⟩ | ⟨-, bears'⟩
    · exact present
    · obtain ⟨given, found⟩ := slotted.issued place id bears'
      obtain ⟨kept, found', -⟩ := becomes.forth id given found
      exact ⟨kept, found'⟩
  case apart =>
    intro place other id bears bears'
    rcases source place id bears with ⟨rfl, same⟩ | ⟨other_id, old⟩ <;>
      rcases source other id bears' with ⟨rfl, same'⟩ | ⟨other_id', old'⟩
    · rfl
    · exact absurd same other_id'
    · exact absurd same' other_id
    · exact slotted.apart place other id old old'

/-- Every move keeps slots apart. -/
theorem move (linked : scene.Linked) (slotted : scene.Slotted)
    (step : Move answers asks polls commands scene later) : later.Slotted := by
  have becomes := step.becomes linked
  cases step with
  | act | refuse | add | miss => exact slotted.rearrange (.refl _) becomes fun _ _ bears => bears
  | issue named lapsed known outcome tended =>
      rename_i reactor loose host after name channel id serial selector settled interest attachment
      have changed : reactor.Becomes asks polls (reactor.setSelector id settled) :=
        outcome.setSelector (linked.kept _ _ known) known
      obtain ⟨fresh, key, present⟩ := outcome.fresh (linked.kept _ _ known)
      refine slotted.issue changed rfl ((Reactor.key?_of_selector? known).trans fresh) rfl ⟨key, ?_⟩
      exact (reactor.key?_setSelector id settled ⟨id, serial⟩).trans ((if_pos rfl).trans present)
  | forget named lapsed =>
      rename_i reactor loose host name channel
      refine slotted.rearrange (.refl _) becomes ?_
      rintro place id ⟨owner, owned, has⟩
      cases place with
      | none => exact ⟨owner, owned, has⟩
      | some other =>
          have owned' := (reactor.owner?_setOwner name other _).symm.trans owned
          split at owned'
          · cases owned'
            cases has
          · exact ⟨owner, owned', has⟩
  | gain tended prompted =>
      refine slotted.rearrange (.refl _) becomes ?_
      rintro place id ⟨owner, owned, has⟩
      cases place with
      | none =>
          cases owned
          -- What has just been made has no key yet.
          obtain ⟨last, -, bare⟩ := tended.ends
          cases bare.symm.trans has
      | some name => exact ⟨owner, owned, has⟩
  | wrap quietly tended prompted =>
      refine slotted.rearrange (.refl _) becomes ?_
      rintro place id ⟨owner, owned, has⟩
      cases place with
      | none =>
          cases owned
          cases has
      | some name => exact ⟨owner, owned, has⟩
  | swap name =>
      rename_i reactor loose host
      refine slotted.rearrange (.swap none (some name)) becomes ?_
      rintro place id ⟨owner, owned, has⟩
      cases place with
      | none =>
          -- The places change their owners, and each key goes with its owner.
          rw [Equiv.swap_apply_left]
          exact ⟨owner, owned, has⟩
      | some other =>
          have owned' := (reactor.owner?_assign name other loose).symm.trans owned
          split at owned'
          · rename_i same
            rw [same, Equiv.swap_apply_right]
            exact ⟨owner, owned', has⟩
          · rename_i apart
            rw [Equiv.swap_apply_of_ne_of_ne (Option.some_ne_none other)
              fun same => apart (Option.some.inj same)]
            exact ⟨owner, owned', has⟩
  | discard lapsed quietly discarded tended =>
      refine slotted.rearrange (.refl _) becomes ?_
      rintro (_ | name) id ⟨owner, owned, has⟩
      · cases owned
      · exact ⟨owner, owned, has⟩
  | perform named granted commanded lapsed outcome tended ran =>
      rename_i reactor loose host after name owner access command settled
      refine slotted.rearrange (.refl _) becomes ?_
      rintro place id ⟨other, owned, has⟩
      cases place with
      | none => exact ⟨other, owned, has⟩
      | some given =>
          have owned' := (reactor.owner?_setSocket name given settled).symm.trans owned
          split at owned'
          · obtain ⟨before, present, rfl⟩ := Option.map_eq_some_iff.mp owned'
            exact ⟨before, present, (before.key?_withSocket settled).symm.trans has⟩
          · exact ⟨other, owned', has⟩

/-- A chain of moves keeps slots apart. -/
theorem moves (linked : scene.Linked) (slotted : scene.Slotted)
    (steps : Moves answers asks polls commands scene later) : later.Slotted := by
  induction steps with
  | refl => exact slotted
  | tail steps step ih => exact ih.move (linked.moves steps) step

theorem empty (host : σ) : (⟨∅, none, host⟩ : Scene σ).Slotted := by
  have bare : ∀ place, (⟨∅, none, host⟩ : Scene σ).owner? place = none := by
    intro place
    cases place <;> rfl
  constructor
  · rintro place id ⟨owner, owned, -⟩
    cases (bare place).symm.trans owned
  · rintro place other id ⟨owner, owned, -⟩
    cases (bare place).symm.trans owned

end Scene.Slotted

/-! ## Keys stay in their slots -/

namespace Reactor

variable {reactor middle later : Reactor} {name source : String} {owner : Owner} {id : KeyId}
  {host after : σ}

/-- Every key that counts afterwards is still in its slot. -/
def Keeps (reactor later : Reactor) : Prop :=
  ∀ name id, reactor.Bears name id → later.isValid id = true → later.Bears name id

theorem bears_of_owner? (same : later.owner? name = reactor.owner? name)
    (bears : reactor.Bears name id) : later.Bears name id := by
  obtain ⟨owner, owned, has⟩ := bears
  exact ⟨owner, same.trans owned, has⟩

/-- Every owner whose key counts afterwards is still the owner of its name. -/
def Holds (reactor later : Reactor) : Prop :=
  ∀ name id, reactor.Bears name id → later.isValid id = true →
    later.owner? name = reactor.owner? name

theorem Holds.keeps (holds : reactor.Holds later) : reactor.Keeps later :=
  fun name id bears valid => bears_of_owner? (holds name id bears valid) bears

theorem holds_of_owners (owners : later.owners = reactor.owners) : reactor.Holds later :=
  fun name _ _ _ => congrArg (Table.get? · name) owners

/-- Only one name has another owner, and the key of the one before does not count any more. -/
theorem holds_of_changed (name : String)
    (others : ∀ other, other ≠ name → later.owner? other = reactor.owner? other)
    (lapsed : ∀ id, reactor.Bears name id → later.isValid id = false) : reactor.Holds later := by
  intro other id bears valid
  by_cases same : other = name
  · rw [same] at bears
    rw [lapsed id bears] at valid
    cases valid
  · exact others other same

theorem Holds.head
    (first : ∀ name id, reactor.Bears name id → middle.owner? name = reactor.owner? name)
    (holds : middle.Holds later) : reactor.Holds later := by
  intro name id bears valid
  have same := first name id bears
  exact (holds name id (bears_of_owner? same bears) valid).trans same

/-- An owner that has no key in its slot may be replaced. -/
theorem owner?_assign_of_bears
    (bare : ∀ owner, reactor.owner? source = some owner → owner.key? = none)
    (given : Option Owner) (bears : reactor.Bears name id) :
    (reactor.assign source given).owner? name = reactor.owner? name := by
  obtain ⟨owner, owned, has⟩ := bears
  refine (reactor.owner?_assign source name given).trans (if_neg ?_)
  rintro rfl
  cases (bare owner owned).symm.trans has

theorem bears_setSocket (socket : Socket) (bears : reactor.Bears name id) :
    (reactor.setSocket source socket).Bears name id := by
  obtain ⟨owner, owned, has⟩ := bears
  have moved := reactor.owner?_setSocket source name socket
  by_cases same : name = source
  · rw [if_pos same, owned] at moved
    exact ⟨owner.withSocket socket, moved, (owner.key?_withSocket socket).trans has⟩
  · rw [if_neg same, owned] at moved
    exact ⟨owner, moved, has⟩

/-- Letting an owner go makes its key count no more. -/
theorem lapsed_of_dispose (run : (reactor.dispose owner).Runs answers host later after) :
    later.Lapsed owner := by
  unfold dispose at run
  intro id has
  simp only [has] at run
  obtain ⟨settled, between, cancelled, rest⟩ := Program.runs_bind.mp run
  obtain ⟨⟨⟩, last, discarded, rfl, rfl⟩ := Program.runs_bind.mp rest
  exact (lapsed_of_cancel cancelled).1

theorem holds_place (run : (reactor.place name owner).Runs answers host later after) :
    reactor.Holds later := by
  refine holds_of_changed name (fun other apart => ?_) ?_
  · exact (owner?_of_place run other).trans (if_neg apart)
  · rintro id ⟨former, owned, has⟩
    unfold place at run
    simp only [owned] at run
    exact lapsed_of_dispose run id has

theorem holds_drop {result : Except Refusal Unit}
    (run : (reactor.drop name).Runs answers host (result, later) after) : reactor.Holds later := by
  cases dropped_of_runs run with
  | refused absent => exact holds_of_owners rfl
  | dropped named disposed =>
      refine holds_of_changed name (fun other apart => ?_) ?_
      · refine (congrArg (Table.get? · other) (owners_of_dispose disposed)).trans ?_
        exact (reactor.owner?_without name other).trans (if_neg apart)
      · rintro id ⟨given, owned, has⟩
        cases named.symm.trans owned
        exact lapsed_of_dispose disposed id has

/-- The key of an owner that is unregistered does not count any more. -/
theorem lapsed_of_unregister (run : (reactor.unregister name).Runs answers host later after)
    (bears : reactor.Bears name id) : later.isValid id = false := by
  obtain ⟨owner, owned, has⟩ := bears
  cases owner with
  | handle | typed => cases has
  | watchable channel =>
      have key : channel.key = some id := has
      unfold unregister at run
      simp only [owned, key] at run
      obtain ⟨middle, cancelled, rfl⟩ := cancel_setOwner run
      exact (lapsed_of_cancel cancelled).1

theorem holds_unregister (run : (reactor.unregister name).Runs answers host later after) :
    reactor.Holds later :=
  holds_of_changed name (owner?_of_unregister run) fun _ => lapsed_of_unregister run

/-- A new registration leaves the names alone, but for the slot into which the key comes. -/
theorem registered_of_registerNew {channel : Channel} {number : Nat} {interest : OpSet}
    {attachment : Option String} {result : Except Fault KeyId}
    (run : (reactor.registerNew name channel number interest attachment).Runs answers host
      (result, later) after) :
    ∃ middle, middle.owners = reactor.owners ∧
      ((∃ fault, result = .error fault ∧ later = middle) ∨
        ∃ id, result = .ok id ∧
          later = middle.setOwner name (.watchable { channel with key := some id })) := by
  obtain ⟨⟨outcome, middle⟩, between, stepped, rest⟩ := Program.runs_bind.mp run
  refine ⟨middle, Operation.owners_of_onSelector stepped, ?_⟩
  cases outcome with
  | ok serial =>
      obtain ⟨same, rfl⟩ := rest
      cases same
      exact .inr ⟨_, rfl, rfl⟩
  | error fault =>
      obtain ⟨same, rfl⟩ := rest
      cases same
      exact .inl ⟨fault, rfl, rfl⟩

/-- A key that counts after a change counted before, if it was there. -/
theorem Becomes.isValid {key : Key} (becomes : reactor.Becomes asks polls later)
    (found : reactor.key? id = some key) (valid : later.isValid id = true) :
    reactor.isValid id = true := by
  obtain ⟨after, found', become⟩ := becomes.forth id key found
  rw [isValid_of_key? found'] at valid
  rw [isValid_of_key? found]
  exact become.valid valid

theorem holds_register {number : Nat} {interest : OpSet} {attachment : Option String}
    {result : Except Refusal KeyId} (slotted : (⟨reactor, none, host⟩ : Scene σ).Slotted)
    (becomes : reactor.Becomes asks polls later)
    (run : (reactor.register name number interest attachment).Runs answers host
      (result, later) after) : reactor.Holds later := by
  cases enrolled_of_runs run with
  | refused plain => exact holds_of_owners rfl
  | fresh named lapsed registered =>
      obtain ⟨middle, owners, ⟨fault, -, rfl⟩ | ⟨id, -, rfl⟩⟩ :=
        registered_of_registerNew registered
      · exact holds_of_owners owners
      · refine holds_of_changed name (fun other apart => ?_) ?_
        · refine (middle.owner?_setOwner name other _).trans ((if_neg apart).trans ?_)
          exact congrArg (Table.get? · other) owners
        · intro old bears
          obtain ⟨key, found⟩ := slotted.issued (some name) old bears
          obtain ⟨owner, owned, has⟩ := bears
          cases named.symm.trans owned
          rw [Bool.eq_false_iff]
          intro valid
          have counts := becomes.isValid found valid
          rw [lapsed_of_validKey? lapsed old has] at counts
          cases counts
  | unchanged named counts here changed =>
      exact holds_of_owners (Operation.owners_of_onSelector changed)
  | changed named counts here changed =>
      exact holds_of_owners
        ((Operation.owners_attach _ _).trans (Operation.owners_of_onSelector changed))

theorem keeps_ask {access : Access} {command : Command} {result : Except Refusal Reply}
    (run : (reactor.ask name access command).Runs answers host (result, later) after) :
    reactor.Keeps later := by
  cases asked_of_runs run with
  | refused ungranted plain => exact (holds_of_owners rfl).keeps
  | performed named granted other performed =>
      exact fun _ _ bears _ => bears_setSocket _ bears
  | closed named granted unregistered performed =>
      exact fun other id bears valid =>
        bears_setSocket _ ((holds_unregister unregistered).keeps other id bears valid)

/-- No operation but a command changes an owner whose key counts. -/
theorem holds_of_runs {operation : Operation} {result : operation.Result}
    (foreign : ∀ name access command, operation ≠ .ask name access command)
    (slotted : (⟨reactor, none, host⟩ : Scene σ).Slotted)
    (becomes : reactor.Becomes asks polls later)
    (run : (operation.perform reactor).Runs answers host (result, later) after) :
    reactor.Holds later := by
  have handle : ∀ {source socket}, reactor.owner? source = some (.handle socket) →
      ∀ owner, reactor.owner? source = some owner → owner.key? = none := by
    intro source socket named owner owned
    cases named.symm.trans owned
    rfl
  cases operation with
  | ask name access command => exact absurd rfl (foreign name access command)
  | make name recipe =>
      cases made_of_runs run with
      | failed made => exact holds_of_owners rfl
      | placed made placing => exact holds_place placing
  | accept listener access name =>
      cases received_of_runs run with
      | refused refusal unfit => exact holds_of_owners rfl
      | missed named lends taken nothing => exact holds_of_owners rfl
      | placed named lends taken placing => exact holds_place placing
  | wrap source name =>
      have bare : ∀ {socket}, reactor.owner? source = some (.typed .stream socket) →
          ∀ name id, reactor.Bears name id →
            (reactor.without source).owner? name = reactor.owner? name := by
        intro socket named name id bears
        refine owner?_assign_of_bears (fun owner owned => ?_) none bears
        cases named.symm.trans owned
        rfl
      cases wrapped_of_runs run with
      | refused absent => exact holds_of_owners rfl
      | failed named made => exact fun name id bears _ => bare named name id bears
      | placed named made placing => exact .head (bare named) (holds_place placing)
  | take source name =>
      cases taken_of_runs run with
      | refused refusal absent => exact holds_of_owners rfl
      | placed named placing =>
          exact .head (fun _ _ => owner?_assign_of_bears (handle named) (some _))
            (holds_place placing)
  | adopt name source =>
      cases adopted_of_runs run with
      | refused absent plain => exact holds_of_owners rfl
      | adopted named bare =>
          intro other id bears _
          have emptied := owner?_assign_of_bears (handle named) (some (.handle .empty)) bears
          refine (owner?_assign_of_bears (fun owner owned => ?_) (some _)
            (bears_of_owner? emptied bears)).trans emptied
          cases bare.symm.trans owned
          rfl
      | discarded named discarded apart =>
          exact fun _ _ bears _ => owner?_assign_of_bears (handle named) (some _) bears
  | drop name => exact holds_drop run
  | register name number interest attachment => exact holds_register slotted becomes run
  | setInterest id interest => exact holds_of_owners (Operation.owners_of_onSelector run)
  | cancel id =>
      obtain ⟨settled, between, cancelled, same, rfl⟩ := Program.runs_bind.mp run
      cases same
      exact holds_of_owners (lapsed_of_cancel cancelled).2
  | attach id attachment =>
      obtain ⟨same, rfl⟩ := run
      obtain rfl : later = (reactor.attach id attachment).2 := congrArg Prod.snd same
      exact holds_of_owners (Operation.owners_attach id attachment)
  | newSelector selection =>
      obtain ⟨same, rfl⟩ := run
      cases same
      exact holds_of_owners rfl
  | openSelector id | poll id limit | wakeup id =>
      exact holds_of_owners (Operation.owners_of_onSelector run)
  | closeSelector id | dropSelector id =>
      obtain ⟨settled, between, stepped, same, rfl⟩ := Program.runs_bind.mp run
      cases same
      exact holds_of_owners (Operation.owners_of_stepSelector stepped)

/-- No operation moves a key that counts from one slot to another. -/
theorem keeps_of_runs {operation : Operation} {result : operation.Result}
    (slotted : (⟨reactor, none, host⟩ : Scene σ).Slotted)
    (becomes : reactor.Becomes asks polls later)
    (run : (operation.perform reactor).Runs answers host (result, later) after) :
    reactor.Keeps later := by
  cases operation with
  | ask name access command => exact keeps_ask run
  | _ => exact (holds_of_runs (fun _ _ _ same => by cases same) slotted becomes run).keeps

end Reactor

/-! ## Histories -/

/-- Whether an operation registers the channel of a name and gives this key. -/
def Operation.Enrols (name : String) (id : KeyId) :
    (operation : Operation) → operation.Result → Prop
  | register given _ _ _, result => given = name ∧ result = .ok id
  | _, _ => False

/-- A registration leaves its key in the slot of its channel. -/
theorem Operation.Enrols.bears {operation : Operation} {result : operation.Result}
    {name : String} {id : KeyId} {reactor later : Reactor} {host after : σ}
    (enrols : operation.Enrols name id result)
    (run : (operation.perform reactor).Runs answers host (result, later) after) :
    later.Bears name id := by
  cases operation with
  | register given number interest attachment =>
      obtain ⟨rfl, rfl⟩ := enrols
      have outcome := Reactor.enrolled_of_runs run
      generalize given_result : (Except.ok id : Except Refusal KeyId) = result at outcome
      cases outcome with
      | refused plain => cases given_result
      | fresh named lapsed registered =>
          obtain ⟨middle, owners, ⟨fault, rfl, -⟩ | ⟨issued, rfl, rfl⟩⟩ :=
            Reactor.registered_of_registerNew registered
          · cases given_result
          · cases given_result
            exact ⟨_, (middle.owner?_setOwner given given _).trans (if_pos rfl), rfl⟩
      | unchanged named counts here changed => cases given_result
      | changed named counts here changed =>
          cases given_result
          have owners := (owners_attach id attachment).trans (owners_of_onSelector changed)
          exact ⟨_, (congrArg (Table.get? · given) owners).trans named,
            (Option.filter_eq_some_iff.mp counts).1⟩
  | _ => exact enrols.elim

namespace History

variable {start reactor : Reactor} {origin state : σ} {trace : List Entry}

theorem slotted (linked : (⟨start, none, origin⟩ : Scene σ).Linked)
    (slotted : (⟨start, none, origin⟩ : Scene σ).Slotted)
    (history : History answers start origin trace reactor state) :
    (⟨reactor, none, state⟩ : Scene σ).Slotted := by
  induction history with
  | nil => exact slotted
  | snoc past run ih => exact ih.moves (past.linked linked) (moves_of_runs run)

/-- A key that was given for a channel is in the channel's slot as long as it counts. -/
theorem bears_of_enrols (linked : (⟨start, none, origin⟩ : Scene σ).Linked)
    (slotted : (⟨start, none, origin⟩ : Scene σ).Slotted)
    (history : History answers start origin trace reactor state) {entry : Entry}
    (mem : entry ∈ trace) {name : String} {id : KeyId}
    (enrols : entry.operation.Enrols name id entry.result) :
    (∃ key, reactor.key? id = some key) ∧
      (reactor.isValid id = true → reactor.Bears name id) := by
  induction history with
  | nil => cases mem
  | snoc past run ih =>
      have becomes := (moves_of_runs run).becomes (past.linked linked)
      rcases List.mem_append.mp mem with older | newest
      · obtain ⟨⟨key, found⟩, bears⟩ := ih older
        obtain ⟨after, found', -⟩ := becomes.forth id key found
        refine ⟨⟨after, found'⟩, fun valid => ?_⟩
        have counted := bears (becomes.isValid found valid)
        exact Reactor.keeps_of_runs (past.slotted linked slotted) becomes run name id counted valid
      · cases List.mem_singleton.mp newest
        have bears := enrols.bears run
        have settled := (past.snoc run).slotted linked slotted
        exact ⟨settled.issued (some name) id bears, fun _ => bears⟩

end History

end SocketReactor
