import SocketReactor.Proofs.Reactor.Moves

/-!
# Keys and the channels that hold them

In every reactor that operations lead to, the books of all selectors are in
order, no selector is in the middle of a poll, and every key that counts is the
present key of a channel with the descriptor that was registered.
-/

namespace SocketReactor

variable {σ : Type} {answers : Answering σ}

namespace Selector

def Idle (selector : Selector) : Prop :=
  selector.polling = false ∧ ∀ backend, selector.phase ≠ .closing backend

variable {selector later : Selector} {state after : σ}

/-- No action leaves a poll behind. -/
theorem Acts.idle {action : Action} (kept : selector.Kept) (idle : selector.Idle)
    (outcome : Acts answers selector action state later after) : later.Idle := by
  cases outcome with
  | opening outcome =>
      cases outcome with
      | unasked begun => exact idle
      | failed fresh run => exact idle
      | opened fresh run => exact ⟨idle.1, nofun⟩
  | change outcome => cases outcome <;> exact idle
  | cancel outcome => cases outcome <;> exact idle
  | attach serial attachment => exact idle
  | wakeup pending quietly => exact idle
  | poll outcome =>
      have rekeyed : Rekeyed (fun _ => False) True selector later := outcome.rekeyed kept
      refine ⟨?_, rekeyed.phase ▸ idle.2⟩
      cases outcome with
      | shut shut => exact idle.1
      | failed isOpen waited => rfl
      | found isOpen waited retired consumed => rfl
  | close outcome =>
      cases outcome with
      | released isOpen unheld notified closed => exact ⟨idle.1, nofun⟩
      | held isOpen holding notified => cases idle.1.symm.trans holding
      | shut shut kept =>
          rcases kept with rfl | rfl
          · exact idle
          · exact ⟨idle.1, nofun⟩
  | finish outcome => cases outcome <;> exact ⟨idle.1, nofun⟩

theorem Registered.idle {descriptor : Descriptor} {validOps interest : OpSet}
    {attachment : Option String} {result : Except Fault Nat} (idle : selector.Idle)
    (outcome : Registered answers selector descriptor validOps interest attachment
      state result later after) : later.Idle := by
  cases outcome <;> exact idle

end Selector

namespace Reactor

theorem key?_setSelector (reactor : Reactor) (id : Nat) (selector : Selector) (key : KeyId) :
    (reactor.setSelector id selector).key? key =
      if key.selector = id then selector.key? key.serial else reactor.key? key := by
  rw [key?, selector?_setSelector]
  split
  · rfl
  · rfl

theorem owner?_assign (reactor : Reactor) (name other : String) (owner : Option Owner) :
    (reactor.assign name owner).owner? other =
      if other = name then owner else reactor.owner? other := by
  cases owner with
  | none => exact Table.get?_erase reactor.owners name other
  | some owner => exact reactor.owner?_setOwner name other owner

variable {reactor later : Reactor}

theorem selector?_of_selectors (selectors : later.selectors = reactor.selectors) (id : Nat) :
    later.selector? id = reactor.selector? id := congrArg (Table.get? · id) selectors

theorem key?_of_selectors (selectors : later.selectors = reactor.selectors) (id : KeyId) :
    later.key? id = reactor.key? id := by
  rw [key?, key?, selector?_of_selectors selectors]

theorem key?_of_selector? {id : KeyId} {selector : Selector}
    (known : reactor.selector? id.selector = some selector) :
    reactor.key? id = selector.key? id.serial := by
  rw [key?, known]
  rfl

/-- A selector is the one that was put in its place, or it is as it was. -/
theorem found_in_setSelector {id other : Nat} {selector given : Selector}
    (found : (reactor.setSelector id selector).selector? other = some given) :
    (other = id ∧ given = selector) ∨ (other ≠ id ∧ reactor.selector? other = some given) := by
  rw [selector?_setSelector] at found
  split at found
  · cases found
    exact .inl ⟨‹_›, rfl⟩
  · exact .inr ⟨‹_›, found⟩

theorem isValid_of_key? {id : KeyId} {key : Key} (found : reactor.key? id = some key) :
    reactor.isValid id = key.valid := by
  rw [isValid, found]
  rfl

end Reactor

def Scene.HasKey (scene : Scene σ) (id : KeyId) (descriptor : Descriptor) : Prop :=
  ∃ place channel, scene.owner? place = some (.watchable channel) ∧ channel.key = some id ∧
    channel.socket.descriptor = descriptor

structure Scene.Linked (scene : Scene σ) : Prop where
  numbered : ∀ id, scene.reactor.made ≤ id → scene.reactor.selector? id = none
  kept : ∀ id selector, scene.reactor.selector? id = some selector → selector.Kept
  idle : ∀ id selector, scene.reactor.selector? id = some selector → selector.Idle
  held : ∀ id key, scene.reactor.key? id = some key → key.valid = true →
    scene.HasKey id key.descriptor

namespace Scene.Linked

variable {scene : Scene σ}

/-- A change of owners in which no key that counts gets lost. -/
theorem reown (linked : scene.Linked) {later : Scene σ}
    (made : later.reactor.made = scene.reactor.made)
    (selectors : later.reactor.selectors = scene.reactor.selectors)
    (keeps : ∀ place channel id, scene.owner? place = some (.watchable channel) →
      channel.key = some id → scene.reactor.isValid id = true →
        later.HasKey id channel.socket.descriptor) : later.Linked where
  numbered := by
    intro id
    rw [made, Reactor.selector?_of_selectors selectors]
    exact linked.numbered id
  kept := by
    intro id selector
    rw [Reactor.selector?_of_selectors selectors]
    exact linked.kept id selector
  idle := by
    intro id selector
    rw [Reactor.selector?_of_selectors selectors]
    exact linked.idle id selector
  held := by
    intro id key found valid
    rw [Reactor.key?_of_selectors selectors] at found
    obtain ⟨place, channel, owned, has, same⟩ := linked.held id key found valid
    rw [← same]
    exact keeps place channel id owned has ((Reactor.isValid_of_key? found).trans valid)

theorem counted {id : Nat} {selector : Selector} (linked : scene.Linked)
    (known : scene.reactor.selector? id = some selector) : id < scene.reactor.made := by
  by_contra fresh
  rw [linked.numbered id (Nat.le_of_not_lt fresh)] at known
  cases known

/-- A selector is put where one is, or after the last. -/
theorem put {later : Scene σ} {id : Nat} {settled : Selector} (linked : scene.Linked)
    (selectors : ∀ other, later.reactor.selector? other =
      if other = id then some settled else scene.reactor.selector? other)
    (made : scene.reactor.made ≤ later.reactor.made) (counted : id < later.reactor.made)
    (kept : settled.Kept) (idle : settled.Idle)
    (held : ∀ key given, later.reactor.key? key = some given → given.valid = true →
      later.HasKey key given.descriptor) : later.Linked where
  numbered := by
    intro other fresh
    rw [selectors, if_neg]
    · exact linked.numbered other (made.trans fresh)
    · omega
  kept := by
    intro other given found
    rw [selectors] at found
    split at found
    · cases found
      exact kept
    · exact linked.kept other given found
  idle := by
    intro other given found
    rw [selectors] at found
    split at found
    · cases found
      exact idle
    · exact linked.idle other given found
  held := held

/-- A change of one selector in which no key comes to count. -/
theorem react {reactor : Reactor} {loose : Option Owner} {host after : σ} {id : Nat}
    {selector later : Selector} (linked : (⟨reactor, loose, host⟩ : Scene σ).Linked)
    (known : reactor.selector? id = some selector) (kept : later.Kept) (idle : later.Idle)
    (back : ∀ serial key, later.key? serial = some key → key.valid = true →
      ∃ before, selector.key? serial = some before ∧ before.valid = true ∧
        key.descriptor = before.descriptor) :
    (⟨reactor.setSelector id later, loose, after⟩ : Scene σ).Linked := by
  refine linked.put (fun other => reactor.selector?_setSelector id other later) le_rfl
    (linked.counted known) kept idle ?_
  intro key given found valid
  have found' := (reactor.key?_setSelector id later key).symm.trans found
  split at found'
  · rename_i same
    obtain ⟨before, present, counts, descriptor⟩ := back key.serial given found' valid
    rw [descriptor]
    subst same
    exact linked.held key before ((Reactor.key?_of_selector? known).trans present) counts
  · exact linked.held key given found' valid

/-- A key that counts keeps its channel when a name whose key does not count gets another
owner. -/
theorem hasKey_setOwner {reactor later : Reactor} {loose : Option Owner} {host after : σ}
    {name : String} {channel : Channel} {owner : Owner} {id : KeyId} {descriptor : Descriptor}
    (named : reactor.owner? name = some (.watchable channel))
    (lapsed : reactor.Lapsed (.watchable channel)) (owners : later.owners = reactor.owners)
    (valid : reactor.isValid id = true)
    (held : Scene.HasKey (⟨reactor, loose, host⟩ : Scene σ) id descriptor) :
    Scene.HasKey (⟨later.setOwner name owner, loose, after⟩ : Scene σ) id descriptor := by
  obtain ⟨place, holder, owned, has, same⟩ := held
  refine ⟨place, holder, ?_, has, same⟩
  cases place with
  | none => exact owned
  | some other =>
      refine (later.owner?_setOwner name other owner).trans ?_
      rw [if_neg]
      · exact (congrArg (Table.get? · other) owners).trans owned
      · rintro rfl
        cases named.symm.trans owned
        rw [lapsed id has] at valid
        cases valid

/-- Issuing a key to a channel whose key does not count. -/
theorem issue {reactor : Reactor} {loose : Option Owner} {host after : σ} {name : String}
    {channel : Channel} {id serial : Nat} {selector later : Selector} {interest : OpSet}
    {attachment : Option String} (linked : (⟨reactor, loose, host⟩ : Scene σ).Linked)
    (named : reactor.owner? name = some (.watchable channel))
    (lapsed : reactor.Lapsed (.watchable channel))
    (known : reactor.selector? id = some selector)
    (outcome : selector.Registered answers channel.socket.descriptor channel.use.validOps
      interest attachment host (.ok serial) later after) :
    (⟨(reactor.setSelector id later).setOwner name
      (.watchable { channel with key := some ⟨id, serial⟩ }), loose, after⟩ : Scene σ).Linked := by
  refine linked.put (fun other => reactor.selector?_setSelector id other later) le_rfl
    (linked.counted known) (outcome.kept (linked.kept id selector known))
    (outcome.idle (linked.idle id selector known)) ?_
  -- The channel's former key does not count, so no other key loses its channel.
  have keeps : ∀ key given, reactor.key? key = some given → given.valid = true →
      Scene.HasKey ⟨(reactor.setSelector id later).setOwner name
        (.watchable { channel with key := some ⟨id, serial⟩ }), loose, after⟩
        key given.descriptor := by
    intro key given found valid
    exact hasKey_setOwner named lapsed rfl ((Reactor.isValid_of_key? found).trans valid)
      (linked.held key given found valid)
  intro key given found valid
  have found' := (reactor.key?_setSelector id later key).symm.trans found
  split at found'
  · rename_i same
    subst same
    cases outcome with
    | issued isOpen within sync =>
        have entry := (Table.get?_insert _ _ _ _).symm.trans found'
        split at entry
        · rename_i newest
          cases entry
          obtain ⟨same, -⟩ := sync.eq_armed
          refine ⟨some name, _, (Reactor.owner?_setOwner _ _ _ _).trans (if_pos rfl), ?_, ?_⟩
          · rw [← newest]
          · rw [same]
            rfl
        · exact keeps key given ((Reactor.key?_of_selector? known).trans entry) valid
  · exact keeps key given found' valid

/-- A command leaves every channel with the descriptor for which it has a key. -/
theorem perform {reactor : Reactor} {loose : Option Owner} {host after : σ} {name : String}
    {owner : Owner} {access : Access} {command : Command} {later : Socket}
    (linked : (⟨reactor, loose, host⟩ : Scene σ).Linked)
    (named : reactor.owner? name = some owner) (granted : owner.grants access command = true)
    (lapsed : command = .close → reactor.Lapsed owner)
    (outcome : owner.socket.Performed answers command host later after) :
    (⟨reactor.setSocket name later, loose, after⟩ : Scene σ).Linked := by
  refine linked.reown rfl rfl ?_
  intro place channel id owned has valid
  cases place with
  | none => exact ⟨none, channel, owned, has, rfl⟩
  | some other =>
      have moved := reactor.owner?_setSocket name other later
      by_cases same : other = name
      · subst same
        cases named.symm.trans owned
        refine ⟨some other, { channel with socket := later }, ?_, has, ?_⟩
        · refine moved.trans ?_
          rw [if_pos rfl, named]
          rfl
        · cases outcome with
          | steady quietly same => exact congrArg (Option.getD · Descriptor.absent) same
          | created bare gained => exact absurd granted (Owner.not_grants_create _ _ _)
          | closed bare discarded =>
              rw [lapsed rfl id has] at valid
              cases valid
      · exact ⟨some other, channel, (moved.trans (if_neg same)).trans owned, has, rfl⟩

/-- An owner and the one before it change places. -/
theorem swap {reactor : Reactor} {loose : Option Owner} {host : σ} (name : String)
    (linked : (⟨reactor, loose, host⟩ : Scene σ).Linked) :
    (⟨reactor.assign name loose, reactor.owner? name, host⟩ : Scene σ).Linked := by
  have unchanged : (reactor.assign name loose).made = reactor.made ∧
      (reactor.assign name loose).selectors = reactor.selectors := by
    cases loose <;> exact ⟨rfl, rfl⟩
  refine linked.reown unchanged.1 unchanged.2 ?_
  intro place channel id owned has valid
  cases place with
  | none =>
      exact ⟨some name, channel, (reactor.owner?_assign name name loose).trans
        ((if_pos rfl).trans owned), has, rfl⟩
  | some other =>
      by_cases same : other = name
      · subst same
        exact ⟨none, channel, owned, has, rfl⟩
      · exact ⟨some other, channel, (reactor.owner?_assign name other loose).trans
          ((if_neg same).trans owned), has, rfl⟩

/-- A channel forgets a key that does not count. -/
theorem forget {reactor : Reactor} {loose : Option Owner} {host : σ} {name : String}
    {channel : Channel} (linked : (⟨reactor, loose, host⟩ : Scene σ).Linked)
    (named : reactor.owner? name = some (.watchable channel))
    (lapsed : reactor.Lapsed (.watchable channel)) :
    (⟨reactor.setOwner name (.watchable { channel with key := none }), loose, host⟩ :
      Scene σ).Linked := by
  refine linked.reown rfl rfl ?_
  intro place holder id owned has valid
  exact hasKey_setOwner named lapsed rfl valid ⟨place, holder, owned, has, rfl⟩

/-- The owner on its way is replaced, and what it replaces held no key that counts. -/
theorem replace {reactor : Reactor} {loose other : Option Owner} {host after : σ}
    (linked : (⟨reactor, loose, host⟩ : Scene σ).Linked)
    (lapsed : ∀ owner, loose = some owner → reactor.Lapsed owner) :
    (⟨reactor, other, after⟩ : Scene σ).Linked := by
  refine linked.reown rfl rfl ?_
  intro place channel id owned has valid
  cases place with
  | none =>
      rw [lapsed _ owned id has] at valid
      cases valid
  | some name => exact ⟨some name, channel, owned, has, rfl⟩

theorem add {reactor : Reactor} {loose : Option Owner} {host : σ} (selection : Setup.Selection)
    (linked : (⟨reactor, loose, host⟩ : Scene σ).Linked) :
    (⟨(reactor.addSelector selection).2, loose, host⟩ : Scene σ).Linked := by
  refine linked.put
    (fun other => reactor.selector?_setSelector reactor.made other (.new selection))
    (Nat.le_succ reactor.made) (Nat.lt_succ_self reactor.made) (Selector.kept_new selection)
    ⟨rfl, nofun⟩ ?_
  intro id key found valid
  have found' := (reactor.key?_setSelector reactor.made (.new selection) id).symm.trans found
  split at found'
  · cases found'
  · exact linked.held id key found' valid

/-- Every move keeps keys and channels together. -/
theorem move {asks : KeyId → Prop} {polls : Nat → Prop}
  {commands : String → Command → Prop} {later : Scene σ}
    (linked : scene.Linked) (step : Move answers asks polls commands scene later) : later.Linked := by
  cases step with
  | act known outcome asked polled tended =>
      have kept := linked.kept _ _ known
      refine linked.react known (outcome.kept kept) (outcome.idle kept (linked.idle _ _ known)) ?_
      intro serial key found valid
      obtain ⟨before, present, become⟩ := (outcome.becomes kept).back found
      exact ⟨before, present, become.valid valid, become.descriptor⟩
  | add selection => exact linked.add selection
  | refuse known outcome tended =>
      refine linked.react known (outcome.kept (linked.kept _ _ known))
        (outcome.idle (linked.idle _ _ known)) ?_
      intro serial key found valid
      cases outcome <;> exact ⟨key, found, valid, rfl⟩
  | issue named lapsed known outcome tended => exact linked.issue named lapsed known outcome
  | forget named lapsed => exact linked.forget named lapsed
  | gain tended prompted =>
      refine linked.replace ?_
      rintro owner ⟨⟩
  | miss tended => exact linked.reown rfl rfl fun place channel id owned has _ =>
      ⟨place, channel, owned, has, rfl⟩
  | wrap quietly tended prompted =>
      refine linked.replace ?_
      rintro owner ⟨⟩ id has
      cases has
  | swap name => exact linked.swap name
  | discard lapsed quietly discarded tended =>
      refine linked.replace ?_
      rintro owner ⟨⟩
      exact lapsed
  | perform named granted commanded lapsed outcome tended ran =>
      exact linked.perform named granted lapsed outcome

/-- A chain of moves keeps keys and channels together. -/
theorem moves {asks : KeyId → Prop} {polls : Nat → Prop}
  {commands : String → Command → Prop} {later : Scene σ}
    (linked : scene.Linked) (steps : Moves answers asks polls commands scene later) : later.Linked := by
  induction steps with
  | refl => exact linked
  | tail _ step ih => exact ih.move step

theorem empty (host : σ) : (⟨∅, none, host⟩ : Scene σ).Linked :=
  ⟨fun _ _ => rfl, fun _ _ => nofun, fun _ _ => nofun, fun _ _ => nofun⟩

end Scene.Linked

/-- Keys and channels belong together after every run. -/
theorem History.linked {start reactor : Reactor} {origin state : σ} {trace : List Entry}
    (linked : (⟨start, none, origin⟩ : Scene σ).Linked)
    (history : History answers start origin trace reactor state) :
    (⟨reactor, none, state⟩ : Scene σ).Linked := by
  induction history with
  | nil => exact linked
  | snoc past run ih => exact ih.moves (moves_of_runs run)

end SocketReactor
