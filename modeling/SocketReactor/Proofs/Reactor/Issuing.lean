import SocketReactor.Proofs.Reactor.Slots

/-!
# Where keys come from

A key comes to be only when a channel is registered whose key does not count.  It is
then for the descriptor that the channel has, and interested in what was asked for.
No other operation issues a key.
-/

namespace SocketReactor

variable {σ : Type} {answers : Answering σ}

/-- No action on a selector issues a key. -/
theorem Selector.Acts.old {selector later : Selector} {action : Selector.Action} {state after : σ}
    {serial : Nat} {key : Key} (kept : selector.Kept)
    (outcome : selector.Acts answers action state later after)
    (found : later.key? serial = some key) : ∃ former, selector.key? serial = some former := by
  obtain ⟨former, found', -⟩ := (outcome.becomes kept).back found
  exact ⟨former, found'⟩

namespace Reactor

variable {reactor middle later : Reactor} {name : String} {owner : Owner} {id : KeyId}
  {number : Nat} {selector settled : Selector} {host after : σ}

def Kept (reactor : Reactor) : Prop :=
  ∀ number selector, reactor.selector? number = some selector → selector.Kept

def Recalls (reactor later : Reactor) : Prop :=
  ∀ id key, later.key? id = some key → ∃ former, reactor.key? id = some former

theorem recalls_of_selectors (selectors : later.selectors = reactor.selectors) :
    reactor.Recalls later := fun id key found =>
  ⟨key, (key?_of_selectors selectors id).symm.trans found⟩

theorem recalls_setSelector (known : reactor.selector? number = some selector)
    (old : ∀ serial key, settled.key? serial = some key →
      ∃ former, selector.key? serial = some former) :
    reactor.Recalls (reactor.setSelector number settled) := by
  intro id key found
  rw [key?_setSelector] at found
  split at found
  · rename_i here
    subst here
    obtain ⟨former, found'⟩ := old id.serial key found
    exact ⟨former, (key?_of_selector? known).trans found'⟩
  · exact ⟨key, found⟩

theorem recalls_addSelector (selection : Setup.Selection) :
    reactor.Recalls (reactor.addSelector selection).2 := by
  intro id key found
  have found' := (reactor.key?_setSelector reactor.made (.new selection) id).symm.trans found
  split at found'
  · cases found'
  · exact ⟨key, found'⟩

theorem recalls_onSelector {α : Type} {absent result : α}
    {step : Selector → Program (α × Selector)} (kept : reactor.Kept)
    (acts : ∀ selector settled result, ∀ state after : σ,
      (step selector).Runs answers state (result, settled) after →
        ∃ action, selector.Acts answers action state settled after)
    (run : (reactor.onSelector number absent step).Runs answers host (result, later) after) :
    reactor.Recalls later := by
  unfold onSelector at run
  split at run
  · cases run.1
    exact recalls_of_selectors rfl
  · rename_i selector known
    obtain ⟨⟨outcome, settled⟩, between, stepped, same, rfl⟩ := Program.runs_bind.mp run
    cases same
    obtain ⟨action, acted⟩ := acts _ _ _ _ _ stepped
    exact recalls_setSelector known fun _ _ found => acted.old (kept _ _ known) found

theorem recalls_stepSelector {step : Selector → Program Selector} (kept : reactor.Kept)
    (acts : ∀ selector settled, ∀ state after : σ,
      (step selector).Runs answers state settled after →
        ∃ action, selector.Acts answers action state settled after)
    (run : (reactor.stepSelector number step).Runs answers host later after) :
    reactor.Recalls later := by
  unfold stepSelector at run
  split at run
  · cases run.1
    exact recalls_of_selectors rfl
  · rename_i selector known
    obtain ⟨settled, between, stepped, rfl, rfl⟩ := Program.runs_bind.mp run
    obtain ⟨action, acted⟩ := acts _ _ _ _ stepped
    exact recalls_setSelector known fun _ _ found => acted.old (kept _ _ known) found

theorem recalls_cancel (run : (reactor.cancel id).Runs answers host later after)
    (kept : reactor.Kept) : reactor.Recalls later :=
  recalls_stepSelector kept
    (fun _ _ _ _ stepped => ⟨_, .cancel (Selector.cancelled_of_runs stepped)⟩) run

theorem recalls_setInterest {interest : OpSet} {result : Except Fault Unit}
    (run : (reactor.setInterest id interest).Runs answers host (result, later) after)
    (kept : reactor.Kept) : reactor.Recalls later :=
  recalls_onSelector kept
    (fun _ _ _ _ _ stepped => ⟨_, .change (Selector.changed_of_runs stepped)⟩) run

theorem recalls_attach (id : KeyId) (attachment : Option String) :
    reactor.Recalls (reactor.attach id attachment).2 := by
  unfold attach
  split
  · exact recalls_of_selectors rfl
  · rename_i selector known
    have becomes : selector.Becomes (fun _ => False) False (selector.attach id.serial attachment).2 :=
      (selector.rekeyed_attach id.serial attachment).becomes
    refine recalls_setSelector known fun serial key found => ?_
    obtain ⟨former, found', -⟩ := becomes.back found
    exact ⟨former, found'⟩

theorem recalls_dispose (run : (reactor.dispose owner).Runs answers host later after)
    (kept : reactor.Kept) : reactor.Recalls later := by
  unfold dispose at run
  cases key : owner.key? with
  | none =>
      simp only [key] at run
      obtain ⟨settled, middle, ⟨rfl, rfl⟩, rest⟩ := Program.runs_bind.mp run
      obtain ⟨⟨⟩, between, discarded, rfl, rfl⟩ := Program.runs_bind.mp rest
      exact recalls_of_selectors rfl
  | some id =>
      simp only [key] at run
      obtain ⟨middle, between, cancelled, rest⟩ := Program.runs_bind.mp run
      obtain ⟨⟨⟩, last, discarded, rfl, rfl⟩ := Program.runs_bind.mp rest
      exact recalls_cancel cancelled kept

/-- A step from a reactor with the same selectors. -/
theorem Recalls.reown (recalls : middle.Recalls later)
    (selectors : middle.selectors = reactor.selectors) : reactor.Recalls later := by
  intro id key found
  obtain ⟨former, found'⟩ := recalls id key found
  exact ⟨former, (key?_of_selectors selectors id).symm.trans found'⟩

theorem Kept.reown (kept : reactor.Kept) (selectors : middle.selectors = reactor.selectors) :
    middle.Kept := fun number selector known =>
  kept number selector ((selector?_of_selectors selectors number).symm.trans known)

theorem recalls_place (run : (reactor.place name owner).Runs answers host later after)
    (kept : reactor.Kept) : reactor.Recalls later := by
  unfold place at run
  split at run
  · cases run.1
    exact recalls_of_selectors rfl
  · exact (recalls_dispose run (kept.reown rfl)).reown rfl

theorem recalls_drop {result : Except Refusal Unit}
    (run : (reactor.drop name).Runs answers host (result, later) after) (kept : reactor.Kept) :
    reactor.Recalls later := by
  cases dropped_of_runs run with
  | refused absent => exact recalls_of_selectors rfl
  | dropped named disposed => exact (recalls_dispose disposed (kept.reown rfl)).reown rfl

theorem recalls_unregister (run : (reactor.unregister name).Runs answers host later after)
    (kept : reactor.Kept) : reactor.Recalls later := by
  unfold unregister at run
  split at run
  · dsimp only at run
    split at run
    · exact (recalls_cancel run (kept.reown rfl)).reown rfl
    · cases run.1
      exact recalls_of_selectors rfl
  · cases run.1
    exact recalls_of_selectors rfl

theorem recalls_ask {command : Command} {result : Except Refusal Reply}
    (run : (reactor.ask name access command).Runs answers host (result, later) after)
    (kept : reactor.Kept) : reactor.Recalls later := by
  cases asked_of_runs run with
  | refused ungranted plain => exact recalls_of_selectors rfl
  | performed named granted other performed => exact recalls_of_selectors rfl
  | closed named granted unregistered performed =>
      have recalls := recalls_unregister unregistered kept
      exact recalls

/-- No operation but a registration issues a key. -/
theorem recalls_of_runs {operation : Operation} {result : operation.Result}
    (foreign : ∀ name number interest attachment,
      operation ≠ .register name number interest attachment) (kept : reactor.Kept)
    (run : (operation.perform reactor).Runs answers host (result, later) after) :
    reactor.Recalls later := by
  cases operation with
  | register name number interest attachment => exact absurd rfl (foreign _ _ _ _)
  | make name recipe =>
      cases made_of_runs run with
      | failed made => exact recalls_of_selectors rfl
      | placed made placing => exact recalls_place placing kept
  | accept listener access name =>
      cases received_of_runs run with
      | refused | missed => exact recalls_of_selectors rfl
      | placed named lends taken placing => exact recalls_place placing kept
  | wrap source name =>
      cases wrapped_of_runs run with
      | refused absent => exact recalls_of_selectors rfl
      | failed named made => exact recalls_of_selectors rfl
      | placed named made placing => exact (recalls_place placing (kept.reown rfl)).reown rfl
  | take source name =>
      cases taken_of_runs run with
      | refused refusal absent => exact recalls_of_selectors rfl
      | placed named placing => exact (recalls_place placing (kept.reown rfl)).reown rfl
  | adopt name source =>
      cases adopted_of_runs run with
      | refused | adopted | discarded => exact recalls_of_selectors rfl
  | ask name access command => exact recalls_ask run kept
  | drop name => exact recalls_drop run kept
  | setInterest id interest => exact recalls_setInterest run kept
  | cancel id =>
      obtain ⟨settled, between, cancelled, same, rfl⟩ := Program.runs_bind.mp run
      cases same
      exact recalls_cancel cancelled kept
  | attach id attachment =>
      obtain ⟨same, rfl⟩ := run
      obtain rfl : later = (reactor.attach id attachment).2 := congrArg Prod.snd same
      exact recalls_attach id attachment
  | newSelector selection =>
      obtain ⟨same, rfl⟩ := run
      cases same
      exact recalls_addSelector selection
  | openSelector number =>
      exact recalls_onSelector kept
        (fun _ _ _ _ _ stepped => ⟨_, .opening (Selector.opening_of_runs stepped)⟩) run
  | poll number limit =>
      exact recalls_onSelector kept
        (fun _ _ _ _ _ stepped => ⟨_, .poll (Selector.polled_of_runs stepped)⟩) run
  | wakeup number =>
      refine recalls_onSelector kept (fun _ _ _ _ _ stepped => ?_) run
      obtain ⟨same, quietly⟩ := Selector.wakeup_of_runs stepped
      rw [same]
      exact ⟨_, .wakeup _ quietly⟩
  | closeSelector number =>
      obtain ⟨settled, between, stepped, same, rfl⟩ := Program.runs_bind.mp run
      cases same
      exact recalls_stepSelector kept
        (fun _ _ _ _ closed => ⟨_, .close (Selector.closing_of_runs closed)⟩) stepped
  | dropSelector number =>
      obtain ⟨settled, between, stepped, same, rfl⟩ := Program.runs_bind.mp run
      cases same
      exact recalls_stepSelector kept
        (fun _ _ _ _ finished => ⟨_, .finish (Selector.finishing_of_runs finished)⟩) stepped

end Reactor

/-! ## Registering -/

/-- An operation issues a key: it registers a channel whose key does not count with an open
selector, and the host may go along with that. -/
inductive Operation.Issues (answers : Answering σ) (reactor : Reactor) (host after : σ)
    (id : KeyId) (key : Key) : (operation : Operation) → operation.Result → Prop where
  | registered {name : String} {number : Nat} {interest : OpSet} {attachment : Option String}
      {channel : Channel} {selector : Selector} {backend : Backend}
      (named : reactor.owner? name = some (.watchable channel))
      (lapsed : reactor.validKey? (.watchable channel) = none)
      (known : reactor.selector? number = some selector)
      (isOpen : selector.phase = .opened backend) (newest : id = ⟨number, selector.issued⟩)
      (sync : Key.Synced answers backend (Key.new (UInt64.ofNat selector.issued)
        channel.socket.descriptor channel.use.validOps interest attachment) interest host (.ok ())
          key after) :
      Issues answers reactor host after id key (.register name number interest attachment)
        (.ok id)

variable {reactor later : Reactor} {id : KeyId} {key : Key} {host after : σ}

/-- What is there after a channel without a key that counts was registered was there before,
or has been issued. -/
theorem issues_of_registerNew {name : String} {number : Nat} {interest : OpSet}
    {attachment : Option String} {channel : Channel} {result : Except Fault KeyId}
    (named : reactor.owner? name = some (.watchable channel))
    (lapsed : reactor.validKey? (.watchable channel) = none)
    (run : (reactor.registerNew name channel number interest attachment).Runs answers host
      (result, later) after) (found : later.key? id = some key) :
    (∃ former, reactor.key? id = some former) ∨
      (Operation.register name number interest attachment).Issues answers reactor host after id key
        (result.mapError .fault) := by
  obtain ⟨⟨reply, middle⟩, between, stepped, rest⟩ := Program.runs_bind.mp run
  unfold Reactor.onSelector at stepped
  split at stepped
  · obtain ⟨same, rfl⟩ := stepped
    cases same
    obtain ⟨same, rfl⟩ := rest
    cases same
    exact .inl ⟨key, found⟩
  · rename_i selector known
    obtain ⟨⟨given, settled⟩, last, registered, same, rfl⟩ := Program.runs_bind.mp stepped
    cases same
    have outcome := Selector.registered_of_runs registered
    cases outcome with
    | unasked plain =>
        obtain ⟨same, rfl⟩ := rest
        cases same
        exact .inl (Reactor.recalls_setSelector known (fun _ key found => ⟨key, found⟩) id key found)
    | refused isOpen sync =>
        obtain ⟨same, rfl⟩ := rest
        cases same
        refine .inl (Reactor.recalls_setSelector known (fun _ _ present => ?_) id key found)
        exact ⟨_, present⟩
    | issued isOpen within sync =>
        obtain ⟨same, rfl⟩ := rest
        cases same
        -- Of the keys in this selector one is new, and those of other selectors are as they were.
        have found' := (reactor.key?_setSelector number _ id).symm.trans found
        split at found'
        · rename_i here
          have entry := (Table.get?_insert _ _ _ _).symm.trans found'
          split at entry
          · rename_i newest
            cases entry
            have same : id = ⟨number, selector.issued⟩ := by
              cases id
              simp_all
            rw [← same]
            exact .inr (.registered named lapsed known isOpen same sync)
          · subst here
            exact .inl ⟨key, (Reactor.key?_of_selector? known).trans entry⟩
        · exact .inl ⟨key, found'⟩

/-- A key that is there after an operation was there before, or has been issued by it. -/
theorem issues_of_runs {operation : Operation} {result : operation.Result} (kept : reactor.Kept)
    (run : (operation.perform reactor).Runs answers host (result, later) after)
    (found : later.key? id = some key) :
    (∃ former, reactor.key? id = some former) ∨
      operation.Issues answers reactor host after id key result := by
  cases operation with
  | register name number interest attachment =>
      cases Reactor.enrolled_of_runs run with
      | refused plain => exact .inl ⟨key, found⟩
      | fresh named lapsed registered => exact issues_of_registerNew named lapsed registered found
      | unchanged named counts here changed =>
          exact .inl (Reactor.recalls_setInterest changed kept id key found)
      | changed named counts here changed =>
          obtain ⟨former, found'⟩ := Reactor.recalls_attach _ _ id key found
          exact .inl (Reactor.recalls_setInterest changed kept id former found')
  | _ =>
      exact .inl (Reactor.recalls_of_runs (fun _ _ _ _ same => by cases same) kept run id key found)

end SocketReactor
