import SocketReactor.Proofs.Selector.Bookkeeping

/-!
# Actions on a selector

Everything that is done to a selector but registering, as one relation with a
label for each kind of action.  Every action keeps the books in order and says
what it may turn each key into.
-/

namespace SocketReactor.Selector

variable {σ : Type} {answers : Answering σ} {selector later : Selector}
  {state after : σ}

/-- What is done to a selector besides registering. -/
inductive Action where
  | opening
  | change (serial : Nat) (interest : OpSet)
  | cancel (serial : Nat)
  | attach (serial : Nat) (attachment : Option String)
  | poll
  | wakeup
  | close
  | finish

def Action.Asks : Action → Nat → Prop
  | change serial interest, other => other = serial ∧ interest.connect = true
  | _, _ => False

/-- Whether an action may find keys ready. -/
def Action.Polls : Action → Prop
  | poll => True
  | _ => False

inductive Acts (answers : Answering σ) (selector : Selector) :
    Action → σ → Selector → σ → Prop where
  | opening {state after : σ} {later : Selector} {result : Except Fault Unit}
      (outcome : Opening answers selector state result later after) :
      Acts answers selector .opening state later after
  | change {state after : σ} {later : Selector} {result : Except Fault Unit}
      {serial : Nat} {interest : OpSet}
      (outcome : Changed answers selector serial interest state result later after) :
      Acts answers selector (.change serial interest) state later after
  | cancel {state after : σ} {later : Selector} {serial : Nat}
      (outcome : Cancelled answers selector serial state later after) :
      Acts answers selector (.cancel serial) state later after
  | attach {state : σ} (serial : Nat) (attachment : Option String) :
      Acts answers selector (.attach serial attachment) state
        (selector.attach serial attachment).2 state
  | poll {state after : σ} {later : Selector} {result : Except Fault (List Nat)}
      (outcome : Polled answers selector state result later after) :
      Acts answers selector .poll state later after
  | wakeup {state after : σ} (pending : Bool) (quietly : answers.Quietly state after) :
      Acts answers selector .wakeup state { selector with wakeupPending := pending } after
  | close {state after : σ} {later : Selector}
      (outcome : Closing answers selector state later after) :
      Acts answers selector .close state later after
  | finish {state after : σ} {later : Selector}
      (outcome : Finishing answers selector state later after) :
      Acts answers selector .finish state later after

section Rekeying

variable {asked : Nat → Prop} {polled : Prop} {serial : Nat} {key : Key}

/-- Selectors that differ in no key, nor in what is registered. -/
theorem rekeyed_of_keys (phase : later.phase = selector.phase)
    (registry : later.registry = selector.registry) (issued : later.issued = selector.issued)
    (keys : later.keys = selector.keys) : Rekeyed asked polled selector later where
  phase := phase
  registry := registry
  issued := issued
  keys serial := by
    rw [key?, key?, keys]
    cases selector.keys.get? serial with
    | none => exact .none
    | some key => exact .some (.refl key)

theorem rekeyed_attach (selector : Selector) (serial : Nat) (attachment : Option String) :
    Rekeyed asked polled selector (selector.attach serial attachment).2 where
  phase := rfl
  registry := rfl
  issued := rfl
  keys other := by
    have updated : (selector.attach serial attachment).2.key? other =
        if other = serial then
          (selector.key? other).map fun key => { key with attachment := attachment }
        else selector.key? other :=
      Table.get?_modify selector.keys serial other _
    rw [updated]
    cases selector.key? other with
    | none => split <;> exact .none
    | some key =>
        split
        · exact .some ⟨⟨rfl, rfl, rfl, id, .inl, .inl rfl⟩, rfl,
            fun sane => ⟨⟨sane.within, sane.wanted, sane.rested⟩, fun _ => rfl⟩⟩
        · exact .some (.refl key)

theorem rekeyed_enterPoll (selector : Selector) :
    Rekeyed asked polled selector selector.enterPoll where
  phase := rfl
  registry := rfl
  issued := rfl
  keys serial := by
    have entered : selector.enterPoll.key? serial = selector.forgetReady.key? serial := rfl
    rw [entered, key?_forgetReady]
    cases selector.key? serial with
    | none => split <;> exact .none
    | some key =>
        split
        · exact .some ⟨⟨rfl, rfl, rfl, id, .inl, .inr (.inl rfl)⟩, rfl,
            fun sane => ⟨⟨sane.within, sane.wanted, fun _ => rfl⟩, fun _ => rfl⟩⟩
        · exact .some (.refl key)

theorem Absorbed.Sound.rekeyed {state : Absorbed} (sound : Absorbed.Sound selector state) :
    Rekeyed asked True selector state.selector where
  phase := by rw [sound.keys_only]
  registry := by rw [sound.keys_only]
  issued := by rw [sound.keys_only]
  keys serial := by
    by_cases selected : serial ∈ state.selected
    · obtain ⟨token, key, ready, -, found, valid, -, -, known⟩ := sound.picked serial selected
      rw [found, known]
      refine .some ⟨⟨rfl, rfl, rfl, id, .inl, .inr (.inr trivial)⟩, rfl, ?_⟩
      intro sane
      refine ⟨⟨sane.within, sane.wanted, ?_⟩, fun _ => rfl⟩
      intro invalid
      rw [show key.valid = false from invalid] at valid
      cases valid
    · rw [sound.passed serial selected]
      cases selector.key? serial with
      | none => exact .none
      | some key => exact .some (.refl key)

theorem Disarmed.rekeyed {backend : Backend} (kept : selector.Kept)
    (outcome : Disarmed answers backend selector serial state later after) :
    Rekeyed asked polled selector later := by
  cases outcome with
  | kept silent => exact rekeyed_of_keys rfl rfl rfl rfl
  | disarmed found reported sync =>
      rename_i key synced reply
      have sane := kept.sane serial key found
      have valid : key.valid = true := by
        by_contra invalid
        rw [sane.rested (Bool.eq_false_iff.mpr invalid)] at reported
        cases reported
      obtain ⟨same, wanted⟩ := sync.eq_armed
      rw [same]
      refine rekeyed_setKey found (Key.Retuned.sync valid ?_ wanted ?_)
      · exact OpSet.contains_trans sane.within (OpSet.contains_inter _ _)
      · intro connect
        rw [OpSet.connect_inter_complement] at connect
        cases connect

theorem DisarmedAll.rekeyed {backend : Backend} {serials : List Nat} (kept : selector.Kept)
    (outcome : DisarmedAll answers backend serials selector state later after) :
    Rekeyed asked polled selector later := by
  induction outcome with
  | nil => exact rekeyed_of_keys rfl rfl rfl rfl
  | cons first others ih =>
      have rekeyed : Rekeyed asked polled _ _ := first.rekeyed kept
      exact rekeyed.trans (ih (kept.rekey rekeyed))

theorem Polled.rekeyed {result : Except Fault (List Nat)} (kept : selector.Kept)
    (outcome : Polled answers selector state result later after) :
    Rekeyed asked True selector later := by
  cases outcome with
  | shut shut => exact rekeyed_of_keys rfl rfl rfl rfl
  | failed isOpen waited =>
      have entered : Rekeyed asked True _ _ := selector.rekeyed_enterPoll
      exact ⟨entered.phase, entered.registry, entered.issued, entered.keys⟩
  | found isOpen waited retired consumed =>
      rename_i backend events disarmed pending
      have sound := Absorbed.sound_absorb selector.ready_enterPoll events
      have absorbed : Rekeyed asked True _ _ := selector.rekeyed_enterPoll.trans sound.rekeyed
      have whole := absorbed.trans (retired.rekeyed (kept.rekey absorbed))
      exact ⟨whole.phase, whole.registry, whole.issued, whole.keys⟩

theorem Changed.rekeyed {interest : OpSet} {result : Except Fault Unit}
    (outcome : Changed answers selector serial interest state result later after) :
    Rekeyed (Action.change serial interest).Asks polled selector later := by
  cases outcome with
  | unasked plain => exact rekeyed_of_keys rfl rfl rfl rfl
  | stored found within valid isOpen present sync =>
      obtain ⟨same, wanted⟩ := sync.eq_armed
      rw [same]
      exact rekeyed_setKey found
        (Key.Retuned.sync valid within wanted fun connect => .inr ⟨rfl, connect⟩)

end Rekeying

section Releasing

variable {serial : Nat} {key : Key}

/-- The books after a key has been taken out of the registry. -/
theorem Kept.release (kept : selector.Kept) (found : selector.key? serial = some key)
    (valid : key.valid = true) {armed : Bool} (watched : armed = true → key.armed = true)
    (gone : selector.issued ≤ 2 ^ 64 → armed = false) :
    ({ selector with registry := selector.registry.erase key.token }.setKey serial
      { key.invalidate with armed := armed }).Kept := by
  generalize later_eq : { selector with registry := selector.registry.erase key.token }.setKey
    serial { key.invalidate with armed := armed } = later
  have issued : later.issued = selector.issued := by rw [← later_eq]; rfl
  have isOpen : later.isOpen = selector.isOpen := by rw [← later_eq]; rfl
  have registry : later.registry = selector.registry.erase key.token := by
    rw [← later_eq]
    rfl
  have own : later.key? serial = some { key.invalidate with armed := armed } := by
    rw [← later_eq, key?_setKey, if_pos rfl]
  have others : ∀ other, other ≠ serial → later.key? other = selector.key? other := by
    intro other apart
    rw [← later_eq, key?_setKey, if_neg apart]
    rfl
  have sane := kept.sane serial key found
  constructor
  case unique =>
    rw [registry]
    exact kept.unique.erase key.token
  case counted =>
    intro other held present
    rw [issued]
    by_cases same : other = serial
    · subst same
      exact kept.counted other key found
    · exact kept.counted other held (others other same ▸ present)
  case token =>
    intro other held present
    by_cases same : other = serial
    · subst same
      cases own.symm.trans present
      exact kept.token other key found
    · exact kept.token other held (others other same ▸ present)
  case sane =>
    intro other held present
    by_cases same : other = serial
    · subst same
      cases own.symm.trans present
      exact ⟨sane.within, sane.wanted ∘ watched, fun _ => rfl⟩
    · exact kept.sane other held (others other same ▸ present)
  case listed =>
    intro token other listed
    rw [registry, Table.get?_erase] at listed
    split at listed
    · cases listed
    · rename_i apart
      obtain ⟨held, present, counts, same⟩ := kept.listed token other listed
      -- The entry of the token is gone, so no other key can have had it.
      have different : other ≠ serial := by
        rintro rfl
        cases found.symm.trans present
        exact apart same.symm
      exact ⟨held, (others other different).trans present, counts, same⟩
  case shut =>
    intro shut token
    rw [registry, Table.get?_erase, kept.shut (isOpen ▸ shut) token, ite_self]
  case registered =>
    intro bound other held present counts
    rw [issued] at bound
    by_cases same : other = serial
    · subst same
      cases own.symm.trans present
      cases counts
    · have entry := kept.registered bound other held (others other same ▸ present) counts
      rw [registry, Table.get?_erase, if_neg, entry]
      intro shared
      rw [shared, kept.registered bound serial key found valid] at entry
      cases entry
      exact same rfl
  case unwatched =>
    intro bound other held present counts
    rw [issued] at bound
    by_cases same : other = serial
    · subst same
      cases own.symm.trans present
      exact gone bound
    · exact kept.unwatched bound other held (others other same ▸ present) counts

theorem Cancelled.kept (kept : selector.Kept)
    (outcome : Cancelled answers selector serial state later after) : later.Kept := by
  cases outcome with
  | stale gone => exact kept
  | deleted found valid armed isOpen present answered =>
      exact kept.release found valid nofun fun _ => rfl
  | forgotten found valid armed shut present =>
      exact kept.release found valid nofun fun _ => rfl
  | released found valid unwatched =>
      refine kept.release found valid id ?_
      intro bound
      rcases unwatched with unarmed | absent
      · exact unarmed
      · rw [kept.registered bound serial _ found valid] at absent
        cases absent

/-- Every key of a selector whose registry was emptied is an old one, or was let go. -/
theorem origin_of_clearRegistry (found : selector.clearRegistry.key? serial = some key) :
    (serial ∉ selector.registered ∧ selector.key? serial = some key) ∨
      ∃ before, selector.key? serial = some before ∧
        key = { before.invalidate with armed := false } := by
  rw [key?_clearRegistry] at found
  split at found
  · obtain ⟨before, present, same⟩ := Option.map_eq_some_iff.mp found
    exact .inr ⟨before, present, same.symm⟩
  · exact .inl ⟨‹_›, found⟩

/-- The books of a selector that has let all keys go. -/
theorem Kept.clear (kept : selector.Kept) (phase : Phase) :
    ({ selector.clearRegistry with phase := phase } : Selector).Kept := by
  constructor
  case unique => exact Table.unique_empty
  case shut => exact fun _ _ => rfl
  case listed =>
    intro token serial listed
    cases listed
  case counted =>
    intro serial key found
    rcases origin_of_clearRegistry found with ⟨-, present⟩ | ⟨before, present, rfl⟩
    · exact kept.counted serial key present
    · exact kept.counted serial before present
  case token =>
    intro serial key found
    rcases origin_of_clearRegistry found with ⟨-, present⟩ | ⟨before, present, rfl⟩
    · exact kept.token serial key present
    · exact kept.token serial before present
  case sane =>
    intro serial key found
    rcases origin_of_clearRegistry found with ⟨-, present⟩ | ⟨before, present, rfl⟩
    · exact kept.sane serial key present
    · exact ⟨(kept.sane serial before present).within, nofun, fun _ => rfl⟩
  case registered =>
    intro bound serial key found valid
    rcases origin_of_clearRegistry found with ⟨unlisted, present⟩ | ⟨before, present, rfl⟩
    -- What counts below the bound is in the registry, so it has been let go.
    · have entry := kept.registered bound serial key present valid
      exact absurd (mem_registered_of_get? entry) unlisted
    · cases valid
  case unwatched =>
    intro bound serial key found invalid
    rcases origin_of_clearRegistry found with ⟨-, present⟩ | ⟨before, present, rfl⟩
    · exact kept.unwatched bound serial key present invalid
    · rfl

/-- The books after a key has been issued. -/
theorem Kept.issue (kept : selector.Kept) {backend : Backend} {descriptor : Descriptor}
    {validOps interest : OpSet} {attachment : Option String} {armed : Bool}
    (isOpen : selector.phase = .opened backend)
    (within : validOps.contains interest = true) (wanted : armed = true → interest ≠ .none) :
    ({ selector with
        issued := selector.issued + 1
        keys := selector.keys.insert selector.issued
          { Key.new (UInt64.ofNat selector.issued) descriptor validOps interest attachment with
            armed := armed }
        registry := selector.registry.insert (UInt64.ofNat selector.issued) selector.issued } :
      Selector).Kept := by
  generalize key_eq : ({ Key.new (UInt64.ofNat selector.issued) descriptor validOps interest
    attachment with armed := armed } : Key) = issue
  have token : issue.token = UInt64.ofNat selector.issued := by rw [← key_eq]; rfl
  have valid : issue.valid = true := by rw [← key_eq]; rfl
  have sane : issue.Sane := by
    rw [← key_eq]
    exact ⟨within, wanted, nofun⟩
  -- A key of the later selector is the one just issued, or one from before.
  have origin : ∀ serial key, (selector.keys.insert selector.issued issue).get? serial =
      some key → (serial = selector.issued ∧ key = issue) ∨
        (serial < selector.issued ∧ selector.key? serial = some key) := by
    intro serial key found
    rw [Table.get?_insert] at found
    split at found
    · cases found
      exact .inl ⟨‹_›, rfl⟩
    · exact .inr ⟨kept.counted serial key found, found⟩
  constructor
  case unique => exact kept.unique.insert _ _
  case counted =>
    intro serial key found
    rcases origin serial key found with ⟨rfl, rfl⟩ | ⟨less, -⟩
    · exact Nat.lt_succ_self _
    · exact Nat.lt_succ_of_lt less
  case token =>
    intro serial key found
    rcases origin serial key found with ⟨rfl, rfl⟩ | ⟨-, present⟩
    · exact token
    · exact kept.token serial key present
  case sane =>
    intro serial key found
    rcases origin serial key found with ⟨rfl, rfl⟩ | ⟨-, present⟩
    · exact sane
    · exact kept.sane serial key present
  case listed =>
    intro other serial listed
    have entry : (selector.registry.insert (UInt64.ofNat selector.issued)
      selector.issued).get? other = some serial := listed
    rw [Table.get?_insert] at entry
    split at entry
    · rename_i same
      cases entry
      exact ⟨issue, Table.get?_insert_self _ _ _, valid, token.trans same.symm⟩
    · obtain ⟨key, present, counts, same⟩ := kept.listed other serial entry
      refine ⟨key, ?_, counts, same⟩
      have apart : serial ≠ selector.issued := (kept.counted serial key present).ne
      exact (Table.get?_insert _ _ _ _).trans ((if_neg apart).trans present)
  case shut =>
    intro shut
    unfold Selector.isOpen at shut
    simp only [isOpen] at shut
    cases shut
  case registered =>
    intro bound serial key found counts
    have room : selector.issued + 1 ≤ 2 ^ 64 := bound
    refine (Table.get?_insert _ _ _ _).trans ?_
    rcases origin serial key found with ⟨rfl, rfl⟩ | ⟨less, present⟩
    · rw [token, if_pos rfl]
    -- A token is a serial number in 64 bits, and below the bound these do not repeat.
    · rw [if_neg, kept.registered (by omega) serial key present counts]
      rw [kept.token serial key present]
      intro same
      have equal := congrArg UInt64.toNat same
      rw [UInt64.toNat_ofNat', UInt64.toNat_ofNat'] at equal
      omega
  case unwatched =>
    intro bound serial key found invalid
    have room : selector.issued + 1 ≤ 2 ^ 64 := bound
    rcases origin serial key found with ⟨rfl, rfl⟩ | ⟨-, present⟩
    · rw [valid] at invalid
      cases invalid
    · exact kept.unwatched (by omega) serial key present invalid

/-- Using a token up leaves the books in order. -/
theorem Kept.count (kept : selector.Kept) :
    ({ selector with issued := selector.issued + 1 } : Selector).Kept where
  unique := kept.unique
  counted serial key found := Nat.lt_succ_of_lt (kept.counted serial key found)
  token := kept.token
  sane := kept.sane
  listed := kept.listed
  shut := kept.shut
  registered bound := kept.registered (Nat.le_of_succ_le bound)
  unwatched bound := kept.unwatched (Nat.le_of_succ_le bound)

/-- Registering leaves the books in order. -/
theorem Registered.kept {descriptor : Descriptor} {validOps interest : OpSet}
    {attachment : Option String} {result : Except Fault Nat} (kept : selector.Kept)
    (outcome : Registered answers selector descriptor validOps interest attachment
      state result later after) : later.Kept := by
  cases outcome with
  | unasked plain => exact kept
  | refused isOpen sync => exact kept.count
  | issued isOpen within sync =>
      obtain ⟨same, wanted⟩ := sync.eq_armed
      rw [same]
      exact kept.issue isOpen within wanted

/-- Opening a selector leaves the books in order. -/
theorem Opening.kept {result : Except Fault Unit} (kept : selector.Kept)
    (outcome : Opening answers selector state result later after) : later.Kept := by
  cases outcome with
  | unasked begun => exact kept
  | failed fresh run => exact kept
  | opened fresh run =>
      exact ⟨kept.unique, kept.counted, kept.token, kept.sane, kept.listed, nofun,
        kept.registered, kept.unwatched⟩

/-- Every action leaves the books in order. -/
theorem Acts.kept {action : Action} (kept : selector.Kept)
    (outcome : Acts answers selector action state later after) : later.Kept := by
  cases outcome with
  | opening outcome => exact outcome.kept kept
  | change outcome =>
      exact kept.rekey (outcome.rekeyed : Rekeyed _ False _ _)
  | cancel outcome => exact outcome.kept kept
  | attach serial attachment =>
      exact kept.rekey (selector.rekeyed_attach serial attachment :
        Rekeyed (fun _ => False) False _ _)
  | poll outcome => exact kept.rekey (outcome.rekeyed kept : Rekeyed (fun _ => False) _ _ _)
  | wakeup pending quietly =>
      have noted : Rekeyed (fun _ => False) False selector
        { selector with wakeupPending := pending } := rekeyed_of_keys rfl rfl rfl rfl
      exact kept.rekey noted
  | close outcome => cases outcome <;> exact kept.clear _
  | finish outcome => cases outcome <;> exact kept.clear _

/-- A selector that is new has its books in order. -/
theorem kept_new (selection : Setup.Selection) : (Selector.new selection).Kept where
  unique := Table.unique_empty
  counted _ _ := nofun
  token _ _ := nofun
  sane _ _ := nofun
  listed _ _ := nofun
  shut _ _ := rfl
  registered _ _ _ := nofun
  unwatched _ _ _ := nofun

end Releasing

/-! ## What becomes of each key -/

structure Becomes (asked : Nat → Prop) (polled : Prop) (selector later : Selector) : Prop where
  issued : later.issued = selector.issued
  keys : ∀ serial, Option.Rel (Key.Becomes (asked serial) polled)
    (selector.key? serial) (later.key? serial)

section Becoming

variable {asked : Nat → Prop} {polled : Prop}

theorem Becomes.back (becomes : Becomes asked polled selector later) {serial : Nat} {key : Key}
    (found : later.key? serial = some key) :
    ∃ before, selector.key? serial = some before ∧
      Key.Becomes (asked serial) polled before key := by
  have related := becomes.keys serial
  rw [found] at related
  generalize selector.key? serial = before at related
  cases related with
  | some become => exact ⟨_, rfl, become⟩

theorem Becomes.forth (becomes : Becomes asked polled selector later) {serial : Nat} {key : Key}
    (found : selector.key? serial = some key) :
    ∃ after, later.key? serial = some after ∧
      Key.Becomes (asked serial) polled key after := by
  have related := becomes.keys serial
  rw [found] at related
  generalize later.key? serial = after at related
  cases related with
  | some become => exact ⟨_, rfl, become⟩

theorem Rekeyed.becomes (rekeyed : Rekeyed asked polled selector later) :
    Becomes asked polled selector later where
  issued := rekeyed.issued
  keys serial := by
    have related := rekeyed.keys serial
    generalize selector.key? serial = before at related ⊢
    generalize later.key? serial = after at related ⊢
    cases related with
    | none => exact .none
    | some retuned => exact .some retuned.toBecomes

theorem becomes_of_keys (issued : later.issued = selector.issued)
    (keys : later.keys = selector.keys) : Becomes asked polled selector later where
  issued := issued
  keys serial := by
    rw [key?, key?, keys]
    cases selector.keys.get? serial with
    | none => exact .none
    | some key => exact .some (.refl key)

theorem becomes_setKey {serial : Nat} {key changed : Key}
    (issued : later.issued = selector.issued)
    (keys : later.keys = selector.keys.insert serial changed)
    (found : selector.key? serial = some key)
    (become : Key.Becomes (asked serial) polled key changed) :
    Becomes asked polled selector later where
  issued := issued
  keys other := by
    rw [key?, key?, keys, Table.get?_insert]
    by_cases same : other = serial
    · subst same
      rw [if_pos rfl, ← key?, found]
      exact .some become
    · rw [if_neg same]
      cases selector.keys.get? other with
      | none => exact .none
      | some key => exact .some (.refl key)

theorem becomes_clearRegistry {phase : Phase} :
    Becomes asked polled selector { selector.clearRegistry with phase := phase } where
  issued := rfl
  keys serial := by
    have known : ({ selector.clearRegistry with phase := phase } : Selector).key? serial =
      selector.clearRegistry.key? serial := rfl
    rw [known, key?_clearRegistry]
    cases selector.key? serial with
    | none => split <;> exact .none
    | some key =>
        split
        · exact .some (.release key false)
        · exact .some (.refl key)

/-- No action makes a key count again, moves it to another descriptor, or lets it wait for
a connection that was not asked for; only a poll finds keys ready. -/
theorem Acts.becomes {action : Action} (kept : selector.Kept)
    (outcome : Acts answers selector action state later after) :
    Becomes action.Asks action.Polls selector later := by
  cases outcome with
  | opening outcome =>
      cases outcome <;> exact becomes_of_keys rfl rfl
  | change outcome => exact outcome.rekeyed.becomes
  | cancel outcome =>
      cases outcome with
      | stale gone => exact becomes_of_keys rfl rfl
      | deleted found => exact becomes_setKey rfl rfl found (.release _ false)
      | forgotten found => exact becomes_setKey rfl rfl found (.release _ false)
      | released found => exact becomes_setKey rfl rfl found (.release _ _)
  | attach serial attachment => exact (selector.rekeyed_attach serial attachment).becomes
  | poll outcome => exact (outcome.rekeyed kept).becomes
  | wakeup pending quietly => exact becomes_of_keys rfl rfl
  | close outcome => cases outcome <;> exact becomes_clearRegistry
  | finish outcome => cases outcome <;> exact becomes_clearRegistry

end Becoming

end SocketReactor.Selector
