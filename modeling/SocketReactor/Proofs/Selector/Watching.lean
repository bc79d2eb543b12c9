import SocketReactor.Proofs.Selector.Effects

/-!
# What a selector has its backend watch

On a kernel that refuses a change only for the descriptor's sake, the backend of
an open selector watches the pipe and exactly the descriptors of the keys that
count and are armed, each under the token and for the interest of its key.
`Selector.Watched` is that invariant; every action preserves it as long as no
two keys that count share an open descriptor.
-/

namespace SocketReactor

variable {kernel after : Kernel}

def watchFor (armed : Bool) (token : UInt64) (interest : OpSet) : Option (UInt64 × UInt32) :=
  if armed then some (token, (Directions.ofOps interest).events) else none

/-- The backend watches what it should after it has been told, and the key knows whether it
does.  Only a descriptor that is not open is refused. -/
theorem Key.Synced.settles {backend : Backend} {key synced : Key} {ops : OpSet}
    {reply : Except Errno Unit}
    (outcome : Key.Synced Kernel.Answers backend key ops kernel reply synced after)
    (holder_open : backend.poll ∈ kernel.opened)
    (watched : kernel.watch? backend.poll key.descriptor ≠ none ↔ key.armed = true) :
    after = kernel.setWatch backend.poll key.descriptor
        (watchFor synced.armed key.token ops) ∧
      (synced.armed = true ↔ ops ≠ .none ∧ key.descriptor ∈ kernel.opened) := by
  have absent : key.armed = false → kernel.watch? backend.poll key.descriptor = none := by
    intro unarmed
    by_contra found
    rw [watched.mp found] at unarmed
    cases unarmed
  cases outcome with
  | idle empty unarmed =>
      refine ⟨(Kernel.setWatch_eq_self ?_).symm, ?_⟩
      · rw [absent unarmed, unarmed]
        rfl
      · simp [unarmed, empty]
  | deleted empty armed answered =>
      refine ⟨Kernel.eq_setWatch_of_delete (watched.mpr armed) answered, ?_⟩
      simp [empty]
  | modified wanted armed answered =>
      have found := watched.mpr armed
      constructor
      · rw [armed]
        exact Kernel.eq_setWatch_of_modify found answered
      · exact iff_of_true armed ⟨wanted, (kernel.watch_mem _ _ found).2⟩
  | added wanted unarmed answered =>
      have changed : Kernel.change? _ _ _ = some _ := answered
      simp only [Kernel.change?] at changed
      split at changed
      · rename_i free
        exact ⟨(Option.some.inj changed).symm, iff_of_true rfl ⟨wanted, free.2.1⟩⟩
      · cases changed
  | refused wanted unarmed answered =>
      obtain ⟨refused, same⟩ := answered
      have closed : key.descriptor ∉ kernel.opened := by
        intro isOpen
        simp [Kernel.change?, holder_open, isOpen, absent unarmed] at refused
      refine ⟨same.trans (Kernel.setWatch_eq_self ?_).symm, ?_⟩
      · rw [absent unarmed, unarmed]
        rfl
      · simp [unarmed, closed]

/-- A key that is not armed and is refused tells the kernel nothing. -/
theorem Key.Synced.eq_of_refused {backend : Backend} {key synced : Key} {ops : OpSet}
    {errno : Errno}
    (outcome : Key.Synced Kernel.Answers backend key ops kernel (.error errno) synced after)
    (unarmed : key.armed = false) : after = kernel := by
  cases outcome with
  | deleted empty armed answered => cases unarmed.symm.trans armed
  | modified wanted armed answered => cases unarmed.symm.trans armed
  | refused wanted unarmed answered => exact answered.2

@[simp] theorem watchFor_eq_none_iff {armed : Bool} {token : UInt64} {interest : OpSet} :
    watchFor armed token interest = none ↔ armed = false := by
  cases armed <;> simp [watchFor]

def Key.bare (key : Key) : Key := { key with ready := .none, attachment := none }

namespace Selector

variable {selector later : Selector} {backend : Backend} {serial : Nat} {key : Key}

theorem backend_unique {other : Backend} (known : selector.phase = .opened other)
    (isOpen : selector.phase = .opened backend) : other = backend := by
  rw [known] at isOpen
  injection isOpen

/-- The backend of a selector watches what the selector's keys say. -/
structure Watched (selector : Selector) (backend : Backend) (kernel : Kernel) : Prop where
  pipe : kernel.watch? backend.poll backend.reader = some pipeWatch
  /-- A descriptor is watched for a key that counts just when the key is armed. -/
  own : ∀ serial key, selector.key? serial = some key → key.valid = true →
    kernel.watch? backend.poll key.descriptor = watchFor key.armed key.token key.interest
  /-- Nothing but the pipe is watched for anybody else. -/
  only : ∀ descriptor, kernel.watch? backend.poll descriptor ≠ none →
    descriptor ≠ backend.reader → ∃ serial key, selector.key? serial = some key ∧
      key.valid = true ∧ key.armed = true ∧ key.descriptor = descriptor
  armed : ∀ serial key, selector.key? serial = some key → key.valid = true →
    (key.armed = true ↔ key.interest ≠ .none ∧ key.descriptor ∈ kernel.opened)

/-- No two keys that count share an open descriptor, and none has the pipe. -/
structure Separate (selector : Selector) (backend : Backend) (kernel : Kernel) : Prop where
  apart : ∀ serial other key key', selector.key? serial = some key → key.valid = true →
    selector.key? other = some key' → key'.valid = true →
    key.descriptor = key'.descriptor → key.descriptor ∈ kernel.opened → serial = other
  pipe : ∀ serial key, selector.key? serial = some key → key.valid = true →
    key.descriptor ≠ backend.reader

def Uses (selector : Selector) (backend : Backend) (descriptor : Descriptor) : Prop :=
  descriptor = backend.poll ∨ descriptor = backend.reader ∨
    ∃ serial key, selector.key? serial = some key ∧ key.valid = true ∧
      key.descriptor = descriptor

/-- What is watched stays right as long as the descriptors in use are spared. -/
theorem Watched.spare (watched : selector.Watched backend kernel)
    (spares : Kernel.Spares (selector.Uses backend) kernel after) :
    selector.Watched backend after where
  pipe := by
    rcases spares.watch backend.poll (.inl rfl) backend.reader with same | ⟨unused, -⟩
    · exact same.trans watched.pipe
    · exact absurd (.inr (.inl rfl)) unused
  own := by
    intro serial key found valid
    have uses : selector.Uses backend key.descriptor :=
      .inr (.inr ⟨serial, key, found, valid, rfl⟩)
    rcases spares.watch backend.poll (.inl rfl) key.descriptor with same | ⟨unused, -⟩
    · exact same.trans (watched.own serial key found valid)
    · exact absurd uses unused
  only := by
    intro descriptor present apart
    rcases spares.watch backend.poll (.inl rfl) descriptor with same | ⟨-, lost⟩
    · exact watched.only descriptor (same ▸ present) apart
    · exact absurd lost present
  armed := by
    intro serial key found valid
    rw [spares.opened key.descriptor (.inr (.inr ⟨serial, key, found, valid, rfl⟩))]
    exact watched.armed serial key found valid

theorem Watched.holder_open (watched : selector.Watched backend kernel) :
    backend.poll ∈ kernel.opened :=
  (kernel.watch_mem backend.poll backend.reader (by simp [watched.pipe])).1

/-- No other key that counts has an open descriptor of a key that counts. -/
theorem Separate.alone (separate : selector.Separate backend kernel)
    (found : selector.key? serial = some key) (valid : key.valid = true) (other : Nat)
    (key' : Key) (apart : other ≠ serial) (found' : selector.key? other = some key')
    (valid' : key'.valid = true) (shared : key'.descriptor = key.descriptor) :
    key.descriptor ∉ kernel.opened := by
  intro isOpen
  have same := separate.apart serial other key key' found valid found' valid' shared.symm isOpen
  exact apart same.symm

/-- What is watched stays right when one key is put in its place and the backend is told. -/
theorem Watched.put (watched : selector.Watched backend kernel)
    (keys : ∀ other, later.key? other = if other = serial then some key else selector.key? other)
    (former : ∀ older, selector.key? serial = some older → older.descriptor = key.descriptor)
    (alone : ∀ other key', other ≠ serial → selector.key? other = some key' →
      key'.valid = true → key'.descriptor = key.descriptor → key.descriptor ∉ kernel.opened)
    (counts : key.armed = true → key.valid = true)
    (settled : key.valid = true →
      (key.armed = true ↔ key.interest ≠ .none ∧ key.descriptor ∈ kernel.opened))
    (piped : key.descriptor ≠ backend.reader) :
    later.Watched backend (kernel.setWatch backend.poll key.descriptor
      (watchFor key.armed key.token key.interest)) := by
  have told : (kernel.setWatch backend.poll key.descriptor
      (watchFor key.armed key.token key.interest)).watch? backend.poll key.descriptor =
        watchFor key.armed key.token key.interest := by
    refine Kernel.watch?_setWatch_self watched.holder_open ?_
    intro some_watch
    rw [Ne, watchFor_eq_none_iff, Bool.not_eq_false] at some_watch
    exact ((settled (counts some_watch)).mp some_watch).2
  have others : ∀ descriptor, descriptor ≠ key.descriptor →
      (kernel.setWatch backend.poll key.descriptor
        (watchFor key.armed key.token key.interest)).watch? backend.poll descriptor =
          kernel.watch? backend.poll descriptor :=
    fun descriptor apart => Kernel.watch?_setWatch_of_ne fun same => apart same.2
  constructor
  case pipe => exact (others backend.reader piped.symm).trans watched.pipe
  case own =>
    intro other key' found valid
    rw [keys] at found
    split at found
    · cases found
      exact told
    · rename_i apart
      have right := watched.own other key' found valid
      by_cases shared : key'.descriptor = key.descriptor
      · -- Two keys share only a descriptor that is not open, which nothing watches.
        have closed := alone other key' apart found valid shared
        rw [shared] at right ⊢
        rw [← right, (Kernel.watch?_eq_none_of_not_mem closed).2]
        refine (Kernel.watch?_eq_none_of_not_mem ?_).2
        exact closed
      · exact (others key'.descriptor shared).trans right
  case only =>
    intro descriptor present apart
    by_cases own : descriptor = key.descriptor
    · subst own
      rw [told, Ne, watchFor_eq_none_iff, Bool.not_eq_false] at present
      exact ⟨serial, key, (keys serial).trans (if_pos rfl), counts present, present, rfl⟩
    · rw [others descriptor own] at present
      obtain ⟨other, key', found, valid, armed, same⟩ := watched.only descriptor present apart
      refine ⟨other, key', (keys other).trans ((if_neg ?_).trans found), valid, armed, same⟩
      rintro rfl
      exact own (same.symm.trans (former key' found))
  case armed =>
    intro other key' found valid
    rw [keys] at found
    split at found
    · cases found
      exact settled valid
    · exact watched.armed other key' found valid

theorem Separate.rekey {asked : Nat → Prop} {polled : Prop}
    (separate : selector.Separate backend kernel) (rekeyed : Rekeyed asked polled selector later)
    (opened : after.opened = kernel.opened) : later.Separate backend after where
  apart := by
    intro serial other key key' found valid found' valid' same isOpen
    obtain ⟨before, present, retuned⟩ := rekeyed.back found
    obtain ⟨before', present', retuned'⟩ := rekeyed.back found'
    rw [retuned.descriptor, retuned'.descriptor] at same
    rw [retuned.descriptor, opened] at isOpen
    exact separate.apart serial other before before' present (retuned.counts ▸ valid) present'
      (retuned'.counts ▸ valid') same isOpen
  pipe := by
    intro serial key found valid
    obtain ⟨before, present, retuned⟩ := rekeyed.back found
    rw [retuned.descriptor]
    exact separate.pipe serial before present (retuned.counts ▸ valid)

/-- What is watched stays right when the backend is told the interest of a key. -/
theorem Watched.sync (watched : selector.Watched backend kernel)
    (separate : selector.Separate backend kernel) (found : selector.key? serial = some key)
    (valid : key.valid = true) {ops : OpSet} {reply : Except Errno Unit} {synced : Key}
    (outcome : Key.Synced Kernel.Answers backend { key with interest := ops } ops kernel reply
      synced after) : (selector.setKey serial synced).Watched backend after := by
  have right : kernel.watch? backend.poll key.descriptor ≠ none ↔ key.armed = true := by
    rw [watched.own serial key found valid, Ne, watchFor_eq_none_iff, Bool.not_eq_false]
  obtain ⟨told, settled⟩ := outcome.settles watched.holder_open right
  obtain ⟨same, -⟩ := outcome.eq_armed
  generalize synced.armed = armed at told settled same
  subst same
  rw [told]
  have alone := separate.alone found valid
  refine watched.put (key?_setKey selector serial · _) ?_ alone (fun _ => valid)
    (fun _ => settled) (separate.pipe serial key found valid)
  intro older present
  cases found.symm.trans present
  rfl

/-- What is watched stays right when a key is issued for a descriptor of its own. -/
theorem Watched.issue (watched : selector.Watched backend kernel)
    (fresh : selector.key? selector.issued = none) {token : UInt64} {descriptor : Descriptor}
    {validOps interest : OpSet} {attachment : Option String} {reply : Except Errno Unit}
    {synced : Key}
    (alone : ∀ other key, selector.key? other = some key → key.valid = true →
      key.descriptor = descriptor → descriptor ∉ kernel.opened)
    (piped : descriptor ≠ backend.reader)
    (outcome : Key.Synced Kernel.Answers backend
      (Key.new token descriptor validOps interest attachment) interest kernel reply synced after)
    (keys : ∀ other, later.key? other =
      if other = selector.issued then some synced else selector.key? other) :
    later.Watched backend after := by
  have unwatched : kernel.watch? backend.poll descriptor = none := by
    by_contra present
    obtain ⟨other, key, found, valid, -, same⟩ := watched.only descriptor present piped
    exact alone other key found valid same (kernel.watch_mem _ _ present).2
  have right : kernel.watch? backend.poll descriptor ≠ none ↔ false = true := by
    simp [unwatched]
  obtain ⟨told, settled⟩ := outcome.settles watched.holder_open right
  obtain ⟨same, -⟩ := outcome.eq_armed
  generalize synced.armed = armed at told settled same
  subst same
  rw [told]
  refine watched.put keys ?_ ?_ (fun _ => rfl) (fun _ => settled) piped
  · intro older present
    rw [fresh] at present
    cases present
  · intro other key apart found valid shared
    exact alone other key found valid shared

/-! ## Actions -/

/-- The keys of two selectors differ in readiness and attachments at most. -/
def Alike (selector later : Selector) : Prop :=
  ∀ serial, (later.key? serial).map Key.bare = (selector.key? serial).map Key.bare

theorem Alike.symm (alike : selector.Alike later) : later.Alike selector :=
  fun serial => (alike serial).symm

theorem Alike.trans {middle : Selector} (first : selector.Alike middle)
    (second : middle.Alike later) : selector.Alike later :=
  fun serial => (second serial).trans (first serial)

theorem Alike.back (alike : selector.Alike later) (found : later.key? serial = some key) :
    ∃ before, selector.key? serial = some before ∧ before.bare = key.bare := by
  have related := alike serial
  rw [found] at related
  exact Option.map_eq_some_iff.mp related.symm

theorem alike_of_keys (keys : later.keys = selector.keys) : selector.Alike later := by
  intro serial
  rw [key?, key?, keys]

theorem alike_attach (selector : Selector) (serial : Nat) (attachment : Option String) :
    selector.Alike (selector.attach serial attachment).2 := by
  intro other
  have updated : (selector.attach serial attachment).2.key? other =
      if other = serial then
        (selector.key? other).map fun key => { key with attachment := attachment }
      else selector.key? other :=
    Table.get?_modify selector.keys serial other _
  rw [updated]
  split
  · rw [Option.map_map]
    rfl
  · rfl

theorem alike_enterPoll (selector : Selector) : selector.Alike selector.enterPoll := by
  intro serial
  have entered : selector.enterPoll.key? serial = selector.forgetReady.key? serial := rfl
  rw [entered, key?_forgetReady]
  split
  · rw [Option.map_map]
    rfl
  · rfl

theorem Absorbed.Sound.alike {state : Absorbed} (sound : Absorbed.Sound selector state) :
    selector.Alike state.selector := by
  intro serial
  by_cases selected : serial ∈ state.selected
  · obtain ⟨token, key, ready, -, found, -, -, -, known⟩ := sound.picked serial selected
    rw [found, known]
    rfl
  · rw [sound.passed serial selected]

theorem Watched.alike (watched : selector.Watched backend kernel)
    (alike : selector.Alike later) : later.Watched backend kernel where
  pipe := watched.pipe
  own := by
    intro serial key found valid
    obtain ⟨before, present, same⟩ := alike.back found
    have valid' : before.valid = true := (congrArg Key.valid same).trans valid
    have right : kernel.watch? backend.poll before.bare.descriptor =
        watchFor before.bare.armed before.bare.token before.bare.interest :=
      watched.own serial before present valid'
    rw [same] at right
    exact right
  only := by
    intro descriptor present apart
    obtain ⟨serial, key, found, valid, armed, same⟩ := watched.only descriptor present apart
    obtain ⟨after, found', same'⟩ := alike.symm.back found
    exact ⟨serial, after, found', (congrArg Key.valid same').trans valid,
      (congrArg Key.armed same').trans armed, (congrArg Key.descriptor same').trans same⟩
  armed := by
    intro serial key found valid
    obtain ⟨before, present, same⟩ := alike.back found
    have valid' : before.valid = true := (congrArg Key.valid same).trans valid
    have right : before.bare.armed = true ↔
        before.bare.interest ≠ .none ∧ before.bare.descriptor ∈ kernel.opened :=
      watched.armed serial before present valid'
    rw [same] at right
    exact right

theorem Disarmed.watched (kept : selector.Kept) (separate : selector.Separate backend kernel)
    (watched : selector.Watched backend kernel)
    (outcome : Disarmed Kernel.Answers backend selector serial kernel later after) :
    later.Watched backend after ∧ after.opened = kernel.opened := by
  cases outcome with
  | kept silent => exact ⟨watched, rfl⟩
  | disarmed found reported sync =>
      rename_i key synced reply
      have valid : key.valid = true := by
        by_contra invalid
        rw [(kept.sane serial key found).rested (Bool.eq_false_iff.mpr invalid)] at reported
        cases reported
      refine ⟨watched.sync separate found valid sync, ?_⟩
      rcases sync.told with rfl | ⟨descriptor, watch, rfl⟩ <;> rfl

theorem DisarmedAll.watched {serials : List Nat} (kept : selector.Kept)
    (separate : selector.Separate backend kernel) (watched : selector.Watched backend kernel)
    (outcome : DisarmedAll Kernel.Answers backend serials selector kernel later after) :
    later.Watched backend after := by
  induction outcome with
  | nil => exact watched
  | cons first others ih =>
      have rekeyed : Rekeyed (fun _ => False) False _ _ := first.rekeyed kept
      obtain ⟨watched', opened⟩ := first.watched kept separate watched
      exact ih (kept.rekey rekeyed) (separate.rekey rekeyed opened) watched'

theorem Polled.watched {result : Except Fault (List Nat)} (kept : selector.Kept)
    (separate : selector.Separate backend kernel) (watched : selector.Watched backend kernel)
    (isOpen : selector.phase = .opened backend)
    (outcome : Polled Kernel.Answers selector kernel result later after) :
    later.Watched backend after := by
  cases outcome with
  | shut shut => exact watched
  | failed known waited =>
      rw [Kernel.eq_of_quiet_answers waited]
      exact watched.alike selector.alike_enterPoll
  | found known waited retired consumed =>
      rename_i between middle other events disarmed pending
      obtain rfl := backend_unique known isOpen
      obtain rfl := Kernel.eq_of_quiet_answers waited
      obtain rfl := Kernel.eq_of_quiet_answers consumed
      have sound := Absorbed.sound_absorb selector.ready_enterPoll events
      have entered : Rekeyed (fun _ => False) True _ _ := selector.rekeyed_enterPoll
      have rekeyed := entered.trans sound.rekeyed
      have alike := selector.alike_enterPoll.trans sound.alike
      have settled := retired.watched (kept.rekey rekeyed) (separate.rekey rekeyed rfl)
        (watched.alike alike)
      exact settled.alike (alike_of_keys rfl)

theorem Changed.watched {interest : OpSet} {result : Except Fault Unit}
    (separate : selector.Separate backend kernel) (watched : selector.Watched backend kernel)
    (isOpen : selector.phase = .opened backend)
    (outcome : Changed Kernel.Answers selector serial interest kernel result later after) :
    later.Watched backend after := by
  cases outcome with
  | unasked plain => exact watched
  | stored found within valid known present sync =>
      rename_i key synced other reply
      obtain rfl := backend_unique known isOpen
      exact watched.sync separate found valid sync

/-- Letting a key go that is no longer watched. -/
theorem Watched.release (watched : selector.Watched backend kernel)
    (separate : selector.Separate backend kernel) (found : selector.key? serial = some key)
    (valid : key.valid = true) (registry : Table UInt64 Nat) :
    (({ selector with registry := registry } : Selector).setKey serial
      { key.invalidate with armed := false }).Watched backend
        (kernel.setWatch backend.poll key.descriptor none) := by
  have keys : ∀ other, (({ selector with registry := registry } : Selector).setKey serial
      { key.invalidate with armed := false }).key? other =
        if other = serial then some { key.invalidate with armed := false }
        else selector.key? other :=
    fun other => Table.get?_insert selector.keys serial other _
  have alone := separate.alone found valid
  refine watched.put keys ?_ alone nofun nofun (separate.pipe serial key found valid)
  intro older present
  cases found.symm.trans present
  rfl

theorem Cancelled.watched (kept : selector.Kept) (bound : selector.issued ≤ 2 ^ 64)
    (separate : selector.Separate backend kernel) (watched : selector.Watched backend kernel)
    (isOpen : selector.phase = .opened backend)
    (outcome : Cancelled Kernel.Answers selector serial kernel later after) :
    later.Watched backend after := by
  cases outcome with
  | stale gone => exact watched
  | deleted found valid armed known present answered =>
      rename_i key other reply
      obtain rfl := backend_unique known isOpen
      have right := watched.own serial key found valid
      have some_watch : kernel.watch? other.poll key.descriptor ≠ none := by
        simp [right, armed]
      rw [Kernel.eq_setWatch_of_delete some_watch answered]
      exact watched.release separate found valid _
  | forgotten found valid armed shut present =>
      rw [Selector.isOpen, isOpen] at shut
      cases shut
  | released found valid unwatched =>
      rename_i key
      have unarmed : key.armed = false := by
        rcases unwatched with unarmed | absent
        · exact unarmed
        · rw [kept.registered bound serial key found valid] at absent
          cases absent
      have right := watched.own serial key found valid
      have settled := watched.release separate found valid (selector.registry.erase key.token)
      rw [Kernel.setWatch_eq_self (by simp [right, unarmed])] at settled
      rw [show key.invalidate = { key.invalidate with armed := false } by
        rw [← unarmed]; rfl]
      exact settled

/-- As long as no token has repeated, no key of a selector that is not open counts. -/
theorem Kept.invalid_of_shut (kept : selector.Kept) (bound : selector.issued ≤ 2 ^ 64)
    (shut : selector.isOpen = false) (found : selector.key? serial = some key) :
    key.valid = false := by
  by_contra valid
  have entry := kept.registered bound serial key found (Bool.not_eq_false _ ▸ valid)
  rw [kept.shut shut] at entry
  cases entry

/-- A new backend watches its pipe alone. -/
theorem watched_of_opens {middle : Kernel}
    (opens : kernel.Opens [backend.poll, backend.reader, backend.writer] middle)
    (invalid : ∀ serial key, selector.key? serial = some key → key.valid = false) :
    selector.Watched backend
      (middle.setWatch backend.poll backend.reader (some pipeWatch)) := by
  obtain ⟨fresh, fresh', fresh'', rfl⟩ := opens
  have reader_open : backend.reader ∈ (((kernel.openFile backend.poll).openFile
      backend.reader).openFile backend.writer).opened := by
    rw [fresh''.mem_openFile, fresh'.mem_openFile]
    exact .inr (.inl rfl)
  have poll_open : backend.poll ∈ (((kernel.openFile backend.poll).openFile
      backend.reader).openFile backend.writer).opened := by
    rw [fresh''.mem_openFile, fresh'.mem_openFile, fresh.mem_openFile]
    exact .inr (.inr (.inl rfl))
  constructor
  case pipe => exact Kernel.watch?_setWatch_self poll_open fun _ => reader_open
  case own =>
    intro serial key found valid
    cases (invalid serial key found).symm.trans valid
  case only =>
    intro descriptor present apart
    rw [Kernel.watch?_setWatch_of_ne fun same => apart same.2] at present
    exact absurd (Kernel.watch?_eq_none_of_not_mem fresh.1).1 present
  case armed =>
    intro serial key found valid
    cases (invalid serial key found).symm.trans valid

/-- What is watched for an open selector is right after every action, if it was before and
no token has repeated. -/
theorem Acts.watched {action : Action} (kept : selector.Kept) (bound : selector.issued ≤ 2 ^ 64)
    (before : ∀ backend, selector.phase = .opened backend →
      selector.Separate backend kernel ∧ selector.Watched backend kernel)
    (outcome : Acts Kernel.Answers selector action kernel later after)
    (isOpen : later.phase = .opened backend) : later.Watched backend after := by
  cases outcome with
  | opening outcome =>
      cases outcome with
      | unasked begun => exact (before backend isOpen).2
      | failed fresh run =>
          rw [fresh] at isOpen
          cases isOpen
      | opened fresh run =>
          cases isOpen
          -- A new backend watches its own pipe alone, and no key of the selector counts yet.
          obtain ⟨middle, opens, rfl⟩ := Backend.opens_of_runs run
          refine watched_of_opens opens ?_
          intro serial key found
          refine kept.invalid_of_shut bound ?_ found
          rw [Selector.isOpen, fresh]
  | change outcome =>
      have rekeyed : Rekeyed _ False selector later := outcome.rekeyed
      have known := rekeyed.phase.symm.trans isOpen
      exact outcome.watched (before backend known).1 (before backend known).2 known
  | cancel outcome =>
      have known : selector.phase = .opened backend := by
        cases outcome <;> exact isOpen
      exact outcome.watched kept bound (before backend known).1 (before backend known).2 known
  | attach serial attachment =>
      exact (before backend isOpen).2.alike (selector.alike_attach serial attachment)
  | poll outcome =>
      have rekeyed : Rekeyed (fun _ => False) True selector later := outcome.rekeyed kept
      have known := rekeyed.phase.symm.trans isOpen
      exact outcome.watched kept (before backend known).1 (before backend known).2 known
  | wakeup pending quietly =>
      rw [Kernel.eq_of_quiet_answers quietly]
      exact (before backend isOpen).2.alike (alike_of_keys rfl)
  | close outcome =>
      cases outcome with
      | released known unheld notified closed => cases isOpen
      | held known holding notified => cases isOpen
      | shut shut same =>
          obtain rfl | rfl := same
          · have known : selector.phase = .opened backend := isOpen
            rw [Selector.isOpen, known] at shut
            cases shut
          · cases isOpen
  | finish outcome => cases outcome <;> cases isOpen

/-- Registering neither opens nor closes a selector, and takes no token back. -/
theorem Registered.frame {σ : Type} {answers : Answering σ} {state settled : σ}
    {descriptor : Descriptor} {validOps interest : OpSet} {attachment : Option String}
    {result : Except Fault Nat}
    (outcome : Registered answers selector descriptor validOps interest attachment state
      result later settled) :
    later.phase = selector.phase ∧ selector.issued ≤ later.issued := by
  cases outcome with
  | unasked plain => exact ⟨rfl, Nat.le_refl _⟩
  | refused isOpen sync => exact ⟨rfl, Nat.le_succ _⟩
  | issued isOpen within sync => exact ⟨rfl, Nat.le_succ _⟩

/-- What is watched for a selector is right after it was asked to register a descriptor, which
no key that counts has if a key is issued for it. -/
theorem Registered.watched {descriptor : Descriptor} {validOps interest : OpSet}
    {attachment : Option String} {result : Except Fault Nat} (kept : selector.Kept)
    (watched : selector.Watched backend kernel) (isOpen : selector.phase = .opened backend)
    (free : ∀ issued, result = .ok issued → descriptor ≠ backend.reader ∧
      ∀ other key, selector.key? other = some key → key.valid = true →
        key.descriptor = descriptor → descriptor ∉ kernel.opened)
    (outcome : Registered Kernel.Answers selector descriptor validOps interest attachment kernel
      result later after) : later.Watched backend after := by
  cases outcome with
  | unasked plain => exact watched
  | refused known sync =>
      rw [sync.eq_of_refused rfl]
      exact watched.alike (alike_of_keys rfl)
  | issued known within sync =>
      rename_i other synced
      obtain rfl := backend_unique known isOpen
      have fresh : selector.key? selector.issued = none := by
        by_contra present
        obtain ⟨key, found⟩ := Option.ne_none_iff_exists'.mp present
        exact absurd (kept.counted _ key found) (Nat.lt_irrefl _)
      obtain ⟨piped, alone⟩ := free _ rfl
      exact watched.issue fresh alone piped sync
        fun serial => Table.get?_insert selector.keys selector.issued serial synced

end Selector

end SocketReactor
