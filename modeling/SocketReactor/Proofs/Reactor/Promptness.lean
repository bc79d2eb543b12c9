import SocketReactor.Proofs.Reactor.Balance
import SocketReactor.Proofs.Socket.Flags

/-!
# Channels that wait

A channel comes to be with the flag that keeps its calls from waiting.  No move of an operation
takes the flag away, but a channel gives its socket out, and the socket may be told that its calls
wait.  On a host that heeds the flags of open descriptors this is the only way to a channel that
waits, and it always leads there.
-/

namespace SocketReactor

variable {σ : Type} {base : Descriptor → Prop} {asks : KeyId → Prop} {polls : Nat → Prop}
  {commands : String → Command → Prop} {reactor after : Reactor} {scene later : Scene Log}
  {log : Log} {name : String} {descriptor : Descriptor}

namespace Owner

variable {owner : Owner}

def watched? (owner : Owner) : Option Descriptor :=
  owner.channel?.bind fun channel => channel.socket.owned?

theorem watched?_eq_some : owner.watched? = some descriptor ↔
    ∃ channel, owner = .watchable channel ∧ channel.socket.owned? = some descriptor := by
  cases owner <;> simp [watched?, channel?]

theorem owned_of_watched (watched : owner.watched? = some descriptor) :
    owner.socket.owned? = some descriptor := by
  obtain ⟨channel, rfl, owned⟩ := watched?_eq_some.mp watched
  exact owned

/-- A channel gets no new descriptor. -/
theorem old_of_watched {access : Access} {command : Command}
    (watched : owner.watched? = some descriptor)
    (granted : owner.grants access command = true) (protocol : Protocol) :
    command ≠ .create protocol := by
  obtain ⟨channel, rfl, -⟩ := watched?_eq_some.mp watched
  rintro rfl
  exact not_grants_create channel access protocol granted

theorem watched_of_performed {answers : Answering σ} {state last : σ} {access : Access}
    {command : Command} {outcome : Except Failure Reply} {moved : Socket} (owner : Owner)
    (granted : owner.grants access command = true)
    (ran : (owner.socket.perform command).Runs answers state (outcome, moved) last)
    (watched : (owner.withSocket moved).watched? = some descriptor) :
    owner.watched? = some descriptor := by
  cases owner with
  | handle | typed => cases watched
  | watchable channel =>
      obtain ⟨parts, rfl, rfl⟩ := Socket.eq_live_of_owned watched
      obtain ⟨hand, rest, turned⟩ := Socket.turned_of_runs ran
      obtain ⟨former, same, descriptor, -⟩ := turned.of_live fun protocol created => by
        rw [created] at granted
        exact not_grants_create channel access protocol granted
      rw [descriptor]
      exact congrArg Socket.owned? same

end Owner

def Reactor.watched? (reactor : Reactor) (name : String) : Option Descriptor :=
  (reactor.owner? name).bind Owner.watched?

def Reactor.Watches (reactor : Reactor) (descriptor : Descriptor) : Prop :=
  ∃ name, reactor.watched? name = some descriptor

theorem Reactor.watched?_of_owner? {owner : Owner} (named : reactor.owner? name = some owner) :
    reactor.watched? name = owner.watched? := by
  rw [watched?, named]
  rfl

/-! ## Where the descriptors of channels are from -/

namespace Scene

/-- How a channel has come to its descriptor by a move in which some holders act. -/
inductive Draws (answers : Answering σ) (commands : String → Command → Prop)
    (group : Holder → Prop) (scene later : Scene σ) (descriptor : Descriptor) : Prop where
  /-- It was a channel's before, which does not act. -/
  | kept {place : Option String} {owner : Owner} (had : scene.owner? place = some owner)
      (watched : owner.watched? = some descriptor) (without : ¬group (.owner place)) :
      Draws answers commands group scene later descriptor
  | prompted {socket : Socket} (owned : socket.owned? = some descriptor)
      (prompted : socket.Prompted answers later.host) :
      Draws answers commands group scene later descriptor
  /-- It was a channel's before, which carries a command out. -/
  | performed {name : String} {owner : Owner} {access : Access} {command : Command}
      {moved : Socket} {outcome : Except Failure Reply} (had : scene.owner? (some name) = some owner)
      (watched : owner.watched? = some descriptor) (granted : owner.grants access command = true)
      (commanded : commands name command)
      (ran : (owner.socket.perform command).Runs answers scene.host (outcome, moved) later.host) :
      Draws answers commands group scene later descriptor

/-- A move in which some holders act with what they have in hand. -/
structure Handled (base : Descriptor → Prop) (commands : String → Command → Prop)
    (group : Holder → Prop) (scene later : Scene Log) : Prop where
  tended : ∃ hand post, (∀ hold ∈ hand, hold ∈ scene.host.holds) ∧
    Log.Grouped scene.held? group hand ∧
    (Log.Answers base).Tended Call.Minds hand post scene.host later.host
  draws : ∀ place owner, later.owner? place = some owner → ∀ descriptor,
    owner.watched? = some descriptor →
      Draws (Log.Answers base) commands group scene later descriptor

namespace Handled

variable {group : Holder → Prop}

/-- Nobody acts. -/
theorem still (host : later.host = scene.host)
    (owners : ∀ place owner, later.owner? place = some owner →
      ∃ former before, scene.owner? former = some before ∧ before.watched? = owner.watched?) :
    Handled base commands (fun _ => False) scene later where
  tended := by
    rw [host]
    exact ⟨[], fun _ => True, List.forall_mem_nil _, Log.grouped_nil _, .refl trivial⟩
  draws place owner found descriptor watched := by
    obtain ⟨former, before, had, same⟩ := owners place owner found
    exact .kept had (same.trans watched) id

theorem heeds (handled : Handled base commands group scene later) (heeds : later.host.Heeds) :
    scene.host.Heeds := by
  obtain ⟨hand, post, -, -, tended⟩ := handled.tended
  exact heeds.of_tended tended

/-- Whoever does not act has the flag as it was. -/
theorem isPrompt {holder : Holder} (handled : Handled base commands group scene later)
    (balanced : scene.Balanced base) (has : scene.held? holder = some descriptor)
    (without : ¬group holder) :
    later.host.isPrompt descriptor = scene.host.isPrompt descriptor := by
  obtain ⟨hand, post, subset, grouped, tended⟩ := handled.tended
  exact Log.Balanced.isPrompt balanced subset grouped tended has without

end Handled

namespace Balanced

variable {loose : Option Owner} {after : Log} {lent : List Descriptor} {place : Option String}
  {hand : List Hold} {post : List Hold → Prop}

/-- A selector acts. -/
theorem handled_selector {id : Nat} {selector settled : Selector}
    (balanced : (⟨reactor, loose, log⟩ : Scene Log).Balanced base)
    (known : reactor.selector? id = some selector)
    (tended : ∀ hand, selector.Fits hand →
      (Log.Answers base).Tended Call.Minds hand settled.Fits log later.host)
    (owners : ∀ place owner, later.owner? place = some owner → ∃ before,
      (⟨reactor.setSelector id settled, loose, log⟩ : Scene Log).owner? place = some before ∧
        before.watched? = owner.watched?) :
    Handled base commands (PartOf id) ⟨reactor, loose, log⟩ later where
  tended := by
    obtain ⟨hand, fits, subset⟩ := balanced.fits_selector known
    exact ⟨hand, _, subset, grouped_parts (Scene.held?_backend loose log known) fits,
      tended hand fits⟩
  draws place owner found descriptor watched := by
    obtain ⟨before, had, same⟩ := owners place owner found
    have had' : (⟨reactor, loose, log⟩ : Scene Log).owner? place = some before := by
      cases place <;> exact had
    exact .kept had' (same.trans watched) nofun

/-- A channel that gets another key keeps its descriptor. -/
theorem watched_setOwner {given former owner : Owner} {host : Log}
    (named : reactor.owner? name = some former)
    (found : (⟨reactor.setOwner name given, loose, host⟩ : Scene Log).owner? place = some owner)
    (same : former.watched? = given.watched?) :
    ∃ before, (⟨reactor, loose, log⟩ : Scene Log).owner? place = some before ∧
      before.watched? = owner.watched? := by
  cases place with
  | none => exact ⟨owner, found, rfl⟩
  | some key =>
      have present := (reactor.owner?_setOwner name key given).symm.trans found
      split at present
      · rename_i here
        cases present
        exact ⟨former, here ▸ named, same⟩
      · exact ⟨owner, present, rfl⟩

/-- Owners that change places are those that there were. -/
theorem owner?_of_swap {host : Log} {owner : Owner}
    (found : (⟨reactor.assign name loose, reactor.owner? name, host⟩ : Scene Log).owner? place =
      some owner) :
    ∃ former, (⟨reactor, loose, host⟩ : Scene Log).owner? former = some owner := by
  cases place with
  | none => exact ⟨some name, found⟩
  | some key =>
      have present := (reactor.owner?_assign name key loose).symm.trans found
      split at present
      · exact ⟨none, present⟩
      · exact ⟨some key, present⟩

/-- Who is in one place acts, and the others stay where they are. -/
theorem handled_place (place : Option String) (subset : ∀ hold ∈ hand, hold ∈ scene.host.holds)
    (fits : hand.map Hold.descriptor = (scene.held? (.owner place)).toList)
    (tended : (Log.Answers base).Tended (Call.Carefully lent) hand post scene.host later.host)
    (here : ∀ owner, later.owner? place = some owner → ∀ descriptor,
      owner.watched? = some descriptor →
        Draws (Log.Answers base) commands (· = .owner place) scene later descriptor)
    (others : ∀ other, other ≠ place → later.owner? other = scene.owner? other) :
    Handled base commands (· = .owner place) scene later where
  tended := ⟨hand, post, subset, Log.grouped_single _ fits,
    tended.mono minds_of_carefully fun _ => id⟩
  draws other owner found descriptor watched := by
    by_cases same : other = place
    · exact here owner (same ▸ found) descriptor watched
    · exact .kept ((others other same).symm.trans found) watched fun equal =>
        same (Holder.owner.inj equal)

/-- The owner on its way acts. -/
theorem handled_loose {given : Option Owner}
    (subset : ∀ hold ∈ hand, hold ∈ log.holds)
    (fits : hand.map Hold.descriptor = (loose.bind fun owner => owner.socket.owned?).toList)
    (tended : (Log.Answers base).Tended (Call.Carefully lent) hand post log after)
    (prompted : ∀ channel, given = some (.watchable channel) →
      channel.socket.Prompted (Log.Answers base) after) :
    Handled base commands (· = .owner none) ⟨reactor, loose, log⟩ ⟨reactor, given, after⟩ := by
  refine handled_place none subset fits tended ?_ ?_
  · intro owner found descriptor watched
    obtain ⟨channel, rfl, owned⟩ := Owner.watched?_eq_some.mp watched
    exact .prompted owned (prompted channel found)
  · intro other apart
    cases other with
    | none => exact absurd rfl apart
    | some key => rfl

/-- Nobody with a descriptor acts. -/
theorem handled_nobody
    (tended : (Log.Answers base).Tended (Call.Carefully lent) [] post log after) :
    Handled base commands (fun _ => False) ⟨reactor, loose, log⟩ ⟨reactor, loose, after⟩ where
  tended := ⟨[], post, List.forall_mem_nil _, Log.grouped_nil _,
    tended.mono minds_of_carefully fun _ => id⟩
  draws place owner found descriptor watched := by
    have had : (⟨reactor, loose, log⟩ : Scene Log).owner? place = some owner := by
      cases place <;> exact found
    exact .kept had watched id

/-- Who acts in a move, and where the channels after it have their descriptors from. -/
theorem handled (balanced : scene.Balanced base)
    (step : Move (Log.Answers base) asks polls commands scene later) :
    ∃ group, Handled base commands group scene later := by
  cases step with
  | act known outcome asked polled tended =>
      exact ⟨_, balanced.handled_selector known tended fun place owner found =>
        ⟨owner, by cases place <;> exact found, rfl⟩⟩
  | refuse known outcome tended =>
      exact ⟨_, balanced.handled_selector known tended fun place owner found =>
        ⟨owner, by cases place <;> exact found, rfl⟩⟩
  | add selection =>
      exact ⟨_, .still rfl fun place owner found =>
        ⟨place, owner, by cases place <;> exact found, rfl⟩⟩
  | issue named lapsed known outcome tended =>
      exact ⟨_, balanced.handled_selector known tended fun place owner found =>
        watched_setOwner named found rfl⟩
  | forget named lapsed =>
      exact ⟨_, .still rfl fun place owner found => ⟨place, watched_setOwner named found rfl⟩⟩
  | gain tended prompted =>
      refine ⟨_, handled_loose (List.forall_mem_nil _) rfl tended ?_⟩
      rintro channel ⟨⟩
      exact prompted channel rfl
  | miss tended => exact ⟨_, handled_nobody tended⟩
  | @wrap reactor host after use socket quietly tended prompted =>
      have had : (⟨reactor, some (.typed use socket), host⟩ : Scene Log).owner? none = _ := rfl
      obtain ⟨hand, fits, subset⟩ := balanced.fits_owner had
      refine ⟨_, handled_loose subset fits (tended hand fits) ?_⟩
      rintro channel ⟨⟩
      exact prompted
  | swap name =>
      refine ⟨_, .still rfl fun place owner found => ?_⟩
      obtain ⟨former, had⟩ := owner?_of_swap found
      exact ⟨former, owner, had, rfl⟩
  | @discard reactor host between after owner lapsed quietly discarded tended =>
      have had : (⟨reactor, some owner, host⟩ : Scene Log).owner? none = _ := rfl
      obtain ⟨hand, fits, subset⟩ := balanced.fits_owner had
      refine ⟨_, handled_loose subset fits (tended hand fits) ?_⟩
      rintro channel ⟨⟩
  | @perform reactor loose host after name owner access command moved named granted commanded lapsed
      outcome tended ran =>
      have had : (⟨reactor, loose, host⟩ : Scene Log).owner? (some name) = some owner := named
      obtain ⟨hand, fits, subset⟩ := balanced.fits_owner had
      obtain ⟨reply, ran⟩ := ran
      refine ⟨_, handled_place (some name) subset ?_ (tended hand fits) ?_ ?_⟩
      · rw [held?_of_owner? had]
        exact fits
      · intro given found descriptor watched
        -- Only the socket under this name has changed, and it was carried out by its owner.
        have present := (reactor.owner?_setSocket name name moved).symm.trans found
        rw [if_pos rfl, named] at present
        cases present
        exact .performed had (owner.watched_of_performed granted ran watched) granted commanded ran
      · intro other apart
        cases other with
        | none => rfl
        | some key =>
            exact (reactor.owner?_setSocket name key moved).trans
              (if_neg fun same => apart (congrArg some same))

end Balanced

/-! ## Channels with their flag set -/

/-- The calls on every channel do not wait, some descriptors excused. -/
def Prompt (excused : Descriptor → Prop) (scene : Scene Log) : Prop :=
  ∀ place owner, scene.owner? place = some owner → ∀ descriptor,
    owner.watched? = some descriptor →
      scene.host.isPrompt descriptor = true ∨ excused descriptor

namespace Prompt

variable {excused : Descriptor → Prop}

theorem opened_of_watched {place : Option String} {owner : Owner} (balanced : scene.Balanced base)
    (had : scene.owner? place = some owner) (watched : owner.watched? = some descriptor) :
    descriptor ∈ scene.host.opened :=
  (balanced.held descriptor).mpr
    ⟨.owner place, (held?_of_owner? had).trans (Owner.owned_of_watched watched)⟩

/-- A move in which no socket is told takes no flag from a channel. -/
theorem move (linked : scene.Linked) (balanced : scene.Balanced base)
    (prompt : Prompt excused scene)
    (untold : ∀ name enabled, ¬commands name (.setNonblocking enabled))
    (heeds : later.host.Heeds)
    (step : Move (Log.Answers base) asks polls commands scene later) : Prompt excused later := by
  intro place owner found descriptor watched
  obtain ⟨group, handled⟩ := balanced.handled step
  cases handled.draws place owner found descriptor watched with
  | kept had watched' without =>
      rw [handled.isPrompt balanced
        ((held?_of_owner? had).trans (Owner.owned_of_watched watched')) without]
      exact prompt _ _ had _ watched'
  | prompted owned prompted =>
      have opened := opened_of_watched (balanced.move linked step).1 found watched
      exact .inl (prompted.isPrompt owned opened heeds)
  | performed had watched' granted commanded ran =>
      rw [Socket.isPrompt_of_perform (Owner.old_of_watched watched' granted)
        (fun enabled told => untold _ enabled (told ▸ commanded)) ran]
      exact prompt _ _ had _ watched'

theorem moves (linked : scene.Linked) (balanced : scene.Balanced base)
    (prompt : Prompt excused scene)
    (untold : ∀ name enabled, ¬commands name (.setNonblocking enabled))
    (heeds : later.host.Heeds)
    (steps : Moves (Log.Answers base) asks polls commands scene later) :
    Prompt excused later := by
  induction steps with
  | refl => exact prompt
  | tail before step ih =>
      have balanced' := balanced.moves linked before
      obtain ⟨group, handled⟩ := balanced'.handled step
      exact (ih (handled.heeds heeds)).move (linked.moves before) balanced' untold heeds step

end Prompt

end Scene

/-! ## What a run tells its channels -/

/-- What a channel with the descriptor gives out is told whether its calls wait.  The channel
itself cannot be told. -/
def Entry.Tells (entry : Entry) (descriptor : Descriptor) (enabled : Bool) : Prop :=
  ∃ name access, access ≠ .own ∧ entry.operation = .ask name access (.setNonblocking enabled) ∧
    entry.before.watched? name = some descriptor

/-- What a channel with the descriptor gives out has been told that its calls wait.  Since then it
has not been told anything else, and there has always been such a channel. -/
def Relaxed (trace : List Entry) (descriptor : Descriptor) : Prop :=
  EverSince (·.Tells descriptor false)
    (fun other => other.after.Watches descriptor ∧ ¬other.Tells descriptor true) trace

/-- What a channel gives out can be told whether its calls wait, and the channel cannot. -/
theorem Channel.grants_setNonblocking_iff (channel : Channel) (access : Access) (enabled : Bool) :
    (Owner.watchable channel).grants access (.setNonblocking enabled) = true ↔ access ≠ .own := by
  cases access with
  | own => exact ⟨nofun, fun lent => absurd rfl lent⟩
  | socket | handle => exact ⟨fun _ => nofun, fun _ => rfl⟩

section Telling

variable {access : Access} {enabled : Bool} {result : Except Refusal Reply} {later : Log}
  {owner : Owner}

/-- An owner that is told whether its calls wait stays what it is, and so do the others. -/
theorem Reactor.owner?_of_told
    (run : (reactor.ask name access (.setNonblocking enabled)).Runs (Log.Answers base) log
      (result, after) later) (other : String) : after.owner? other = reactor.owner? other := by
  cases Reactor.asked_of_runs run with
  | refused ungranted plain => rfl
  | @performed command owner outcome moved after named granted close performed =>
      rw [Socket.perform_eq] at performed
      obtain ⟨tried, ran, -⟩ := Socket.runs_replying.mp performed
      obtain ⟨-, rfl⟩ := Socket.runs_observe.mp ran
      rw [owner?_setSocket]
      split
      · rename_i here
        rw [here, named]
        cases owner <;> rfl
      · rfl

/-- What a channel gives out does as it is told. -/
theorem Reactor.isPrompt_of_told (balanced : (⟨after, none, later⟩ : Scene Log).Balanced base)
    (heeds : later.Heeds) (named : reactor.owner? name = some owner)
    (watched : owner.watched? = some descriptor) (lent : access ≠ .own)
    (run : (reactor.ask name access (.setNonblocking enabled)).Runs (Log.Answers base) log
      (result, after) later) :
    result = .ok .nothing ∧ later.isPrompt descriptor = enabled := by
  have found : (⟨after, none, later⟩ : Scene Log).owner? (some name) = some owner :=
    (Reactor.owner?_of_told run name).trans named
  have opened := Scene.Prompt.opened_of_watched balanced found watched
  cases Reactor.asked_of_runs run with
  | refused ungranted plain =>
      obtain ⟨channel, rfl, -⟩ := Owner.watched?_eq_some.mp watched
      have granted := (channel.grants_setNonblocking_iff access enabled).mpr lent
      cases granted.symm.trans (ungranted _ named)
  | performed named' granted close performed =>
      cases named.symm.trans named'
      rw [Socket.perform_eq] at performed
      obtain ⟨tried, ran, rfl⟩ := Socket.runs_replying.mp performed
      obtain ⟨attempted, -⟩ := Socket.runs_observe.mp ran
      obtain ⟨parts, same, rfl⟩ := Socket.eq_live_of_owned (Owner.owned_of_watched watched)
      rw [same] at attempted
      obtain ⟨rfl, flag⟩ := Socket.isPrompt_of_setNonblocking opened heeds attempted
      exact ⟨rfl, flag⟩

/-- A channel that gives out nothing that is told has its flag as it was. -/
theorem Scene.Balanced.isPrompt_of_untold {key : String}
    (balanced : (⟨reactor, none, log⟩ : Scene Log).Balanced base)
    (found : reactor.owner? key = some owner) (watched : owner.watched? = some descriptor)
    (untold : key = name → access = .own)
    (run : (reactor.ask name access (.setNonblocking enabled)).Runs (Log.Answers base) log
      (result, after) later) : later.isPrompt descriptor = log.isPrompt descriptor := by
  cases Reactor.asked_of_runs run with
  | refused ungranted plain => rfl
  | @performed command asked outcome moved after named granted close performed =>
      have had : (⟨reactor, none, log⟩ : Scene Log).owner? (some name) = some asked := named
      have found : (⟨reactor, none, log⟩ : Scene Log).owner? (some key) = some owner := found
      obtain ⟨hand, fits, subset⟩ := balanced.fits_owner had
      have tends : (asked.socket.perform (.setNonblocking enabled)).Tends (Call.Carefully []) _ _ :=
        Socket.tends_perform _ fits
      refine Log.Balanced.isPrompt balanced subset (Log.grouped_single (.owner (some name)) ?_)
        ((tends.tended performed).mono minds_of_carefully fun _ => id)
        ((held?_of_owner? found).trans (Owner.owned_of_watched watched)) ?_
      · rw [held?_of_owner? had]
        exact fits
      · intro same
        obtain rfl : key = name := Option.some.inj (Holder.owner.inj same)
        obtain ⟨channel, rfl, -⟩ := Owner.watched?_eq_some.mp watched
        cases found.symm.trans had
        exact (channel.grants_setNonblocking_iff access enabled).mp granted (untold rfl)

/-- What one channel gives out is told whether its calls wait.  This is recorded, and nothing else
changes. -/
theorem Scene.Prompt.told {trace : List Entry}
    (balanced : (⟨reactor, none, log⟩ : Scene Log).Balanced base)
    (balanced' : (⟨after, none, later⟩ : Scene Log).Balanced base) (heeds : later.Heeds)
    (prompt : (⟨reactor, none, log⟩ : Scene Log).Prompt (Relaxed trace))
    (run : (reactor.ask name access (.setNonblocking enabled)).Runs (Log.Answers base) log
      (result, after) later) :
    (⟨after, none, later⟩ : Scene Log).Prompt (Relaxed
      (trace ++ [⟨reactor, .ask name access (.setNonblocking enabled), result, after⟩])) := by
  intro place owner found descriptor watched
  cases place with
  | none => cases found
  | some key =>
      have named : reactor.owner? key = some owner :=
        (Reactor.owner?_of_told run key).symm.trans found
      have watching : after.watched? key = some descriptor :=
        (Reactor.watched?_of_owner? found).trans watched
      by_cases here : key = name ∧ access ≠ .own
      · obtain ⟨rfl, lent⟩ := here
        have watches := (Reactor.watched?_of_owner? named).trans watched
        obtain ⟨-, flag⟩ := Reactor.isPrompt_of_told balanced' heeds named watched lent run
        cases enabled with
        | true => exact .inl flag
        | false =>
            refine .inr (everSince_of_last ⟨key, access, lent, rfl, watches⟩ ⟨⟨key, watching⟩, ?_⟩
              trace)
            rintro ⟨other, way, -, impossible, -⟩
            cases impossible
      · have untold : key = name → access = .own := fun same =>
          by_contra fun lent => here ⟨same, lent⟩
        rw [balanced.isPrompt_of_untold named watched untold run]
        refine (prompt (some key) owner named descriptor watched).imp_right fun relaxed =>
          relaxed.snoc ⟨⟨key, watching⟩, ?_⟩
        rintro ⟨target, way, lent, same, told⟩
        cases same
        obtain ⟨other, named', watched'⟩ := Option.bind_eq_some_iff.mp told
        have had : (⟨reactor, none, log⟩ : Scene Log).owner? (some key) = some owner := named
        have had' : (⟨reactor, none, log⟩ : Scene Log).owner? (some name) = some other := named'
        have one : Holder.owner (some key) = .owner (some name) :=
          balanced.apart _ _ descriptor
            ((held?_of_owner? had).trans (Owner.owned_of_watched watched))
            ((held?_of_owner? had').trans (Owner.owned_of_watched watched'))
        exact lent (untold (Option.some.inj (Holder.owner.inj one)))

end Telling

/-- After every run on a host that heeds flags, the calls on every channel do not wait, unless the
channel has been told so. -/
theorem History.prompt {trace : List Entry}
    (history : History (Log.Heeding base) ∅ [] trace reactor log) :
    log.Heeds ∧ (⟨reactor, none, log⟩ : Scene Log).Prompt (Relaxed trace) := by
  induction history with
  | nil =>
      refine ⟨Log.heeds_nil, fun place owner found => ?_⟩
      cases place <;> cases found
  | @snoc trace before after state later operation result past run ih =>
      obtain ⟨heeds, prompt⟩ := ih
      have heeds' := Log.heeds_of_runs heeds run
      have answered : History (Log.Answers base) ∅ [] trace before state :=
        past.mono fun _ _ _ _ => And.left
      have ran : (operation.perform before).Runs (Log.Answers base) state (result, after) later :=
        run.mono id fun _ _ _ _ => And.left
      have balanced := answered.balanced (.empty []) (.empty base)
      refine ⟨heeds', ?_⟩
      by_cases telling : ∃ name access enabled,
          operation = .ask name access (.setNonblocking enabled)
      · obtain ⟨name, access, enabled, rfl⟩ := telling
        exact prompt.told balanced ((answered.snoc ran).balanced (.empty []) (.empty base)) heeds' ran
      · have untold : ∀ name enabled, ¬operation.Commands name (.setNonblocking enabled) := by
          intro name enabled commanded
          cases operation with
          | ask target access command =>
              obtain ⟨rfl, rfl⟩ := commanded
              exact telling ⟨_, _, _, rfl⟩
          | _ => exact commanded
        have kept := prompt.moves (answered.linked (.empty [])) balanced untold heeds'
          (moves_of_runs ran)
        intro place owner found descriptor watched
        cases place with
        | none => cases found
        | some name =>
            have named : after.owner? name = some owner := found
            refine (kept _ _ found _ watched).imp_right fun relaxed => relaxed.snoc
              ⟨⟨name, (Reactor.watched?_of_owner? named).trans watched⟩, ?_⟩
            rintro ⟨target, access, -, same, -⟩
            exact telling ⟨target, access, true, same⟩

/-- On a host on which the flags of open descriptors can be read and written, the calls on a live
channel do not wait, whatever has been done with channels, sockets and selectors, unless the
socket or the handle that the channel gives out has been told that they do.  That is always
possible: whatever these are told of a live channel, they do. -/
theorem channels_wait_only_if_told {trace : List Entry}
    (history : History (Log.Heeding base) ∅ [] trace reactor log) {channel : Channel}
    (named : reactor.owner? name = some (.watchable channel))
    (live : channel.socket.state ≠ .closed) :
    ∃ descriptor, channel.socket.owned? = some descriptor ∧ descriptor ∈ log.opened ∧
      (log.isPrompt descriptor = true ∨ Relaxed trace descriptor) ∧
      ∀ access enabled result after later, access ≠ .own →
        ((Operation.ask name access (.setNonblocking enabled)).perform reactor).Runs
          (Log.Heeding base) log (result, after) later →
        result = .ok .nothing ∧ after.owner? name = some (.watchable channel) ∧
          later.isPrompt descriptor = enabled := by
  obtain ⟨heeds, prompt⟩ := history.prompt
  have answered : History (Log.Answers base) ∅ [] trace reactor log :=
    history.mono fun _ _ _ _ => And.left
  have balanced := answered.balanced (.empty []) (.empty base)
  have found : (⟨reactor, none, log⟩ : Scene Log).owner? (some name) = some (.watchable channel) :=
    named
  obtain ⟨descriptor, owned⟩ := Socket.exists_owned live
  refine ⟨descriptor, owned, Scene.Prompt.opened_of_watched balanced found owned,
    prompt _ _ found _ owned, ?_⟩
  intro access enabled result after later lent run
  have heeds' := Log.heeds_of_runs heeds run
  have ran := run.mono id fun _ _ _ _ => And.left
  have balanced' := (answered.snoc ran).balanced (.empty []) (.empty base)
  obtain ⟨same, flag⟩ := Reactor.isPrompt_of_told balanced' heeds' named owned lent ran
  exact ⟨same, (Reactor.owner?_of_told ran name).trans named, flag⟩

/-- A channel is opened, and its socket is told to wait. -/
def relaxedRun : List Operation :=
  [.make "only" (.channel .stream .tcp4), .ask "only" .socket (.setNonblocking false)]

/-- The calls on a live channel wait. -/
theorem channel_waits_when_told :
    ∃ trace reactor log channel descriptor,
      replay heedfulHost ∅ [] relaxedRun = some (trace, reactor, log) ∧
      reactor.owner? "only" = some (.watchable channel) ∧ channel.socket.state = .created ∧
      channel.socket.owned? = some descriptor ∧ descriptor ∈ log.opened ∧
      log.isPrompt descriptor = false ∧ Relaxed trace descriptor := by
  have plays : ((replay heedfulHost ∅ [] relaxedRun).bind fun played =>
      (played.2.1.owner? "only").bind fun owner => owner.channel?.bind fun channel =>
        channel.socket.owned?.map fun descriptor =>
          (channel.socket.state, played.2.2.isPrompt descriptor)) = some (.created, false) := by
    decide +kernel
  obtain ⟨⟨trace, reactor, log⟩, played, rest⟩ := Option.bind_eq_some_iff.mp plays
  obtain ⟨owner, named, rest⟩ := Option.bind_eq_some_iff.mp rest
  obtain ⟨channel, watched, rest⟩ := Option.bind_eq_some_iff.mp rest
  obtain ⟨descriptor, owned, same⟩ := Option.map_eq_some_iff.mp rest
  obtain ⟨created, waits⟩ := Prod.mk.inj same
  obtain rfl : owner = .watchable channel := by
    cases owner <;> cases watched
    rfl
  obtain ⟨descriptor', owned', opened, told, -⟩ := channels_wait_only_if_told
    (history_of_replay heeding_heedfulHost played) named (created.trans_ne (by decide))
  cases owned.symm.trans owned'
  exact ⟨trace, reactor, log, channel, descriptor, played, named, created, owned, opened, waits,
    told.resolve_left (Bool.eq_false_iff.mp waits)⟩

end SocketReactor
