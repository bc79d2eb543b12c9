import SocketReactor.Proofs.Host.Balance
import SocketReactor.Proofs.Reactor.Accounts

/-!
# Balance of the descriptors of a reactor

On a host that keeps a log, the descriptors that have been obtained and not been closed
since are those that somebody in the reactor holds, and each has one holder.  Every move keeps
the balance and accounts for the socket of every owner.
-/

namespace SocketReactor

/-! ## Backends -/

namespace Selector

variable {selector : Selector} {hand : List Hold}

theorem mem_parts {descriptor : Descriptor} :
    descriptor ∈ selector.parts ↔
      ∃ part : Part, selector.held?.map (·.part part) = some descriptor := by
  rw [parts]
  cases selector.held? with
  | none => simp
  | some backend =>
      constructor
      · intro mem
        simp only [Backend.parts, List.mem_cons, List.not_mem_nil, or_false] at mem
        rcases mem with rfl | rfl | rfl
        · exact ⟨.poll, rfl⟩
        · exact ⟨.reader, rfl⟩
        · exact ⟨.writer, rfl⟩
      · rintro ⟨part, same⟩
        cases part <;> cases same <;> simp [Backend.parts, Backend.part]

/-- The descriptors of a backend are distinct if no two parts have the same one. -/
theorem nodup_parts_iff :
    selector.parts.Nodup ↔ ∀ (one other : Part) (descriptor : Descriptor),
      selector.held?.map (·.part one) = some descriptor →
        selector.held?.map (·.part other) = some descriptor → one = other := by
  rw [parts]
  cases selector.held? with
  | none => exact ⟨fun _ _ _ _ impossible => (by cases impossible), fun _ => List.nodup_nil⟩
  | some backend =>
      constructor
      · intro distinct one other descriptor has has'
        have same : backend.part one = backend.part other :=
          (Option.some.inj has).trans (Option.some.inj has').symm
        cases one <;> cases other <;> simp_all [Backend.parts, Backend.part]
      · intro inj
        have apart : ∀ one other : Part, one ≠ other → backend.part one ≠ backend.part other :=
          fun one other different same =>
            different (inj one other _ rfl (congrArg some same.symm))
        have first : backend.poll ≠ backend.reader := apart .poll .reader (by decide)
        have second : backend.poll ≠ backend.writer := apart .poll .writer (by decide)
        have third : backend.reader ≠ backend.writer := apart .reader .writer (by decide)
        simp [Backend.parts, first, second, third]

end Selector

/-! ## Scenes -/

abbrev Scene.Balanced (base : Descriptor → Prop) (scene : Scene Log) : Prop :=
  scene.host.Balanced base scene.held?

namespace Scene.Balanced

variable {base : Descriptor → Prop} {reactor : Reactor} {loose : Option Owner} {log after : Log}
  {id : Nat} {selector later : Selector}

def PartOf (id : Nat) (holder : Holder) : Prop := ∃ part, holder = .backend id part

theorem grouped_parts {hand : List Hold} {scene : Scene Log}
    (parts : ∀ part, scene.held? (.backend id part) = selector.held?.map (·.part part))
    (fits : selector.Fits hand) : Log.Grouped scene.held? (PartOf id) hand where
  mem := by
    intro descriptor
    rw [fits.1, Selector.mem_parts]
    constructor
    · rintro ⟨part, has⟩
      exact ⟨_, ⟨part, rfl⟩, (parts part).trans has⟩
    · rintro ⟨_, ⟨part, rfl⟩, has⟩
      exact ⟨part, (parts part).symm.trans has⟩
  apart := by
    rintro _ _ descriptor ⟨one, rfl⟩ ⟨other, rfl⟩ has has'
    rw [parts] at has has'
    rw [Selector.nodup_parts_iff.mp fits.2 one other descriptor has has']

/-- The parts of a selector's backend can be taken in hand. -/
theorem fits_selector (balanced : (⟨reactor, loose, log⟩ : Scene Log).Balanced base)
    (known : reactor.selector? id = some selector) :
    ∃ hand, selector.Fits hand ∧ ∀ hold ∈ hand, hold ∈ log.holds := by
  have parts := Scene.held?_backend loose log known
  have held : ∀ descriptor ∈ selector.parts, ∃ holder,
      (⟨reactor, loose, log⟩ : Scene Log).held? holder = some descriptor := by
    intro descriptor mem
    obtain ⟨part, has⟩ := Selector.mem_parts.mp mem
    exact ⟨.backend id part, (parts part).trans has⟩
  obtain ⟨hand, same, subset⟩ := Log.Balanced.exists_hand balanced held
  refine ⟨hand, ⟨same, Selector.nodup_parts_iff.mpr ?_⟩, subset⟩
  intro one other descriptor has has'
  have equal := balanced.apart _ _ descriptor ((parts one).trans has) ((parts other).trans has')
  exact (Holder.backend.inj equal).2

/-- A selector acts. -/
theorem react (balanced : (⟨reactor, loose, log⟩ : Scene Log).Balanced base)
    (known : reactor.selector? id = some selector)
    (tended : ∀ hand, selector.Fits hand →
      (Log.Answers base).Tended Call.Minds hand later.Fits log after) :
    (⟨reactor.setSelector id later, loose, after⟩ : Scene Log).Balanced base ∧
      ∃ last, Log.Handed (⟨reactor, loose, log⟩ : Scene Log).held? (PartOf id) last log after := by
  obtain ⟨hand, fits, subset⟩ := balanced.fits_selector known
  have parts := Scene.held?_backend loose log known
  have settled : (⟨reactor.setSelector id later, loose, after⟩ : Scene Log).held? =
      equip (⟨reactor, loose, log⟩ : Scene Log).held? id later.held? :=
    Scene.held?_setSelector log after id later
  have others : ∀ holder, ¬PartOf id holder →
      (⟨reactor.setSelector id later, loose, after⟩ : Scene Log).held? holder =
        (⟨reactor, loose, log⟩ : Scene Log).held? holder := by
    intro holder without
    rw [settled]
    cases holder with
    | owner place => rfl
    | backend other part =>
        refine if_neg ?_
        rintro rfl
        exact without ⟨part, rfl⟩
  have ends : ∀ last, later.Fits last →
      Log.Grouped (⟨reactor.setSelector id later, loose, after⟩ : Scene Log).held? (PartOf id)
        last := by
    intro last fits'
    refine grouped_parts (fun part => ?_) fits'
    rw [settled]
    exact if_pos rfl
  obtain ⟨last, -, balanced', handed⟩ := Log.Balanced.regroup balanced subset
    (grouped_parts parts fits) (tended hand fits) others ends
  exact ⟨balanced', last, handed⟩

end Scene.Balanced

/-! ## Moves -/

namespace Scene

variable {base : Descriptor → Prop} {commands : String → Command → Prop} {scene later : Scene Log}
  {place : Option String} {owner : Owner}

/-- How the socket of an owner after a move has come to be, and what has become of its
descriptor. -/
inductive Carries (commands : String → Command → Prop) (scene later : Scene Log)
    (place : Option String) (owner : Owner) : Prop where
  | kept {former : Option String} {before : Owner} (had : scene.owner? former = some before)
      (same : owner.socket = before.socket)
      (kept : ∀ hold ∈ scene.host.holds, before.socket.owned? = some hold.descriptor →
        hold ∈ later.host.holds) : Carries commands scene later place owner
  | born {hand : List Hold} (born : owner.socket.Born hand)
      (subset : ∀ hold ∈ hand, hold ∈ later.host.holds) : Carries commands scene later place owner
  | turned {name : String} {before : Owner} {command : Command} (here : place = some name)
      (had : scene.owner? place = some before) (commanded : commands name command)
      (turns : ∀ hand : List Hold, before.socket.Fits hand →
        (∀ hold ∈ hand, hold ∈ scene.host.holds) →
        ∃ last, before.socket.Turned hand command owner.socket last ∧
          ∀ hold ∈ last, hold ∈ later.host.holds) : Carries commands scene later place owner

theorem held?_of_owner? {σ : Type} {scene : Scene σ} (had : scene.owner? place = some owner) :
    scene.held? (.owner place) = owner.socket.owned? := by
  rw [held?, had]
  rfl

/-- An owner that does not act keeps its descriptor as it is. -/
theorem carries_of_handed {group : Holder → Prop} {last : List Hold} {before : Owner}
    (handed : Log.Handed scene.held? group last scene.host later.host)
    (without : ¬group (.owner place)) (had : scene.owner? place = some before)
    (same : owner.socket = before.socket) : Carries commands scene later place owner :=
  .kept had same fun hold mem owned =>
    handed.kept (.owner place) without hold mem ((held?_of_owner? had).trans owned)

/-- Nothing happens to any descriptor. -/
theorem carries_of_host {former : Option String} {before : Owner}
    (had : scene.owner? former = some before) (same : owner.socket = before.socket)
    (host : later.host = scene.host) : Carries commands scene later place owner :=
  .kept had same fun _ mem _ => host ▸ mem

theorem Carries.congr {other : Scene Log} {given : Owner}
    (carries : Carries commands scene later place owner) (same : given.socket = owner.socket)
    (host : other.host = later.host) : Carries commands scene other place given := by
  cases carries with
  | kept had same' kept =>
      exact .kept had (same.trans same') fun hold mem owned => host ▸ kept hold mem owned
  | born born subset => exact .born (same ▸ born) fun hold mem => host ▸ subset hold mem
  | turned here had commanded turns =>
      refine .turned here had commanded ?_
      rw [same, host]
      exact turns

/-- The balance is kept, and every owner's socket is accounted for. -/
def Proceeds (base : Descriptor → Prop) (commands : String → Command → Prop)
    (scene later : Scene Log) : Prop :=
  later.Balanced base ∧ ∀ place owner, later.owner? place = some owner →
    Carries commands scene later place owner

/-- An owner is given another one with the same socket in its place. -/
theorem Proceeds.reown {reactor : Reactor} {loose : Option Owner} {after : Log} {name : String}
    {given former : Owner}
    (proceeds : Proceeds base commands scene ⟨reactor, loose, after⟩)
    (named : reactor.owner? name = some former) (same : given.socket = former.socket) :
    Proceeds base commands scene ⟨reactor.setOwner name given, loose, after⟩ := by
  obtain ⟨balanced, carries⟩ := proceeds
  refine ⟨?_, fun place owner found => ?_⟩
  · have held : (⟨reactor.setOwner name given, loose, after⟩ : Scene Log).held? = _ :=
      held?_setOwner_of_socket named same
    rw [Balanced, held]
    exact balanced
  · cases place with
    | none => exact (carries none owner found).congr rfl rfl
    | some key =>
        have present := (reactor.owner?_setOwner name key given).symm.trans found
        split at present
        · rename_i here
          cases present
          exact (carries (some key) former (here ▸ named)).congr same rfl
        · exact (carries (some key) owner present).congr rfl rfl

namespace Balanced

variable {reactor : Reactor} {loose : Option Owner} {log after : Log} {name : String}
  {lent : List Descriptor}

theorem minds_of_carefully (hand : List Hold) (call : Call) (carefully : call.Carefully lent hand) :
    call.Minds hand := carefully.minds

/-- What the owner in a place owns can be taken in hand. -/
theorem fits_owner (balanced : scene.Balanced base) (had : scene.owner? place = some owner) :
    ∃ hand, owner.socket.Fits hand ∧ ∀ hold ∈ hand, hold ∈ scene.host.holds := by
  have held : ∀ descriptor ∈ owner.socket.owned?.toList, ∃ holder,
      scene.held? holder = some descriptor := by
    intro descriptor mem
    exact ⟨.owner place, (held?_of_owner? had).trans (Option.mem_toList.mp mem)⟩
  exact Log.Balanced.exists_hand balanced held

theorem act {id : Nat} {selector settled : Selector}
    (balanced : (⟨reactor, loose, log⟩ : Scene Log).Balanced base)
    (known : reactor.selector? id = some selector)
    (tended : ∀ hand, selector.Fits hand →
      (Log.Answers base).Tended Call.Minds hand settled.Fits log after) :
    Proceeds base commands ⟨reactor, loose, log⟩
      ⟨reactor.setSelector id settled, loose, after⟩ := by
  obtain ⟨balanced', last, handed⟩ := balanced.react known tended
  refine ⟨balanced', fun place owner found => ?_⟩
  have had : (⟨reactor, loose, log⟩ : Scene Log).owner? place = some owner := by
    cases place <;> exact found
  exact carries_of_handed handed (by rintro ⟨part, ⟨⟩⟩) had rfl

/-- Nothing happens to the sockets and their descriptors. -/
theorem still (balanced : scene.Balanced base) (host : later.host = scene.host)
    (held : later.held? = scene.held?)
    (owners : ∀ place, later.owner? place = scene.owner? place) :
    Proceeds base commands scene later := by
  refine ⟨?_, fun place owner found => ?_⟩
  · rw [Balanced, host, held]
    exact balanced
  · exact carries_of_host ((owners place).symm.trans found) rfl host

/-- The owner on its way acts. -/
theorem relay {given : Option Owner} {hand : List Hold} {post : List Hold → Prop}
    (balanced : (⟨reactor, loose, log⟩ : Scene Log).Balanced base)
    (subset : ∀ hold ∈ hand, hold ∈ log.holds)
    (fits : hand.map Hold.descriptor = (loose.bind fun owner => owner.socket.owned?).toList)
    (tended : (Log.Answers base).Tended (Call.Carefully lent) hand post log after)
    (ends : ∀ last, post last →
      last.map Hold.descriptor = (given.bind fun owner => owner.socket.owned?).toList) :
    (⟨reactor, given, after⟩ : Scene Log).Balanced base ∧ ∃ last, post last ∧
      Log.Handed (⟨reactor, loose, log⟩ : Scene Log).held? (· = .owner none) last log after := by
  have held : (⟨reactor, given, after⟩ : Scene Log).held? = _ :=
    held?_loose loose given log after
  have fits' : hand.map Hold.descriptor =
      ((⟨reactor, loose, log⟩ : Scene Log).held? (.owner none)).toList := fits
  obtain ⟨last, right, balanced', handed⟩ := Log.Balanced.update (.owner none) _ balanced subset
    fits' (tended.mono minds_of_carefully fun _ => id) ends
  rw [← held] at balanced'
  exact ⟨balanced', last, right, handed⟩

theorem carries_named {last : List Hold} {given : Option Owner} {key : String}
    (handed : Log.Handed (⟨reactor, loose, log⟩ : Scene Log).held? (· = .owner none) last log after)
    (found : reactor.owner? key = some owner) :
    Carries commands ⟨reactor, loose, log⟩ ⟨reactor, given, after⟩ (some key) owner := by
  have had : (⟨reactor, loose, log⟩ : Scene Log).owner? (some key) = some owner := found
  have handed' : Log.Handed (⟨reactor, loose, log⟩ : Scene Log).held? (· = .owner none) last
    (⟨reactor, loose, log⟩ : Scene Log).host (⟨reactor, given, after⟩ : Scene Log).host := handed
  exact carries_of_handed handed' (by simp) had rfl

theorem gain {given : Owner} (balanced : (⟨reactor, none, log⟩ : Scene Log).Balanced base)
    (tended : (Log.Answers base).Tended (Call.Carefully lent) [] given.Born log after) :
    Proceeds base commands ⟨reactor, none, log⟩ ⟨reactor, some given, after⟩ := by
  have fits : ([] : List Hold).map Hold.descriptor =
      ((none : Option Owner).bind fun owner => owner.socket.owned?).toList := rfl
  have ends : ∀ last, given.Born last → last.map Hold.descriptor =
      ((some given).bind fun owner => owner.socket.owned?).toList :=
    fun last born => born.1.fits
  obtain ⟨balanced', last, born, handed⟩ :=
    balanced.relay (List.forall_mem_nil _) fits tended ends
  refine ⟨balanced', fun place owner found => ?_⟩
  cases place with
  | none =>
      cases found
      exact .born born.1 handed.subset
  | some key => exact carries_named handed found

theorem miss (balanced : (⟨reactor, loose, log⟩ : Scene Log).Balanced base)
    (tended : (Log.Answers base).Tended (Call.Carefully lent) [] (· = []) log after) :
    Proceeds base commands ⟨reactor, loose, log⟩ ⟨reactor, loose, after⟩ := by
  have nobody := Log.grouped_nil (⟨reactor, loose, log⟩ : Scene Log).held?
  have held : (⟨reactor, loose, after⟩ : Scene Log).held? =
      (⟨reactor, loose, log⟩ : Scene Log).held? := by
    funext holder
    rcases holder with (place | place) | ⟨id, part⟩ <;> rfl
  obtain ⟨last, -, balanced', handed⟩ :=
    Log.Balanced.regroup balanced (List.forall_mem_nil _) nobody
    (tended.mono minds_of_carefully fun _ => id) (fun _ _ => rfl) fun last gone => gone ▸ nobody
  refine ⟨?_, fun place owner found => ?_⟩
  · rw [Balanced, held]
    exact balanced'
  · have had : (⟨reactor, loose, log⟩ : Scene Log).owner? place = some owner := by
      cases place <;> exact found
    exact carries_of_handed handed id had rfl

theorem discard {former : Owner}
    (balanced : (⟨reactor, some former, log⟩ : Scene Log).Balanced base)
    (tended : ∀ hand, former.socket.Fits hand →
      (Log.Answers base).Tended (Call.Carefully lent) hand (· = []) log after) :
    Proceeds base commands ⟨reactor, some former, log⟩ ⟨reactor, none, after⟩ := by
  have had : (⟨reactor, some former, log⟩ : Scene Log).owner? none = some former := rfl
  obtain ⟨hand, fits, subset⟩ := balanced.fits_owner had
  have ends : ∀ last : List Hold, last = [] → last.map Hold.descriptor =
      ((none : Option Owner).bind fun owner => owner.socket.owned?).toList := by
    rintro last rfl
    rfl
  obtain ⟨balanced', last, -, handed⟩ := balanced.relay subset fits (tended hand fits) ends
  refine ⟨balanced', fun place owner found => ?_⟩
  cases place with
  | none => cases found
  | some key => exact carries_named handed found

/-- The owner on its way keeps what it has in hand. -/
theorem wrap {former given : Owner}
    (balanced : (⟨reactor, some former, log⟩ : Scene Log).Balanced base)
    (same : given.socket = former.socket)
    (tended : ∀ hand, former.socket.Fits hand →
      (Log.Answers base).Tended (Call.Carefully lent) hand (· = hand) log after) :
    Proceeds base commands ⟨reactor, some former, log⟩ ⟨reactor, some given, after⟩ := by
  have had : (⟨reactor, some former, log⟩ : Scene Log).owner? none = some former := rfl
  have kept : ∀ hand : List Hold, former.socket.Fits hand →
      ∀ last, last = hand → last.map Hold.descriptor =
        ((some given).bind fun owner => owner.socket.owned?).toList := by
    rintro hand fits last rfl
    rw [Option.bind_some, same]
    exact fits
  obtain ⟨hand, fits, subset⟩ := balanced.fits_owner had
  obtain ⟨balanced', last, -, handed⟩ :=
    balanced.relay subset fits (tended hand fits) (kept hand fits)
  refine ⟨balanced', fun place owner found => ?_⟩
  cases place with
  | some key => exact carries_named handed found
  | none =>
      cases found
      refine .kept had same fun hold mem owned => ?_
      have alone : former.socket.Fits [hold] := by
        rw [Socket.Fits, owned]
        rfl
      have inside : ∀ other ∈ [hold], other ∈ log.holds := by
        intro other held
        exact List.mem_singleton.mp held ▸ mem
      obtain ⟨-, last, rfl, handed'⟩ :=
        balanced.relay inside alone (tended _ alone) (kept _ alone)
      exact handed'.subset hold List.mem_cons_self

/-- The owner under a name acts. -/
theorem perform {former : Owner} {command : Command} {moved : Socket}
    (balanced : (⟨reactor, loose, log⟩ : Scene Log).Balanced base)
    (named : reactor.owner? name = some former) (commanded : commands name command)
    (tended : ∀ hand, former.socket.Fits hand →
      (Log.Answers base).Tended (Call.Carefully lent) hand
        (former.socket.Turned hand command moved) log after) :
    Proceeds base commands ⟨reactor, loose, log⟩ ⟨reactor.setSocket name moved, loose, after⟩ := by
  have had : (⟨reactor, loose, log⟩ : Scene Log).owner? (some name) = some former := named
  have held : (⟨reactor.setSocket name moved, loose, after⟩ : Scene Log).held? = _ :=
    held?_setSocket log after named
  have acts : ∀ hand, former.socket.Fits hand → (∀ hold ∈ hand, hold ∈ log.holds) →
      ∃ last, former.socket.Turned hand command moved last ∧
        (⟨reactor.setSocket name moved, loose, after⟩ : Scene Log).Balanced base ∧
        Log.Handed (⟨reactor, loose, log⟩ : Scene Log).held? (· = .owner (some name)) last log
          after := by
    intro hand fits subset
    have fits' : hand.map Hold.descriptor =
        ((⟨reactor, loose, log⟩ : Scene Log).held? (.owner (some name))).toList := by
      rw [held?_of_owner? had]
      exact fits
    rw [Balanced, held]
    exact Log.Balanced.update _ _ balanced subset fits'
      ((tended hand fits).mono minds_of_carefully fun _ => id) fun last turned => turned.fits fits
  obtain ⟨hand, fits, subset⟩ := balanced.fits_owner had
  obtain ⟨last, -, balanced', handed⟩ := acts hand fits subset
  refine ⟨balanced', fun place owner found => ?_⟩
  have others : ∀ {before : Owner}, place ≠ some name →
      (⟨reactor, loose, log⟩ : Scene Log).owner? place = some before →
      owner.socket = before.socket →
      Carries commands ⟨reactor, loose, log⟩ ⟨reactor.setSocket name moved, loose, after⟩ place
        owner := by
    intro before apart had' same
    have handed' : Log.Handed (⟨reactor, loose, log⟩ : Scene Log).held? (· = .owner (some name))
      last (⟨reactor, loose, log⟩ : Scene Log).host
      (⟨reactor.setSocket name moved, loose, after⟩ : Scene Log).host := handed
    exact carries_of_handed handed' (fun equal => apart (Holder.owner.inj equal)) had' same
  cases place with
  | none => exact others nofun found rfl
  | some key =>
      have present := (reactor.owner?_setSocket name key moved).symm.trans found
      split at present
      · rename_i here
        subst here
        obtain ⟨-, -, rfl⟩ := Option.map_eq_some_iff.mp present
        refine .turned rfl had commanded fun hand fits subset => ?_
        obtain ⟨last, turned, -, handed'⟩ := acts hand fits subset
        rw [Owner.socket_withSocket]
        exact ⟨last, turned, handed'.subset⟩
      · rename_i apart
        exact others (fun equal => apart (Option.some.inj equal)) present rfl

/-- An owner and the one before it change places. -/
theorem swap (balanced : (⟨reactor, loose, log⟩ : Scene Log).Balanced base) (name : String) :
    Proceeds base commands ⟨reactor, loose, log⟩
      ⟨reactor.assign name loose, reactor.owner? name, log⟩ := by
  have held : (⟨reactor.assign name loose, reactor.owner? name, log⟩ : Scene Log).held? = _ :=
    held?_swap log log
  refine ⟨?_, fun place owner found => ?_⟩
  · rw [Balanced, held]
    exact Log.Balanced.rename balanced _
  · cases place with
    | none =>
        have had : (⟨reactor, loose, log⟩ : Scene Log).owner? (some name) = some owner := found
        exact carries_of_host had rfl rfl
    | some key =>
        have present := (reactor.owner?_assign name key loose).symm.trans found
        split at present
        · have had : (⟨reactor, loose, log⟩ : Scene Log).owner? none = some owner := present
          exact carries_of_host had rfl rfl
        · have had : (⟨reactor, loose, log⟩ : Scene Log).owner? (some key) = some owner := present
          exact carries_of_host had rfl rfl

/-- A new selector has nothing. -/
theorem add (balanced : (⟨reactor, loose, log⟩ : Scene Log).Balanced base)
    (unmade : reactor.selector? reactor.made = none) (selection : Setup.Selection) :
    Proceeds base commands ⟨reactor, loose, log⟩
      ⟨(reactor.addSelector selection).2, loose, log⟩ := by
  refine balanced.still rfl ?_ fun place => by cases place <;> rfl
  funext holder
  cases holder with
  | owner place => cases place <;> rfl
  | backend id part =>
      have grown : (reactor.addSelector selection).2.selector? id =
          if id = reactor.made then some (.new selection) else reactor.selector? id :=
        reactor.selector?_setSelector reactor.made id (.new selection)
      rw [held?, held?, grown]
      split
      · rename_i here
        rw [here, unmade]
        rfl
      · rfl

variable {asks : KeyId → Prop} {polls : Nat → Prop}

/-- Every move keeps the balance. -/
theorem move (linked : scene.Linked) (balanced : scene.Balanced base)
    (step : Move (Log.Answers base) asks polls commands scene later) :
    Proceeds base commands scene later := by
  cases step with
  | act known outcome asked polled tended => exact balanced.act known tended
  | refuse known outcome tended => exact balanced.act known tended
  | add selection => exact balanced.add (linked.numbered _ (Nat.le_refl _)) selection
  | issue named lapsed known outcome tended => exact (balanced.act known tended).reown named rfl
  | forget named lapsed =>
      have same : Proceeds base commands _ _ := balanced.still rfl rfl fun _ => rfl
      exact same.reown named rfl
  | gain tended prompted => exact balanced.gain tended
  | miss tended => exact balanced.miss tended
  | wrap quietly tended prompted => exact balanced.wrap rfl tended
  | swap name => exact balanced.swap name
  | discard lapsed quietly discarded tended => exact balanced.discard tended
  | perform named granted commanded lapsed outcome tended ran =>
      exact balanced.perform named commanded tended

theorem moves (linked : scene.Linked) (balanced : scene.Balanced base)
    (steps : Moves (Log.Answers base) asks polls commands scene later) : later.Balanced base := by
  induction steps with
  | refl => exact balanced
  | tail before step ih => exact (ih.move (linked.moves before) step).1

/-- A reactor without owners and selectors holds nothing, and nothing is open in an empty log. -/
theorem empty (base : Descriptor → Prop) : (⟨∅, none, []⟩ : Scene Log).Balanced base := by
  have bare : ∀ holder, (⟨∅, none, []⟩ : Scene Log).held? holder = none := by
    rintro ((place | place) | ⟨id, part⟩) <;> rfl
  refine ⟨⟨List.nodup_nil, List.forall_mem_nil _, ?_⟩, fun descriptor => ?_, ?_⟩
  · intro before descriptor reply rest split
    cases List.nil_eq_append_iff.mp split |>.2
  · simp [bare, Log.opened, Log.holds]
  · intro holder other descriptor has
    rw [bare] at has
    cases has

end Balanced

end Scene

/-- On a host that keeps a log every run keeps the balance. -/
theorem History.balanced {base : Descriptor → Prop} {start reactor : Reactor} {origin log : Log}
    {trace : List Entry} (linked : (⟨start, none, origin⟩ : Scene Log).Linked)
    (balanced : (⟨start, none, origin⟩ : Scene Log).Balanced base)
    (history : History (Log.Answers base) start origin trace reactor log) :
    (⟨reactor, none, log⟩ : Scene Log).Balanced base := by
  induction history with
  | nil => exact balanced
  | snoc past run ih => exact ih.moves (past.linked linked) (moves_of_runs run)

end SocketReactor
