import Mathlib.Logic.Equiv.Basic
import SocketReactor.Proofs.Reactor.Links
import SocketReactor.Proofs.Selector.Effects

/-!
# Who holds which descriptor

Every descriptor that a reactor holds is open and has one holder: an owner in
some place, or a part of the backend of one selector.  This is what keeps two
channels, or a channel and a pipe, from meeting in one watched set when the
kernel gives out a number again.
-/

namespace SocketReactor

variable {kernel after : Kernel}

inductive Holder where
  /-- The owner in a place. -/
  | owner (place : Option String)
  /-- A part of a selector's backend. -/
  | backend (selector : Nat) (part : Part)
  deriving DecidableEq

/-- Every descriptor that is held is open and has one holder. -/
structure Accounted {ι : Type} (held? : ι → Option Descriptor) (kernel : Kernel) : Prop where
  opened : ∀ holder descriptor, held? holder = some descriptor → descriptor ∈ kernel.opened
  apart : ∀ holder other descriptor, held? holder = some descriptor →
    held? other = some descriptor → holder = other

namespace Accounted

variable {ι : Type} {held? other? : ι → Option Descriptor} {holder : ι}
  {descriptor : Descriptor}

/-- Nobody has to hold what was held. -/
theorem mono (accounted : Accounted held? kernel)
    (fewer : ∀ one given, other? one = some given → held? one = some given)
    (same : after.opened = kernel.opened) : Accounted other? after where
  opened := by
    intro one given held
    rw [same]
    exact accounted.opened one given (fewer one given held)
  apart := by
    intro one another given held held'
    exact accounted.apart one another given (fewer _ _ held) (fewer _ _ held')

/-- Holders may be renamed. -/
theorem rename {κ : Type} (accounted : Accounted held? kernel) {change : κ → ι}
    (injective : Function.Injective change) : Accounted (held? ∘ change) kernel where
  opened _ descriptor held := accounted.opened _ descriptor held
  apart _ _ descriptor held held' := injective (accounted.apart _ _ descriptor held held')

variable [DecidableEq ι]

/-- Somebody is given a descriptor that has been opened. -/
theorem gain (accounted : Accounted held? kernel) (fresh : kernel.Fresh descriptor) :
    Accounted (Function.update held? holder (some descriptor))
      (kernel.openFile descriptor) := by
  have former : ∀ other given, other ≠ holder →
      Function.update held? holder (some descriptor) other = some given →
        held? other = some given ∧ given ≠ descriptor := by
    intro other given apart held
    rw [Function.update_of_ne apart] at held
    refine ⟨held, ?_⟩
    rintro rfl
    exact fresh.1 (accounted.opened other given held)
  constructor
  case opened =>
    intro other given held
    rw [fresh.mem_openFile]
    by_cases same : other = holder
    · subst same
      rw [Function.update_self] at held
      exact .inl (Option.some.inj held).symm
    · exact .inr (accounted.opened other given (former other given same held).1)
  case apart =>
    intro first second given held held'
    by_cases one : first = holder <;> by_cases two : second = holder
    · exact one.trans two.symm
    · rw [one, Function.update_self] at held
      exact absurd (Option.some.inj held).symm (former second given two held').2
    · rw [two, Function.update_self] at held'
      exact absurd (Option.some.inj held').symm (former first given one held).2
    · exact accounted.apart first second given (former first given one held).1
        (former second given two held').1

/-- Somebody closes the descriptor that is held. -/
theorem lose (accounted : Accounted held? kernel) (held : held? holder = some descriptor) :
    Accounted (Function.update held? holder none) (kernel.closeFile descriptor) := by
  have former : ∀ other given, Function.update held? holder none other = some given →
      other ≠ holder ∧ held? other = some given := by
    intro other given present
    by_cases same : other = holder
    · rw [same, Function.update_self] at present
      cases present
    · rw [Function.update_of_ne same] at present
      exact ⟨same, present⟩
  constructor
  case opened =>
    intro other given present
    obtain ⟨different, held'⟩ := former other given present
    rw [Kernel.mem_closeFile]
    refine ⟨?_, accounted.opened other given held'⟩
    rintro rfl
    exact different (accounted.apart other holder given held' held)
  case apart =>
    intro first second given present present'
    exact accounted.apart first second given (former first given present).2
      (former second given present').2

end Accounted

/-! ## What owners do to a kernel -/

namespace Kernel

def Adds (kernel : Kernel) : Option Descriptor → Kernel → Prop
  | none, after => after = kernel
  | some descriptor, after => kernel.Fresh descriptor ∧ after = kernel.openFile descriptor

def without (kernel : Kernel) : Option Descriptor → Kernel
  | none => kernel
  | some descriptor => kernel.closeFile descriptor

theorem Spares.adds {used : Descriptor → Prop} {given : Option Descriptor}
    (known : kernel.Knows used) (added : kernel.Adds given after) :
    Spares used kernel after := by
  cases given with
  | none =>
      obtain rfl : after = kernel := added
      exact refl _
  | some descriptor =>
      obtain ⟨fresh, rfl⟩ := added
      exact openFile known fresh

theorem Spares.without {used : Descriptor → Prop} {given : Option Descriptor}
    (unused : ∀ descriptor, given = some descriptor → ¬used descriptor) :
    Spares used kernel (kernel.without given) := by
  cases given with
  | none => exact refl _
  | some descriptor => exact closeFile (unused descriptor rfl)

end Kernel

/-- What was gained has just been opened, and otherwise the kernel is as it was. -/
theorem Gained.adds {held : Option Descriptor} (gained : Gained Kernel.Answers kernel held after) :
    kernel.Adds held after := by
  induction gained with
  | refl => rfl
  | quiet gained quietly ih => exact Kernel.eq_of_quiet_answers quietly ▸ ih
  | gain gained gives answered ih =>
      obtain rfl : _ = kernel := ih
      cases gives with
      | socket family kind number outcome => cases outcome <;> exact answered
      | accept listener outcome =>
          match outcome with
          | .error errno => exact answered
          | .ok (descriptor, peer) => exact answered
  | lose gained answered ih =>
      obtain ⟨fresh, rfl⟩ := ih
      obtain rfl := (answered : _ = Kernel.closeFile _ _)
      exact fresh.closeFile_openFile

/-- Letting a socket go closes what it owns. -/
theorem Socket.eq_of_runs_discard {socket : Socket}
    (run : socket.discard.Runs Kernel.Answers kernel () after) :
    after = kernel.without socket.owned? := by
  cases socket with
  | closed last => exact run.2
  | live parts =>
      obtain ⟨closed, between, made, -, rfl⟩ := Program.runs_bind.mp run
      rw [close_eq] at made
      obtain ⟨reply, middle, answered, rest⟩ := Program.runs_bind.mp made
      have gone : middle = kernel.closeFile parts.descriptor := Program.runs_request.mp answered
      cases reply <;>
      · obtain ⟨-, rfl⟩ := rest
        exact gone

namespace Accounted

variable {ι : Type} [DecidableEq ι] {held? : ι → Option Descriptor} {holder : ι}

theorem adds {given : Option Descriptor} (accounted : Accounted held? kernel)
    (added : kernel.Adds given after) : Accounted (Function.update held? holder given) after := by
  cases given with
  | none =>
      obtain rfl : after = kernel := added
      refine accounted.mono ?_ rfl
      intro other given held
      rw [Function.update_apply] at held
      split at held
      · cases held
      · exact held
  | some descriptor =>
      obtain ⟨fresh, rfl⟩ := added
      exact accounted.gain fresh

theorem releases (accounted : Accounted held? kernel) :
    Accounted (Function.update held? holder none) (kernel.without (held? holder)) := by
  cases held : held? holder with
  | none => exact accounted.adds rfl
  | some descriptor => exact accounted.lose held

end Accounted

/-! ## Scenes -/

def equip (held? : Holder → Option Descriptor) (id : Nat) (backend : Option Backend) :
    Holder → Option Descriptor
  | .owner place => held? (.owner place)
  | .backend other part =>
      if other = id then backend.map (·.part part) else held? (.backend other part)

theorem equip_eq_update (held? : Holder → Option Descriptor) (id : Nat) (backend : Option Backend) :
    equip held? id backend = Function.update (Function.update (Function.update held?
      (.backend id .poll) (backend.map Backend.poll))
      (.backend id .reader) (backend.map Backend.reader))
      (.backend id .writer) (backend.map Backend.writer) := by
  funext holder
  cases holder with
  | owner place => simp [equip]
  | backend other part =>
      by_cases same : other = id
      · cases part <;> simp [equip, same, Backend.part]
      · simp [equip, same]

namespace Scene

variable {σ : Type} {scene later : Scene σ} {reactor : Reactor} {loose : Option Owner}

def held? (scene : Scene σ) : Holder → Option Descriptor
  | .owner place => (scene.owner? place).bind fun owner => owner.socket.owned?
  | .backend id part => ((scene.reactor.selector? id).bind Selector.held?).map (·.part part)

/-- A change of the owner in one place changes what is held there. -/
theorem held?_eq_update {place : Option String}
    (selectors : later.reactor.selectors = scene.reactor.selectors)
    (owners : ∀ other, other ≠ place → later.owner? other = scene.owner? other) :
    later.held? = Function.update scene.held? (.owner place) (later.held? (.owner place)) := by
  funext holder
  cases holder with
  | owner other =>
      by_cases same : other = place
      · rw [same, Function.update_self]
      · rw [Function.update_of_ne fun equal => same (Holder.owner.inj equal), held?, held?,
          owners other same]
  | backend id part =>
      have apart : Holder.backend id part ≠ .owner place := by simp
      rw [Function.update_of_ne apart, held?, held?, Reactor.selector?_of_selectors selectors]

theorem held?_setSelector (host after : σ) (id : Nat) (selector : Selector) :
    (⟨reactor.setSelector id selector, loose, after⟩ : Scene σ).held? =
      equip (⟨reactor, loose, host⟩ : Scene σ).held? id selector.held? := by
  funext holder
  cases holder with
  | owner place => cases place <;> rfl
  | backend other part =>
      rw [held?, Reactor.selector?_setSelector, equip]
      split
      · rfl
      · rfl

end Scene

section Acting

variable {reactor : Reactor} {loose : Option Owner} {id : Nat} {selector later : Selector}

theorem Scene.held?_backend {σ : Type} (loose : Option Owner) (host : σ)
    (known : reactor.selector? id = some selector) (part : Part) :
    (⟨reactor, loose, host⟩ : Scene σ).held? (.backend id part) =
      selector.held?.map (·.part part) := by
  rw [held?, known]
  rfl

/-- What a selector does to the kernel is accounted for. -/
theorem Accounted.act
    (accounted : Accounted (⟨reactor, loose, kernel⟩ : Scene Kernel).held? kernel)
    (known : reactor.selector? id = some selector)
    (effect : selector.Effect later kernel after) :
    Accounted (⟨reactor.setSelector id later, loose, after⟩ : Scene Kernel).held? after := by
  have parts := Scene.held?_backend loose kernel known
  have changed : (⟨reactor.setSelector id later, loose, after⟩ : Scene Kernel).held? =
      equip (⟨reactor, loose, kernel⟩ : Scene Kernel).held? id later.held? :=
    Scene.held?_setSelector kernel after id later
  have unchanged : later.held? = selector.held? →
      equip (⟨reactor, loose, kernel⟩ : Scene Kernel).held? id later.held? =
        (⟨reactor, loose, kernel⟩ : Scene Kernel).held? := by
    intro same
    funext holder
    cases holder with
    | owner place => rfl
    | backend other part =>
        rw [equip, same]
        split
        · rename_i here
          rw [here, parts]
        · rfl
  rw [changed]
  cases effect with
  | silent same =>
      rw [unchanged same]
      exact accounted
  | told held still tells =>
      rw [unchanged (still.trans held.symm)]
      exact accounted.mono (fun _ _ same => same) tells.opened_eq
  | gained bare held opens =>
      obtain ⟨fresh, fresh', fresh'', rfl⟩ := opens
      rw [equip_eq_update, held]
      exact (((accounted.gain fresh).gain fresh').gain fresh'').mono (fun _ _ same => same) rfl
  | lost held bare =>
      rename_i backend
      rw [equip_eq_update, bare]
      rw [held] at parts
      have first := accounted.lose (parts .poll)
      have second := first.lose ((Function.update_of_ne (by simp) _ _).trans (parts .reader))
      refine second.lose ((Function.update_of_ne (by simp) _ _).trans ?_)
      exact (Function.update_of_ne (by simp) _ _).trans (parts .writer)

end Acting

/-! ## Moves -/

namespace Scene

variable {σ : Type} {reactor : Reactor} {loose : Option Owner} {name : String}

/-- Under a name is held what its new owner has. -/
theorem held?_setOwner (host after : σ) (owner : Owner) :
    (⟨reactor.setOwner name owner, loose, after⟩ : Scene σ).held? =
      Function.update (⟨reactor, loose, host⟩ : Scene σ).held? (.owner (some name))
        owner.socket.owned? := by
  have given : (⟨reactor.setOwner name owner, loose, after⟩ : Scene σ).held?
      (.owner (some name)) = owner.socket.owned? := by
    have present : (reactor.setOwner name owner).owner? name = some owner := by
      rw [Reactor.owner?_setOwner, if_pos rfl]
    exact congrArg (Option.bind · fun owner => owner.socket.owned?) present
  rw [← given]
  refine held?_eq_update rfl ?_
  intro other apart
  cases other with
  | none => rfl
  | some other =>
      refine (Reactor.owner?_setOwner _ _ _ _).trans (if_neg ?_)
      rintro rfl
      exact apart rfl

theorem held?_of_named (host : σ) {owner : Owner} (named : reactor.owner? name = some owner) :
    (⟨reactor, loose, host⟩ : Scene σ).held? (.owner (some name)) = owner.socket.owned? := by
  rw [held?, owner?, named]
  rfl

/-- An owner with the same socket holds the same. -/
theorem held?_setOwner_of_socket {host : σ} {owner other : Owner}
    (named : reactor.owner? name = some owner) (same : other.socket = owner.socket) :
    (⟨reactor.setOwner name other, loose, host⟩ : Scene σ).held? =
      (⟨reactor, loose, host⟩ : Scene σ).held? := by
  have held : (⟨reactor, loose, host⟩ : Scene σ).held? _ = _ := held?_of_named host named
  rw [held?_setOwner host host, same, ← held, Function.update_eq_self]

/-- Under a name is held what its owner's new socket owns. -/
theorem held?_setSocket (host after : σ) {owner : Owner} {socket : Socket}
    (named : reactor.owner? name = some owner) :
    (⟨reactor.setSocket name socket, loose, after⟩ : Scene σ).held? =
      Function.update (⟨reactor, loose, host⟩ : Scene σ).held? (.owner (some name))
        socket.owned? := by
  have given : (⟨reactor.setSocket name socket, loose, after⟩ : Scene σ).held?
      (.owner (some name)) = socket.owned? := by
    have present : (reactor.setSocket name socket).owner? name =
        some (owner.withSocket socket) := by
      rw [Reactor.owner?_setSocket, if_pos rfl, named]
      rfl
    have held := congrArg (Option.bind · fun owner => owner.socket.owned?) present
    exact held.trans (congrArg Socket.owned? (owner.socket_withSocket socket))
  rw [← given]
  refine held?_eq_update rfl ?_
  intro other apart
  cases other with
  | none => rfl
  | some other =>
      refine (Reactor.owner?_setSocket _ _ _ _).trans (if_neg ?_)
      rintro rfl
      exact apart rfl

/-- What is on its way is held by the owner on its way. -/
theorem held?_loose (loose given : Option Owner) (host after : σ) :
    (⟨reactor, given, after⟩ : Scene σ).held? =
      Function.update (⟨reactor, loose, host⟩ : Scene σ).held? (.owner none)
        (given.bind fun owner => owner.socket.owned?) := by
  refine held?_eq_update rfl ?_
  intro other apart
  cases other with
  | none => exact absurd rfl apart
  | some name => rfl

/-- An owner and the one before it hold what the other one held. -/
theorem held?_swap (host after : σ) :
    (⟨reactor.assign name loose, reactor.owner? name, after⟩ : Scene σ).held? =
      (⟨reactor, loose, host⟩ : Scene σ).held? ∘
        Equiv.swap (.owner none) (.owner (some name)) := by
  have selectors : (reactor.assign name loose).selectors = reactor.selectors := by
    cases loose <;> rfl
  funext holder
  rw [Function.comp_apply]
  cases holder with
  | backend id part =>
      rw [Equiv.swap_apply_of_ne_of_ne (by simp) (by simp), held?, held?,
        Reactor.selector?_of_selectors selectors]
  | owner place =>
      cases place with
      | none =>
          rw [Equiv.swap_apply_left]
          rfl
      | some other =>
          have owner := reactor.owner?_assign name other loose
          by_cases same : other = name
          · subst same
            rw [Equiv.swap_apply_right]
            exact congrArg (Option.bind · fun owner => owner.socket.owned?)
              (owner.trans (if_pos rfl))
          · rw [Equiv.swap_apply_of_ne_of_ne (by simp) (by simp [same])]
            exact congrArg (Option.bind · fun owner => owner.socket.owned?)
              (owner.trans (if_neg same))

end Scene

variable {asks : KeyId → Prop} {polls : Nat → Prop}
  {commands : String → Command → Prop} {scene later : Scene Kernel}

/-- Every move is accounted for. -/
theorem Accounted.move (linked : scene.Linked) (accounted : Accounted scene.held? scene.host)
    (step : Move Kernel.Answers asks polls commands scene later) :
    Accounted later.held? later.host := by
  cases step with
  | act known outcome asked polled tended =>
      have idle := linked.idle _ _ known
      exact accounted.act known (outcome.effect (linked.kept _ _ known) idle.1 idle.2)
  | refuse known outcome tended => exact accounted.act known outcome.effect
  | add selection =>
      rename_i reactor loose host
      have unmade : reactor.selector? reactor.made = none := linked.numbered _ (Nat.le_refl _)
      -- A new selector is not open, so its backend holds nothing.
      refine accounted.mono ?_ rfl
      intro holder descriptor held
      cases holder with
      | owner place => cases place <;> exact held
      | backend id part =>
          have grown : (reactor.addSelector selection).2.selector? id =
              if id = reactor.made then some (.new selection) else reactor.selector? id :=
            reactor.selector?_setSelector reactor.made id (.new selection)
          rw [Scene.held?, grown] at held
          split at held
          · cases held
          · exact held
  | issue named lapsed known outcome tended =>
      have acted := accounted.act known outcome.effect
      rw [Scene.held?_setOwner_of_socket]
      · exact acted
      · exact named
      · rfl
  | forget named lapsed =>
      rw [Scene.held?_setOwner_of_socket named]
      · exact accounted
      · rfl
  | gain tended prompted =>
      rename_i reactor host after owner lent
      rw [Scene.held?_loose none _ host]
      exact accounted.adds tended.gained_born.adds
  | miss tended =>
      obtain rfl := tended.gained_none.adds
      exact accounted
  | wrap quietly tended prompted =>
      rename_i reactor host after use socket
      rw [Scene.held?_loose (some (.typed use socket)) _ host,
        Kernel.eq_of_quiet_answers quietly]
      refine accounted.mono ?_ rfl
      intro holder descriptor held
      rw [Function.update_apply] at held
      split at held
      · rename_i here
        rw [here]
        exact held
      · exact held
  | swap name =>
      rename_i reactor loose host
      rw [Scene.held?_swap host]
      exact accounted.rename (Equiv.injective _)
  | discard lapsed quietly discarded tended =>
      rename_i reactor host between after owner
      rw [Kernel.eq_of_quiet_answers quietly] at discarded
      rw [Scene.held?_loose (some owner) _ host, Socket.eq_of_runs_discard discarded]
      exact accounted.releases
  | perform named granted commanded lapsed outcome tended ran =>
      rename_i reactor loose host after name owner access command socket
      have held : (⟨reactor, loose, host⟩ : Scene Kernel).held? _ = _ :=
        Scene.held?_of_named host named
      rw [Scene.held?_setSocket host _ named]
      cases outcome with
      | steady quietly same =>
          rw [Kernel.eq_of_quiet_answers quietly, same, ← held, Function.update_eq_self]
          exact accounted
      | created bare gained => exact accounted.adds gained.adds
      | closed bare discarded =>
          rw [Socket.eq_of_runs_discard discarded, bare, ← held]
          exact accounted.releases

end SocketReactor
