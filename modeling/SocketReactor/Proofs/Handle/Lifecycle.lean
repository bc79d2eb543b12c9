import SocketReactor.Proofs.Handle.Failures

/-!
# The life of a handle

The fields of a handle agree with its state, a command moves the state along few edges
only, and a command that the state does not allow makes no call and leaves the fields.
-/

namespace SocketReactor

variable {handle later : Handle} {command : Command} {outcome : Except Failure Reply}

/-! ## What the fields say -/

namespace Handle

/-- The fields of the handle agree with its state. -/
structure Lawful (handle : Handle) : Prop where
  owns : handle.descriptor?.isSome = true ↔ handle.state ≠ .closed
  speaks : handle.state ≠ .closed → handle.protocol?.isSome = true
  listens : handle.listening = true → handle.state = .opened ∧ handle.bound = true
  connects : handle.target?.isSome = true ↔ handle.state = .opening
  rests : handle.state = .closed →
    handle.bound = false ∧ handle.listening = false ∧ handle.shut = 0

namespace Lawful

theorem empty : Handle.empty.Lawful where
  owns := by decide
  speaks := by decide
  listens := by decide
  connects := by decide
  rests := by decide

theorem created (descriptor : Descriptor) (protocol : Protocol) :
    (⟨some descriptor, .created, 0, some protocol, false, false, none⟩ : Handle).Lawful where
  owns := by simp
  speaks := by simp
  listens := by simp
  connects := by simp
  rests := by simp

theorem accepted (lawful : handle.Lawful) (opened : handle.state = .opened)
    (descriptor : Descriptor) :
    (⟨some descriptor, .opened, 0, handle.protocol?, true, false, none⟩ : Handle).Lawful where
  owns := by simp
  speaks := fun _ => lawful.speaks (by rw [opened]; decide)
  listens := by simp
  connects := by simp
  rests := by simp

theorem bare (lawful : handle.Lawful) (bare : handle.descriptor? = none) :
    handle.state = .closed := by
  by_contra alive
  have owned := lawful.owns.mpr alive
  rw [bare] at owned
  cases owned

theorem unlisted (lawful : handle.Lawful) (other : handle.state ≠ .opened) :
    handle.listening = false := by
  rw [Bool.eq_false_iff]
  exact fun listens => other (lawful.listens listens).1

theorem untargeted (lawful : handle.Lawful) (other : handle.state ≠ .opening) :
    handle.target? = none := by
  rw [← Option.not_isSome_iff_eq_none]
  exact fun target => other (lawful.connects.mp target)

/-- A handle with a descriptor may change its state together with what goes with it. -/
theorem moved (lawful : handle.Lawful) (alive : handle.state ≠ .closed) {state : SocketState}
    {listening : Bool} {target? : Option Endpoint} (next : state ≠ .closed)
    (listens : listening = true → state = .opened ∧ handle.bound = true)
    (connects : target?.isSome = true ↔ state = .opening) :
    ({ handle with state, listening, target? } : Handle).Lawful where
  owns := iff_of_true (lawful.owns.mpr alive) next
  speaks := fun _ => lawful.speaks alive
  listens := listens
  connects := connects
  rests := fun ended => absurd ended next

theorem released (lawful : handle.Lawful) : handle.released.Lawful := by
  rw [Handle.released]
  cases handle.descriptor? with
  | none => exact lawful
  | some descriptor => exact { empty with speaks := fun alive => absurd rfl alive }

end Lawful

/-- A turn keeps the fields in agreement with the state. -/
theorem Turned.lawful (turned : handle.Turned command outcome later) (lawful : handle.Lawful) :
    later.Lawful := by
  cases turned with
  | kept => exact lawful
  | created descriptor bare => exact .created descriptor _
  | bound binds created =>
      exact { lawful with
        listens := fun listens => ⟨(lawful.listens listens).1, rfl⟩
        rests := fun ended => absurd (created.symm.trans ended) (by decide) }
  | listening created bound =>
      refine lawful.moved (by simp [created]) (by simp) (fun _ => ⟨rfl, bound⟩) ?_
      simp [lawful.untargeted (by simp [created])]
  | connected connects created =>
      refine lawful.moved (by simp [created]) (by simp) ?_ ?_
      · simp [lawful.unlisted (by simp [created])]
      · simp [lawful.untargeted (by simp [created])]
  | begun target connects created =>
      refine lawful.moved (by simp [created]) (by simp) ?_ (by simp)
      simp [lawful.unlisted (by simp [created])]
  | finished opening =>
      refine lawful.moved (by simp [opening]) (by simp) ?_ (by simp)
      simp [lawful.unlisted (by simp [opening])]
  | refused errno endpoint opening =>
      refine lawful.moved (by simp [opening]) (by simp) ?_ (by simp)
      simp [lawful.unlisted (by simp [opening])]
  | shut begun =>
      exact { lawful with rests := fun ended => by simp [show handle.state = _ from ended] at begun }
  | released => exact lawful.released

end Handle

/-! ## Edges -/

/-- The edges along which a command may move the state of a handle. -/
inductive Command.Edge : Command → SocketState → SocketState → Prop where
  | stay (command : Command) (state : SocketState) : Edge command state state
  | create (protocol : Protocol) : Edge (.create protocol) .closed .created
  | listen (backlog : Int32) : Edge (.listen backlog) .created .opened
  | connected {command : Command} (connects : command.Connects) : Edge command .created .opened
  | begun {command : Command} (connects : command.Connects) : Edge command .created .opening
  | finished : Edge .finishConnect .opening .opened
  | refused : Edge .finishConnect .opening .created
  | close (state : SocketState) : Edge .close state .closed

namespace Handle

/-- Whoever owns nothing is closed, so that only a closed handle is created anew. -/
theorem Turned.edge (turned : handle.Turned command outcome later)
    (bare : handle.descriptor? = none → handle.state = .closed) :
    command.Edge handle.state later.state := by
  cases turned with
  | kept | bound | shut => exact .stay _ _
  | created descriptor absent => exact bare absent ▸ .create _
  | listening created bound => exact created ▸ .listen _
  | connected connects created => exact created ▸ .connected connects
  | begun target connects created => exact created ▸ .begun connects
  | finished opening => exact opening ▸ .finished
  | refused errno endpoint opening => exact opening ▸ .refused
  | released =>
      rw [Handle.released]
      cases handle.descriptor? with
      | none => exact .stay _ _
      | some descriptor => exact .close _

end Handle

/-! ## Commands out of place -/

def Command.demand? : Command → Option (String × List SocketState)
  | bind _ _ | bindEndpoint _ => some ("bind", [.created])
  | listen _ => some ("listen", [.created])
  | connect _ _ | connectEndpoint _ => some ("connect", [.created])
  | finishConnect => some ("finish_connect", [.opened, .opening])
  | send _ => some ("send", [.opened])
  | receive _ => some ("receive", [.opened])
  | sendTo _ _ => some ("send_to", [.created, .opened])
  | receiveFrom _ => some ("recv_from", [.created, .opened])
  | shutdown half => some (Handle.shutdownName half, [.opened, .opening])
  | localEndpoint | localPort => some ("local_endpoint", Handle.anyLive)
  | remoteEndpoint => some ("remote_endpoint", [.opened])
  | setNonblocking _ => some ("set_nonblocking", Handle.anyLive)
  | isNonblocking => some ("is_nonblocking", Handle.anyLive)
  | create _ | readOctets _ | writeOctets _ | close | readOption _ | writeOption _ => none

namespace Handle

/-- A command that the handle is not in the state for: what it is called, and what is said of
the state. -/
inductive Misplaced (handle : Handle) : Command → String → String → Prop where
  | state {command : Command} {operation : String} {allowed : List SocketState}
      (demand : command.demand? = some (operation, allowed)) (outside : handle.state ∉ allowed) :
      Misplaced handle command operation handle.state.name
  | unbound (backlog : Int32) (created : handle.state = .created)
      (unbound : handle.bound = false) :
      Misplaced handle (.listen backlog) "listen" "created but not bound"
  | listening (opened : handle.state = .opened) (listens : handle.listening = true) :
      Misplaced handle .finishConnect "finish_connect" SocketState.opened.name

theorem require_eq_error {operation : String} {allowed : List SocketState}
    (outside : handle.state ∉ allowed) :
    handle.require operation allowed = .error (.wrongState operation handle.state.name) :=
  if_neg outside

theorem perform_of_outside {operation : String} {allowed : List SocketState}
    (demand : command.demand? = some (operation, allowed)) (outside : handle.state ∉ allowed) :
    handle.perform command =
      return (.error (.fault (.wrongState operation handle.state.name)), handle) := by
  have refused : handle.require operation allowed =
      .error (.wrongState operation handle.state.name) := require_eq_error outside
  cases command with
  | create | readOctets | writeOctets | close | readOption | writeOption => cases demand
  | finishConnect =>
      cases demand
      simp only [perform, replying, finishConnect, Method.on_get]
      cases state : handle.state with
      | closed | created => rfl
      | opened | opening => simp [state] at outside
  | bind | bindEndpoint | listen | connect | connectEndpoint | shutdown =>
      cases demand
      simp only [perform, replying, bind, bindEndpoint, listen, connect, connectEndpoint, shutdown,
        endpointOf, Method.on_get, refused]
      rfl
  | send | receive | sendTo | receiveFrom | localEndpoint | localPort | remoteEndpoint
  | setNonblocking | isNonblocking =>
      cases demand
      simp only [perform, send, receive, sendTo, receiveFrom, localEndpoint, localPort,
        remoteEndpoint, setNonblocking, isNonblocking, refused]
      rfl

/-- A command out of place makes no call, leaves the fields and tells its name and the state. -/
theorem perform_of_misplaced {operation said : String}
    (misplaced : handle.Misplaced command operation said) :
    handle.perform command = return (.error (.fault (.wrongState operation said)), handle) := by
  cases misplaced with
  | state demand outside => exact perform_of_outside demand outside
  | unbound backlog created unbound =>
      simp only [perform, replying, listen, Method.on_get, require, created, unbound]
      rfl
  | listening opened listens =>
      simp only [perform, replying, finishConnect, Method.on_get, opened, listens]
      rfl

/-- Only a listener takes connections. -/
theorem accept_of_not_listening (bare : handle.state ≠ .opened ∨ handle.listening = false) :
    handle.accept = throw (.wrongState "accept"
      (if handle.state = .opened then "open but not listening" else handle.state.name)) := by
  by_cases opened : handle.state = .opened
  · have unlisted := bare.resolve_left (not_not_intro opened)
    simp only [accept, require, opened, unlisted]
    rfl
  · have refused : handle.require "accept" [.opened] =
        .error (.wrongState "accept" handle.state.name) :=
      require_eq_error (by simpa using opened)
    rw [accept, refused, if_neg opened]
    rfl

/-- Creating and adopting on a live handle is a mistake of the caller that writes nothing. -/
theorem Lawful.misuse (lawful : handle.Lawful) (alive : handle.state ≠ .closed) :
    (∀ protocol, handle.create protocol = .error (.create handle.descriptor) ∧
      handle.perform (.create protocol) =
        return (.error (.misuse (.create handle.descriptor)), handle)) ∧
    ∀ other, handle.adopt other = .error (.adopt handle.descriptor) := by
  obtain ⟨descriptor, held⟩ := Option.isSome_iff_exists.mp (lawful.owns.mpr alive)
  rw [show handle.descriptor = descriptor by rw [Handle.descriptor, held, Option.getD_some]]
  refine ⟨fun protocol => ⟨?_, ?_⟩, fun other => ?_⟩
  · rw [create, held]
  · rw [perform, create, held]
  · rw [adopt, held]

/-! ## New handles -/

def IsNew (protocol : Protocol) (handle : Handle) : Prop :=
  ∃ descriptor, handle = ⟨some descriptor, .created, 0, some protocol, false, false, none⟩

theorem yields_openNew (protocol : Protocol) :
    (openNew protocol).Yields (IsNew protocol) fun _ => True := by
  refine ⟨trivial, fun reply => ?_⟩
  cases reply with
  | ok descriptor => exact ⟨descriptor, rfl⟩
  | error errno => trivial

/-- What is taken from a queue is an open connection of the listener's protocol. -/
def Accepts (handle : Handle) (accepted : Accepted Handle) : Prop :=
  ∀ taken peer, accepted = .accepted taken peer → handle.state = .opened ∧
    ∃ descriptor, taken = ⟨some descriptor, .opened, 0, handle.protocol?, true, false, none⟩

theorem yields_accept (handle : Handle) : handle.accept.Yields handle.Accepts fun _ => True := by
  have opened : (Attempt.ofExcept (handle.require "accept" [.opened])).Yields
      (fun _ => handle.state = .opened) fun _ => True := by
    refine Attempt.yields_ofExcept (fun value allowed => ?_) fun _ _ => trivial
    by_contra other
    rw [require_eq_error (by simpa using other)] at allowed
    cases allowed
  refine opened.bind fun _ opened => ?_
  cases handle.listening with
  | false => exact Attempt.yields_throw trivial
  | true =>
      refine (Attempt.yields_ofProgram (Program.ensures_anything _)).bind fun reply _ => ?_
      cases reply with
      | ok accepted =>
          obtain ⟨descriptor, peer⟩ := accepted
          dsimp only
          cases peer.endpoint with
          | ok endpoint =>
              refine Attempt.yields_pure ?_
              rintro taken peer ⟨⟩
              exact ⟨opened, descriptor, rfl⟩
          | error fault =>
              exact (Attempt.yields_anything _).bind fun _ _ => Attempt.yields_throw trivial
      | error errno =>
          dsimp only
          split
          · exact Attempt.yields_pure (by rintro taken peer ⟨⟩)
          · split
            · exact Attempt.yields_pure (by rintro taken peer ⟨⟩)
            · exact Attempt.yields_throw trivial

end Handle

end SocketReactor
