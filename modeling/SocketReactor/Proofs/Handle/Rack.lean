import SocketReactor.Handle.Rack
import SocketReactor.Proofs.Handle.Lifecycle

/-!
# The life of many handles

What one deed of a caller makes of the handles that it holds, and from that what holds of
them after every sequence of deeds: the fields of each agree with its state, and no deed
has moved a state but along an edge.
-/

namespace SocketReactor

variable {σ : Type} {answers : Answering σ} {state next : σ}

namespace Rack

variable {rack after : Rack} {deed : Deed} {failure : Option Failure}

/-- What a deed makes of the handles that are held. -/
inductive Acted (rack : Rack) : Deed → Rack → Prop where
  | idle {deed : Deed} : Acted rack deed rack
  | new : Acted rack .new (rack ++ [some .empty])
  | opened {protocol : Protocol} (descriptor : Descriptor) :
      Acted rack (.openNew protocol)
        (rack ++ [some ⟨some descriptor, .created, 0, some protocol, false, false, none⟩])
  | asked {number : Nat} {command : Command} {handle later : Handle}
      {outcome : Except Failure Reply} (held : rack.held? number = some handle)
      (turned : handle.Turned command outcome later) :
      Acted rack (.ask number command) (rack.set number (some later))
  | accepted {number : Nat} {handle : Handle} (descriptor : Descriptor)
      (held : rack.held? number = some handle) (opened : handle.state = .opened) :
      Acted rack (.accept number)
        (rack ++ [some ⟨some descriptor, .opened, 0, handle.protocol?, true, false, none⟩])
  | taken {number : Nat} {handle : Handle} (held : rack.held? number = some handle) :
      Acted rack (.take number) (rack.set number (some .empty) ++ [some handle])
  | adopted {number other : Nat} {handle moved : Handle} (held : rack.held? number = some handle)
      (source : rack.held? other = some moved) (bare : handle.descriptor? = none) :
      Acted rack (.adopt number other) ((rack.set other none).set number (some moved))
  /-- A handle is gone. -/
  | gone {deed : Deed} (number : Nat) : Acted rack deed (rack.set number none)

theorem runs_visit {number : Nat} {step : Handle → Program (Option Failure × Rack)}
    (run : (rack.visit number step).Runs answers state (failure, after) next) :
    after = rack ∨ ∃ handle, rack.held? number = some handle ∧
      (step handle).Runs answers state (failure, after) next := by
  rw [visit] at run
  cases held : rack.held? number with
  | none =>
      rw [held] at run
      obtain ⟨⟨⟩, -⟩ := run
      exact .inl rfl
  | some handle =>
      rw [held] at run
      exact .inr ⟨handle, rfl, run⟩

/-- Every deed acts, whatever the host replies. -/
theorem acted_of_runs (run : (rack.act deed).Runs answers state (failure, after) next) :
    rack.Acted deed after := by
  cases deed with
  | new =>
      obtain ⟨⟨⟩, -⟩ := run
      exact .new
  | openNew protocol =>
      obtain ⟨outcome, between, opened, rest⟩ := Program.runs_bind.mp run
      cases outcome with
      | ok handle =>
          obtain ⟨descriptor, rfl⟩ := ((Handle.yields_openNew protocol).of_runs opened).1 handle rfl
          obtain ⟨⟨⟩, -⟩ := rest
          exact .opened descriptor
      | error fault =>
          obtain ⟨⟨⟩, -⟩ := rest
          exact .idle
  | ask number command =>
      obtain rfl | ⟨handle, held, rest⟩ := runs_visit run
      · exact .idle
      · obtain ⟨⟨outcome, later⟩, between, performed, ended⟩ := Program.runs_bind.mp rest
        have turned := Handle.turned_of_runs performed
        cases outcome <;>
        · obtain ⟨⟨⟩, -⟩ := ended
          exact .asked held turned
  | accept number =>
      obtain rfl | ⟨handle, held, rest⟩ := runs_visit run
      · exact .idle
      · obtain ⟨outcome, between, ran, ended⟩ := Program.runs_bind.mp rest
        cases outcome with
        | error fault =>
            obtain ⟨⟨⟩, -⟩ := ended
            exact .idle
        | ok result => cases result with
          | wouldBlock | interrupted =>
              obtain ⟨⟨⟩, -⟩ := ended
              exact .idle
          | accepted taken peer =>
              obtain ⟨opened, descriptor, rfl⟩ :=
                (handle.yields_accept.of_runs ran).1 _ rfl taken peer rfl
              obtain ⟨⟨⟩, -⟩ := ended
              exact .accepted descriptor held opened
  | take number =>
      obtain rfl | ⟨handle, held, rest⟩ := runs_visit run
      · exact .idle
      · obtain ⟨⟨⟩, -⟩ := rest
        exact .taken held
  | adopt number other =>
      rw [act] at run
      split at run
      · obtain ⟨⟨⟩, -⟩ := run
        exact .idle
      · obtain rfl | ⟨handle, held, rest⟩ := runs_visit run
        · exact .idle
        · obtain rfl | ⟨moved, source, ended⟩ := runs_visit rest
          · exact .idle
          · rw [Handle.adopt] at ended
            cases bare : handle.descriptor? with
            | none =>
                rw [bare] at ended
                obtain ⟨⟨⟩, -⟩ := ended
                exact .adopted held source bare
            -- What was to be moved in is dropped, and the receiver stays.
            | some descriptor =>
                rw [bare] at ended
                obtain ⟨-, between, -, same, -⟩ := Program.runs_bind.mp ended
                cases same
                exact .gone other
  | drop number =>
      obtain rfl | ⟨handle, held, rest⟩ := runs_visit run
      · exact .idle
      · obtain ⟨-, between, -, same, -⟩ := Program.runs_bind.mp rest
        cases same
        exact .gone number

/-! ## What is held -/

theorem getElem?_of_held {number : Nat} {handle : Handle}
    (held : rack.held? number = some handle) : rack[number]? = some (some handle) :=
  Option.join_eq_some_iff.mp held

theorem lt_of_held {number : Nat} {handle : Handle} (held : rack.held? number = some handle) :
    number < rack.length := (List.getElem?_eq_some_iff.mp (getElem?_of_held held)).1

theorem held?_append {number : Nat} (within : number < rack.length) (more : Rack) :
    Rack.held? (rack ++ more) number = rack.held? number := by
  rw [held?, List.getElem?_append_left within, held?]

theorem held?_set_self {number : Nat} (within : number < rack.length) (entry : Option Handle) :
    Rack.held? (rack.set number entry) number = entry := by
  rw [held?, List.getElem?_set_self within, Option.join_some]

theorem held?_set_ne {place number : Nat} (other : place ≠ number) (entry : Option Handle) :
    Rack.held? (rack.set place entry) number = rack.held? number := by
  rw [held?, List.getElem?_set_ne other, held?]

/-- The fields of every handle agree with its state. -/
def Lawful (rack : Rack) : Prop := ∀ handle, some handle ∈ rack → handle.Lawful

namespace Lawful

theorem of_held (lawful : rack.Lawful) {number : Nat} {handle : Handle}
    (held : rack.held? number = some handle) : handle.Lawful :=
  lawful handle (List.mem_of_getElem? (getElem?_of_held held))

theorem append (lawful : rack.Lawful) {born : Handle} (clean : born.Lawful) :
    Rack.Lawful (rack ++ [some born]) := by
  intro handle mem
  rcases List.mem_append.mp mem with old | new
  · exact lawful handle old
  · cases List.mem_singleton.mp new
    exact clean

theorem set (lawful : rack.Lawful) (number : Nat) {later : Handle} (clean : later.Lawful) :
    Rack.Lawful (rack.set number (some later)) := by
  intro handle mem
  rcases List.mem_or_eq_of_mem_set mem with old | new
  · exact lawful handle old
  · cases new
    exact clean

theorem clear (lawful : rack.Lawful) (number : Nat) : Rack.Lawful (rack.set number none) := by
  intro handle mem
  rcases List.mem_or_eq_of_mem_set mem with old | new
  · exact lawful handle old
  · cases new

end Lawful

/-- A deed keeps the fields of every handle in agreement with its state. -/
theorem Acted.lawful (acted : rack.Acted deed after) (lawful : rack.Lawful) : after.Lawful := by
  cases acted with
  | idle => exact lawful
  | new => exact lawful.append .empty
  | opened descriptor => exact lawful.append (.created descriptor _)
  | asked held turned => exact lawful.set _ (turned.lawful (lawful.of_held held))
  | accepted descriptor held opened =>
      exact lawful.append ((lawful.of_held held).accepted opened descriptor)
  | taken held => exact (lawful.set _ .empty).append (lawful.of_held held)
  | adopted held source bare => exact (lawful.clear _).set _ (lawful.of_held source)
  | gone number => exact lawful.clear number

end Rack

/-! ## Edges -/

/-- The edges along which a deed may move the state of the handle with a number. -/
inductive Deed.Edge : Deed → Nat → SocketState → SocketState → Prop where
  | stay (deed : Deed) (number : Nat) (state : SocketState) : Edge deed number state state
  | asked (number : Nat) {command : Command} {before after : SocketState}
      (edge : command.Edge before after) : Edge (.ask number command) number before after
  | taken (number : Nat) (state : SocketState) : Edge (.take number) number state .closed
  | adopted (number other : Nat) (state : SocketState) :
      Edge (.adopt number other) number .closed state

namespace Rack

variable {rack after : Rack} {deed : Deed} {failure : Option Failure}

/-- A deed moves the state of every handle that stays held along an edge. -/
theorem Acted.edge (acted : rack.Acted deed after) (lawful : rack.Lawful) {number : Nat}
    {before later : Handle} (held : rack.held? number = some before)
    (still : after.held? number = some later) :
    deed.Edge number before.state later.state := by
  have within := lt_of_held held
  have stays : some later = some before → deed.Edge number before.state later.state := by
    rintro ⟨⟩
    exact .stay ..
  cases acted with
  | idle => exact stays (still.symm.trans held)
  | new | opened | accepted =>
      rw [held?_append within] at still
      exact stays (still.symm.trans held)
  | @asked place command handle moved outcome found turned =>
      by_cases same : place = number
      · subst place
        rw [held?_set_self within] at still
        cases found.symm.trans held
        cases still
        exact .asked number (turned.edge (lawful.of_held held).bare)
      · rw [held?_set_ne same] at still
        exact stays (still.symm.trans held)
  | @taken place handle found =>
      rw [held?_append (by rwa [List.length_set])] at still
      by_cases same : place = number
      · subst place
        rw [held?_set_self within] at still
        cases still
        exact .taken number _
      · rw [held?_set_ne same] at still
        exact stays (still.symm.trans held)
  | @adopted place other handle moved found source bare =>
      by_cases same : place = number
      · subst place
        cases found.symm.trans held
        -- Without a descriptor the handle is closed, so the move is one from `closed`.
        rw [(lawful.of_held held).bare bare]
        exact .adopted number other _
      · rw [held?_set_ne same] at still
        by_cases gone : other = number
        · subst other
          rw [held?_set_self within] at still
          cases still
        · rw [held?_set_ne gone] at still
          exact stays (still.symm.trans held)
  | gone place =>
      by_cases same : place = number
      · subst place
        rw [held?_set_self within] at still
        cases still
      · rw [held?_set_ne same] at still
        exact stays (still.symm.trans held)

/-! ## Runs -/

/-- A deed that has been carried out, and what was held before and after it. -/
structure Entry where
  before : Rack
  deed : Deed
  failure : Option Failure
  after : Rack

/-- The deeds of a caller that held nothing at first, with every answer of the host. -/
inductive History (answers : Answering σ) (origin : σ) : List Entry → Rack → σ → Prop where
  | nil : History answers origin [] [] origin
  | snoc {trace : List Entry} {rack after : Rack} {state next : σ} {deed : Deed}
      {failure : Option Failure} (past : History answers origin trace rack state)
      (run : (rack.act deed).Runs answers state (failure, after) next) :
      History answers origin (trace ++ [⟨rack, deed, failure, after⟩]) after next

namespace History

variable {origin : σ} {trace : List Entry}

theorem lawful (history : History answers origin trace rack state) : rack.Lawful := by
  induction history with
  | nil => exact fun _ mem => absurd mem List.not_mem_nil
  | snoc past run ih => exact (acted_of_runs run).lawful ih

theorem edges (history : History answers origin trace rack state) :
    ∀ entry ∈ trace, ∀ number before after, entry.before.held? number = some before →
      entry.after.held? number = some after →
      entry.deed.Edge number before.state after.state := by
  induction history with
  | nil => exact fun _ mem => absurd mem List.not_mem_nil
  | snoc past run ih =>
      intro entry mem number before after held still
      rcases List.mem_append.mp mem with earlier | here
      · exact ih entry earlier number before after held still
      · cases List.mem_singleton.mp here
        exact (acted_of_runs run).edge past.lawful held still

end History

end Rack

/-- After every sequence of deeds with any number of handles, whatever the host replies: the
fields of every handle agree with its state, and every deed has moved every state along an
edge. A command that a handle is not in the state for makes no call, leaves the fields and
tells its name and the state; so does accepting on what does not listen. Creating and
adopting on a live handle is a mistake that writes nothing. -/
theorem handles_keep_lifecycle {origin : σ} {trace : List Rack.Entry} {rack : Rack}
    (history : Rack.History answers origin trace rack state) :
    (∀ number handle, rack.held? number = some handle → handle.Lawful) ∧
    (∀ entry ∈ trace, ∀ number before after, entry.before.held? number = some before →
      entry.after.held? number = some after →
      entry.deed.Edge number before.state after.state) ∧
    (∀ (handle : Handle) command operation said, handle.Misplaced command operation said →
      handle.perform command =
        return (.error (.fault (.wrongState operation said)), handle)) ∧
    (∀ handle : Handle, handle.state ≠ .opened ∨ handle.listening = false →
      handle.accept = throw (.wrongState "accept"
        (if handle.state = .opened then "open but not listening" else handle.state.name))) ∧
    ∀ number handle, rack.held? number = some handle → handle.state ≠ .closed →
      (∀ protocol, handle.create protocol = .error (.create handle.descriptor) ∧
        handle.perform (.create protocol) =
          return (.error (.misuse (.create handle.descriptor)), handle)) ∧
      ∀ other, handle.adopt other = .error (.adopt handle.descriptor) :=
  ⟨fun _ _ held => history.lawful.of_held held, history.edges,
    fun _ _ _ _ => Handle.perform_of_misplaced, fun _ => Handle.accept_of_not_listening,
    fun _ _ held => (history.lawful.of_held held).misuse⟩

/-- What a host replies that opens descriptors and leaves connections pending. -/
def slowReply : (call : Call) → Option call.Reply
  | .socket _ _ _ => some (.ok ⟨3⟩)
  | .connect _ _ => some (.error .inProgress)
  | _ => none

/-- A host that opens descriptors and leaves connections pending. -/
def slowHost : Program.Machine Unit := fun call _ => (slowReply call).map fun reply => (reply, ())

/-- A handle that begins to connect and is then moved is lawful where it is, and closed where it
was. -/
theorem moved_handle_is_lawful :
    ∃ trace rack left moved, Rack.History (.ofMachine slowHost) () trace rack () ∧
      rack.held? 0 = some left ∧ rack.held? 1 = some moved ∧ moved.state = .opening ∧
      moved.Lawful ∧ left.state = .closed ∧ left.Lawful := by
  have opened : (Rack.act [] (.openNew .tcp4)).run slowHost () =
      some ((none, [some ⟨some ⟨3⟩, .created, 0, some .tcp4, false, false, none⟩]), ()) := by
    decide +kernel
  have begun : (Rack.act [some ⟨some ⟨3⟩, .created, 0, some .tcp4, false, false, none⟩]
      (.ask 0 (.connectEndpoint (.new .loopbackV4 80)))).run slowHost () =
      some ((none, [some ⟨some ⟨3⟩, .opening, 0, some .tcp4, false, false,
        some (.new .loopbackV4 80)⟩]), ()) := by
    decide +kernel
  have taken : (Rack.act [some ⟨some ⟨3⟩, .opening, 0, some .tcp4, false, false,
      some (.new .loopbackV4 80)⟩] (.take 0)).run slowHost () =
      some ((none, [some .empty, some ⟨some ⟨3⟩, .opening, 0, some .tcp4, false, false,
        some (.new .loopbackV4 80)⟩]), ()) := by
    decide +kernel
  have history := ((Rack.History.nil.snoc (Program.runs_ofMachine.mpr opened)).snoc
    (Program.runs_ofMachine.mpr begun)).snoc (Program.runs_ofMachine.mpr taken)
  have lawful := (handles_keep_lifecycle history).1
  exact ⟨_, _, _, _, history, rfl, rfl, rfl, lawful 1 _ rfl, rfl, lawful 0 _ rfl⟩

end SocketReactor
