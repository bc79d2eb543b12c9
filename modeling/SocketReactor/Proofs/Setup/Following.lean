import SocketReactor.Proofs.Setup.Steps

/-!
# Carrying out the steps

What the operations on a new socket do, step by step: each makes the calls of its step, leaves the
socket with its descriptor, and fails as the step fails.  An attempt that closes the socket after
a failure does so once, and then does nothing more.
-/

namespace SocketReactor

variable {α β : Type} {log : Log} {parts : LiveSocket} {descriptor : Descriptor}
  {protocol : Protocol}

/-! ## Attempts that carry out steps -/

namespace Setup

def Tries (parts : LiveSocket) (steps : List Step) (attempt : Attempt α) : Prop :=
  ∀ log outcome, attempt.run.Makes log outcome → Carried parts steps log (fault? outcome)

variable {first second steps : List Step}

theorem tries_pure (value : α) : Tries parts [] (pure value : Attempt α) := by
  rintro log outcome ⟨rfl, rfl⟩
  exact .done

theorem Tries.bind {attempt : Attempt α} {next : α → Attempt β} (head : Tries parts first attempt)
    (rest : ∀ value, Tries parts second (next value)) :
    Tries parts (first ++ second) (attempt >>= next) := by
  intro log outcome makes
  rcases Attempt.makes_bind.mp makes with ⟨fault, failed, rfl⟩ | ⟨value, front, behind, rfl, went,
    goes_on⟩
  · exact (head _ _ failed).stop second
  · exact (head _ _ went).append (rest value _ _ goes_on)

theorem tries_apply (write : OptionWrite) :
    Tries parts [.write write] (write.apply parts.descriptor) := by
  intro log outcome makes
  cases write <;>
  · obtain ⟨reply, rest, rfl, given⟩ := makes
    cases reply with
    | ok done =>
        obtain ⟨rfl, rfl⟩ := given
        exact .single (.written _)
    | error errno =>
        obtain ⟨rfl, rfl⟩ := given
        exact .single (.unwritten _ errno)

theorem tries_writeAll (writes : List OptionWrite) :
    Tries parts (writes.map .write) (writeAll parts.descriptor writes) := by
  induction writes with
  | nil => exact tries_pure ()
  | cons write rest ih => exact (tries_apply write).bind fun _ => ih

theorem tries_unblock (parts : LiveSocket) :
    Tries parts [.unblock] ((Socket.live parts).setNonblocking true) := by
  intro log outcome makes
  rw [Socket.setNonblocking_eq, Socket.require_anyLive] at makes
  obtain ⟨reply, rest, rfl, makes⟩ := makes
  cases reply with
  | error errno =>
      obtain ⟨rfl, rfl⟩ := makes
      exact .single (.flagsUnread errno)
  | ok flags =>
      change (if flags ||| Handle.nonblockingFlag ≠ flags then _ else _ : Attempt Unit).run.Makes
        _ _ at makes
      by_cases unset : flags ||| Handle.nonblockingFlag ≠ flags
      · rw [if_pos unset] at makes
        obtain ⟨reply, rest, rfl, makes⟩ := makes
        cases reply with
        | ok done =>
            obtain ⟨rfl, rfl⟩ := makes
            exact .single (.unblocked unset)
        | error errno =>
            obtain ⟨rfl, rfl⟩ := makes
            exact .single (.flagsUnwritten unset errno)
      · rw [if_neg unset] at makes
        obtain ⟨rfl, rfl⟩ := makes
        exact .single (.unblockedBefore (not_not.mp unset))

/-! ## Programs on the socket -/

/-- The program carries out the steps.  The socket is as it was if one fails, and else as `post`
says. -/
def Does (parts : LiveSocket) (steps : List Step) (post : LiveSocket → Prop)
    (program : Program (Except Fault α × Socket)) : Prop :=
  ∀ log outcome later, program.Makes log (outcome, later) →
    Carried parts steps log (fault? outcome) ∧
      ∃ settled : LiveSocket, later = .live settled ∧ settled.descriptor = parts.descriptor ∧
        (fault? outcome = none → post settled)

theorem does_observe {attempt : Attempt α} (tries : Tries parts steps attempt) :
    Does parts steps (· = parts) ((Socket.live parts).observe attempt) := by
  intro log outcome later makes
  obtain ⟨tried, front, rest, rfl, went, rfl, same⟩ := Program.makes_bind.mp makes
  cases same
  rw [List.append_nil]
  exact ⟨tries _ _ went, parts, rfl, rfl, fun _ => rfl⟩

/-- On a new socket, what needs an endpoint of its family fails at once with the fault of another
endpoint, and goes on with the parts of the socket else. -/
theorem makes_commit_suited {operation : String} {endpoint : Endpoint}
    {next : LiveSocket → Attempt (α × Socket)} {outcome : Except Fault α} {later : Socket}
    (makes : ((Socket.live (.new descriptor protocol)).commit do
      let parts ← Attempt.ofExcept
        ((Socket.live (.new descriptor protocol)).require operation [.created])
      Attempt.ofExcept (parts.checkFamily endpoint)
      next parts).Makes log (outcome, later)) :
    (∃ fault, (LiveSocket.new descriptor protocol).suited endpoint = .error fault ∧ log = [] ∧
      outcome = .error fault ∧ later = .live (.new descriptor protocol)) ∨
    ((LiveSocket.new descriptor protocol).suited endpoint = .ok endpoint ∧
      ((Socket.live (.new descriptor protocol)).commit (next (.new descriptor protocol))).Makes log
        (outcome, later)) := by
  obtain ⟨tried, front, rest, rfl, tries, given⟩ := Program.makes_bind.mp makes
  rcases Attempt.makes_ofExcept_bind tries with ⟨fault, impossible, -⟩ | ⟨parts, passed, checks⟩
  · cases impossible
  · obtain rfl : LiveSocket.new descriptor protocol = parts := Except.ok.inj passed
    rcases Attempt.makes_ofExcept_bind checks with ⟨fault, foreign, rfl, rfl⟩ | ⟨⟨⟩, family, calls⟩
    · obtain ⟨rfl, same⟩ := given
      cases same
      exact .inl ⟨fault, by rw [LiveSocket.suited, foreign]; rfl, rfl, rfl, rfl⟩
    · exact .inr ⟨by rw [LiveSocket.suited, family]; rfl,
        Program.makes_bind.mpr ⟨tried, front, rest, rfl, calls, given⟩⟩

/-- A new socket is bound to an endpoint of its family by one call. -/
theorem goes_bindEndpoint {endpoint : Endpoint} {outcome : Except Fault Unit} {later : Socket}
    {place : Place} {front : Log}
    (found : place.Found (.new descriptor protocol) front
      ((LiveSocket.new descriptor protocol).suited endpoint))
    (makes : ((Socket.live (.new descriptor protocol)).bindEndpoint endpoint).Makes log
      (outcome, later)) :
    Step.Goes (.new descriptor protocol) (.bind place) (front ++ log) (fault? outcome) ∧
      ∃ settled : LiveSocket, later = .live settled ∧ settled.descriptor = descriptor ∧
        (fault? outcome = none →
          settled = { LiveSocket.new descriptor protocol with bound := true }) := by
  rw [Socket.bindEndpoint_eq] at makes
  rcases makes_commit_suited makes with ⟨fault, foreign, rfl, rfl, rfl⟩ | ⟨family, calls⟩
  · rw [foreign] at found
    rw [List.append_nil]
    exact ⟨.placeless found, _, rfl, rfl, nofun⟩
  · rw [family] at found
    obtain ⟨reply, behind, rfl, went⟩ := calls
    cases reply with
    | ok done =>
        obtain ⟨rfl, same⟩ := went
        cases same
        exact ⟨.bound found, _, rfl, rfl, fun _ => rfl⟩
    | error errno =>
        obtain ⟨rfl, same⟩ := went
        cases same
        exact ⟨.unbound found errno, _, rfl, rfl, nofun⟩

/-- A place is found, or the step that needs it fails before any call. -/
theorem found_of_endpointOf {operation host : String} {port : UInt16}
    {outcome : Except Fault Endpoint}
    (makes : ((Socket.live (.new descriptor protocol)).endpointOf operation host port).run.Makes
      log outcome) :
    (∃ fault, outcome = .error fault ∧
      (Place.named host port).Found (.new descriptor protocol) log (.error fault)) ∨
    ∃ endpoint, outcome = .ok endpoint ∧
      (Place.named host port).Found (.new descriptor protocol) log
        ((LiveSocket.new descriptor protocol).suited endpoint) := by
  rcases Attempt.makes_ofExcept_bind makes with ⟨fault, impossible, -⟩ | ⟨parts, passed, makes⟩
  · cases impossible
  · obtain rfl : LiveSocket.new descriptor protocol = parts := Except.ok.inj passed
    rcases Attempt.makes_ofExcept_bind makes with ⟨fault, homeless, rfl, rfl⟩ | ⟨family, known,
      makes⟩
    · exact .inl ⟨fault, rfl, .homeless homeless⟩
    · rcases Attempt.makes_bind.mp makes with ⟨fault, asked, rfl⟩ | ⟨address, front, rest, rfl,
        asked, rfl, rfl⟩
      · exact .inl ⟨fault, rfl, .unresolved known asked⟩
      · rw [List.append_nil]
        exact .inr ⟨_, rfl, .resolved known asked⟩

def Place.bind (socket : Socket) : Place → Program (Except Fault Unit × Socket)
  | named host port => socket.bind host port
  | known endpoint => socket.bindEndpoint endpoint

theorem does_bind (place : Place) :
    Does (.new descriptor protocol) [.bind place]
      (· = { LiveSocket.new descriptor protocol with bound := true })
      (place.bind (.live (.new descriptor protocol))) := by
  intro log outcome later makes
  cases place with
  | known endpoint =>
      obtain ⟨goes, settled⟩ := goes_bindEndpoint (.known endpoint) makes
      exact ⟨.single goes, settled⟩
  | named host port =>
      rw [Place.bind, Socket.bind_eq] at makes
      obtain ⟨tried, front, rest, rfl, asked, went⟩ := Program.makes_bind.mp makes
      rcases found_of_endpointOf asked with ⟨fault, rfl, found⟩ | ⟨endpoint, rfl, found⟩
      · obtain ⟨rfl, same⟩ := went
        cases same
        rw [List.append_nil]
        exact ⟨.single (.placeless found), _, rfl, rfl, nofun⟩
      · obtain ⟨goes, settled⟩ := goes_bindEndpoint found went
        exact ⟨.single goes, settled⟩

theorem does_listen (backlog : Int32) :
    Does (.new descriptor protocol) [.listen backlog]
      (· = { LiveSocket.new descriptor protocol with bound := true, stage := .listening })
      ((Socket.live { LiveSocket.new descriptor protocol with bound := true }).listen backlog) := by
  intro log outcome later makes
  rw [Socket.listen_eq] at makes
  obtain ⟨tried, called, rest, rfl, went, given⟩ := Program.makes_bind.mp makes
  obtain ⟨reply, behind, rfl, went⟩ := went
  cases reply with
  | ok done =>
      obtain ⟨rfl, rfl⟩ := went
      obtain ⟨rfl, same⟩ := given
      cases same
      exact ⟨.single (.listening backlog), _, rfl, rfl, fun _ => rfl⟩
  | error errno =>
      obtain ⟨rfl, rfl⟩ := went
      obtain ⟨rfl, same⟩ := given
      cases same
      exact ⟨.single (.deaf backlog errno), _, rfl, rfl, nofun⟩

def Connects (descriptor : Descriptor) (protocol : Protocol) (settled : LiveSocket) : Prop :=
  ∃ stage, stage.IsConnection ∧ settled = { LiveSocket.new descriptor protocol with stage := stage }

/-- A new socket is connected to an endpoint of its family by one call. -/
theorem goes_connectEndpoint {host : String} {port : UInt16} {endpoint : Endpoint}
    {outcome : Except Fault Connection} {later : Socket} {front : Log}
    (found : (Place.named host port).Found (.new descriptor protocol) front
      ((LiveSocket.new descriptor protocol).suited endpoint))
    (makes : ((Socket.live (.new descriptor protocol)).connectEndpoint endpoint).Makes log
      (outcome, later)) :
    Step.Goes (.new descriptor protocol) (.connect host port) (front ++ log) (fault? outcome) ∧
      ∃ settled : LiveSocket, later = .live settled ∧ settled.descriptor = descriptor ∧
        (fault? outcome = none → Connects descriptor protocol settled) := by
  rw [Socket.connectEndpoint_eq] at makes
  rcases makes_commit_suited makes with ⟨fault, foreign, rfl, rfl, rfl⟩ | ⟨family, calls⟩
  · rw [foreign] at found
    rw [List.append_nil]
    exact ⟨.peerless found, _, rfl, rfl, nofun⟩
  · rw [family] at found
    obtain ⟨reply, behind, rfl, went⟩ := calls
    cases reply with
    | ok done =>
        obtain ⟨rfl, same⟩ := went
        cases same
        exact ⟨.begun found rfl, _, rfl, rfl, fun _ => ⟨.connected, trivial, rfl⟩⟩
    | error errno =>
        change ((Socket.live (.new descriptor protocol)).commit
          (if errno = .inProgress ∨ errno = .interrupted then _ else _)).Makes _ _ at went
        by_cases pending : errno = .inProgress ∨ errno = .interrupted
        · rw [if_pos pending] at went
          obtain ⟨rfl, same⟩ := went
          cases same
          exact ⟨.begun found (if_pos pending), _, rfl, rfl,
            fun _ => ⟨.connecting endpoint, trivial, rfl⟩⟩
        · rw [if_neg pending] at went
          obtain ⟨rfl, same⟩ := went
          cases same
          exact ⟨.unconnected found (if_neg pending), _, rfl, rfl, nofun⟩

theorem does_connect (host : String) (port : UInt16) :
    Does (.new descriptor protocol) [.connect host port] (Connects descriptor protocol)
      ((Socket.live (.new descriptor protocol)).connect host port) := by
  intro log outcome later makes
  rw [Socket.connect_eq] at makes
  obtain ⟨tried, front, rest, rfl, asked, went⟩ := Program.makes_bind.mp makes
  rcases found_of_endpointOf asked with ⟨fault, rfl, found⟩ | ⟨endpoint, rfl, found⟩
  · obtain ⟨rfl, same⟩ := went
    cases same
    rw [List.append_nil]
    exact ⟨.single (.peerless found), _, rfl, rfl, nofun⟩
  · obtain ⟨goes, settled⟩ := goes_connectEndpoint found went
    exact ⟨.single goes, settled⟩

/-! ## Giving back after a failure -/

/-- All steps are carried out, or those up to the first that fails, after which the descriptor is
closed. -/
inductive Ended (parts : LiveSocket) (steps : List Step) : Log → Option Fault → Prop where
  | through {log : Log} (carried : Carried parts steps log none) : Ended parts steps log none
  | stopped {log : Log} {fault : Fault} (carried : Carried parts steps log (some fault))
      (reply : Except Errno Unit) :
      Ended parts steps (log ++ [⟨.close parts.descriptor, reply⟩]) (some fault)

theorem Ended.append {front behind : Log} {end? : Option Fault}
    (ended : Ended parts first front none) (rest : Ended parts second behind end?) :
    Ended parts (first ++ second) (front ++ behind) end? := by
  obtain ⟨carried⟩ := ended
  cases rest with
  | through later => exact .through (carried.append later)
  | stopped later reply =>
      rw [← List.append_assoc]
      exact .stopped (carried.append later) reply

theorem Ended.stop {fault : Fault} (ended : Ended parts first log (some fault))
    (second : List Step) : Ended parts (first ++ second) log (some fault) := by
  obtain ⟨⟩ | ⟨carried, reply⟩ := ended
  exact .stopped (carried.stop second) reply

/-- The attempt carries out the steps with the descriptor of the socket, closes it after a failure,
and gives what `post` says. -/
def Follows (parts : LiveSocket) (steps : List Step) (post : α → Prop) (attempt : Attempt α) :
    Prop :=
  ∀ log outcome, attempt.run.Makes log outcome →
    Ended parts steps log (fault? outcome) ∧ ∀ value, outcome = .ok value → post value

theorem follows_pure {post : α → Prop} {value : α} (right : post value) :
    Follows parts [] post (pure value : Attempt α) := by
  rintro log outcome ⟨rfl, rfl⟩
  refine ⟨.through .done, ?_⟩
  rintro given ⟨⟩
  exact right

theorem Follows.bind {middle : α → Prop} {post : β → Prop} {attempt : Attempt α}
    {next : α → Attempt β} (head : Follows parts first middle attempt)
    (rest : ∀ value, middle value → Follows parts second post (next value)) :
    Follows parts (first ++ second) post (attempt >>= next) := by
  intro log outcome makes
  rcases Attempt.makes_bind.mp makes with ⟨fault, failed, rfl⟩ | ⟨value, front, behind, rfl, went,
    goes_on⟩
  · exact ⟨(head _ _ failed).1.stop second, nofun⟩
  · obtain ⟨ended, right⟩ := head _ _ went
    obtain ⟨later, settled⟩ := rest value (right value rfl) _ _ goes_on
    exact ⟨ended.append later, settled⟩

theorem Does.follows {post : LiveSocket → Prop} {program : Program (Except Fault α × Socket)}
    (does : Does parts steps post program) :
    Follows parts steps (fun result : α × Socket =>
      ∃ settled : LiveSocket, result.2 = .live settled ∧ post settled)
      (Socket.orDiscard program) := by
  intro log outcome makes
  obtain ⟨⟨tried, later⟩, front, rest, rfl, went, given⟩ := Program.makes_bind.mp makes
  obtain ⟨carried, settled, rfl, same, right⟩ := does _ _ _ went
  cases tried with
  | ok value =>
      obtain ⟨rfl, rfl⟩ := given
      rw [List.append_nil]
      refine ⟨.through carried, ?_⟩
      rintro result ⟨⟩
      exact ⟨settled, rfl, right rfl⟩
  | error fault =>
      obtain ⟨reply, behind, rfl, given⟩ := given
      have silent : behind = [] ∧ outcome = .error fault := by
        cases reply <;> exact given
      obtain ⟨rfl, rfl⟩ := silent
      rw [same]
      refine ⟨.stopped carried reply, ?_⟩
      rintro value ⟨⟩

end Setup

end SocketReactor
