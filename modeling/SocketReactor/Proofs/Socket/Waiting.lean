import SocketReactor.Proofs.Host.Handshake
import SocketReactor.Proofs.Host.Yields
import SocketReactor.Proofs.Socket.Finishing
import SocketReactor.Proofs.Socket.Refinement
import SocketReactor.Proofs.Socket.Running

/-!
# Waiting for a connection

A socket whose connection is pending is given commands, in any order, while the handshake goes
on by itself.  Finishing the connection asks for the pending error first, and only a descriptor
that has neither an error nor a peer is taken for one whose handshake is underway.  So the answer
is right as long as nobody else has read the pending error: once it was read, a handshake that has
failed looks like one that is underway.
-/

namespace SocketReactor

variable {σ α : Type} {descriptor : Descriptor} {socket later : Socket} {parts : LiveSocket}
  {target : Endpoint} {command : Command}

namespace Command

/-- The command neither begins a connection nor ends it, and reads the pending error only as
such. -/
def Waits : Command → Prop
  | create _ | connect _ _ | connectEndpoint _ | close => False
  | readOption (.flag option) | readOption (.size option) => option ≠ .error
  | _ => True

def Inquires (command : Command) : Prop :=
  command = .finishConnect ∨ command = .readOption .pendingError

end Command

/-! ## What leaves the pending error alone -/

namespace Socket

theorem blind_readOption {option : OptionRead} (waits : (Command.readOption option).Waits)
    (other : option ≠ .pendingError) :
    (socket.readOption option).Ensures Call.Blind fun _ => True := by
  cases option with
  | flag option | size option =>
      exact only_replyingTo ((Descriptor.only_intOption waits).bind fun _ => Attempt.only_pure _)
  | timeout option => exact only_replyingTo (Descriptor.only_timeoutOption trivial)
  | linger => exact only_replyingTo (Descriptor.only_lingerOption trivial)
  | pendingError => exact absurd rfl other

/-- A socket whose connection is pending answers every command of a wait without a look at the
pending error, unless it is asked for it. -/
theorem blind_perform (pending : parts.stage = .connecting target) (waits : command.Waits)
    (other : ¬command.Inquires) :
    ((live parts).perform command).Ensures Call.Blind fun _ => True := by
  have opening : (live parts).state = .opening := congrArg Stage.state pending
  have unopened : ∀ operation, (live parts).require operation [.opened] =
      .error (.wrongState operation (live parts).state.name) := by
    intro operation
    refine require_eq_error ?_
    rw [opening]
    decide
  have outside : ∀ {operation : String} {allowed : List SocketState},
      command.demand? = some (operation, allowed) → SocketState.opening ∉ allowed →
      ((live parts).perform command).Ensures Call.Blind fun _ => True := by
    intro operation allowed demand outside
    rw [perform_of_outside demand (opening ▸ outside)]
    trivial
  cases command with
  | create | connect | connectEndpoint | close => exact waits.elim
  | finishConnect => exact absurd (.inl rfl) other
  | bind | bindEndpoint | listen | send | receive | sendTo | receiveFrom | remoteEndpoint =>
      exact outside rfl (by decide)
  | readOctets =>
      simp only [perform_eq, respond, readOctets_eq, receive_eq, unopened]
      trivial
  | writeOctets =>
      simp only [perform_eq, respond, writeOctets_eq, send_eq, unopened]
      trivial
  | shutdown half =>
      rw [perform_eq]
      exact only_replying (only_shutdown trivial)
  | localEndpoint =>
      rw [perform_eq]
      exact only_replyingTo (only_localEndpoint trivial)
  | localPort =>
      rw [perform_eq]
      exact only_replyingTo (only_localPort trivial)
  | setNonblocking enabled =>
      rw [perform_eq]
      exact only_replyingTo (only_setNonblocking trivial fun _ => trivial)
  | isNonblocking =>
      rw [perform_eq]
      exact only_replyingTo (only_isNonblocking trivial)
  | readOption option =>
      rw [perform_eq]
      exact blind_readOption waits fun same => other (.inr (congrArg Command.readOption same))
  | writeOption write =>
      rw [perform_eq]
      exact only_replyingTo (write.only_apply (fun _ _ => trivial) (fun _ _ => trivial)
        fun _ => trivial)

end Socket

/-! ## Waits -/

abbrev Inquiries := List (Command × Except Failure Reply)

namespace Inquiries

def Took (inquiries : Inquiries) (errno : Errno) : Prop :=
  (.readOption .pendingError, .ok (.pending (some errno))) ∈ inquiries

def Reported (inquiries : Inquiries) (errno : Errno) (target : Endpoint) : Prop :=
  (.finishConnect, .error (.fault (.connectFailed errno target.toText))) ∈ inquiries

end Inquiries

/-- A wait that begins with a socket and a connection that has just been begun: what has been
asked, and the socket and the line at its end. -/
inductive Waiting (descriptor : Descriptor) (socket : Socket) :
    Inquiries → Socket → Line → Prop where
  | begun : Waiting descriptor socket [] socket .begun
  /-- Time passes. -/
  | moved {inquiries : Inquiries} {now : Socket} {line moment : Line}
      (wait : Waiting descriptor socket inquiries now line) (moves : line.Moves moment) :
      Waiting descriptor socket inquiries now moment
  | asked {inquiries : Inquiries} {now later : Socket} {line after : Line} {command : Command}
      {outcome : Except Failure Reply} (wait : Waiting descriptor socket inquiries now line)
      (waits : command.Waits)
      (run : (now.perform command).Runs (Line.Answers descriptor) line (outcome, later) after) :
      Waiting descriptor socket (inquiries ++ [(command, outcome)]) later after

variable {inquiries : Inquiries} {line moment after : Line}

/-- What is known of the pending error of a line: it is the one of the handshake or of a
connection that has ended, and that of a failed handshake is there until it is read. -/
structure Line.Known (inquiries : Inquiries) (line : Line) : Prop where
  blames : line.unread ≠ 0 → line.handshake = .closed ∨ line.handshake = .failed ⟨line.unread⟩
  spent : ∀ errno, line.handshake = .failed errno → line.unread = 0 → inquiries.Took errno

namespace Line.Known

theorem of_begun : begun.Known inquiries := ⟨fun unread => absurd rfl unread, nofun⟩

theorem step (before after : Line) (step : Step before after) (known : before.Known inquiries) :
    after.Known inquiries := by
  cases step with
  | makes =>
      refine ⟨fun unread => ?_, nofun⟩
      rcases known.blames unread with impossible | impossible <;> cases impossible
  | fails real =>
      refine ⟨fun _ => .inr rfl, ?_⟩
      rintro errno ⟨⟩ gone
      exact absurd gone real
  | ends => exact ⟨fun _ => .inl rfl, nofun⟩

theorem moves (moves : line.Moves moment) (known : line.Known inquiries) :
    moment.Known inquiries := moves.keeps step known

theorem snoc (known : line.Known inquiries) (entry : Command × Except Failure Reply) :
    line.Known (inquiries ++ [entry]) where
  blames := known.blames
  spent := fun errno failed gone => List.mem_append_left _ (known.spent errno failed gone)

/-- What the pending error says is the failure of the handshake. -/
theorem errno_eq {errno : Errno} (known : line.Known inquiries)
    (failed : line.handshake = .failed errno) (unread : line.unread ≠ 0) :
    errno = ⟨line.unread⟩ := by
  rcases known.blames unread with closed | same
  · cases failed.symm.trans closed
  · cases failed.symm.trans same
    rfl

/-- Whoever asks for the pending error takes it. -/
theorem taken (known : line.Known inquiries) :
    line.cleared.Known (inquiries ++ [(.readOption .pendingError,
      .ok (.pending (if line.unread ≠ 0 then some ⟨line.unread⟩ else none)))]) where
  blames := fun unread => absurd rfl unread
  spent := by
    intro errno failed _
    have failed : line.handshake = .failed errno := failed
    by_cases unread : line.unread = 0
    · exact List.mem_append_left _ (known.spent errno failed unread)
    · refine List.mem_append_right _ (List.mem_singleton.mpr ?_)
      rw [if_pos unread, known.errno_eq failed unread]

end Line.Known

theorem Line.cleared_eq (clear : line.unread = 0) : line.cleared = line := by
  obtain ⟨handshake, unread⟩ := line
  cases clear
  rfl

inductive Awaited (descriptor : Descriptor) (target : Endpoint) (inquiries : Inquiries) :
    Socket → Line → Prop where
  | pending {parts : LiveSocket} {line : Line} (names : parts.descriptor = descriptor)
      (stage : parts.stage = .connecting target) (known : line.Known inquiries) :
      Awaited descriptor target inquiries (.live parts) line
  | made {parts : LiveSocket} {line : Line} (stage : parts.stage = .connected)
      (succeeded : line.handshake.Succeeded) :
      Awaited descriptor target inquiries (.live parts) line
  | refused {parts : LiveSocket} {line : Line} (stage : ¬parts.stage.IsConnection)
      (final : line.handshake = .closed ∨ ∃ errno, line.handshake = .failed errno)
      (reported : ∀ errno, line.handshake = .failed errno → inquiries.Reported errno target) :
      Awaited descriptor target inquiries (.live parts) line

namespace Socket

/-- Asking for the pending error takes it away. -/
theorem runs_takeError {outcome : Except Failure Reply} (names : parts.descriptor = descriptor)
    (run : ((live parts).perform (.readOption .pendingError)).Runs (Line.Answers descriptor) line
      (outcome, later) after) :
    ∃ moment, line.Moves moment ∧ after = moment.cleared ∧ later = live parts ∧
      outcome = .ok (.pending (if moment.unread ≠ 0 then some ⟨moment.unread⟩ else none)) := by
  subst names
  rw [perform_eq] at run
  obtain ⟨reply, between, answered, rest⟩ := run
  obtain ⟨moment, moves, rfl, rfl⟩ := Line.answers_error.mp answered
  obtain ⟨⟨⟩, rfl⟩ := rest
  exact ⟨moment, moves, rfl, rfl, rfl⟩

/-- Finishing a pending connection reports the pending error if there is one, and else whether
the connection is made a moment later. -/
theorem runs_finishConnect {outcome : Except Failure Reply} (names : parts.descriptor = descriptor)
    (pending : parts.stage = .connecting target)
    (run : ((live parts).perform .finishConnect).Runs (Line.Answers descriptor) line
      (outcome, later) after) :
    ∃ moment, line.Moves moment ∧
      (moment.unread ≠ 0 ∧ after = moment.cleared ∧
        outcome = .error (.fault (.connectFailed ⟨moment.unread⟩ target.toText)) ∧
        later = live { parts with stage := .fresh } ∨
      moment.unread = 0 ∧ moment.Moves after ∧
        (after.handshake = .made ∧ outcome = .ok (.truth true) ∧
            later = live { parts with stage := .connected } ∨
          after.handshake ≠ .made ∧ outcome = .ok (.truth false) ∧ later = live parts)) := by
  subst names
  rw [perform_eq] at run
  obtain ⟨tried, ran, rfl⟩ := runs_replying.mp run
  cases finishing_of_runs pending ran with
  | unread asked =>
      obtain ⟨moment, moves, impossible, -⟩ := Line.answers_error.mp asked
      cases impossible
  | refused asked failed =>
      obtain ⟨moment, moves, ⟨⟩, rfl⟩ := Line.answers_error.mp asked
      exact ⟨moment, moves, .inl ⟨failed, rfl, rfl, rfl⟩⟩
  | made asked named =>
      obtain ⟨moment, moves, clear, rfl⟩ := Line.answers_error.mp asked
      have clear : moment.unread = 0 := (Except.ok.inj clear).symm
      rw [Line.cleared_eq clear] at named
      obtain ⟨onward, ⟨-, made⟩ | ⟨impossible, -⟩⟩ := Line.answers_peerName.mp named
      · exact ⟨moment, moves, .inr ⟨clear, onward, .inl ⟨made, rfl, rfl⟩⟩⟩
      · cases impossible
  | underway asked named =>
      obtain ⟨moment, moves, clear, rfl⟩ := Line.answers_error.mp asked
      have clear : moment.unread = 0 := (Except.ok.inj clear).symm
      rw [Line.cleared_eq clear] at named
      obtain ⟨onward, ⟨⟨name, impossible⟩, -⟩ | ⟨-, unmade⟩⟩ := Line.answers_peerName.mp named
      · cases impossible
      · exact ⟨moment, moves, .inr ⟨clear, onward, .inr ⟨unmade, rfl, rfl⟩⟩⟩
  | unnamed asked named other =>
      obtain ⟨-, ⟨⟨name, impossible⟩, -⟩ | ⟨same, -⟩⟩ := Line.answers_peerName.mp named
      · cases impossible
      · exact absurd (Except.error.inj same) other

/-- The commands of a wait leave a socket its descriptor and its stage, but for one that is told
to listen, and for the pending connection that is finished. -/
theorem Turned.of_waits {hand last : List Hold}
    (turned : Turned (live parts) hand command later last) (waits : command.Waits)
    (settled : command = .finishConnect → ∀ target, parts.stage ≠ .connecting target) :
    ∃ parts', later = live parts' ∧ parts'.descriptor = parts.descriptor ∧
      (parts'.stage = parts.stage ∨ parts.stage = .fresh ∧ parts'.stage = .listening) := by
  cases turned with
  | kept | bound => exact ⟨_, rfl, rfl, .inl rfl⟩
  | listening fresh => exact ⟨_, rfl, rfl, .inr ⟨fresh, rfl⟩⟩
  | connected connects =>
      cases command with
      | connect | connectEndpoint => exact waits.elim
      | _ => exact connects.elim
  | finished pending | refused pending => exact absurd pending (settled rfl _)
  | @shut parts hold half =>
      exact ⟨_, rfl, parts.descriptor_shut half, .inl (parts.stage_shut half)⟩
  | closed => exact waits.elim

end Socket

namespace Awaited

variable {outcome : Except Failure Reply}

theorem moves (awaited : Awaited descriptor target inquiries socket line)
    (moves : line.Moves moment) : Awaited descriptor target inquiries socket moment := by
  cases awaited with
  | pending names stage known => exact .pending names stage (known.moves moves)
  | made stage succeeded => exact .made stage (moves.leads.succeeded succeeded)
  | refused stage final reported =>
      have same := moves.leads.eq_of_final final
      exact .refused stage (same ▸ final) (same ▸ reported)

/-- A pending connection is finished. -/
theorem finished (names : parts.descriptor = descriptor) (stage : parts.stage = .connecting target)
    (known : line.Known inquiries)
    (run : ((Socket.live parts).perform .finishConnect).Runs (Line.Answers descriptor) line
      (outcome, later) after) :
    Awaited descriptor target (inquiries ++ [(.finishConnect, outcome)]) later after := by
  obtain ⟨moment, moves, ⟨unread, rfl, rfl, rfl⟩ |
    ⟨-, onward, ⟨made, -, rfl⟩ | ⟨-, -, rfl⟩⟩⟩ := Socket.runs_finishConnect names stage run
  · have blamed := (known.moves moves).blames unread
    refine .refused id (blamed.imp_right fun failed => ⟨_, failed⟩) ?_
    intro errno failed
    rw [(known.moves moves).errno_eq failed unread]
    exact List.mem_append_right _ List.mem_cons_self
  · exact .made rfl (made ▸ trivial)
  · exact .pending names stage (((known.moves moves).moves onward).snoc _)

/-- A command that asks nothing of a pending connection leaves it pending. -/
theorem left_pending (names : parts.descriptor = descriptor)
    (stage : parts.stage = .connecting target) (known : line.Known inquiries)
    (waits : command.Waits) (other : ¬command.Inquires)
    (run : ((Socket.live parts).perform command).Runs (Line.Answers descriptor) line
      (outcome, later) after) :
    Awaited descriptor target (inquiries ++ [(command, outcome)]) later after := by
  obtain ⟨hand, last, turned⟩ := Socket.turned_of_runs run
  obtain ⟨parts', rfl, same, kept | ⟨fresh, -⟩⟩ :=
    turned.of_waits waits fun finishes => absurd (.inl finishes) other
  · have moves := Line.moves_of_runs (Socket.blind_perform stage waits other) run
    exact .pending (same.trans names) (kept.trans stage) ((known.moves moves).snoc _)
  · cases stage.symm.trans fresh

/-- What is so of a wait, one more command preserves. -/
theorem asked (awaited : Awaited descriptor target inquiries socket line) (waits : command.Waits)
    (run : (socket.perform command).Runs (Line.Answers descriptor) line (outcome, later) after) :
    Awaited descriptor target (inquiries ++ [(command, outcome)]) later after := by
  have leads := Line.leads_of_runs run
  cases awaited with
  | pending names stage known =>
      by_cases inquires : command.Inquires
      · rcases inquires with rfl | rfl
        · exact finished names stage known run
        · obtain ⟨moment, moves, rfl, rfl, rfl⟩ := Socket.runs_takeError names run
          exact .pending names stage (known.moves moves).taken
      · exact left_pending names stage known waits inquires run
  | made stage succeeded =>
      obtain ⟨hand, last, turned⟩ := Socket.turned_of_runs run
      obtain ⟨parts', rfl, -, kept | ⟨fresh, -⟩⟩ :=
        turned.of_waits waits fun _ target pending => by cases stage.symm.trans pending
      · exact .made (kept.trans stage) (leads.succeeded succeeded)
      · cases stage.symm.trans fresh
  | refused stage final reported =>
      obtain ⟨hand, last, turned⟩ := Socket.turned_of_runs run
      obtain ⟨parts', rfl, -, kept⟩ :=
        turned.of_waits waits fun _ target pending => stage (pending ▸ trivial)
      -- A refused socket may become a listener, and no command of a wait connects it again.
      have still : ¬parts'.stage.IsConnection := by
        rcases kept with same | ⟨-, listens⟩
        · rwa [same]
        · rw [listens]
          exact id
      have same := leads.eq_of_final final
      exact .refused still (same ▸ final) fun errno failed =>
        List.mem_append_left _ (reported errno (same ▸ failed))

end Awaited

/-- What is so of every wait. -/
theorem Waiting.awaited (wait : Waiting descriptor (.live parts) inquiries socket line)
    (names : parts.descriptor = descriptor) (pending : parts.stage = .connecting target) :
    Awaited descriptor target inquiries socket line := by
  generalize start : Socket.live parts = begun at wait
  induction wait with
  | begun =>
      subst start
      exact .pending names pending .of_begun
  | moved _ moves ih => exact ih.moves moves
  | asked _ waits run ih => exact ih.asked waits run

/-- A finished connection is told of as the handshake has come out, as far as the pending error
has not been read by another.  "Not yet" is said of a handshake that is underway, of a connection
that has ended, and of a failure that somebody else has read; "yes" is said of a connection that
has been made.  A failure is reported by the first who finishes the connection, after which the
socket may connect again, or has been read by another, after which it is never reported. -/
theorem finished_connection_follows_handshake
    (pending : parts.stage = .connecting target)
    (wait : Waiting parts.descriptor (.live parts) inquiries socket line)
    {outcome : Except Failure Reply}
    (run : (socket.perform .finishConnect).Runs (Line.Answers parts.descriptor) line
      (outcome, later) after) :
    (outcome = .ok (.truth false) →
      line.handshake = .underway ∨ after.handshake = .closed ∨
        ∃ errno, line.handshake = .failed errno ∧ inquiries.Took errno) ∧
    (outcome = .ok (.truth true) → after.handshake.Succeeded) ∧
    ∀ errno, line.handshake = .failed errno →
      inquiries.Reported errno target ∨
      (outcome = .error (.fault (.connectFailed errno target.toText)) ∧
        socket.Refused (.fault (.connectFailed errno target.toText)) later) ∨
      inquiries.Took errno ∧ outcome = .ok (.truth false) ∧ later = socket := by
  cases wait.awaited rfl pending with
  | pending names stage known =>
      obtain ⟨moment, moves, ⟨unread, rfl, rfl, rfl⟩ | ⟨clear, onward, verdict⟩⟩ :=
        Socket.runs_finishConnect names stage run
      · refine ⟨by rintro ⟨⟩, by rintro ⟨⟩, fun errno failed => .inr (.inl ?_)⟩
        obtain rfl := moves.eq_of_failed failed
        rw [known.errno_eq failed unread]
        exact ⟨rfl, Socket.refused_fresh _ stage⟩
      · have leads := Line.Moves.leads (moves.trans onward)
        -- With no error pending, whatever failed before has been read by another.
        have spent : ∀ errno, line.handshake = .failed errno → inquiries.Took errno := by
          intro errno failed
          obtain rfl := moves.eq_of_failed failed
          exact known.spent errno failed clear
        rcases verdict with ⟨made, rfl, rfl⟩ | ⟨unmade, rfl, rfl⟩
        · refine ⟨by rintro ⟨⟩, fun _ => made ▸ trivial, fun errno failed => ?_⟩
          cases made.symm.trans ((leads.eq_of_final (.inr ⟨errno, failed⟩)).trans failed)
        · refine ⟨fun _ => ?_, by rintro ⟨⟩,
            fun errno failed => .inr (.inr ⟨spent errno failed, rfl, rfl⟩)⟩
          rcases leads.of_unmade unmade with underway | closed | ⟨errno, failed⟩
          · exact .inl underway
          · exact .inr (.inl closed)
          · exact .inr (.inr ⟨errno, failed, spent errno failed⟩)
  | made stage succeeded =>
      simp only [Socket.perform_eq, Socket.respond, Socket.finishConnect_eq, stage] at run
      obtain ⟨⟨⟩, rfl⟩ := run
      refine ⟨by rintro ⟨⟩, fun _ => succeeded, fun errno failed => ?_⟩
      rw [failed] at succeeded
      exact succeeded.elim
  | @refused parts line stage final reported =>
      have failing : ∃ fault, outcome = .error fault := by
        cases shown : parts.stage with
        | connected | connecting =>
            rw [shown] at stage
            exact absurd trivial stage
        | fresh | listening =>
            simp only [Socket.perform_eq, Socket.respond, Socket.finishConnect_eq, shown] at run
            obtain ⟨⟨⟩, -⟩ := run
            exact ⟨_, rfl⟩
      obtain ⟨fault, rfl⟩ := failing
      exact ⟨by rintro ⟨⟩, by rintro ⟨⟩, fun errno failed => .inl (reported errno failed)⟩

/-- A bound stream on its way to a port of the host itself. -/
def LiveSocket.underway : LiveSocket :=
  ⟨⟨3⟩, .tcp4, true, false, false, .connecting (.new .loopbackV4 80)⟩

def readRefusal : Inquiries :=
  [(.readOption .pendingError, .ok (.pending (some .connectionRefused)))]

/-- A connection is refused, the pending error is read, and the connection is "not yet" made. -/
theorem refusal_read_by_another_is_not_reported :
    ∃ line after,
      Waiting ⟨3⟩ (.live .underway) readRefusal (.live .underway) line ∧
      line.handshake = .failed .connectionRefused ∧
      ¬readRefusal.Reported .connectionRefused (.new .loopbackV4 80) ∧
      ((Socket.live .underway).perform .finishConnect).Runs (Line.Answers ⟨3⟩) line
        (.ok (.truth false), .live .underway) after ∧
      readRefusal.Took .connectionRefused := by
  have refused : Line.begun.Moves ⟨.failed .connectionRefused, 111⟩ :=
    .single (.fails (by decide))
  have read : ((Socket.live .underway).perform (.readOption .pendingError)).Runs
      (Line.Answers ⟨3⟩) ⟨.failed .connectionRefused, 111⟩
      (.ok (.pending (some .connectionRefused)), .live .underway)
      ⟨.failed .connectionRefused, 0⟩ :=
    ⟨.ok 111, _, Line.answers_error.mpr ⟨_, .refl, rfl, rfl⟩, rfl, rfl⟩
  have finished : ((Socket.live .underway).perform .finishConnect).Runs (Line.Answers ⟨3⟩)
      ⟨.failed .connectionRefused, 0⟩ (.ok (.truth false), .live .underway)
      ⟨.failed .connectionRefused, 0⟩ :=
    ⟨.ok 0, _, Line.answers_error.mpr ⟨_, .refl, rfl, rfl⟩,
      .error .notConnected, _, Line.answers_peerName.mpr ⟨.refl, .inr ⟨rfl, nofun⟩⟩, rfl, rfl⟩
  have wait : Waiting ⟨3⟩ (.live .underway) readRefusal (.live .underway)
      ⟨.failed .connectionRefused, 0⟩ :=
    (Waiting.begun.moved refused).asked (by trivial) read
  have unreported : ¬readRefusal.Reported .connectionRefused (.new .loopbackV4 80) := by
    simp [readRefusal, Inquiries.Reported]
  obtain ⟨-, -, failure⟩ :=
    finished_connection_follows_handshake (rfl : LiveSocket.underway.stage = _) wait finished
  rcases failure _ rfl with reported | ⟨impossible, -⟩ | ⟨took, -, -⟩
  · exact absurd reported unreported
  · cases impossible
  · exact ⟨_, _, wait, rfl, unreported, finished, took⟩

end SocketReactor
