import SocketReactor.Proofs.Socket.Standing

/-!
# Finishing a connection

Finishing a connection asks the host for the pending error of the descriptor and then, unless
there is one, for the peer.  `Finishing` has one case for each pair of replies.
-/

namespace SocketReactor

variable {σ α : Type} {answers : Answering σ} {state after : σ}

namespace Socket

variable {socket later : Socket} {parts : LiveSocket} {target : Endpoint}

/-- What finishing a connection to a target gives and leaves, by what the host replies. -/
inductive Finishing (answers : Answering σ) (parts : LiveSocket) (target : Endpoint) (state : σ) :
    Except Fault Bool → Socket → σ → Prop where
  /-- The pending error cannot be read. -/
  | unread {errno : Errno} {after : σ}
      (asked : answers (.intOption parts.descriptor .error) state (.error errno) after) :
      Finishing answers parts target state
        (.error (.getOptionFailed errno IntOption.error.name)) (live parts) after
  /-- There is a pending error. -/
  | refused {number : Int32} {after : σ}
      (asked : answers (.intOption parts.descriptor .error) state (.ok number) after)
      (failed : number ≠ 0) :
      Finishing answers parts target state
        (.error (.connectFailed ⟨number⟩ target.toText)) (live { parts with stage := .fresh }) after
  /-- There is a peer. -/
  | made {name : RawAddress} {between after : σ}
      (asked : answers (.intOption parts.descriptor .error) state (.ok 0) between)
      (named : answers (.peerName parts.descriptor) between (.ok name) after) :
      Finishing answers parts target state (.ok true) (live { parts with stage := .connected })
        after
  /-- There is neither an error nor a peer. -/
  | underway {between after : σ}
      (asked : answers (.intOption parts.descriptor .error) state (.ok 0) between)
      (named : answers (.peerName parts.descriptor) between (.error .notConnected) after) :
      Finishing answers parts target state (.ok false) (live parts) after
  /-- The peer cannot be read. -/
  | unnamed {errno : Errno} {between after : σ}
      (asked : answers (.intOption parts.descriptor .error) state (.ok 0) between)
      (named : answers (.peerName parts.descriptor) between (.error errno) after)
      (other : errno ≠ .notConnected) :
      Finishing answers parts target state
        (.error (.transferFailed errno "getpeername")) (live parts) after

theorem finishing_of_runs (pending : parts.stage = .connecting target)
    {outcome : Except Fault Bool}
    (run : (live parts).finishConnect.Runs answers state (outcome, later) after) :
    Finishing answers parts target state outcome later after := by
  simp only [finishConnect_eq, pending] at run
  obtain ⟨reply, between, asked, rest⟩ := run
  cases reply with
  | error errno =>
      obtain ⟨⟨⟩, rfl⟩ := rest
      exact .unread asked
  | ok number =>
      change Program.Runs answers (if number ≠ 0 then _ else _) _ _ _ at rest
      by_cases failed : number ≠ 0
      · rw [if_pos failed] at rest
        obtain ⟨⟨⟩, rfl⟩ := rest
        exact .refused asked failed
      · obtain rfl : number = 0 := Decidable.not_not.mp failed
        rw [if_neg failed] at rest
        obtain ⟨answer, last, named, rest⟩ := rest
        cases answer with
        | ok name =>
            obtain ⟨⟨⟩, rfl⟩ := rest
            exact .made asked named
        | error errno =>
            change Program.Runs answers (if errno = .notConnected then _ else _) _ _ _ at rest
            by_cases unconnected : errno = .notConnected
            · subst unconnected
              rw [if_pos rfl] at rest
              obtain ⟨⟨⟩, rfl⟩ := rest
              exact .underway asked named
            · rw [if_neg unconnected] at rest
              obtain ⟨⟨⟩, rfl⟩ := rest
              exact .unnamed asked named unconnected

/-! ## Refused connections -/

/-- A pending connection was refused: the failure tells the error number and the endpoint, the
socket may connect again, and all else of it is as it was. -/
structure Refused (socket : Socket) (failure : Failure) (later : Socket) : Prop where
  tells : ∃ errno target, socket.target? = some target ∧
    failure = .fault (.connectFailed errno target.toText)
  state : later.state = .created
  target : later.target? = none
  descriptor : later.owned? = socket.owned?
  protocol : later.protocol? = socket.protocol?
  bound : later.isBound = socket.isBound
  listening : later.isListening = socket.isListening
  halves : ∀ half, later.isShut half = socket.isShut half

theorem refused_fresh {parts : LiveSocket} {target : Endpoint} (errno : Errno)
    (pending : parts.stage = .connecting target) :
    (live parts).Refused (.fault (.connectFailed errno target.toText))
      (live { parts with stage := .fresh }) where
  tells := ⟨errno, target, by simp [target?, live?, pending], rfl⟩
  state := rfl
  target := rfl
  descriptor := rfl
  protocol := rfl
  bound := rfl
  listening := by simp [isListening, live?, pending]
  halves := fun half => by cases half <;> rfl

end Socket

end SocketReactor
