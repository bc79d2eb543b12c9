import Mathlib.Control.Monad.Basic
import SocketReactor.Proofs.Handle.Turns

/-!
# What a failed command leaves

The fields of a handle are what they were after a command that fails, whatever they are
and whatever the host replies. There are two exceptions: a refused connection ends the
attempt to connect, and closing clears the fields before the host is asked.
-/

namespace SocketReactor

variable {σ : Type} {answers : Answering σ} {state after : σ}

namespace Handle

variable {handle later : Handle} {command : Command} {failure : Failure}

/-- The fields after a refused connection. -/
def refused (handle : Handle) : Handle := { handle with state := .created, target? := none }

theorem turned_of_runs {outcome : Except Failure Reply}
    (run : (handle.perform command).Runs answers state (outcome, later) after) :
    handle.Turned command outcome later := (handle.turned_perform command).of_runs run

/-- A command that fails leaves the fields, unless it closes or tells of a refused
connection. -/
theorem Turned.of_error (turned : handle.Turned command (.error failure) later) :
    later = handle ∨
    (command = .close ∧ later = handle.released) ∨
    command = .finishConnect ∧ (∃ errno endpoint, failure = .fault (.connectFailed errno endpoint)) ∧
      later = handle.refused := by
  cases turned with
  | kept keeps => exact .inl rfl
  | refused errno endpoint opening => exact .inr (.inr ⟨rfl, ⟨errno, endpoint, rfl⟩, rfl⟩)
  | released => exact .inr (.inl ⟨rfl, rfl⟩)

theorem Turned.of_close {outcome : Except Failure Reply}
    (turned : handle.Turned .close outcome later) : later = handle.released := by
  cases turned with
  | kept keeps => exact absurd rfl keeps
  | bound binds => exact binds.elim
  | connected connects | begun _ connects => exact connects.elim
  | released => rfl

end Handle

/-- A command that fails leaves all seven fields of the handle, whatever they are and whatever
the host replies. Finishing a connection may also fail by telling of a refused connection, with
the state and the target alone written; closing leaves after a failure what it leaves after a
success. A listener is only borrowed by accepting. -/
theorem failed_methods_leave_fields (handle : Handle) (answers : Answering σ) (state : σ) :
    (∀ command failure later after, command ≠ .finishConnect → command ≠ .close →
      (handle.perform command).Runs answers state (.error failure, later) after →
      later = handle) ∧
    (∀ fault later after, ((monadLift handle.accept : Handle.Method _).on handle).Runs answers
      state (.error fault, later) after → later = handle) ∧
    (∀ failure later after,
      (handle.perform .finishConnect).Runs answers state (.error failure, later) after →
      later = handle ∨
      (∃ errno endpoint, failure = .fault (.connectFailed errno endpoint)) ∧
        later = { handle with state := .created, target? := none }) ∧
    ∀ outcome later after, (handle.perform .close).Runs answers state (outcome, later) after →
      later = handle.released := by
  refine ⟨?_, ?_, ?_, fun _ _ _ run => (Handle.turned_of_runs run).of_close⟩
  · intro command failure later after goes_on keeps run
    rcases (Handle.turned_of_runs run).of_error with same | ⟨closes, -⟩ | ⟨finishes, -⟩
    · exact same
    · exact absurd closes keeps
    · exact absurd finishes goes_on
  · intro fault later after run
    have borrows : (monadLift handle.accept : Handle.Method _).Leaves (fun _ later => later = handle)
        handle := Handle.Method.leaves_attempt_last fun _ => rfl
    exact borrows.of_runs run
  · intro failure later after run
    rcases (Handle.turned_of_runs run).of_error with same | ⟨closes, -⟩ | ⟨-, told, mended⟩
    · exact .inl same
    · cases closes
    · exact .inr ⟨told, mended⟩

def sourReply : (call : Call) → Option call.Reply
  | .connect _ _ => some (.error .connectionRefused)
  | .intOption _ .error => some (.ok Errno.connectionRefused.code)
  | .close _ => some (.error .interrupted)
  | _ => none

/-- A host where connections are refused and closing is interrupted. -/
def sourHost : Program.Machine Unit := fun call _ => (sourReply call).map fun reply => (reply, ())

def Handle.ready : Handle := ⟨some ⟨3⟩, .created, 0, some .tcp4, true, false, none⟩

/-- A bound stream on its way to a port of the host itself. -/
def Handle.underway : Handle :=
  ⟨some ⟨3⟩, .opening, 0, some .tcp4, true, false, some (.new .loopbackV4 80)⟩

/-- A stream that is refused at once is as it was, one on its way may connect again, and a close
that fails ends both. -/
theorem refused_handles_are_left :
    ∃ kept mended closed,
      (Handle.ready.perform (.connectEndpoint (.new .loopbackV4 80))).run sourHost () =
        some ((.error (.fault (.connectFailed .connectionRefused "inet4://127.0.0.1:80")), kept),
          ()) ∧
      kept = .ready ∧
      (Handle.underway.perform .finishConnect).run sourHost () =
        some ((.error (.fault (.connectFailed .connectionRefused "inet4://127.0.0.1:80")),
          mended), ()) ∧
      mended = .ready ∧
      (Handle.underway.perform .close).run sourHost () =
        some ((.error (.fault (.closeFailed .interrupted)), closed), ()) ∧
      closed = ⟨none, .closed, 0, some .tcp4, false, false, none⟩ := by
  obtain ⟨spares, -⟩ := failed_methods_leave_fields .ready (.ofMachine sourHost) ()
  obtain ⟨-, -, finishes, closes⟩ :=
    failed_methods_leave_fields .underway (.ofMachine sourHost) ()
  have rejected : (Handle.ready.perform (.connectEndpoint (.new .loopbackV4 80))).run sourHost () =
      some ((.error (.fault (.connectFailed .connectionRefused "inet4://127.0.0.1:80")), .ready),
        ()) := by
    decide +kernel
  have refuses : (Handle.underway.perform .finishConnect).run sourHost () =
      some ((.error (.fault (.connectFailed .connectionRefused "inet4://127.0.0.1:80")), .ready),
        ()) := by
    decide +kernel
  have fails : (Handle.underway.perform .close).run sourHost () =
      some ((.error (.fault (.closeFailed .interrupted)),
        ⟨none, .closed, 0, some .tcp4, false, false, none⟩), ()) := by
    decide +kernel
  have kept := spares (.connectEndpoint (.new .loopbackV4 80)) _ _ _ nofun nofun
    (Program.runs_ofMachine.mpr rejected)
  have ended := closes _ _ _ (Program.runs_ofMachine.mpr fails)
  rcases finishes _ _ _ (Program.runs_ofMachine.mpr refuses) with same | ⟨-, mended⟩
  · exact absurd same (by decide)
  · exact ⟨_, _, _, rejected, kept, refuses, mended, fails, ended⟩

end SocketReactor
