import SocketReactor.Owner.Recipe
import SocketReactor.Proofs.Socket.Running

/-!
# Where channels come from

A channel is opened, taken from a listening channel, or made of a stream.  On each of these ways
its socket is told last of all that its calls do not wait.
-/

namespace SocketReactor

variable {σ : Type} {answers : Answering σ} {state after : σ} {use : Use} {socket : Socket}
  {channel : Channel}

/-- What has happened last is that the socket was told that its calls do not wait. -/
def Socket.Prompted (answers : Answering σ) (socket : Socket) (after : σ) : Prop :=
  ∃ before, (socket.setNonblocking true).run.Runs answers before (.ok ()) after

theorem Channel.prompted_of_runs
    (run : (Channel.ofSocket use socket).run.Runs answers state (.ok channel) after) :
    channel = ⟨use, socket, none⟩ ∧ socket.Prompted answers after := by
  obtain ⟨⟨⟨⟩, settled⟩, between, told, same, rfl⟩ := Attempt.runs_bind_ok.mp run
  cases same
  obtain ⟨attempted, -⟩ := Socket.runs_observe.mp (Socket.runs_orDiscard_ok.mp told)
  exact ⟨rfl, _, attempted⟩

/-- A channel that is opened. -/
theorem Recipe.prompted_of_runs {recipe : Recipe}
    (run : recipe.make.run.Runs answers state (.ok (.watchable channel)) after) :
    channel.socket.Prompted answers after := by
  cases recipe with
  | emptyHandle => cases run.1
  | handle | typed | server | serverAt | stream | connected | datagram =>
      obtain ⟨socket, -, impossible⟩ := Attempt.runs_map_ok.mp run
      cases impossible
  | channel use protocol =>
      obtain ⟨socket, between, -, rest⟩ := Attempt.runs_bind_ok.mp run
      obtain ⟨made, last, wrapped, same, rfl⟩ := Attempt.runs_bind_ok.mp rest
      cases same
      obtain ⟨rfl, prompted⟩ := Channel.prompted_of_runs wrapped
      exact prompted

/-- A channel that is taken from a listening one. -/
theorem Owner.prompted_of_runs {listener : Owner} {peer : Endpoint}
    (run : listener.accept.run.Runs answers state (.ok (.accepted (.watchable channel) peer))
      after) : channel.socket.Prompted answers after := by
  obtain ⟨⟨taken, settled⟩, between, -, rest⟩ := Attempt.runs_bind_ok.mp run
  rcases taken with fault | ⟨connection, endpoint⟩ | - | -
  · cases rest.1
  · obtain ⟨owner, last, wrapped, same, rfl⟩ := Attempt.runs_bind_ok.mp rest
    cases same
    cases listener with
    | handle | typed =>
        obtain ⟨same, -⟩ := wrapped
        cases same
    | watchable =>
        obtain ⟨made, wrapped, same⟩ := Attempt.runs_map_ok.mp wrapped
        cases same
        obtain ⟨rfl, prompted⟩ := Channel.prompted_of_runs wrapped
        exact prompted
  · cases rest.1
  · cases rest.1

end SocketReactor
