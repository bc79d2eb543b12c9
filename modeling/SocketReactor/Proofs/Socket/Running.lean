import SocketReactor.Proofs.Host.Yields
import SocketReactor.Proofs.Socket.Outline

/-!
# Runs of the steps of a socket

How the steps run that operations are put together from: giving the result of a step as a reply,
keeping the socket if an attempt fails, and closing a socket that nobody else has.
-/

namespace SocketReactor

variable {σ α β : Type} {answers : Answering σ} {state after : σ}

theorem Attempt.runs_map_ok {change : α → β} {attempt : Attempt α} {value : β} :
    (change <$> attempt).run.Runs answers state (.ok value) after ↔
      ∃ given, attempt.run.Runs answers state (.ok given) after ∧ value = change given := by
  rw [map_eq_pure_bind, runs_bind_ok]
  constructor
  · rintro ⟨given, between, made, same, rfl⟩
    exact ⟨given, made, Except.ok.inj same⟩
  · rintro ⟨given, made, rfl⟩
    exact ⟨given, after, made, rfl, rfl⟩

namespace Socket

variable {socket later : Socket}

/-- A step whose result is given as a reply runs as the step does. -/
theorem runs_replying {reply : α → Reply} {step : Program (Except Fault α × Socket)}
    {outcome : Except Failure Reply} :
    (replying reply step).Runs answers state (outcome, later) after ↔
      ∃ tried, step.Runs answers state (tried, later) after ∧
        outcome = (tried.map reply).mapError .fault := by
  constructor
  · intro run
    obtain ⟨⟨tried, settled⟩, between, made, same, rfl⟩ := Program.runs_bind.mp run
    cases same
    exact ⟨tried, made, rfl⟩
  · rintro ⟨tried, made, rfl⟩
    exact Program.runs_bind.mpr ⟨_, _, made, rfl, rfl⟩

/-- An operation that keeps the socket if the attempt fails leaves what the attempt makes. -/
theorem runs_commit {attempt : Attempt (α × Socket)} {tried : Except Fault α} :
    (socket.commit attempt).Runs answers state (tried, later) after ↔
      ∃ made, attempt.run.Runs answers state made after ∧ tried = made.map Prod.fst ∧
        later = (made.toOption.map Prod.snd).getD socket := by
  constructor
  · intro run
    obtain ⟨made, between, attempted, given⟩ := Program.runs_bind.mp run
    cases made <;>
    · obtain ⟨same, rfl⟩ := given
      cases same
      exact ⟨_, attempted, rfl, rfl⟩
  · rintro ⟨made, attempted, rfl, rfl⟩
    refine Program.runs_bind.mpr ⟨made, after, attempted, ?_⟩
    cases made <;> exact ⟨rfl, rfl⟩

theorem runs_commit_ok {attempt : Attempt (α × Socket)} {value : α} :
    (socket.commit attempt).Runs answers state (.ok value, later) after ↔
      attempt.run.Runs answers state (.ok (value, later)) after := by
  rw [runs_commit]
  constructor
  · rintro ⟨made, attempted, same, rfl⟩
    cases made with
    | ok result =>
        cases same
        exact attempted
    | error fault => cases same
  · intro attempted
    exact ⟨_, attempted, rfl, rfl⟩

theorem runs_observe {attempt : Attempt α} {outcome : Except Fault α} :
    (socket.observe attempt).Runs answers state (outcome, later) after ↔
      attempt.run.Runs answers state outcome after ∧ later = socket := by
  constructor
  · intro run
    obtain ⟨made, between, attempted, same, rfl⟩ := Program.runs_bind.mp run
    cases same
    exact ⟨attempted, rfl⟩
  · rintro ⟨attempted, rfl⟩
    exact Program.runs_bind.mpr ⟨_, _, attempted, rfl, rfl⟩

/-- A step that is carried out on a new socket has a value if it succeeds. -/
theorem runs_orDiscard_ok {step : Program (Except Fault α × Socket)} {result : α × Socket} :
    (orDiscard step).run.Runs answers state (.ok result) after ↔
      step.Runs answers state (.ok result.1, result.2) after := by
  constructor
  · intro run
    obtain ⟨⟨outcome, socket⟩, between, stepped, rest⟩ := Program.runs_bind.mp run
    cases outcome with
    | ok value =>
        obtain ⟨same, rfl⟩ := rest
        cases same
        exact stepped
    | error fault =>
        obtain ⟨⟨⟩, last, -, impossible, -⟩ := Program.runs_bind.mp rest
        cases impossible
  · intro stepped
    exact Program.runs_bind.mpr ⟨_, _, stepped, rfl, rfl⟩

end Socket

end SocketReactor
