import SocketReactor.Proofs.Host.Runs

/-!
# What attempts yield

`Attempt.Yields` bounds what an attempt gives and how it fails, whatever the host replies
and whichever calls are made.
-/

namespace SocketReactor

variable {σ α β : Type} {answers : Answering σ} {state after : σ}

namespace Program

theorem ensures_anything (program : Program α) :
    program.Ensures (fun _ => True) fun _ => True := by
  induction program with
  | done value => trivial
  | ask call _ ih => exact ⟨trivial, ih⟩

/-- What a program of certain calls ensures, it ensures as one of any calls. -/
theorem Ensures.freely {allowed : Call → Prop} {post : α → Prop} {program : Program α}
    (ensures : program.Ensures allowed post) : program.Ensures (fun _ => True) post :=
  ensures.allows fun _ _ => trivial

end Program

namespace Attempt

def Right (post : α → Prop) (failed : Fault → Prop) : Except Fault α → Prop
  | .ok value => post value
  | .error fault => failed fault

def Yields (post : α → Prop) (failed : Fault → Prop) (attempt : Attempt α) : Prop :=
  attempt.run.Ensures (fun _ => True) (Right post failed)

variable {post : α → Prop} {failed : Fault → Prop}

theorem yields_pure {value : α} (right : post value) :
    (pure value : Attempt α).Yields post failed := right

theorem yields_throw {fault : Fault} (right : failed fault) :
    (throw fault : Attempt α).Yields post failed := right

theorem yields_ofExcept {outcome : Except Fault α}
    (right : ∀ value, outcome = .ok value → post value)
    (otherwise : ∀ fault, outcome = .error fault → failed fault) :
    (ofExcept outcome).Yields post failed := by
  cases outcome with
  | ok value => exact right value rfl
  | error fault => exact otherwise fault rfl

theorem yields_ofExcept_ok {outcome : Except Fault α} {value : α} (known : outcome = .ok value) :
    (ofExcept outcome).Yields (· = value) failed := by
  subst known
  exact yields_pure rfl

theorem yields_ofCall {call : Program (Except Errno α)} {fault : Errno → Fault}
    (otherwise : ∀ errno, failed (fault errno)) :
    (ofCall call fault).Yields (fun _ => True) failed := by
  refine call.ensures_anything.bind ?_
  intro outcome _
  cases outcome with
  | ok value => trivial
  | error errno => exact otherwise errno

/-- A request to the host does not fail by itself. -/
theorem yields_request (call : Call) :
    (ofProgram (Program.request call)).Yields (fun _ => True) failed :=
  (Program.ensures_anything _).bind fun _ right => right

theorem yields_ofProgram {program : Program α} (ensures : program.Ensures (fun _ => True) post) :
    (ofProgram program).Yields post failed :=
  ensures.bind fun _ right => right

theorem yields_anything (attempt : Attempt α) :
    attempt.Yields (fun _ => True) fun _ => True := by
  refine attempt.run.ensures_anything.mono ?_
  intro outcome _
  cases outcome <;> trivial

theorem Yields.mono {other : α → Prop} {attempt : Attempt α} (yields : attempt.Yields post failed)
    (weaker : ∀ value, post value → other value) : attempt.Yields other failed := by
  refine Program.Ensures.mono yields ?_
  intro outcome right
  cases outcome with
  | ok value => exact weaker value right
  | error fault => exact right

theorem Yields.bind {middle : α → Prop} {post : β → Prop} {first : Attempt α}
    {next : α → Attempt β} (head : first.Yields middle failed)
    (rest : ∀ value, middle value → (next value).Yields post failed) :
    (first >>= next).Yields post failed := by
  refine Program.Ensures.bind head ?_
  intro outcome right
  cases outcome with
  | ok value => exact rest value right
  | error fault => exact right

theorem Yields.map {post : β → Prop} {attempt : Attempt α} {change : α → β}
    (yields : attempt.Yields (fun value => post (change value)) failed) :
    (change <$> attempt).Yields post failed := by
  rw [map_eq_pure_bind]
  exact yields.bind fun _ right => right

/-- What an attempt yields comes out of every run. -/
theorem Yields.of_runs {attempt : Attempt α} {outcome : Except Fault α}
    (yields : attempt.Yields post failed)
    (run : attempt.run.Runs answers state outcome after) :
    (∀ value, outcome = .ok value → post value) ∧ ∀ fault, outcome = .error fault → failed fault := by
  have right := Program.Ensures.of_runs yields run
  constructor
  · rintro value rfl
    exact right
  · rintro fault rfl
    exact right

/-- An attempt has a value if both of its parts have one. -/
theorem runs_bind_ok {first : Attempt α} {next : α → Attempt β} {value : β} :
    (first >>= next).run.Runs answers state (.ok value) after ↔
      ∃ middle between, first.run.Runs answers state (.ok middle) between ∧
        (next middle).run.Runs answers between (.ok value) after := by
  rw [runs_bind]
  constructor
  · rintro (⟨fault, -, impossible⟩ | goes_on)
    · cases impossible
    · exact goes_on
  · exact .inr

/-- An attempt that begins with a call goes on with the reply. -/
theorem runs_request_bind {call : Call} {next : call.Reply → Attempt α} {outcome : Except Fault α} :
    (ofProgram (Program.request call) >>= next).run.Runs answers state outcome after ↔
      ∃ reply between, answers call state reply between ∧
        (next reply).run.Runs answers between outcome after := Iff.rfl

/-- An attempt that begins with a value goes on with it. -/
theorem runs_ofExcept_ok_bind {value : β} {next : β → Attempt α} {outcome : Except Fault α} :
    (ofExcept (.ok value) >>= next).run.Runs answers state outcome after ↔
      (next value).run.Runs answers state outcome after := Iff.rfl

theorem runs_ofProgram_ok {program : Program α} {value : α} :
    (ofProgram program).run.Runs answers state (.ok value) after ↔
      program.Runs answers state value after := by
  constructor
  · intro run
    obtain ⟨given, between, ran, same, rfl⟩ := Program.runs_bind.mp run
    cases same
    exact ran
  · intro ran
    exact Program.runs_bind.mpr ⟨value, after, ran, rfl, rfl⟩

/-- A call fails with the fault of its error number. -/
theorem runs_ofCall {program : Program (Except Errno α)} {fault : Errno → Fault}
    {outcome : Except Fault α} :
    (ofCall program fault).run.Runs answers state outcome after ↔
      ∃ reply, program.Runs answers state reply after ∧ outcome = reply.mapError fault := by
  constructor
  · intro run
    obtain ⟨reply, between, called, given⟩ := Program.runs_bind.mp run
    cases reply with
    | ok value =>
        obtain ⟨rfl, rfl⟩ := given
        exact ⟨_, called, rfl⟩
    | error errno =>
        obtain ⟨rfl, rfl⟩ := given
        exact ⟨_, called, rfl⟩
  · rintro ⟨reply, called, rfl⟩
    refine Program.runs_bind.mpr ⟨reply, after, called, ?_⟩
    cases reply <;> exact ⟨rfl, rfl⟩

/-- A call has a value if it was answered with one. -/
theorem runs_ofCall_ok {program : Program (Except Errno α)} {fault : Errno → Fault} {value : α} :
    (ofCall program fault).run.Runs answers state (.ok value) after ↔
      program.Runs answers state (.ok value) after := by
  rw [runs_ofCall]
  constructor
  · rintro ⟨reply, called, same⟩
    cases reply with
    | ok given =>
        cases same
        exact called
    | error errno => cases same
  · intro called
    exact ⟨.ok value, called, rfl⟩

/-- What is made of the value of a call comes out of it, unless it fails. -/
theorem runs_ofCall_map {program : Program (Except Errno α)} {fault : Errno → Fault}
    {change : α → β} {outcome : Except Fault β} :
    (do let value ← ofCall program fault; return change value : Attempt β).run.Runs answers state
        outcome after ↔
      ∃ reply, program.Runs answers state reply after ∧
        outcome = (reply.mapError fault).map change := by
  constructor
  · intro run
    rcases runs_bind.mp run with ⟨failed, called, rfl⟩ | ⟨value, between, called, rfl, rfl⟩
    · obtain ⟨reply, answered, same⟩ := runs_ofCall.mp called
      exact ⟨reply, answered, congrArg (Except.map change) same⟩
    · exact ⟨.ok value, runs_ofCall_ok.mp called, rfl⟩
  · rintro ⟨reply, called, rfl⟩
    refine runs_bind.mpr ?_
    cases reply with
    | ok value => exact .inr ⟨value, after, runs_ofCall_ok.mpr called, rfl, rfl⟩
    | error errno => exact .inl ⟨fault errno, runs_ofCall.mpr ⟨_, called, rfl⟩, rfl⟩

end Attempt

end SocketReactor
