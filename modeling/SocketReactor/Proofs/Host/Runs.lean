import SocketReactor.Host.Program

/-!
# Runs of programs

A host that may answer a call in more than one way is a relation between states.
`Program.Runs` says which results a program may have on such a host and which
states it may leave behind; a statement about every run is then a statement
about every answer.  `Program.Ensures` bounds the calls of a program and its
results, whatever the host replies.
-/

namespace SocketReactor

variable {α β σ τ : Type}

abbrev Answering (σ : Type) := (call : Call) → σ → call.Reply → σ → Prop

namespace Answering

def ofMachine (machine : Program.Machine σ) : Answering σ :=
  fun call state reply after => machine call state = some (reply, after)

end Answering

namespace Program

def Runs (answers : Answering σ) : Program α → σ → α → σ → Prop
  | done value, state, result, after => result = value ∧ after = state
  | ask call next, state, result, after =>
      ∃ reply between, answers call state reply between ∧
        (next reply).Runs answers between result after

/-- Every call that the program may make is allowed, and every result is as it should be. -/
def Ensures (allowed : Call → Prop) (post : α → Prop) : Program α → Prop
  | done value => post value
  | ask call next => allowed call ∧ ∀ reply, (next reply).Ensures allowed post

variable {answers : Answering σ} {allowed : Call → Prop}

@[simp] theorem runs_done {value result : α} {state after : σ} :
    (done value).Runs answers state result after ↔
      result = value ∧ after = state := Iff.rfl

@[simp] theorem runs_ask {call : Call} {next : call.Reply → Program α}
    {result : α} {state after : σ} :
    (ask call next).Runs answers state result after ↔
      ∃ reply between, answers call state reply between ∧
        (next reply).Runs answers between result after := Iff.rfl

@[simp] theorem runs_request {call : Call} {reply : call.Reply}
    {state after : σ} :
    (request call).Runs answers state reply after ↔
      answers call state reply after := by
  constructor
  · rintro ⟨given, between, answered, rfl, rfl⟩
    exact answered
  · intro answered
    exact ⟨reply, after, answered, rfl, rfl⟩

@[simp] theorem runs_bind {program : Program α} {next : α → Program β}
    {result : β} {state after : σ} :
    (program >>= next).Runs answers state result after ↔
      ∃ value between, program.Runs answers state value between ∧
        (next value).Runs answers between result after := by
  induction program generalizing state with
  | done value => simp [and_assoc]
  | ask call first ih =>
      simp only [ask_bind, runs_ask, ih]
      constructor
      · rintro ⟨reply, middle, answered, value, between, head, tail⟩
        exact ⟨value, between, ⟨reply, middle, answered, head⟩, tail⟩
      · rintro ⟨value, between, ⟨reply, middle, answered, head⟩, tail⟩
        exact ⟨reply, middle, answered, value, between, head, tail⟩

/-- A run carries over to every host that allows the answers through a view of the state. -/
theorem Runs.mono {other : Answering τ} (view : σ → τ) {program : Program α}
    {result : α} {state after : σ}
    (admits : ∀ call before reply later, answers call before reply later →
      other call (view before) reply (view later))
    (run : program.Runs answers state result after) :
    program.Runs other (view state) result (view after) := by
  induction program generalizing state with
  | done value =>
      obtain ⟨rfl, rfl⟩ := run
      exact ⟨rfl, rfl⟩
  | ask call next ih =>
      obtain ⟨reply, between, answered, rest⟩ := run
      exact ⟨reply, view between, admits _ _ _ _ answered, ih reply rest⟩

/-- On a state machine the runs are what `Program.run` gives. -/
theorem runs_ofMachine {machine : Machine σ} {program : Program α} {result : α}
    {state after : σ} :
    program.Runs (.ofMachine machine) state result after ↔
      program.run machine state = some (result, after) := by
  induction program generalizing state with
  | done value => simp [run, eq_comm]
  | ask call next ih =>
      simp only [runs_ask, run, Answering.ofMachine, ih]
      cases machine call state with
      | none => simp
      | some answered =>
          obtain ⟨reply, between⟩ := answered
          constructor
          · rintro ⟨given, later, same, rest⟩
            cases same
            exact rest
          · intro rest
            exact ⟨reply, between, rfl, rest⟩

theorem ensures_request {call : Call} {post : call.Reply → Prop} (permitted : allowed call)
    (right : ∀ reply, post reply) : (request call).Ensures allowed post := ⟨permitted, right⟩

theorem Ensures.mono {post other : α → Prop} {program : Program α}
    (ensures : program.Ensures allowed post) (weaker : ∀ value, post value → other value) :
    program.Ensures allowed other := by
  induction program with
  | done value => exact weaker value ensures
  | ask call _ ih => exact ⟨ensures.1, fun reply => ih reply (ensures.2 reply)⟩

theorem Ensures.allows {other : Call → Prop} {post : α → Prop} {program : Program α}
    (ensures : program.Ensures allowed post) (wider : ∀ call, allowed call → other call) :
    program.Ensures other post := by
  induction program with
  | done value => exact ensures
  | ask call _ ih => exact ⟨wider call ensures.1, fun reply => ih reply (ensures.2 reply)⟩

theorem Ensures.bind {middle : α → Prop} {post : β → Prop} {program : Program α}
    {next : α → Program β} (first : program.Ensures allowed middle)
    (rest : ∀ value, middle value → (next value).Ensures allowed post) :
    (program >>= next).Ensures allowed post := by
  induction program with
  | done value => exact rest value first
  | ask call _ ih => exact ⟨first.1, fun reply => ih reply (first.2 reply)⟩

/-- What no allowed call changes, a program of allowed calls does not change. -/
theorem Ensures.keeps (Kept : σ → σ → Prop) {post : α → Prop} {program : Program α}
    {result : α} {state after : σ} (refl : ∀ state, Kept state state)
    (trans : ∀ first middle last, Kept first middle → Kept middle last → Kept first last)
    (call_keeps : ∀ call before reply later, allowed call →
      answers call before reply later → Kept before later)
    (ensures : program.Ensures allowed post)
    (run : program.Runs answers state result after) : Kept state after ∧ post result := by
  induction program generalizing state with
  | done value =>
      obtain ⟨rfl, rfl⟩ := run
      exact ⟨refl _, ensures⟩
  | ask call next ih =>
      obtain ⟨reply, between, answered, rest⟩ := run
      obtain ⟨kept, right⟩ := ih reply (ensures.2 reply) rest
      exact ⟨trans _ _ _ (call_keeps _ _ _ _ ensures.1 answered) kept, right⟩

/-- What a program ensures comes out of every run. -/
theorem Ensures.of_runs {post : α → Prop} {program : Program α} {result : α} {state after : σ}
    (ensures : program.Ensures allowed post) (run : program.Runs answers state result after) :
    post result :=
  (ensures.keeps (fun _ _ => True) (fun _ => trivial) (fun _ _ _ _ _ => trivial)
    (fun _ _ _ _ _ _ => trivial) run).2

/-- What the allowed calls leave as it is, a program of such calls leaves as it is. -/
theorem Ensures.fixes {γ : Type} (view : σ → γ) {post : α → Prop} {program : Program α}
    {result : α} {state after : σ} (ensures : program.Ensures allowed post)
    (call_fixes : ∀ call before reply later, allowed call →
      answers call before reply later → view later = view before)
    (run : program.Runs answers state result after) : view after = view state :=
  (ensures.keeps (fun before later => view later = view before) (fun _ => rfl)
    (fun _ _ _ first rest => rest.trans first) call_fixes run).1

end Program

namespace Attempt

variable {answers : Answering σ} {state after : σ}

@[simp] theorem runs_ofExcept {outcome result : Except Fault α} :
    (ofExcept outcome).run.Runs answers state result after ↔
      result = outcome ∧ after = state := Iff.rfl

/-- An attempt ends with the first fault, or goes on with the value before it. -/
theorem runs_bind {first : Attempt α} {next : α → Attempt β}
    {result : Except Fault β} :
    (first >>= next).run.Runs answers state result after ↔
      (∃ fault, first.run.Runs answers state (.error fault) after ∧
        result = .error fault) ∨
      ∃ value between, first.run.Runs answers state (.ok value) between ∧
        (next value).run.Runs answers between result after := by
  rw [ExceptT.run_bind, Program.runs_bind]
  constructor
  · rintro ⟨outcome, between, head, tail⟩
    cases outcome with
    | error fault =>
        obtain ⟨rfl, rfl⟩ := tail
        exact .inl ⟨fault, head, rfl⟩
    | ok value => exact .inr ⟨value, between, head, tail⟩
  · rintro (⟨fault, head, rfl⟩ | ⟨value, between, head, tail⟩)
    · exact ⟨.error fault, after, head, rfl, rfl⟩
    · exact ⟨.ok value, between, head, tail⟩

variable {allowed : Call → Prop}

/-- Every call that the attempt may make is allowed, and what it gives unless it fails is
as it should be. -/
def Ensures (allowed : Call → Prop) (post : α → Prop) (attempt : Attempt α) : Prop :=
  attempt.run.Ensures allowed fun outcome => ∀ value, outcome = .ok value → post value

theorem ensures_pure {post : α → Prop} {value : α} (right : post value) :
    Ensures allowed post (pure value : Attempt α) := by
  intro given same
  cases same
  exact right

theorem ensures_throw {post : α → Prop} (fault : Fault) :
    Ensures allowed post (throw fault : Attempt α) := nofun

theorem ensures_ofExcept {post : α → Prop} {outcome : Except Fault α}
    (right : ∀ value, outcome = .ok value → post value) :
    Ensures allowed post (ofExcept outcome) := right

theorem ensures_ofCall {post : α → Prop} {fault : Errno → Fault}
    {program : Program (Except Errno α)}
    (permitted : program.Ensures allowed fun outcome => ∀ value, outcome = .ok value → post value) :
    Ensures allowed post (ofCall program fault) := by
  refine permitted.bind ?_
  intro outcome right
  cases outcome with
  | ok value => exact ensures_pure (right value rfl)
  | error errno => exact nofun

theorem ensures_ofProgram {post : α → Prop} {program : Program α}
    (right : program.Ensures allowed post) : Ensures allowed post (ofProgram program) := by
  refine right.bind ?_
  intro value holds
  exact ensures_pure holds

theorem Ensures.bind {middle : α → Prop} {post : β → Prop} {first : Attempt α}
    {next : α → Attempt β} (head : Ensures allowed middle first)
    (tail : ∀ value, middle value → Ensures allowed post (next value)) :
    Ensures allowed post (first >>= next) := by
  refine Program.Ensures.bind head ?_
  intro outcome right
  cases outcome with
  | ok value => exact tail value (right value rfl)
  | error fault => exact nofun

abbrev Only (allowed : Call → Prop) (attempt : Attempt α) : Prop :=
  attempt.Ensures allowed fun _ => True

theorem only_pure (value : α) : (pure value : Attempt α).Only allowed := ensures_pure trivial

theorem only_throw (fault : Fault) : (throw fault : Attempt α).Only allowed := ensures_throw fault

theorem only_ofExcept (outcome : Except Fault α) : (ofExcept outcome).Only allowed :=
  ensures_ofExcept fun _ _ => trivial

theorem Only.bind {first : Attempt α} {next : α → Attempt β} (head : first.Only allowed)
    (rest : ∀ value, (next value).Only allowed) : (first >>= next).Only allowed :=
  Ensures.bind head fun value _ => rest value

theorem only_ofCall {program : Program (Except Errno α)} {fault : Errno → Fault}
    (only : program.Ensures allowed fun _ => True) : (ofCall program fault).Only allowed :=
  ensures_ofCall (only.mono fun _ _ _ _ => trivial)

end Attempt

theorem Program.only_request {allowed : Call → Prop} {call : Call} (permitted : allowed call) :
    (request call).Ensures allowed fun _ => True := ensures_request permitted fun _ => trivial

end SocketReactor
