import SocketReactor.Host.Call

/-!
# Programs over a host

A program either has its result or makes a call and goes on with the reply. What
the library does is written as such programs, so that a statement can range over
every reply of the host. `Program.run` runs a program on a host that is a state
machine, and `Attempt` is a program that may end with a fault.
-/

namespace SocketReactor

inductive Program (α : Type) where
  /-- The result. -/
  | done (value : α)
  /-- A call, and what follows for each reply. -/
  | ask (call : Call) (next : call.Reply → Program α)

namespace Program

variable {α β γ σ : Type}

def bind : Program α → (α → Program β) → Program β
  | done value, next => next value
  | ask call first, next => ask call fun reply => (first reply).bind next

instance : Monad Program where
  pure := done
  bind := bind

def request (call : Call) : Program call.Reply := ask call done

@[simp] theorem pure_eq_done (value : α) : (pure value : Program α) = done value := rfl

@[simp] theorem done_bind (value : α) (next : α → Program β) :
    (done value >>= next) = next value := rfl

@[simp] theorem ask_bind (call : Call) (first : call.Reply → Program α) (next : α → Program β) :
    (ask call first >>= next) = ask call fun reply => first reply >>= next := rfl

theorem bind_pure (program : Program α) : (program >>= pure) = program := by
  induction program with
  | done value => rfl
  | ask call next ih => exact congrArg (ask call) (funext ih)

theorem bind_assoc (program : Program α) (second : α → Program β) (third : β → Program γ) :
    ((program >>= second) >>= third) = program >>= fun value => second value >>= third := by
  induction program with
  | done value => rfl
  | ask call next ih => exact congrArg (ask call) (funext ih)

instance : LawfulMonad Program := LawfulMonad.mk' Program
  (fun program => bind_pure program) (fun _ _ => rfl) bind_assoc

abbrev Machine (σ : Type) := (call : Call) → σ → Option (call.Reply × σ)

def run (machine : Machine σ) : Program α → σ → Option (α × σ)
  | done value, state => some (value, state)
  | ask call next, state =>
      match machine call state with
      | some (reply, after) => (next reply).run machine after
      | none => none

end Program

abbrev Attempt (α : Type) := ExceptT Fault Program α

namespace Attempt

variable {α : Type}

/-- The attempt that makes a call and turns an error number into a fault. -/
def ofCall (call : Program (Except Errno α)) (fault : Errno → Fault) : Attempt α :=
  ExceptT.mk do
    match ← call with
    | .ok value => return .ok value
    | .error errno => return .error (fault errno)

def ofExcept (outcome : Except Fault α) : Attempt α := ExceptT.mk (pure outcome)

def ofProgram (program : Program α) : Attempt α := ExceptT.lift program

end Attempt

end SocketReactor
