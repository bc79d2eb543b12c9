import SocketReactor.Handle.Command

/-!
# How methods run

A method is opened statement by statement. Each statement comes to what the rest does on
the fields that it leaves, or to a fault with those fields.
-/

namespace SocketReactor.Handle.Method

variable {α β : Type} (handle : Handle)

@[simp] theorem on_get (rest : Handle → Method β) :
    (get >>= rest : Method β).on handle = (rest handle).on handle := rfl

/-- What a method does after an attempt whose outcome is known. -/
def after (rest : α → Method β) (handle : Handle) :
    Except Fault α → Program (Except Fault β × Handle)
  | .ok value => (rest value).on handle
  | .error fault => .done (.error fault, handle)

theorem on_attempt (attempt : Attempt α) (rest : α → Method β) :
    (do let value ← attempt; rest value : Method β).on handle =
      attempt.run >>= after rest handle := by
  show ((attempt.run >>= fun outcome => Program.done (outcome, handle)) >>= fun reached =>
    (ExceptT.bindCont rest reached.1).run reached.2) = _
  rw [bind_assoc]
  exact congrArg (attempt.run >>= ·) (funext fun outcome => by cases outcome <;> rfl)

theorem on_attempt_last (attempt : Attempt α) :
    (monadLift attempt : Method α).on handle =
      attempt.run >>= fun outcome => .done (outcome, handle) := rfl

/-- A pending error is asked for, and the rest goes on with what is found. -/
theorem on_takeError (descriptor : Descriptor) (rest : Option Errno → Method β) :
    (do let pending ← descriptor.takeError; rest pending : Method β).on handle =
      Program.ask (.intOption descriptor .error) fun
        | .ok pending => (rest (if pending ≠ 0 then some ⟨pending⟩ else none)).on handle
        | .error errno =>
            .done (.error (.getOptionFailed errno IntOption.error.name), handle) := by
  rw [on_attempt]
  exact congrArg (Program.ask _) (funext fun reply => by cases reply <;> rfl)

end SocketReactor.Handle.Method
