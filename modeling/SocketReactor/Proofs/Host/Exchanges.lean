import SocketReactor.Proofs.Host.Ledger

/-!
# Exchanges of programs

`Program.Makes` says which exchanges with the host a program may make and what it then ends
with.  The host may reply anything, so that what holds of all exchanges holds for every pattern
of failures; what a run adds to the log of a host is among them.
-/

namespace SocketReactor

variable {α β : Type} {log : Log}

def Answering.Records (answers : Answering Log) : Prop :=
  ∀ {call log reply after}, answers call log reply after → after = log ++ [⟨call, reply⟩]

namespace Program

def Makes : Program α → Log → α → Prop
  | done value, log, result => log = [] ∧ result = value
  | ask call next, log, result =>
      ∃ reply rest, log = ⟨call, reply⟩ :: rest ∧ (next reply).Makes rest result

theorem makes_bind {program : Program α} {next : α → Program β} {result : β} :
    (program >>= next).Makes log result ↔
      ∃ value front rest, log = front ++ rest ∧ program.Makes front value ∧
        (next value).Makes rest result := by
  induction program generalizing log with
  | done value =>
      constructor
      · intro makes
        exact ⟨value, [], log, rfl, ⟨rfl, rfl⟩, makes⟩
      · rintro ⟨given, front, rest, rfl, ⟨rfl, rfl⟩, makes⟩
        exact makes
  | ask call first ih =>
      constructor
      · rintro ⟨reply, behind, rfl, makes⟩
        obtain ⟨value, front, rest, rfl, head, tail⟩ := ih reply |>.mp makes
        exact ⟨value, _, rest, rfl, ⟨reply, front, rfl, head⟩, tail⟩
      · rintro ⟨value, front, rest, rfl, ⟨reply, behind, rfl, head⟩, tail⟩
        exact ⟨reply, _, rfl, (ih reply).mpr ⟨value, behind, rest, rfl, head, tail⟩⟩

/-- A run adds to the log of a host the exchanges that it makes. -/
theorem makes_of_runs {answers : Answering Log} (records : answers.Records) {program : Program α}
    {result : α} {after : Log} (run : program.Runs answers log result after) :
    ∃ made, after = log ++ made ∧ program.Makes made result := by
  induction program generalizing log with
  | done value => exact ⟨[], by rw [run.2, List.append_nil], rfl, run.1⟩
  | ask call next ih =>
      obtain ⟨reply, between, answered, rest⟩ := run
      obtain rfl := records answered
      obtain ⟨made, rfl, makes⟩ := ih reply rest
      exact ⟨⟨call, reply⟩ :: made, by simp, reply, made, rfl, makes⟩

end Program

namespace Attempt

/-- An attempt ends with the first fault, or goes on with the value before it. -/
theorem makes_bind {first : Attempt α} {next : α → Attempt β} {outcome : Except Fault β} :
    (first >>= next).run.Makes log outcome ↔
      (∃ fault, first.run.Makes log (.error fault) ∧ outcome = .error fault) ∨
      ∃ value front rest, log = front ++ rest ∧ first.run.Makes front (.ok value) ∧
        (next value).run.Makes rest outcome := by
  rw [ExceptT.run_bind, Program.makes_bind]
  constructor
  · rintro ⟨tried, front, rest, rfl, head, tail⟩
    cases tried with
    | error fault =>
        obtain ⟨rfl, rfl⟩ := tail
        exact .inl ⟨fault, (List.append_nil front).symm ▸ head, rfl⟩
    | ok value => exact .inr ⟨value, front, rest, rfl, head, tail⟩
  · rintro (⟨fault, head, rfl⟩ | ⟨value, front, rest, rfl, head, tail⟩)
    · exact ⟨.error fault, log, [], (List.append_nil log).symm, head, rfl, rfl⟩
    · exact ⟨.ok value, front, rest, rfl, head, tail⟩

/-- An attempt that begins with a check fails by it, or goes on. -/
theorem makes_ofExcept_bind {check : Except Fault α} {next : α → Attempt β}
    {outcome : Except Fault β} (makes : (ofExcept check >>= next).run.Makes log outcome) :
    (∃ fault, check = .error fault ∧ log = [] ∧ outcome = .error fault) ∨
      ∃ value, check = .ok value ∧ (next value).run.Makes log outcome := by
  rcases makes_bind.mp makes with ⟨fault, ⟨rfl, failed⟩, rfl⟩ | ⟨value, front, rest, rfl,
    ⟨rfl, passed⟩, goes_on⟩
  · exact .inl ⟨fault, failed.symm, rfl, rfl⟩
  · exact .inr ⟨value, passed.symm, goes_on⟩

end Attempt

end SocketReactor
