import SocketReactor.Proofs.Host.Flags
import SocketReactor.Proofs.Owner.Prompting
import SocketReactor.Proofs.Socket.Calls
import SocketReactor.Proofs.Socket.Running

/-!
# Whether the calls of a socket wait

On a host that heeds the flags of open descriptors, a live socket that is told whether its calls
wait has its flag set so.  No other command writes a flag.
-/

namespace SocketReactor

variable {base : Descriptor → Prop} {log after : Log} {parts : LiveSocket} {enabled : Bool}

namespace Socket

/-- The flags that are written have the flag as it is wanted. -/
theorem flag_wanted (flags : UInt32) (enabled : Bool) :
    decide ((if enabled then flags ||| Handle.nonblockingFlag
      else flags &&& ~~~Handle.nonblockingFlag) &&& Handle.nonblockingFlag ≠ 0) = enabled := by
  have absorbed : (flags ||| Handle.nonblockingFlag) &&& Handle.nonblockingFlag = Handle.nonblockingFlag := by
    refine UInt32.toBitVec_inj.mp ?_
    ext bit
    simp +contextual
  cases enabled with
  | true =>
      rw [if_pos rfl, absorbed]
      decide
  | false => simp [UInt32.and_assoc]

/-- A live socket whose descriptor is open has its flag set as it is told. -/
theorem isPrompt_of_setNonblocking {outcome : Except Fault Unit}
    (opened : parts.descriptor ∈ after.opened) (heeds : after.Heeds)
    (run : ((live parts).setNonblocking enabled).run.Runs (Log.Answers base) log outcome after) :
    outcome = .ok () ∧ after.isPrompt parts.descriptor = enabled := by
  have within := (live parts).within_setNonblocking enabled
  rw [Log.opened_of_runs_plain (within.allows fun _ within => within.2.1) run] at opened
  have plain : (Call.statusFlags parts.descriptor).IsPlain := trivial
  rw [setNonblocking_eq, require_anyLive, Attempt.runs_ofExcept_ok_bind] at run
  rcases Attempt.runs_bind.mp run with ⟨fault, unread, rfl⟩ | ⟨flags, between, read, wrote⟩
  · obtain ⟨reply, called, same⟩ := Attempt.runs_ofCall.mp unread
    obtain ⟨rfl, -⟩ := Program.runs_request.mp called
    obtain ⟨flags, rfl, -⟩ := heeds.last opened
    cases same
  · obtain ⟨reply, called, same⟩ := Attempt.runs_ofCall.mp read
    obtain ⟨rfl, -⟩ := Program.runs_request.mp called
    obtain ⟨_, rfl, told⟩ := (heeds.of_runs wrote).last opened
    cases same
    have right := flag_wanted flags enabled
    generalize (if enabled = true then flags ||| Handle.nonblockingFlag
      else flags &&& ~~~Handle.nonblockingFlag) = wanted at wrote right
    dsimp only at wrote
    split at wrote
    · obtain ⟨reply, called, same⟩ := Attempt.runs_ofCall.mp wrote
      obtain ⟨rfl, -⟩ := Program.runs_request.mp called
      obtain rfl := heeds.last ((Log.opened_snoc_of_isPlain plain _).symm ▸ opened)
      refine ⟨same, ?_⟩
      rw [Log.isPrompt_snoc, Exchange.prompts?_of_writes List.not_mem_nil rfl]
      exact right
    · rename_i unchanged
      obtain ⟨rfl, rfl⟩ := wrote
      refine ⟨rfl, ?_⟩
      rw [Log.isPrompt_of_silent parts.descriptor rfl, ← told, ← not_not.mp unchanged]
      exact right

/-- What has been told that its calls do not wait has its flag. -/
theorem Prompted.isPrompt {socket : Socket} {descriptor : Descriptor}
    (prompted : socket.Prompted (Log.Answers base) after)
    (owned : socket.owned? = some descriptor) (opened : descriptor ∈ after.opened)
    (heeds : after.Heeds) : after.isPrompt descriptor = true := by
  obtain ⟨before, run⟩ := prompted
  obtain ⟨parts, rfl, rfl⟩ := eq_live_of_owned owned
  exact (isPrompt_of_setNonblocking opened heeds run).2

/-- Whoever is not new has its flag as before, unless it is told. -/
theorem isPrompt_of_perform {socket later : Socket} {command : Command}
    {outcome : Except Failure Reply} (old : ∀ protocol, command ≠ .create protocol)
    (other : ∀ enabled, command ≠ .setNonblocking enabled)
    (run : (socket.perform command).Runs (Log.Answers base) log (outcome, later) after)
    (descriptor : Descriptor) : after.isPrompt descriptor = log.isPrompt descriptor := by
  refine Log.isPrompt_of_spares ((socket.serves_perform command).allows ?_) run descriptor
  intro call serves
  cases call with
  | socket =>
      obtain ⟨protocol, same⟩ := serves
      exact old protocol same
  | setStatusFlags =>
      obtain ⟨enabled, same⟩ := serves
      exact other enabled same
  | accept | openBackend | openPipe => exact serves
  | _ => trivial

end Socket

end SocketReactor
