import SocketReactor.Proofs.Reactor.Links

/-!
# Owners that stay

Which operations of a reactor leave its owners, or the sockets of its owners, as they are.
-/

namespace SocketReactor

variable {σ : Type} {answers : Answering σ} {reactor later before after : Reactor}
  {host afterwards : σ} {name : String}

namespace Reactor

def socket? (reactor : Reactor) (name : String) : Option Socket :=
  (reactor.owner? name).map Owner.socket

theorem owners_of_dispose {owner : Owner}
    (run : (reactor.dispose owner).Runs answers host later afterwards) :
    later.owners = reactor.owners := by
  unfold dispose at run
  cases key : owner.key? with
  | none =>
      simp only [key] at run
      obtain ⟨settled, middle, ⟨rfl, rfl⟩, rest⟩ := Program.runs_bind.mp run
      obtain ⟨⟨⟩, between, discarded, rfl, rfl⟩ := Program.runs_bind.mp rest
      rfl
  | some id =>
      simp only [key] at run
      obtain ⟨middle, between, cancelled, rest⟩ := Program.runs_bind.mp run
      obtain ⟨⟨⟩, last, discarded, rfl, rfl⟩ := Program.runs_bind.mp rest
      exact (lapsed_of_cancel cancelled).2

/-- A name that is placed stands for its new owner, and the others for theirs. -/
theorem owner?_of_place {owner : Owner}
    (run : (reactor.place name owner).Runs answers host later afterwards) (other : String) :
    later.owner? other = if other = name then some owner else reactor.owner? other := by
  have placed : later.owners = (reactor.setOwner name owner).owners := by
    unfold place at run
    split at run
    · exact congrArg Reactor.owners run.1
    · exact owners_of_dispose run
  rw [← owner?_setOwner, owner?, placed]
  rfl

/-- A channel that is unregistered keeps its socket, and the other owners stay as they are. -/
theorem owner?_of_unregister (run : (reactor.unregister name).Runs answers host later afterwards)
    (other : String) (apart : other ≠ name) : later.owner? other = reactor.owner? other := by
  unfold unregister at run
  split at run
  · rename_i channel named
    have forgotten : (reactor.setOwner name (.watchable { channel with key := none })).owner?
        other = reactor.owner? other := by
      rw [owner?_setOwner, if_neg apart]
    dsimp only at run
    split at run
    · rw [← forgotten, owner?, (lapsed_of_cancel run).2]
      rfl
    · obtain ⟨rfl, -⟩ := run
      exact forgotten
  · obtain ⟨rfl, -⟩ := run
    rfl

end Reactor

namespace Operation

theorem socket?_of_owners (same : after.owners = before.owners) (name : String) :
    after.socket? name = before.socket? name := by
  rw [Reactor.socket?, Reactor.owner?, same]
  rfl

theorem owners_of_onSelector {α : Type} {id : Nat} {absent result : α}
    {step : Selector → Program (α × Selector)}
    (run : (before.onSelector id absent step).Runs answers host (result, after) afterwards) :
    after.owners = before.owners := by
  unfold Reactor.onSelector at run
  split at run
  · obtain ⟨same, -⟩ := run
    cases same
    rfl
  · obtain ⟨settled, between, stepped, same, rfl⟩ := Program.runs_bind.mp run
    cases same
    rfl

theorem owners_of_stepSelector {id : Nat} {step : Selector → Program Selector}
    (run : (before.stepSelector id step).Runs answers host after afterwards) :
    after.owners = before.owners := by
  unfold Reactor.stepSelector at run
  split at run
  · exact congrArg Reactor.owners run.1
  · obtain ⟨settled, between, stepped, rfl, rfl⟩ := Program.runs_bind.mp run
    rfl

theorem owners_attach (id : KeyId) (attachment : Option String) :
    (before.attach id attachment).2.owners = before.owners := by
  unfold Reactor.attach
  split <;> rfl

/-- A channel that gets a key has the socket that it had. -/
theorem socket?_of_registerNew {channel : Channel} {selector : Nat} {interest : OpSet}
    {attachment : Option String} {result : Except Fault KeyId}
    (named : before.owner? name = some (.watchable channel))
    (run : (before.registerNew name channel selector interest attachment).Runs answers host
      (result, after) afterwards) (other : String) :
    after.socket? other = before.socket? other := by
  obtain ⟨⟨outcome, middle⟩, between, stepped, rest⟩ := Program.runs_bind.mp run
  have kept : middle.socket? other = before.socket? other :=
    socket?_of_owners (owners_of_onSelector stepped) other
  cases outcome with
  | error fault =>
      obtain ⟨same, -⟩ := rest
      cases same
      exact kept
  | ok serial =>
      obtain ⟨same, -⟩ := rest
      cases same
      rw [Reactor.socket?, Reactor.owner?_setOwner]
      split
      · rename_i here
        rw [here, Reactor.socket?, named]
        rfl
      · exact kept

/-- Registering a channel leaves every socket as it is. -/
theorem socket?_of_register {selector : Nat} {interest : OpSet} {attachment : Option String}
    {result : Except Refusal KeyId}
    (run : (before.register name selector interest attachment).Runs answers host (result, after)
      afterwards) (other : String) : after.socket? other = before.socket? other := by
  cases Reactor.enrolled_of_runs run with
  | refused => rfl
  | fresh named _ registered => exact socket?_of_registerNew named registered other
  | unchanged _ _ _ changed => exact socket?_of_owners (owners_of_onSelector changed) other
  | changed _ _ _ changed =>
      exact socket?_of_owners ((owners_attach _ _).trans (owners_of_onSelector changed)) other

end Operation

end SocketReactor
