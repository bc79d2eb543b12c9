import SocketReactor.Proofs.Host.Runs
import SocketReactor.Selector.Registration

/-!
# Outcomes of registering

What each operation on the keys of a selector may do, whatever the host answers:
the call that it makes, its result, and the selector afterwards.  Every later
statement about these operations is read off here, so that no other proof opens
their definitions.
-/

namespace SocketReactor

variable {σ : Type} {answers : Answering σ}

/-- Every operation is told of by one of the directions. -/
@[simp] theorem Directions.isEmpty_ofOps (ops : OpSet) :
    (Directions.ofOps ops).isEmpty = true ↔ ops = .none := by
  obtain ⟨accept, connect, read, write⟩ := ops
  cases accept <;> cases connect <;> cases read <;> cases write <;> decide

namespace Key

/-- What bringing a backend in line with a set of operations may lead to. -/
inductive Synced (answers : Answering σ) (backend : Backend) (key : Key)
    (ops : OpSet) : σ → Except Errno Unit → Key → σ → Prop where
  /-- There is nothing to watch, and nothing was watched. -/
  | idle {state : σ} (empty : ops = .none) (unarmed : key.armed = false) :
      Synced answers backend key ops state (.ok ()) key state
  | deleted {state after : σ} {reply : Except Errno Unit} (empty : ops = .none)
      (armed : key.armed = true)
      (answered : answers (.watch backend.poll (.delete key.descriptor)) state reply after) :
      Synced answers backend key ops state reply { key with armed := false } after
  | modified {state after : σ} {reply : Except Errno Unit} (wanted : ops ≠ .none)
      (armed : key.armed = true)
      (answered : answers (.watch backend.poll
        (.modify key.descriptor key.token (Directions.ofOps ops).events)) state reply after) :
      Synced answers backend key ops state reply key after
  | added {state after : σ} (wanted : ops ≠ .none) (unarmed : key.armed = false)
      (answered : answers (.watch backend.poll
        (.add key.descriptor key.token (Directions.ofOps ops).events)) state (.ok ()) after) :
      Synced answers backend key ops state (.ok ()) { key with armed := true } after
  | refused {state after : σ} {errno : Errno} (wanted : ops ≠ .none)
      (unarmed : key.armed = false)
      (answered : answers (.watch backend.poll
        (.add key.descriptor key.token (Directions.ofOps ops).events))
          state (.error errno) after) :
      Synced answers backend key ops state (.error errno) key after

theorem synced_of_runs {backend : Backend} {key synced : Key} {ops : OpSet}
    {state after : σ} {reply : Except Errno Unit}
    (run : (key.sync backend ops).Runs answers state (reply, synced) after) :
    Synced answers backend key ops state reply synced after := by
  unfold sync at run
  dsimp only at run
  split at run
  · rename_i empty
    rw [Directions.isEmpty_ofOps] at empty
    split at run
    · rename_i armed
      simp only [Backend.delete, Program.runs_bind, Program.pure_eq_done,
        Program.runs_done, Prod.mk.injEq] at run
      obtain ⟨reply, between, answered, ⟨rfl, rfl⟩, rfl⟩ := run
      exact .deleted empty armed (Program.runs_request.mp answered)
    · rename_i unarmed
      obtain ⟨same, rfl⟩ := run
      cases same
      exact .idle empty (Bool.eq_false_iff.mpr unarmed)
  · rename_i nonempty
    have wanted : ops ≠ .none := fun empty =>
      nonempty ((Directions.isEmpty_ofOps ops).mpr empty)
    split at run
    · rename_i armed
      simp only [Backend.modify, Program.runs_bind, Program.pure_eq_done,
        Program.runs_done, Prod.mk.injEq] at run
      obtain ⟨reply, between, answered, ⟨rfl, rfl⟩, rfl⟩ := run
      exact .modified wanted armed (Program.runs_request.mp answered)
    · rename_i unarmed
      simp only [Backend.add, Program.runs_bind] at run
      obtain ⟨answer, between, asked, rest⟩ := run
      have answered := Program.runs_request.mp asked
      cases answer with
      | ok value =>
          obtain ⟨same, rfl⟩ := rest
          cases same
          exact .added wanted (Bool.eq_false_iff.mpr unarmed) answered
      | error errno =>
          obtain ⟨same, rfl⟩ := rest
          cases same
          exact .refused wanted (Bool.eq_false_iff.mpr unarmed) answered

/-- Only whether the backend watches the descriptor changes, and it watches none for nothing. -/
theorem Synced.eq_armed {backend : Backend} {key synced : Key} {ops : OpSet}
    {state after : σ} {reply : Except Errno Unit}
    (outcome : Synced answers backend key ops state reply synced after) :
    synced = { key with armed := synced.armed } ∧
      (synced.armed = true → ops ≠ .none) := by
  cases outcome with
  | idle empty unarmed => exact ⟨rfl, fun armed => by simp [unarmed] at armed⟩
  | deleted empty armed answered => exact ⟨rfl, fun armed => by cases armed⟩
  | modified wanted armed answered => exact ⟨rfl, fun _ => wanted⟩
  | added wanted unarmed answered => exact ⟨rfl, fun _ => wanted⟩
  | refused wanted unarmed answered => exact ⟨rfl, fun _ => wanted⟩

end Key

namespace Selector

theorem backend_eq_ok_iff {selector : Selector} {backend : Backend} :
    selector.backend = .ok backend ↔ selector.phase = .opened backend := by
  unfold Selector.backend
  cases selector.phase <;> simp

/-- What registering a descriptor may lead to. -/
inductive Registered (answers : Answering σ) (selector : Selector)
    (descriptor : Descriptor) (validOps interest : OpSet) (attachment : Option String) :
    σ → Except Fault Nat → Selector → σ → Prop where
  /-- The host was not asked. -/
  | unasked {state : σ} {fault : Fault} (plain : fault.errno? = none) :
      Registered answers selector descriptor validOps interest attachment
        state (.error fault) selector state
  /-- The backend refused; a token is used up. -/
  | refused {state after : σ} {backend : Backend} {errno : Errno} {synced : Key}
      (isOpen : selector.phase = .opened backend)
      (sync : Key.Synced answers backend
        (Key.new (UInt64.ofNat selector.issued) descriptor validOps interest attachment)
        interest state (.error errno) synced after) :
      Registered answers selector descriptor validOps interest attachment state
        (.error (.backendFailed errno "epoll_ctl"))
        { selector with issued := selector.issued + 1 } after
  | issued {state after : σ} {backend : Backend} {synced : Key}
      (isOpen : selector.phase = .opened backend)
      (within : validOps.contains interest = true)
      (sync : Key.Synced answers backend
        (Key.new (UInt64.ofNat selector.issued) descriptor validOps interest attachment)
        interest state (.ok ()) synced after) :
      Registered answers selector descriptor validOps interest attachment state
        (.ok selector.issued)
        { selector with
          issued := selector.issued + 1
          keys := selector.keys.insert selector.issued synced
          registry := selector.registry.insert (UInt64.ofNat selector.issued) selector.issued }
        after

theorem registered_of_runs {selector later : Selector} {descriptor : Descriptor}
    {validOps interest : OpSet} {attachment : Option String} {state after : σ}
    {result : Except Fault Nat}
    (run : (selector.register descriptor validOps interest attachment).Runs answers
      state (result, later) after) :
    Registered answers selector descriptor validOps interest attachment
      state result later after := by
  unfold register at run
  split at run
  · rename_i fault failed
    obtain ⟨same, rfl⟩ := run
    cases same
    refine .unasked ?_
    unfold Key.checkInterest Selector.backend at failed
    split at failed
    · split at failed <;> cases failed
      rfl
    · cases failed
      rfl
  · rename_i backend passed
    have within : validOps.contains interest = true ∧ selector.backend = .ok backend := by
      unfold Key.checkInterest at passed
      split at passed
      · exact ⟨‹_›, passed⟩
      · cases passed
    have isOpen := backend_eq_ok_iff.mp within.2
    simp only [Program.runs_bind] at run
    obtain ⟨⟨reply, synced⟩, between, sync, rest⟩ := run
    have outcome := Key.synced_of_runs sync
    cases reply with
    | ok value =>
        obtain ⟨same, rfl⟩ := rest
        cases same
        exact .issued isOpen within.1 outcome
    | error errno =>
        obtain ⟨same, rfl⟩ := rest
        cases same
        exact .refused isOpen outcome

/-- What changing the interest of a key may lead to. -/
inductive Changed (answers : Answering σ) (selector : Selector) (serial : Nat)
    (interest : OpSet) : σ → Except Fault Unit → Selector → σ → Prop where
  /-- The host was not asked. -/
  | unasked {state : σ} {fault : Fault} (plain : fault.errno? = none) :
      Changed answers selector serial interest state (.error fault) selector state
  /-- The new interest is stored, whatever the backend replied. -/
  | stored {state after : σ} {key synced : Key} {backend : Backend}
      {reply : Except Errno Unit}
      (found : selector.key? serial = some key)
      (within : key.validOps.contains interest = true)
      (valid : key.valid = true) (isOpen : selector.phase = .opened backend)
      (present : (selector.registry.get? key.token).isSome = true)
      (sync : Key.Synced answers backend { key with interest := interest } interest
        state reply synced after) :
      Changed answers selector serial interest state
        (reply.mapError (.backendFailed · "epoll_ctl")) (selector.setKey serial synced) after

theorem changeable_eq_ok_iff {selector : Selector} {key : Key} {interest : OpSet}
    {backend : Backend} :
    selector.changeable key interest = .ok backend ↔
      key.validOps.contains interest = true ∧ key.valid = true ∧
        selector.phase = .opened backend ∧
        (selector.registry.get? key.token).isSome = true := by
  rw [← backend_eq_ok_iff]
  unfold changeable Key.checkInterest
  cases within : key.validOps.contains interest <;> cases valid : key.valid <;>
    cases phase : selector.backend <;>
    cases present : selector.registry.get? key.token <;>
    simp [bind, Except.bind, pure, Except.pure, throw, throwThe, MonadExceptOf.throw]

/-- A check that fails tells of no failing call. -/
theorem errno?_of_changeable {selector : Selector} {key : Key} {interest : OpSet}
    {fault : Fault} (failed : selector.changeable key interest = .error fault) :
    fault.errno? = none := by
  unfold changeable Key.checkInterest Selector.backend cancelled at failed
  cases within : key.validOps.contains interest <;> cases valid : key.valid <;>
    cases phase : selector.phase <;>
    cases present : selector.registry.get? key.token <;>
    simp [within, valid, phase, present, bind, Except.bind, pure, Except.pure, throw,
      throwThe, MonadExceptOf.throw] at failed <;>
    subst failed <;> rfl

theorem changed_of_runs {selector later : Selector} {serial : Nat} {interest : OpSet}
    {state after : σ} {result : Except Fault Unit}
    (run : (selector.setInterest serial interest).Runs answers state
      (result, later) after) :
    Changed answers selector serial interest state result later after := by
  unfold setInterest at run
  split at run
  · obtain ⟨same, rfl⟩ := run
    cases same
    exact .unasked rfl
  · rename_i key found
    split at run
    · rename_i fault failed
      obtain ⟨same, rfl⟩ := run
      cases same
      exact .unasked (errno?_of_changeable failed)
    · rename_i backend passed
      obtain ⟨within, valid, isOpen, present⟩ := changeable_eq_ok_iff.mp passed
      simp only [Program.runs_bind] at run
      obtain ⟨⟨reply, synced⟩, between, sync, rest⟩ := run
      have outcome := Key.synced_of_runs sync
      cases reply with
      | ok value =>
          obtain ⟨same, rfl⟩ := rest
          cases same
          exact .stored found within valid isOpen present outcome
      | error errno =>
          obtain ⟨same, rfl⟩ := rest
          cases same
          exact .stored found within valid isOpen present outcome

inductive Cancelled (answers : Answering σ) (selector : Selector) (serial : Nat) :
    σ → Selector → σ → Prop where
  /-- There is no such key, or it does not count. -/
  | stale {state : σ} (gone : ∀ key, selector.key? serial = some key → key.valid = false) :
      Cancelled answers selector serial state selector state
  /-- The backend was told, whatever it replied. -/
  | deleted {state after : σ} {key : Key} {backend : Backend} {reply : Except Errno Unit}
      (found : selector.key? serial = some key) (valid : key.valid = true)
      (armed : key.armed = true) (isOpen : selector.phase = .opened backend)
      (present : (selector.registry.get? key.token).isSome = true)
      (answered : answers (.watch backend.poll (.delete key.descriptor)) state reply after) :
      Cancelled answers selector serial state
        ({ selector with registry := selector.registry.erase key.token }.setKey serial
          { key.invalidate with armed := false }) after
  /-- There was no backend to tell. -/
  | forgotten {state : σ} {key : Key}
      (found : selector.key? serial = some key) (valid : key.valid = true)
      (armed : key.armed = true) (shut : selector.isOpen = false)
      (present : (selector.registry.get? key.token).isSome = true) :
      Cancelled answers selector serial state
        ({ selector with registry := selector.registry.erase key.token }.setKey serial
          { key.invalidate with armed := false }) state
  /-- The backend did not watch the descriptor for this key. -/
  | released {state : σ} {key : Key}
      (found : selector.key? serial = some key) (valid : key.valid = true)
      (unwatched : key.armed = false ∨ selector.registry.get? key.token = none) :
      Cancelled answers selector serial state
        ({ selector with registry := selector.registry.erase key.token }.setKey serial
          key.invalidate) state

theorem cancelled_of_runs {selector later : Selector} {serial : Nat} {state after : σ}
    (run : (selector.cancel serial).Runs answers state later after) :
    Cancelled answers selector serial state later after := by
  unfold cancel at run
  split at run
  · rename_i absent
    obtain ⟨rfl, rfl⟩ := run
    refine .stale ?_
    intro key found
    rw [absent] at found
    cases found
  · rename_i key found
    split at run
    · rename_i invalid
      obtain ⟨rfl, rfl⟩ := run
      refine .stale ?_
      intro other same
      rw [found] at same
      cases same
      simpa using invalid
    · rename_i counts
      have valid : key.valid = true := by simpa using counts
      dsimp only at run
      split at run
      · rename_i watched
        rw [Bool.and_eq_true] at watched
        cases reached : selector.backend with
        | ok backend =>
            simp only [reached, Backend.delete, Program.runs_bind] at run
            obtain ⟨_, _, ⟨reply, between, asked, rfl, rfl⟩, rfl, rfl⟩ := run
            exact .deleted found valid watched.2 (backend_eq_ok_iff.mp reached)
              watched.1 asked
        | error fault =>
            simp only [reached] at run
            obtain ⟨rfl, rfl⟩ := run
            refine .forgotten found valid watched.2 ?_ watched.1
            unfold Selector.backend at reached
            unfold isOpen
            cases phase : selector.phase <;> simp_all
      · rename_i unwatched
        obtain ⟨rfl, rfl⟩ := run
        refine .released found valid ?_
        -- It was not watched, or the registry has no entry for it.
        by_cases armed : key.armed = true
        · right
          simpa [armed] using unwatched
        · exact .inl (Bool.eq_false_iff.mpr armed)

end Selector

end SocketReactor
