import SocketReactor.Proofs.Host.Sparing
import SocketReactor.Proofs.Selector.Actions

/-!
# What selectors do to a kernel

An action of a selector leaves the kernel alone, tells the selector's backend
what to watch, opens the three descriptors of a backend or closes them.  So it
spares every descriptor that is not the selector's own.
-/

namespace SocketReactor

variable {kernel after : Kernel}

def pipeWatch : UInt64 × UInt32 :=
  (Backend.notifyToken, (⟨true, false⟩ : Directions).events)

namespace Backend

variable {backend : Backend}

/-- A backend that is opened consists of three new descriptors and watches its pipe. -/
theorem opens_of_runs (run : openNew.Runs Kernel.Answers kernel (.ok backend) after) :
    ∃ middle, kernel.Opens [backend.poll, backend.reader, backend.writer] middle ∧
      after = middle.setWatch backend.poll backend.reader (some pipeWatch) := by
  obtain ⟨polled, first, opened, rest⟩ := Program.runs_bind.mp run
  cases polled with
  | error errno => obtain ⟨same, -⟩ := rest; cases same
  | ok poll =>
      obtain ⟨fresh, rfl⟩ := Program.runs_request.mp opened
      obtain ⟨piped, second, opened', rest⟩ := Program.runs_bind.mp rest
      match piped with
      | .error errno =>
          obtain ⟨closed, middle, -, same, -⟩ := Program.runs_bind.mp rest
          cases same
      | .ok (reader, writer) =>
          obtain ⟨fresh', fresh'', rfl⟩ := Program.runs_request.mp opened'
          obtain ⟨added, third, told, rest⟩ := Program.runs_bind.mp rest
          cases added with
          | error errno =>
              obtain ⟨closed, middle, -, same, -⟩ := Program.runs_bind.mp rest
              cases same
          | ok value =>
              obtain ⟨same, rfl⟩ := rest
              cases same
              refine ⟨_, ⟨fresh, fresh', fresh'', rfl⟩, ?_⟩
              have changed := Program.runs_request.mp told
              have known : Kernel.change? _ _ _ = some _ := changed
              simp only [Kernel.change?] at known
              split at known
              · exact (Option.some.inj known).symm
              · cases known

/-- A backend that could not be opened leaves nothing behind. -/
theorem eq_of_runs_openNew {errno : Errno}
    (run : openNew.Runs Kernel.Answers kernel (.error errno) after) : after = kernel := by
  obtain ⟨polled, first, opened, rest⟩ := Program.runs_bind.mp run
  cases polled with
  | error errno =>
      obtain ⟨-, rfl⟩ := rest
      exact Program.runs_request.mp opened
  | ok poll =>
      obtain ⟨fresh, rfl⟩ := Program.runs_request.mp opened
      obtain ⟨piped, second, opened', rest⟩ := Program.runs_bind.mp rest
      match piped with
      | .error errno =>
          obtain rfl : second = kernel.openFile poll := Program.runs_request.mp opened'
          obtain ⟨closed, middle, answered, -, rfl⟩ := Program.runs_bind.mp rest
          have gone := Program.runs_request.mp answered
          rw [gone]
          exact fresh.closeFile_openFile
      | .ok (reader, writer) =>
          obtain ⟨fresh', fresh'', rfl⟩ := Program.runs_request.mp opened'
          obtain ⟨added, third, told, rest⟩ := Program.runs_bind.mp rest
          cases added with
          | ok value => obtain ⟨same, -⟩ := rest; cases same
          | error errno =>
              -- The pipe is open and not yet watched, so watching it is not refused.
              obtain ⟨refused, -⟩ := Program.runs_request.mp told
              have unwatched : kernel.watch? poll reader = none :=
                (Kernel.watch?_eq_none_of_not_mem fresh.1).1
              simp [Kernel.change?, fresh''.mem_openFile, fresh'.mem_openFile,
                fresh.mem_openFile, unwatched] at refused

/-- Closing a backend closes its three descriptors. -/
theorem closes_of_runs (run : backend.close.Runs Kernel.Answers kernel () after) :
    after = ((kernel.closeFile backend.poll).closeFile backend.reader).closeFile
      backend.writer := by
  obtain ⟨_, first, closed, rest⟩ := Program.runs_bind.mp run
  obtain ⟨_, second, closed', rest⟩ := Program.runs_bind.mp rest
  obtain ⟨_, third, closed'', -, rfl⟩ := Program.runs_bind.mp rest
  obtain rfl : first = kernel.closeFile backend.poll := Program.runs_request.mp closed
  obtain rfl := (Program.runs_request.mp closed' : second = _)
  exact Program.runs_request.mp closed''

end Backend

/-- Only the backend is told anything. -/
theorem Key.Synced.told {backend : Backend} {key synced : Key} {ops : OpSet}
    {reply : Except Errno Unit}
    (outcome : Key.Synced Kernel.Answers backend key ops kernel reply synced after) :
    after = kernel ∨
      ∃ descriptor watch, after = kernel.setWatch backend.poll descriptor watch := by
  cases outcome with
  | idle empty unarmed => exact .inl rfl
  | deleted _ _ answered | modified _ _ answered | added _ _ answered | refused _ _ answered =>
      exact Kernel.eq_setWatch_of_answers answered

/-- A backend has been told what to watch, any number of times. -/
abbrev Kernel.Tells (backend : Descriptor) : Kernel → Kernel → Prop :=
  Relation.ReflTransGen fun kernel after =>
    ∃ descriptor watch, after = kernel.setWatch backend descriptor watch

namespace Kernel.Tells

variable {backend : Descriptor}

theorem opened_eq (tells : Tells backend kernel after) : after.opened = kernel.opened := by
  induction tells with
  | refl => rfl
  | tail steps step ih =>
      obtain ⟨descriptor, watch, rfl⟩ := step
      exact ih

theorem spares {used : Descriptor → Prop} (unused : ¬used backend)
    (tells : Tells backend kernel after) : Spares used kernel after := by
  induction tells with
  | refl => exact .refl _
  | tail steps step ih =>
      obtain ⟨descriptor, watch, rfl⟩ := step
      exact ih.trans (.setWatch unused)

end Kernel.Tells

inductive Part where
  | poll
  | reader
  | writer
  deriving DecidableEq

def Backend.part (backend : Backend) : Part → Descriptor
  | .poll => backend.poll
  | .reader => backend.reader
  | .writer => backend.writer

namespace Selector

variable {selector later : Selector} {backend : Backend}

def held? (selector : Selector) : Option Backend :=
  match selector.phase with
  | .opened backend | .closing backend => some backend
  | _ => none

theorem held?_of_phase (isOpen : selector.phase = .opened backend) :
    selector.held? = some backend := by
  rw [held?, isOpen]

inductive Effect (selector later : Selector) (kernel : Kernel) : Kernel → Prop where
  | silent (same : later.held? = selector.held?) : Effect selector later kernel kernel
  | told {after : Kernel} {backend : Backend} (held : selector.held? = some backend)
      (still : later.held? = some backend) (tells : kernel.Tells backend.poll after) :
      Effect selector later kernel after
  | gained {middle : Kernel} {backend : Backend} (bare : selector.held? = none)
      (held : later.held? = some backend)
      (opens : kernel.Opens [backend.poll, backend.reader, backend.writer] middle) :
      Effect selector later kernel
        (middle.setWatch backend.poll backend.reader (some pipeWatch))
  | lost {backend : Backend} (held : selector.held? = some backend)
      (bare : later.held? = none) :
      Effect selector later kernel
        (((kernel.closeFile backend.poll).closeFile backend.reader).closeFile backend.writer)

/-- Descriptors that are in use elsewhere are spared. -/
theorem Effect.spares {used : Descriptor → Prop} (effect : Effect selector later kernel after)
    (known : kernel.Knows used)
    (unused : ∀ backend, selector.held? = some backend → ∀ part, ¬used (backend.part part)) :
    Kernel.Spares used kernel after := by
  cases effect with
  | silent same => exact .refl _
  | told held still tells => exact tells.spares (unused _ held .poll)
  | gained bare held opens =>
      obtain ⟨spares, fresh⟩ := Kernel.Spares.opens known opens
      exact spares.trans (.setWatch (fresh _ List.mem_cons_self))
  | lost held bare =>
      have first : Kernel.Spares used kernel _ := .closeFile (unused _ held .poll)
      have second := first.trans (.closeFile (unused _ held .reader))
      exact second.trans (.closeFile (unused _ held .writer))

theorem tells_of_sync {key synced : Key} {ops : OpSet} {reply : Except Errno Unit}
    (outcome : Key.Synced Kernel.Answers backend key ops kernel reply synced after) :
    kernel.Tells backend.poll after := by
  rcases outcome.told with rfl | told
  · exact .refl
  · exact .single told

theorem DisarmedAll.tells {serials : List Nat}
    (outcome : DisarmedAll Kernel.Answers backend serials selector kernel later after) :
    kernel.Tells backend.poll after := by
  induction outcome with
  | nil => exact .refl
  | cons first others ih =>
      cases first with
      | kept silent => exact ih
      | disarmed found reported sync => exact (tells_of_sync sync).trans ih

theorem Registered.effect {descriptor : Descriptor} {validOps interest : OpSet}
    {attachment : Option String} {result : Except Fault Nat}
    (outcome : Registered Kernel.Answers selector descriptor validOps interest attachment kernel
      result later after) : Effect selector later kernel after := by
  cases outcome with
  | unasked plain => exact .silent rfl
  | refused isOpen sync =>
      exact .told (held?_of_phase isOpen) (held?_of_phase isOpen) (tells_of_sync sync)
  | issued isOpen within sync =>
      exact .told (held?_of_phase isOpen) (held?_of_phase isOpen) (tells_of_sync sync)

theorem Opening.effect {result : Except Fault Unit}
    (outcome : Opening Kernel.Answers selector kernel result later after) :
    Effect selector later kernel after := by
  cases outcome with
  | unasked begun => exact .silent rfl
  | failed fresh run =>
      rw [Backend.eq_of_runs_openNew run]
      exact .silent rfl
  | opened fresh run =>
      obtain ⟨middle, opens, rfl⟩ := Backend.opens_of_runs run
      exact .gained (by rw [held?, fresh]) rfl opens

theorem Cancelled.effect {serial : Nat}
    (outcome : Cancelled Kernel.Answers selector serial kernel later after) :
    Effect selector later kernel after := by
  cases outcome with
  | stale gone => exact .silent rfl
  | deleted found valid armed isOpen present answered =>
      rcases Kernel.eq_setWatch_of_answers answered with rfl | told
      · exact .silent rfl
      · exact .told (held?_of_phase isOpen) (held?_of_phase isOpen) (.single told)
  | forgotten found valid armed shut present => exact .silent rfl
  | released found valid unwatched => exact .silent rfl

theorem Polled.effect {result : Except Fault (List Nat)} (kept : selector.Kept)
    (outcome : Polled Kernel.Answers selector kernel result later after) :
    Effect selector later kernel after := by
  have rekeyed : Rekeyed (fun _ => False) True selector later := outcome.rekeyed kept
  have same : later.held? = selector.held? := by
    rw [held?, held?, rekeyed.phase]
  cases outcome with
  | shut shut => exact .silent rfl
  | failed isOpen waited =>
      rw [Kernel.eq_of_quiet_answers waited]
      exact .silent same
  | found isOpen waited retired consumed =>
      rw [Kernel.eq_of_quiet_answers consumed]
      obtain rfl := Kernel.eq_of_quiet_answers waited
      exact .told (held?_of_phase isOpen) (same.trans (held?_of_phase isOpen)) retired.tells

theorem Closing.effect (unheld : selector.polling = false)
    (settled : ∀ backend, selector.phase ≠ .closing backend)
    (outcome : Closing Kernel.Answers selector kernel later after) :
    Effect selector later kernel after := by
  cases outcome with
  | released isOpen unheld notified closed =>
      rename_i between backend reply
      have quietly : Answering.Quietly Kernel.Answers kernel between :=
        ⟨_, _, _, backend.notify_isQuiet, notified⟩
      obtain rfl := Kernel.eq_of_quiet_answers quietly
      rw [backend.closes_of_runs closed]
      exact .lost (held?_of_phase isOpen) rfl
  | held isOpen holding notified => cases unheld.symm.trans holding
  | shut shut kept =>
      refine .silent ?_
      rcases kept with rfl | rfl
      · rfl
      · unfold Selector.isOpen at shut
        unfold held?
        cases phase : selector.phase with
        | opened backend => simp [phase] at shut
        | closing backend => exact absurd phase (settled backend)
        | unopened | closed | ended => rfl

theorem Finishing.effect (outcome : Finishing Kernel.Answers selector kernel later after) :
    Effect selector later kernel after := by
  cases outcome with
  | released held closed =>
      rw [Backend.closes_of_runs closed]
      refine .lost ?_ rfl
      rcases held with isOpen | closing
      · exact held?_of_phase isOpen
      · rw [held?, closing]
  | bare unheld =>
      refine .silent ?_
      unfold held?
      cases phase : selector.phase with
      | opened backend => exact absurd phase (unheld backend).1
      | closing backend => exact absurd phase (unheld backend).2
      | unopened | closed | ended => rfl

/-- What an action may do to the kernel, if no poll holds the backend. -/
theorem Acts.effect {action : Action} (kept : selector.Kept)
    (unheld : selector.polling = false)
    (settled : ∀ backend, selector.phase ≠ .closing backend)
    (outcome : Acts Kernel.Answers selector action kernel later after) :
    Effect selector later kernel after := by
  cases outcome with
  | opening outcome => exact outcome.effect
  | change outcome =>
      cases outcome with
      | unasked plain => exact .silent rfl
      | stored found within valid isOpen present sync =>
          exact .told (held?_of_phase isOpen) (held?_of_phase isOpen) (tells_of_sync sync)
  | cancel outcome => exact outcome.effect
  | attach serial attachment => exact .silent rfl
  | poll outcome => exact outcome.effect kept
  | wakeup pending quietly =>
      rw [Kernel.eq_of_quiet_answers quietly]
      exact .silent rfl
  | close outcome => exact outcome.effect unheld settled
  | finish outcome => exact outcome.effect

end Selector

end SocketReactor
