import SocketReactor.Proofs.Host.Custody
import SocketReactor.Proofs.Selector.Calls
import SocketReactor.Proofs.Selector.Effects

/-!
# The descriptors of a selector

A selector has the three descriptors of its backend in hand.  It opens and closes them
together, and whatever else it does attends to what it has.
-/

namespace SocketReactor

variable {α : Type}

def Call.Attends : Call → Prop
  | .watch _ _ | .await _ _ _ | .readPipe _ _ | .writePipe _ _ => True
  | _ => False

theorem Call.Attends.isPlain {call : Call} (attends : call.Attends) : call.IsPlain := by
  cases call <;> first | exact attends.elim | exact trivial

theorem Call.Attends.minds {call : Call} {hand : List Hold} (attends : call.Attends) :
    call.Minds hand := by
  cases call <;> first | exact attends.elim | exact trivial

/-- A call that attends, and of which the reply does not matter. -/
theorem Program.attends_request {call : Call} (attends : call.Attends) :
    (request call).Ensures Call.Attends fun _ => True := ensures_request attends fun _ => trivial

/-- A program that attends keeps what is in hand. -/
theorem Program.Ensures.tends_attending {post : α → Prop} {program : Program α} {hand : List Hold}
    (attends : program.Ensures Call.Attends post) :
    program.Tends Call.Minds (fun value last => post value ∧ last = hand) hand :=
  attends.tends fun _ attends => ⟨attends.isPlain, attends.minds⟩

namespace Backend

theorem attends_notify (backend : Backend) :
    backend.notify.Ensures Call.Attends fun _ => True := backend.only_notify fun _ => trivial

def parts (backend : Backend) : List Descriptor := [backend.poll, backend.reader, backend.writer]

variable {hand : List Hold}

/-- Closing a descriptor leaves the others in hand. -/
theorem tends_request_close {descriptor : Descriptor} {rest : List Descriptor}
    (held : hand.map Hold.descriptor = descriptor :: rest) (apart : descriptor ∉ rest) :
    (Program.request (.close descriptor)).Tends Call.Minds
      (fun _ last => last.map Hold.descriptor = rest) hand := by
  refine Program.tends_request ?_ ?_
  · rw [Call.Minds, held]
    exact List.mem_cons_self
  · intro reply _
    have others : ∀ other ∈ rest, some descriptor ≠ some other := by
      rintro other mem same
      exact apart (Option.some.inj same ▸ mem)
    rw [map_descriptor_settle, held]
    simpa [Exchange.closed?, Exchange.given] using others

theorem tends_close {backend : Backend} (held : hand.map Hold.descriptor = backend.parts)
    (distinct : backend.parts.Nodup) :
    backend.close.Tends Call.Minds (fun _ last => last = []) hand := by
  obtain ⟨first, rest⟩ := List.nodup_cons.mp distinct
  obtain ⟨second, -⟩ := List.nodup_cons.mp rest
  refine (tends_request_close held first).bind ?_
  intro _ last held
  refine (tends_request_close held second).bind ?_
  intro _ last held
  refine (tends_request_close held List.not_mem_nil).bind ?_
  intro _ last held
  exact List.map_eq_nil_iff.mp held

/-- A pipe that is opened is in hand beside what was. -/
theorem tends_request_openPipe {poll : Descriptor} (held : hand.map Hold.descriptor = [poll]) :
    (Program.request .openPipe).Tends Call.Minds
      (Ends (fun ends last => last.map Hold.descriptor = parts ⟨poll, ends.1, ends.2⟩ ∧
        (parts ⟨poll, ends.1, ends.2⟩).Nodup)
        (fun last => last.map Hold.descriptor = [poll])) hand := by
  refine Program.tends_request trivial ?_
  intro reply apart
  rw [Apart, held] at apart
  rcases reply with errno | ⟨reader, writer⟩
  · rw [Ends, map_descriptor_settle, held]
    rfl
  · rw [Ends, map_descriptor_settle, held]
    have distinct : reader ≠ writer := by
      simpa [Exchange.given] using apart.1
    have apart' : reader ≠ poll ∧ writer ≠ poll := by
      simpa [Exchange.given] using apart.2
    refine ⟨rfl, ?_⟩
    simp [parts, distinct, apart'.1.symm, apart'.2.symm]

/-- A backend that is opened has its three descriptors in hand, and one that is not leaves
nothing. -/
theorem tends_openNew :
    openNew.Tends Call.Minds (Ends
      (fun backend last => last.map Hold.descriptor = backend.parts ∧ backend.parts.Nodup)
      (· = [])) [] := by
  have polled : (Program.request .openBackend).Tends Call.Minds
      (Ends (fun poll last => last.map Hold.descriptor = [poll]) (· = [])) [] := by
    refine Program.tends_request trivial ?_
    intro reply _
    cases reply <;> rfl
  refine polled.bind ?_
  intro reply first held
  cases reply with
  | error errno => exact held
  | ok poll =>
      refine (tends_request_openPipe held).bind ?_
      intro reply second held
      rcases reply with errno | ⟨reader, writer⟩
      · refine (tends_request_close held List.not_mem_nil).bind ?_
        intro _ last gone
        exact List.map_eq_nil_iff.mp gone
      · have watched : (add ⟨poll, reader, writer⟩ reader notifyToken ⟨true, false⟩).Tends
            Call.Minds (fun _ last => True ∧ last = second) second :=
          (Program.attends_request (by trivial)).tends_attending
        refine watched.bind ?_
        rintro reply last ⟨-, rfl⟩
        cases reply with
        | ok value => exact held
        | error errno => exact (tends_close held.1 held.2).bind fun _ _ gone => gone

end Backend

theorem Key.attends_sync (key : Key) (backend : Backend) (ops : OpSet) :
    (key.sync backend ops).Ensures Call.Attends fun _ => True :=
  key.only_sync (fun _ => trivial) ops

namespace Selector

variable {hand : List Hold} {selector : Selector}

def parts (selector : Selector) : List Descriptor :=
  match selector.held? with
  | some backend => backend.parts
  | none => []

def Fits (selector : Selector) (hand : List Hold) : Prop :=
  hand.map Hold.descriptor = selector.parts ∧ selector.parts.Nodup

theorem Fits.of_held? {later : Selector} (fits : selector.Fits hand)
    (same : later.held? = selector.held?) : later.Fits hand := by
  rw [Fits, parts, same]
  exact fits

theorem Fits.of_phase {later : Selector} (fits : selector.Fits hand)
    (phase : later.phase = selector.phase) : later.Fits hand :=
  fits.of_held? (by rw [held?, held?, phase])

/-- A step that attends to the backend and leaves the selector in its phase. -/
def Settled (selector : Selector) (step : Program (α × Selector)) : Prop :=
  step.Ensures Call.Attends fun result => result.2.phase = selector.phase

theorem Settled.tends {step : Program (α × Selector)} (settled : selector.Settled step)
    (fits : selector.Fits hand) :
    step.Tends Call.Minds (fun result last => result.2.Fits last) hand := by
  refine Program.Tends.mono (Program.Ensures.tends_attending settled) (fun _ _ => id) ?_
  rintro result last ⟨phase, rfl⟩
  exact fits.of_phase phase

/-! ## Keys -/

theorem settled_register (descriptor : Descriptor) (validOps interest : OpSet)
    (attachment : Option String) :
    selector.Settled (selector.register descriptor validOps interest attachment) := by
  unfold register
  split
  · exact rfl
  · refine Program.Ensures.bind (Key.attends_sync _ _ _) ?_
    rintro ⟨reply, synced⟩ _
    cases reply <;> exact rfl

theorem settled_setInterest (serial : Nat) (interest : OpSet) :
    selector.Settled (selector.setInterest serial interest) := by
  unfold setInterest
  split
  · exact rfl
  · split
    · exact rfl
    · refine Program.Ensures.bind (Key.attends_sync _ _ _) ?_
      rintro ⟨reply, synced⟩ _
      cases reply <;> exact rfl

theorem attends_cancel (serial : Nat) :
    (selector.cancel serial).Ensures Call.Attends fun later => later.phase = selector.phase := by
  unfold cancel
  split
  · exact rfl
  · split
    · exact rfl
    · dsimp only
      split
      · split
        · exact Program.Ensures.bind (Program.attends_request trivial) fun _ _ => rfl
        · exact rfl
      · exact rfl

theorem tends_cancel (serial : Nat) (fits : selector.Fits hand) :
    (selector.cancel serial).Tends Call.Minds (fun later last => later.Fits last) hand := by
  refine (attends_cancel serial).tends_attending.mono (fun _ _ => id) ?_
  rintro later last ⟨phase, rfl⟩
  exact fits.of_phase phase

/-! ## Waking and polling -/

theorem settled_wakeup : selector.Settled selector.wakeup := by
  unfold wakeup
  split
  · exact rfl
  · split
    · exact rfl
    · refine Program.Ensures.bind (Backend.attends_notify _) ?_
      intro reply _
      cases reply <;> exact rfl

theorem settled_process (backend : Backend) (events : List ReadyEvent) :
    selector.Settled (selector.process backend events) :=
  only_process ⟨fun _ => trivial, fun _ => trivial, fun _ => trivial⟩ events

theorem parts_of_held {backend : Backend} (held : selector.held? = some backend) :
    selector.parts = backend.parts := by
  rw [parts, held]

theorem fits_bare {later : Selector} (bare : later.held? = none) : later.Fits [] := by
  have none : later.parts = [] := by rw [parts, bare]
  rw [Fits, none]
  exact ⟨rfl, List.nodup_nil⟩

/-- A selector that gives its backend back has nothing in hand. -/
theorem Fits.tends_close {backend : Backend} {later : Selector} (fits : selector.Fits hand)
    (held : selector.held? = some backend) (bare : later.held? = none) :
    backend.close.Tends Call.Minds (fun _ last => later.Fits last) hand := by
  rw [Fits, parts_of_held held] at fits
  refine (Backend.tends_close fits.1 fits.2).mono (fun _ _ => id) ?_
  rintro _ last rfl
  exact fits_bare bare

theorem tends_endPoll (fits : selector.Fits hand) :
    selector.endPoll.Tends Call.Minds (fun later last => later.Fits last) hand := by
  unfold endPoll
  split
  · rename_i backend closing
    have held : selector.held? = some backend := by rw [held?, closing]
    have closed : backend.close.Tends Call.Minds (fun _ last =>
        Fits { selector with phase := .closed, polling := false } last) hand :=
      fits.tends_close held rfl
    exact closed.bind fun _ _ fits => fits
  · exact fits.of_phase rfl

theorem tends_completePoll (backend : Backend) (reply : Except Errno (List ReadyEvent))
    (fits : selector.Fits hand) :
    (selector.completePoll backend reply).Tends Call.Minds
      (fun result last => result.2.Fits last) hand := by
  have processed : ∀ events, (selector.completePoll backend (.ok events)).Tends Call.Minds
      (fun result last => result.2.Fits last) hand := by
    intro events
    refine ((settled_process backend events).tends fits).bind ?_
    rintro ⟨selected, after⟩ last fits
    exact (tends_endPoll fits).bind fun _ _ fits => fits
  cases reply with
  | ok events => exact processed events
  | error errno =>
      unfold completePoll
      dsimp only
      split
      · exact processed []
      · exact (tends_endPoll fits).bind fun _ _ fits => fits

theorem tends_poll (limit : Option Duration) (fits : selector.Fits hand) :
    (selector.poll limit).Tends Call.Minds (fun result last => result.2.Fits last) hand := by
  unfold poll beginPoll
  cases selector.backend with
  | error fault => exact fits
  | ok backend =>
      have waited : (backend.wait selector.enterPoll.waitCapacity limit).Tends Call.Minds
          (fun _ last => True ∧ last = hand) hand :=
        (Program.attends_request (by trivial)).tends_attending
      refine waited.bind ?_
      rintro reply last ⟨-, rfl⟩
      exact tends_completePoll backend reply (fits.of_phase rfl)

/-! ## Opening and closing -/

theorem tends_openBackend (fits : selector.Fits hand) :
    selector.openBackend.Tends Call.Minds (fun result last => result.2.Fits last) hand := by
  unfold openBackend
  split
  · exact fits
  · rename_i unopened
    have bare : selector.held? = none := by rw [held?, unopened]
    obtain rfl : hand = [] := by
      have same := fits.1
      rw [parts, bare] at same
      exact List.map_eq_nil_iff.mp same
    refine Backend.tends_openNew.bind ?_
    intro outcome last opened
    cases outcome with
    | ok backend => exact opened
    | error errno =>
        obtain rfl : last = [] := opened
        exact fits
  · exact fits

theorem tends_close (fits : selector.Fits hand) :
    selector.close.Tends Call.Minds (fun later last => later.Fits last) hand := by
  unfold close
  split
  · rename_i backend isOpen
    have notified : backend.notify.Tends Call.Minds (fun _ last => True ∧ last = hand) hand :=
      backend.attends_notify.tends_attending
    refine notified.bind ?_
    rintro reply last ⟨-, rfl⟩
    split
    · have same : selector.parts = backend.parts := parts_of_held (held?_of_phase isOpen)
      rw [Fits, same] at fits
      exact fits
    · have closed : backend.close.Tends Call.Minds (fun _ last =>
          Fits { selector.clearRegistry with phase := .closed } last) last :=
        fits.tends_close (held?_of_phase isOpen) rfl
      exact closed.bind fun _ _ fits => fits
  · exact fits.of_phase rfl
  · exact fits.of_phase rfl
  · rename_i unopened
    exact fits.of_held? (by rw [held?, held?, unopened])
  · rename_i closed
    exact fits.of_held? (by rw [held?, held?, closed])

theorem tends_finish (fits : selector.Fits hand) :
    selector.finish.Tends Call.Minds (fun later last => later.Fits last) hand := by
  have released : ∀ backend, selector.held? = some backend → (do
      backend.close
      return { selector.clearRegistry with phase := .ended } : Program Selector).Tends Call.Minds
        (fun later last => later.Fits last) hand := by
    intro backend held
    have closed : backend.close.Tends Call.Minds (fun _ last =>
        Fits { selector.clearRegistry with phase := .ended } last) hand := fits.tends_close held rfl
    exact closed.bind fun _ _ fits => fits
  unfold finish
  cases phase : selector.phase with
  | opened backend => exact released backend (held?_of_phase phase)
  | closing backend => exact released backend (by rw [held?, phase])
  | unopened | closed | ended => exact fits.of_held? (by rw [held?, held?, phase])

end Selector

end SocketReactor
