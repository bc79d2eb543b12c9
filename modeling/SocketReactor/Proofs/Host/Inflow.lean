import Mathlib.Logic.Relation
import SocketReactor.Proofs.Host.Runs

/-!
# What flows in over a connection

What the host holds of the octets that come in at one descriptor: those that the peer has
sent, those that travel, those that wait to be received, and the end of the stream, which
travels behind the octets.  The peer goes on by itself at any moment.  Whoever receives is
given octets that wait; he is given none if the end has arrived, or if this side has shut its
own reading half.
-/

namespace SocketReactor

variable {α : Type} {descriptor : Descriptor}

inductive Parcel where
  | octets (data : List UInt8)
  /-- The peer has closed, or has shut its writing half. -/
  | ending
  deriving DecidableEq

def Parcel.data : Parcel → List UInt8
  | octets data => data
  | ending => []

/-- What the host holds of the octets that come in at a descriptor. -/
structure Inflow where
  /-- All that the peer has sent so far. -/
  sent : List UInt8
  /-- Whether the peer has closed, or has shut its writing half. -/
  ended : Bool
  underway : List Parcel
  queue : List UInt8
  /-- Whether the end has arrived. -/
  finished : Bool
  /-- All that has been received so far. -/
  received : List UInt8
  /-- Whether this side has shut its reading half. -/
  deaf : Bool
  deriving DecidableEq

namespace Inflow

variable {inflow moment after : Inflow} {capacity : Nat} {reply : Except Errno (List UInt8)}

/-- A connection over which nothing has come. -/
def begun : Inflow := ⟨[], false, [], [], false, [], false⟩

/-- The peer has ended its stream, and all that it has sent has been received. -/
def IsOver (inflow : Inflow) : Prop := inflow.ended = true ∧ inflow.received = inflow.sent

/-- What happens by itself: the peer sends or ends its stream, and what travels arrives. -/
inductive Step : Inflow → Inflow → Prop where
  | sends {inflow : Inflow} (data : List UInt8) (unended : inflow.ended = false) :
      Step inflow { inflow with
        sent := inflow.sent ++ data, underway := inflow.underway ++ [.octets data] }
  | ends {inflow : Inflow} (unended : inflow.ended = false) :
      Step inflow { inflow with ended := true, underway := inflow.underway ++ [.ending] }
  | arrives {inflow : Inflow} {data : List UInt8} {rest : List Parcel}
      (next : inflow.underway = .octets data :: rest) :
      Step inflow { inflow with underway := rest, queue := inflow.queue ++ data }
  | closes {inflow : Inflow} {rest : List Parcel} (next : inflow.underway = .ending :: rest) :
      Step inflow { inflow with underway := rest, finished := true }

/-- What happens by itself in a while. -/
abbrev Moves : Inflow → Inflow → Prop := Relation.ReflTransGen Step

/-- What the host gives to one who receives.  It may fail in any way. -/
inductive Gives (capacity : Nat) : Inflow → Except Errno (List UInt8) → Inflow → Prop where
  | failed (inflow : Inflow) (errno : Errno) : Gives capacity inflow (.error errno) inflow
  | data {inflow : Inflow} {data rest : List UInt8} (waits : inflow.queue = data ++ rest)
      (some : data ≠ []) (fits : data.length ≤ capacity) :
      Gives capacity inflow (.ok data)
        { inflow with queue := rest, received := inflow.received ++ data }
  | nothing {inflow : Inflow} (empty : inflow.queue = [])
      (final : inflow.finished = true ∨ inflow.deaf = true) : Gives capacity inflow (.ok []) inflow
  /-- There is no room for anything. -/
  | unasked {inflow : Inflow} (roomless : capacity = 0) : Gives capacity inflow (.ok []) inflow

/-- What the host replies at one moment, and what it holds then.  A connection that is made anew
may be heard again. -/
def Tells (descriptor : Descriptor) : (call : Call) → Inflow → call.Reply → Inflow → Prop
  | .receive asked capacity, inflow, reply, after =>
      if asked = descriptor then Gives capacity inflow reply after else after = inflow
  | .receiveFrom asked capacity, inflow, reply, after =>
      if asked = descriptor then Gives capacity inflow (reply.map Prod.fst) after
      else after = inflow
  | .shutdown asked .read, inflow, .ok (), after =>
      after = if asked = descriptor then { inflow with deaf := true } else inflow
  | .connect _ _, inflow, _, after => after = inflow ∨ after = { inflow with deaf := false }
  | _, inflow, _, after => after = inflow

/-- The answers of the host, each given at some moment after the one before. -/
def Answers (descriptor : Descriptor) : Answering Inflow := fun call inflow reply after =>
  ∃ moment, inflow.Moves moment ∧ Tells descriptor call moment reply after

/-! ## Books -/

/-- All that was sent has been received, waits or travels, in this order; the end travels behind
all else. -/
structure Books (inflow : Inflow) : Prop where
  whole : inflow.sent = inflow.received ++ inflow.queue ++ inflow.underway.flatMap Parcel.data
  last : ∀ front rest, inflow.underway = front ++ .ending :: rest →
    rest = [] ∧ inflow.ended = true
  finished : inflow.finished = true → inflow.ended = true ∧ inflow.underway = []

theorem books_begun : begun.Books where
  whole := rfl
  last := by
    intro front rest whole
    cases front <;> cases whole
  finished := nofun

/-- Nothing travels behind the end. -/
theorem Books.ending_notMem (books : inflow.Books) (unended : inflow.ended = false) :
    .ending ∉ inflow.underway := by
  intro member
  obtain ⟨front, rest, whole⟩ := List.append_of_mem member
  rw [(books.last front rest whole).2] at unended
  cases unended

theorem Books.step (books : inflow.Books) (step : Step inflow after) : after.Books := by
  cases step with
  | sends data unended =>
      refine ⟨?_, ?_, ?_⟩
      · simp [books.whole, Parcel.data]
      · intro front rest whole
        have member : .ending ∈ inflow.underway ++ [.octets data] := by
          simp [show inflow.underway ++ [.octets data] = front ++ .ending :: rest from whole]
        simp [books.ending_notMem unended] at member
      · intro finished
        rw [(books.finished finished).1] at unended
        cases unended
  | ends unended =>
      refine ⟨?_, ?_, ?_⟩
      · simp [books.whole, Parcel.data]
      · intro front rest whole
        refine ⟨?_, rfl⟩
        -- The end that has just been sent is the last parcel, and it is the first end.
        rcases List.append_eq_append_iff.mp whole with ⟨more, rfl, same⟩ | ⟨more, same, behind⟩
        · cases more with
          | nil => exact (List.cons.inj same).2.symm
          | cons head tail =>
              obtain ⟨-, same⟩ := List.cons.inj same
              cases tail <;> cases same
        · cases more with
          | nil => exact (List.cons.inj behind).2
          | cons head tail =>
              obtain ⟨rfl, -⟩ := List.cons.inj behind
              exact absurd (by simp [same]) (books.ending_notMem unended)
      · intro finished
        rw [(books.finished finished).1] at unended
        cases unended
  | arrives next =>
      refine ⟨?_, ?_, ?_⟩
      · simp [books.whole, next, Parcel.data]
      · intro front rest whole
        exact books.last (_ :: front) rest (next.trans (congrArg (List.cons _) whole))
      · intro finished
        rw [(books.finished finished).2] at next
        cases next
  -- An end is at the head of what is underway only if it is all there is.
  | closes next =>
      obtain ⟨rfl, ended⟩ := books.last [] _ next
      refine ⟨?_, ?_, fun _ => ⟨ended, rfl⟩⟩
      · simp [books.whole, next, Parcel.data]
      · intro front rest whole
        cases front <;> cases whole

/-- Receiving moves octets from those that wait to those that have been received. -/
theorem Books.gives (books : inflow.Books) (gives : Gives capacity inflow reply after) :
    after.Books := by
  cases gives with
  | failed | nothing | unasked => exact books
  | data waits some fits => exact ⟨by simp [books.whole, waits], books.last, books.finished⟩

theorem Moves.books (moves : inflow.Moves moment) (books : inflow.Books) : moment.Books := by
  induction moves with
  | refl => exact books
  | tail _ last ih => exact ih.step last

theorem Books.tells {call : Call} {reply : call.Reply} (books : inflow.Books)
    (tells : Tells descriptor call inflow reply after) : after.Books := by
  cases call with
  | receive asked capacity =>
      change if asked = descriptor then _ else _ at tells
      split at tells
      · exact books.gives tells
      · exact tells ▸ books
  | receiveFrom asked capacity =>
      change if asked = descriptor then _ else _ at tells
      split at tells
      · exact books.gives tells
      · exact tells ▸ books
  | shutdown asked half =>
      cases half with
      | write => exact (tells : after = inflow) ▸ books
      | read =>
          cases reply with
          | error errno => exact (tells : after = inflow) ▸ books
          | ok done =>
              obtain rfl : after = if asked = descriptor then _ else inflow := tells
              split
              · exact ⟨books.whole, books.last, books.finished⟩
              · exact books
  | connect asked address =>
      rcases tells with rfl | rfl
      · exact books
      · exact ⟨books.whole, books.last, books.finished⟩
  | _ => exact (tells : after = inflow) ▸ books

theorem books_of_runs {program : Program α} {result : α} (books : inflow.Books)
    (run : program.Runs (Answers descriptor) inflow result after) : after.Books := by
  induction program generalizing inflow with
  | done value =>
      obtain ⟨-, rfl⟩ := run
      exact books
  | ask call next ih =>
      obtain ⟨reply, between, ⟨moment, moves, tells⟩, rest⟩ := run
      exact ih reply ((moves.books books).tells tells) rest

/-- Once the end has arrived and nothing waits, all that was sent has been received. -/
theorem Books.isOver (books : inflow.Books) (finished : inflow.finished = true)
    (empty : inflow.queue = []) : inflow.IsOver := by
  obtain ⟨ended, arrived⟩ := books.finished finished
  refine ⟨ended, ?_⟩
  rw [books.whole, empty, arrived]
  simp

/-- What the host replies is what it has given out. -/
theorem Gives.received (gives : Gives capacity inflow reply after) :
    after.received = inflow.received ++ reply.toOption.getD [] ∧ after.deaf = inflow.deaf := by
  cases gives with
  | data waits some fits => exact ⟨rfl, rfl⟩
  | failed | nothing | unasked => exact ⟨(List.append_nil _).symm, rfl⟩

/-! ## What leaves the octets and this side's reading half alone -/

/-- Nothing has been received in between, and this side has not shut its reading half. -/
structure Undisturbed (inflow after : Inflow) : Prop where
  received : after.received = inflow.received
  deaf : after.deaf = true → inflow.deaf = true

theorem Undisturbed.refl (inflow : Inflow) : inflow.Undisturbed inflow := ⟨rfl, id⟩

theorem Undisturbed.trans (first : inflow.Undisturbed moment) (rest : moment.Undisturbed after) :
    inflow.Undisturbed after :=
  ⟨rest.received.trans first.received, fun deaf => first.deaf (rest.deaf deaf)⟩

theorem Step.undisturbed (step : Step inflow after) : inflow.Undisturbed after := by
  cases step <;> exact ⟨rfl, id⟩

theorem Moves.undisturbed (moves : inflow.Moves moment) : inflow.Undisturbed moment := by
  induction moves with
  | refl => exact .refl _
  | tail _ last ih => exact ih.trans last.undisturbed

end Inflow

def Call.SparesInflow : Call → Prop
  | receive _ _ | receiveFrom _ _ => False
  | shutdown _ half => half ≠ .read
  | _ => True

namespace Inflow

variable {inflow after : Inflow}

theorem Tells.undisturbed {call : Call} {reply : call.Reply} (spares : call.SparesInflow)
    (tells : Tells descriptor call inflow reply after) : inflow.Undisturbed after := by
  cases call with
  | receive asked capacity => exact spares.elim
  | receiveFrom asked capacity => exact spares.elim
  | shutdown asked half =>
      cases half with
      | write => exact (tells : after = inflow) ▸ .refl _
      | read => exact absurd rfl spares
  | connect asked address =>
      rcases tells with rfl | rfl
      · exact .refl _
      · exact ⟨rfl, nofun⟩
  | _ => exact (tells : after = inflow) ▸ .refl _

theorem undisturbed_of_runs {program : Program α} {post : α → Prop} {result : α}
    (spares : program.Ensures Call.SparesInflow post)
    (run : program.Runs (Answers descriptor) inflow result after) : inflow.Undisturbed after := by
  refine (spares.keeps Undisturbed .refl (fun _ _ _ => .trans) ?_ run).1
  rintro call before reply later spares ⟨moment, moves, tells⟩
  exact moves.undisturbed.trans (tells.undisturbed spares)

theorem answers_receive {capacity : Nat} {reply : Except Errno (List UInt8)} :
    Answers descriptor (.receive descriptor capacity) inflow reply after ↔
      ∃ moment, inflow.Moves moment ∧ Gives capacity moment reply after := by
  simp [Answers, Tells]

theorem answers_receiveFrom {capacity : Nat} {reply : Except Errno (List UInt8 × RawAddress)} :
    Answers descriptor (.receiveFrom descriptor capacity) inflow reply after ↔
      ∃ moment, inflow.Moves moment ∧ Gives capacity moment (reply.map Prod.fst) after := by
  simp [Answers, Tells]

theorem answers_shutdown_read {reply : Except Errno Unit} :
    Answers descriptor (.shutdown descriptor .read) inflow reply after ↔
      ∃ moment, inflow.Moves moment ∧
        (reply = .ok () ∧ after = { moment with deaf := true } ∨
          (∃ errno, reply = .error errno) ∧ after = moment) := by
  cases reply with
  | ok done => simp [Answers, Tells]
  | error errno => simp [Answers, Tells]

end Inflow

end SocketReactor
