import Mathlib.Logic.Relation
import SocketReactor.Proofs.Host.Runs

/-!
# The handshake of a connection

What the host holds for a descriptor that connects: how far the handshake has come, and the
pending error.  The handshake goes on by itself at any moment.  Reading the pending error takes
it away, and a descriptor without a peer has no peer to name.
-/

namespace SocketReactor

variable {α : Type} {descriptor : Descriptor}

/-- How far the handshake of a connection has come. -/
inductive Handshake where
  | underway
  | made
  | failed (errno : Errno)
  /-- The connection was made and has ended since. -/
  | closed
  deriving DecidableEq

def Handshake.Succeeded : Handshake → Prop
  | made | closed => True
  | underway | failed _ => False

/-- What the host holds for a descriptor that connects. -/
structure Line where
  handshake : Handshake
  /-- The pending error that nobody has read, zero if there is none. -/
  unread : Int32
  deriving DecidableEq

namespace Line

variable {line moment after : Line}

def begun : Line := ⟨.underway, 0⟩

/-- What happens by itself: the connection is made, it fails, or it ends after it was made. -/
inductive Step : Line → Line → Prop where
  | makes {unread : Int32} : Step ⟨.underway, unread⟩ ⟨.made, unread⟩
  | fails {unread : Int32} {errno : Errno} (real : errno.code ≠ 0) :
      Step ⟨.underway, unread⟩ ⟨.failed errno, errno.code⟩
  | ends {unread left : Int32} : Step ⟨.made, unread⟩ ⟨.closed, left⟩

/-- What happens by itself in a while. -/
abbrev Moves : Line → Line → Prop := Relation.ReflTransGen Step

/-- The line after its pending error was read. -/
def cleared (line : Line) : Line := { line with unread := 0 }

/-- What the host replies at one moment, and what the line is then.  An exchange of data may take
the pending error away as well. -/
def Tells (descriptor : Descriptor) : (call : Call) → Line → call.Reply → Line → Prop
  | .intOption asked .error, line, reply, after =>
      if asked = descriptor then reply = .ok line.unread ∧ after = line.cleared else after = line
  | .peerName asked, line, reply, after =>
      after = line ∧ (asked = descriptor →
        (∃ name, reply = .ok name) ∧ line.handshake = .made ∨
        reply = .error .notConnected ∧ line.handshake ≠ .made)
  | .send _ _, line, _, after | .sendTo _ _ _, line, _, after | .receive _ _, line, _, after
  | .receiveFrom _ _, line, _, after => after = line ∨ after = line.cleared
  | _, line, _, after => after = line

/-- The answers of the host, each given at some moment after the one before. -/
def Answers (descriptor : Descriptor) : Answering Line := fun call line reply after =>
  ∃ moment, line.Moves moment ∧ Tells descriptor call moment reply after

/-- What every step preserves, a while preserves. -/
theorem Moves.keeps {kept : Line → Prop}
    (step : ∀ line after, Step line after → kept line → kept after)
    (moves : line.Moves moment) (before : kept line) : kept moment := by
  induction moves with
  | refl => exact before
  | tail _ last ih => exact step _ _ last ih

/-- A handshake that has failed stays as it is. -/
theorem Moves.eq_of_failed {errno : Errno} (moves : line.Moves moment)
    (failed : line.handshake = .failed errno) : moment = line := by
  induction moves with
  | refl => rfl
  | tail _ last ih =>
      subst ih
      cases last <;> cases failed

inductive Leads : Handshake → Handshake → Prop where
  | rest (handshake : Handshake) : Leads handshake handshake
  | settles (handshake : Handshake) : Leads .underway handshake
  | ends : Leads .made .closed

theorem Leads.trans {first second third : Handshake} (head : Leads first second)
    (tail : Leads second third) : Leads first third := by
  cases head with
  | rest => exact tail
  | settles => exact .settles _
  | ends =>
      cases tail with
      | rest => exact .ends

theorem Leads.succeeded {handshake later : Handshake} (leads : Leads handshake later)
    (succeeded : handshake.Succeeded) : later.Succeeded := by
  cases leads with
  | rest => exact succeeded
  | settles => exact succeeded.elim
  | ends => exact trivial

/-- A handshake that has failed, or whose connection has ended, leads nowhere. -/
theorem Leads.eq_of_final {handshake later : Handshake} (leads : Leads handshake later)
    (final : handshake = .closed ∨ ∃ errno, handshake = .failed errno) : later = handshake := by
  cases leads with
  | rest => rfl
  | settles | ends => rcases final with impossible | ⟨errno, impossible⟩ <;> cases impossible

/-- What comes to no connection was underway, has ended or has failed. -/
theorem Leads.of_unmade {handshake later : Handshake} (leads : Leads handshake later)
    (unmade : later ≠ .made) :
    handshake = .underway ∨ later = .closed ∨ ∃ errno, handshake = .failed errno := by
  cases leads with
  | rest =>
      cases handshake with
      | underway => exact .inl rfl
      | made => exact absurd rfl unmade
      | failed errno => exact .inr (.inr ⟨errno, rfl⟩)
      | closed => exact .inr (.inl rfl)
  | settles => exact .inl rfl
  | ends => exact .inr (.inl rfl)

theorem Moves.leads (moves : line.Moves moment) : Leads line.handshake moment.handshake := by
  induction moves with
  | refl => exact .rest _
  | tail _ last ih =>
      refine ih.trans ?_
      cases last with
      | makes | fails => exact .settles _
      | ends => exact .ends

theorem Tells.handshake_eq {call : Call} {reply : call.Reply}
    (tells : Tells descriptor call line reply after) : after.handshake = line.handshake := by
  cases call with
  | intOption asked option =>
      cases option with
      | error =>
          change if asked = descriptor then _ ∧ _ else _ at tells
          split at tells
          · obtain ⟨-, rfl⟩ := tells
            rfl
          · exact congrArg handshake tells
      | _ => exact congrArg handshake tells
  | peerName => exact congrArg handshake tells.1
  | send | sendTo | receive | receiveFrom =>
      rcases tells with rfl | rfl <;> rfl
  | _ => exact congrArg handshake tells

/-- A program does nothing to the handshake. -/
theorem leads_of_runs {program : Program α} {result : α}
    (run : program.Runs (Answers descriptor) line result after) :
    Leads line.handshake after.handshake := by
  induction program generalizing line with
  | done value =>
      obtain ⟨-, rfl⟩ := run
      exact .rest _
  | ask call next ih =>
      obtain ⟨reply, between, ⟨moment, moves, tells⟩, rest⟩ := run
      exact moves.leads.trans (tells.handshake_eq ▸ ih reply rest)

end Line

def Call.Blind : Call → Prop
  | intOption _ option => option ≠ .error
  | send _ _ | sendTo _ _ _ | receive _ _ | receiveFrom _ _ => False
  | _ => True

namespace Line

variable {line after : Line}

theorem Tells.eq_of_blind {call : Call} {reply : call.Reply} (blind : call.Blind)
    (tells : Tells descriptor call line reply after) : after = line := by
  cases call with
  | intOption asked option =>
      cases option with
      | error => exact absurd rfl blind
      | _ => exact tells
  | peerName => exact tells.1
  | send | sendTo | receive | receiveFrom => exact blind.elim
  | _ => exact tells

/-- While a program runs that leaves the pending error alone, the line moves by itself alone. -/
theorem moves_of_runs {program : Program α} {post : α → Prop} {result : α}
    (blind : program.Ensures Call.Blind post)
    (run : program.Runs (Answers descriptor) line result after) : line.Moves after := by
  refine (blind.keeps Moves (fun _ => .refl) (fun _ _ _ => .trans) ?_ run).1
  rintro call before reply later unseen ⟨moment, moves, tells⟩
  exact tells.eq_of_blind unseen ▸ moves

/-! ## What the host replies to the two questions -/

theorem answers_error {reply : Except Errno Int32} :
    Answers descriptor (.intOption descriptor .error) line reply after ↔
      ∃ moment, line.Moves moment ∧ reply = .ok moment.unread ∧ after = moment.cleared := by
  simp [Answers, Tells]

theorem answers_peerName {reply : Except Errno RawAddress} :
    Answers descriptor (.peerName descriptor) line reply after ↔
      line.Moves after ∧ ((∃ name, reply = .ok name) ∧ after.handshake = .made ∨
        reply = .error .notConnected ∧ after.handshake ≠ .made) := by
  constructor
  · rintro ⟨moment, moves, rfl, told⟩
    exact ⟨moves, told rfl⟩
  · rintro ⟨moves, told⟩
    exact ⟨after, moves, rfl, fun _ => told⟩

end Line

end SocketReactor
