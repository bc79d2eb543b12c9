import SocketReactor.Proofs.Host.Ledger

/-!
# Custody of descriptors

A program that starts with some descriptors in hand and keeps to them: `Program.Tends`
follows what is in hand from call to call and says what is in hand at the end, whatever the
host replies.  On a host that keeps a log nothing but what is in hand is then closed or made
anything of.
-/

namespace SocketReactor

variable {α β σ : Type} {permits : List Hold → Call → Prop} {hand : List Hold}

def Apart (hand : List Hold) (exchange : Exchange) : Prop :=
  exchange.given.Nodup ∧ ∀ descriptor ∈ exchange.given, descriptor ∉ hand.map Hold.descriptor

/-- A call that gets and closes nothing and names nothing but what is in hand. -/
def Call.Steadily (hand : List Hold) (call : Call) : Prop :=
  call.IsQuiet ∧ ∀ descriptor ∈ call.names,
    descriptor = .absent ∨ descriptor ∈ hand.map Hold.descriptor

/-- A call of a holder of at most one descriptor.  A descriptor is got with empty hands, and
only a listener that is lent accepts; what is in hand may be closed. -/
def Call.Carefully (lent : List Descriptor) (hand : List Hold) : Call → Prop
  | .socket _ _ _ => hand = []
  | .accept listener => hand = [] ∧ listener ∈ lent
  | .close descriptor => ∃ hold, hand = [hold] ∧ hold.descriptor = descriptor
  | call => call.Steadily hand

theorem Call.Steadily.given_eq {call : Call} (steadily : call.Steadily hand)
    (reply : call.Reply) : Exchange.given ⟨call, reply⟩ = [] := by
  cases call <;> first | exact steadily.1.elim | rfl

theorem Call.Steadily.carefully {lent : List Descriptor} {call : Call}
    (steadily : call.Steadily hand) : call.Carefully lent hand := by
  cases call <;> first | exact steadily.1.elim | exact steadily

theorem Call.Carefully.minds {lent : List Descriptor} {call : Call}
    (carefully : call.Carefully lent hand) : call.Minds hand := by
  cases call with
  | close descriptor =>
      obtain ⟨hold, rfl, rfl⟩ := carefully
      exact List.mem_cons_self
  | listen | connect | shutdown | setStatusFlags => exact carefully.2 _ List.mem_cons_self
  | _ => exact trivial

/-- A quiet call gives nothing. -/
theorem Call.Steadily.apart {call : Call} (steadily : call.Steadily hand) (reply : call.Reply) :
    Apart hand ⟨call, reply⟩ := by
  rw [Apart, steadily.given_eq reply]
  exact ⟨List.nodup_nil, fun _ mem => absurd mem List.not_mem_nil⟩

/-- What a careful call gives was not in hand. -/
theorem Call.Carefully.apart {lent : List Descriptor} {call : Call}
    (carefully : call.Carefully lent hand) (reply : call.Reply) : Apart hand ⟨call, reply⟩ := by
  cases call with
  | socket family kind number =>
      obtain rfl : hand = [] := carefully
      refine ⟨?_, fun _ _ => List.not_mem_nil⟩
      cases reply <;> simp [Exchange.given]
  | accept listener =>
      obtain ⟨rfl, -⟩ := carefully
      refine ⟨?_, fun _ _ => List.not_mem_nil⟩
      match reply with
      | .ok (descriptor, peer) => simp [Exchange.given]
      | .error errno => simp [Exchange.given]
  | close descriptor => exact ⟨List.nodup_nil, nofun⟩
  | _ => exact Call.Steadily.apart carefully reply

namespace Program

/-- Every call is permitted by what is in hand, and the result fits what is in hand at the end. -/
def Tends (permits : List Hold → Call → Prop) (post : α → List Hold → Prop) :
    Program α → List Hold → Prop
  | done value, hand => post value hand
  | ask call next, hand => permits hand call ∧ ∀ reply, Apart hand ⟨call, reply⟩ →
      (next reply).Tends permits post (settle hand ⟨call, reply⟩)

theorem tends_request {call : Call} {post : call.Reply → List Hold → Prop}
    (permitted : permits hand call)
    (right : ∀ reply, Apart hand ⟨call, reply⟩ → post reply (settle hand ⟨call, reply⟩)) :
    (request call).Tends permits post hand := ⟨permitted, right⟩

theorem Tends.bind {middle : α → List Hold → Prop} {post : β → List Hold → Prop}
    {program : Program α} {next : α → Program β} (first : program.Tends permits middle hand)
    (rest : ∀ value last, middle value last → (next value).Tends permits post last) :
    (program >>= next).Tends permits post hand := by
  induction program generalizing hand with
  | done value => exact rest value hand first
  | ask call _ ih => exact ⟨first.1, fun reply apart => ih reply (first.2 reply apart)⟩

theorem Tends.mono {other : List Hold → Call → Prop} {post weaker : α → List Hold → Prop}
    {program : Program α} (tends : program.Tends permits post hand)
    (permitted : ∀ hand call, permits hand call → other hand call)
    (follows : ∀ value last, post value last → weaker value last) :
    program.Tends other weaker hand := by
  induction program generalizing hand with
  | done value => exact follows value hand tends
  | ask call _ ih =>
      exact ⟨permitted _ _ tends.1, fun reply apart => ih reply (tends.2 reply apart)⟩

/-- A program of plain calls keeps what is in hand. -/
theorem Ensures.tends {allowed : Call → Prop} {post : α → Prop} {program : Program α}
    (ensures : program.Ensures allowed post)
    (permitted : ∀ call, allowed call → call.IsPlain ∧ permits hand call) :
    program.Tends permits (fun value last => post value ∧ last = hand) hand := by
  induction program with
  | done value => exact ⟨ensures, rfl⟩
  | ask call _ ih =>
      have plain := permitted call ensures.1
      refine ⟨plain.2, fun reply _ => ?_⟩
      rw [settle_of_isPlain plain.1]
      exact ih reply (ensures.2 reply)

/-- A program that gets and closes nothing makes quiet calls alone. -/
theorem Tends.quiet {post : α → List Hold → Prop} {program : Program α}
    (tends : program.Tends Call.Steadily post hand) :
    program.Ensures Call.IsQuiet fun value => ∃ last, post value last := by
  induction program generalizing hand with
  | done value => exact ⟨hand, tends⟩
  | ask call _ ih =>
      exact ⟨tends.1.1, fun reply => ih reply (tends.2 reply (tends.1.apart reply))⟩

/-- What every permitted exchange keeps, a run keeps. -/
theorem Tends.keeps {answers : Answering σ} (Kept : List Hold → σ → Prop)
    {post : α → List Hold → Prop} {program : Program α} {result : α} {state after : σ}
    (step : ∀ hand call before reply later, permits hand call →
      answers call before reply later → Kept hand before →
        Apart hand ⟨call, reply⟩ ∧ Kept (settle hand ⟨call, reply⟩) later)
    (tends : program.Tends permits post hand)
    (run : program.Runs answers state result after) (kept : Kept hand state) :
    ∃ last, post result last ∧ Kept last after := by
  induction program generalizing hand state with
  | done value =>
      obtain ⟨rfl, rfl⟩ := run
      exact ⟨hand, tends, kept⟩
  | ask call next ih =>
      obtain ⟨reply, between, answered, rest⟩ := run
      obtain ⟨apart, kept'⟩ := step _ _ _ _ _ tends.1 answered kept
      exact ih reply (tends.2 reply apart) rest kept'

end Program

/-- The host may come from one state to another by a program that makes calls that are
permitted by what is in hand and ends with what `post` says in hand. -/
def Answering.Tended (answers : Answering σ) (permits : List Hold → Call → Prop)
    (hand : List Hold) (post : List Hold → Prop) (state after : σ) : Prop :=
  ∃ (α : Type) (program : Program α) (result : α),
    program.Tends permits (fun value last => value = result → post last) hand ∧
      program.Runs answers state result after

namespace Answering.Tended

variable {answers : Answering σ} {state after : σ} {post : List Hold → Prop}

theorem refl (fits : post hand) : answers.Tended permits hand post state state :=
  ⟨Unit, .done (), (), fun _ => fits, rfl, rfl⟩

theorem mono {other : List Hold → Call → Prop} {weaker : List Hold → Prop}
    (tended : answers.Tended permits hand post state after)
    (permitted : ∀ hand call, permits hand call → other hand call)
    (follows : ∀ last, post last → weaker last) :
    answers.Tended other hand weaker state after := by
  obtain ⟨α, program, result, tends, run⟩ := tended
  exact ⟨α, program, result, tends.mono permitted
    fun _ last right same => follows last (right same), run⟩

theorem keeps (Kept : List Hold → σ → Prop)
    (step : ∀ hand call before reply later, permits hand call →
      answers call before reply later → Kept hand before →
        Apart hand ⟨call, reply⟩ ∧ Kept (settle hand ⟨call, reply⟩) later)
    (tended : answers.Tended permits hand post state after) (kept : Kept hand state) :
    ∃ last, post last ∧ Kept last after := by
  obtain ⟨α, program, result, tends, run⟩ := tended
  obtain ⟨last, right, kept⟩ := tends.keeps Kept step run kept
  exact ⟨last, right rfl, kept⟩

/-- Careful calls end with what they should have in hand, whatever the host replies. -/
theorem ends {lent : List Descriptor}
    (tended : answers.Tended (Call.Carefully lent) hand post state after) :
    ∃ last, post last := by
  obtain ⟨last, right, -⟩ := tended.keeps (fun _ _ => True)
    (fun _ _ _ reply _ carefully _ _ => ⟨carefully.apart reply, trivial⟩) trivial
  exact ⟨last, right⟩

end Answering.Tended

/-- A run of a program that tends what is in hand. -/
theorem Program.Tends.tended {answers : Answering σ} {post : α → List Hold → Prop}
    {program : Program α} {result : α} {state after : σ}
    (tends : program.Tends permits post hand)
    (run : program.Runs answers state result after) :
    answers.Tended permits hand (post result) state after :=
  ⟨α, program, result, tends.mono (fun _ _ => id) fun _ _ right same => same ▸ right, run⟩

/-! ## Attempts -/

/-- An outcome fits what is in hand at the end: a value as `post` says, a failure as `failed`
says. -/
def Ends {ε : Type} (post : α → List Hold → Prop) (failed : List Hold → Prop) :
    Except ε α → List Hold → Prop
  | .ok value, last => post value last
  | .error _, last => failed last

namespace Attempt

/-- Every call is permitted by what is in hand, and the outcome fits what is in hand at the
end. -/
def Tends (permits : List Hold → Call → Prop) (post : α → List Hold → Prop)
    (failed : List Hold → Prop) (attempt : Attempt α) (hand : List Hold) : Prop :=
  attempt.run.Tends permits (Ends post failed) hand

variable {post : α → List Hold → Prop} {failed : List Hold → Prop}

theorem tends_pure {value : α} (right : post value hand) :
    (pure value : Attempt α).Tends permits post failed hand := right

theorem tends_throw (fault : Fault) (right : failed hand) :
    (throw fault : Attempt α).Tends permits post failed hand := right

theorem tends_ofExcept {outcome : Except Fault α}
    (right : ∀ value, outcome = .ok value → post value hand) (otherwise : failed hand) :
    (ofExcept outcome).Tends permits post failed hand := by
  cases outcome with
  | ok value => exact right value rfl
  | error fault => exact otherwise

theorem tends_ofProgram {program : Program α} (tends : program.Tends permits post hand) :
    (ofProgram program).Tends permits post failed hand :=
  tends.bind fun _ _ right => right

theorem tends_ofCall {program : Program (Except Errno α)} {fault : Errno → Fault}
    (tends : program.Tends permits (Ends post failed) hand) :
    (ofCall program fault).Tends permits post failed hand := by
  refine tends.bind ?_
  intro outcome last right
  cases outcome <;> exact right

theorem Tends.bind {middle : α → List Hold → Prop} {post : β → List Hold → Prop}
    {first : Attempt α} {next : α → Attempt β} (head : first.Tends permits middle failed hand)
    (rest : ∀ value last, middle value last → (next value).Tends permits post failed last) :
    (first >>= next).Tends permits post failed hand := by
  refine Program.Tends.bind head ?_
  intro outcome last right
  cases outcome with
  | ok value => exact rest value last right
  | error fault => exact right

theorem Tends.mono {other : List Hold → Call → Prop} {weaker : α → List Hold → Prop}
    {lost : List Hold → Prop} {attempt : Attempt α}
    (tends : attempt.Tends permits post failed hand)
    (permitted : ∀ hand call, permits hand call → other hand call)
    (follows : ∀ value last, post value last → weaker value last)
    (fails : ∀ last, failed last → lost last) : attempt.Tends other weaker lost hand := by
  refine Program.Tends.mono tends permitted ?_
  intro outcome last right
  cases outcome with
  | ok value => exact follows value last right
  | error fault => exact fails last right

theorem Tends.map {post : β → List Hold → Prop} {attempt : Attempt α} {change : α → β}
    (tends : attempt.Tends permits (fun value last => post (change value) last) failed hand) :
    (change <$> attempt).Tends permits post failed hand := by
  rw [map_eq_pure_bind]
  exact tends.bind fun _ _ right => right

end Attempt

namespace Log

variable {base : Descriptor → Prop} {log after : Log} {frame : Hold → Prop}

/-- A call that minds what is in hand leaves everything else as it is. -/
theorem Splits.answers {call : Call} {reply : call.Reply} (sane : log.Sane base)
    (splits : log.Splits frame hand) (minds : call.Minds hand)
    (answered : Log.Answers base call log reply after) :
    Apart hand ⟨call, reply⟩ ∧ after.Sane base ∧ after.Splits frame (settle hand ⟨call, reply⟩) := by
  obtain ⟨rfl, new⟩ := answered
  have held : ∀ {descriptor}, descriptor ∈ hand.map Hold.descriptor →
      descriptor ∈ log.opened := by
    intro descriptor mem
    obtain ⟨hold, inside, rfl⟩ := List.mem_map.mp mem
    exact List.mem_map_of_mem ((splits.mem hold).mpr (.inr inside))
  refine ⟨⟨new.1, fun descriptor given mem => (new.2 descriptor given).2.2 (held mem)⟩,
    sane.snoc new ?_, splits.snoc sane minds new⟩
  intro descriptor closes
  cases call with
  | close target =>
      cases closes
      exact held minds
  | _ => cases closes

/-- On a host that keeps a log, what is not in hand stays as it is. -/
theorem Splits.tended {post : List Hold → Prop} (sane : log.Sane base)
    (splits : log.Splits frame hand)
    (tended : (Log.Answers base).Tended Call.Minds hand post log after) :
    ∃ last, post last ∧ after.Sane base ∧ after.Splits frame last :=
  tended.keeps (fun hand log => log.Sane base ∧ log.Splits frame hand)
    (fun _ _ _ _ _ minds answered kept => kept.2.answers kept.1 minds answered) ⟨sane, splits⟩

/-- The calls of somebody who owns some descriptors and is lent others: a call names nothing
but what is owned at that time, except that a connection is taken from a listener that is
lent, and only what is owned is closed. -/
def Keeps (lent : List Descriptor) : List Descriptor → Log → Prop
  | _, [] => True
  | own, exchange :: rest =>
      (∀ descriptor ∈ exchange.call.names, descriptor = .absent ∨ descriptor ∈ own ∨
        descriptor ∈ lent ∧ exchange.call = .accept descriptor) ∧
      (∀ descriptor, exchange.closed? = some descriptor → descriptor ∈ own) ∧
      Keeps lent ((own.filter fun descriptor => exchange.closed? ≠ some descriptor) ++
        exchange.given) rest

end Log

theorem Call.Carefully.names {lent : List Descriptor} {call : Call}
    (carefully : call.Carefully lent hand) :
    ∀ descriptor ∈ call.names, descriptor = .absent ∨ descriptor ∈ hand.map Hold.descriptor ∨
      descriptor ∈ lent ∧ call = .accept descriptor := by
  have steadily : call.Steadily hand → ∀ descriptor ∈ call.names, descriptor = .absent ∨
      descriptor ∈ hand.map Hold.descriptor ∨ descriptor ∈ lent ∧ call = .accept descriptor :=
    fun steadily descriptor mem => (steadily.2 descriptor mem).imp_right .inl
  cases call with
  | socket family kind number => exact fun _ mem => absurd mem List.not_mem_nil
  | accept listener =>
      intro descriptor mem
      obtain rfl := List.mem_singleton.mp mem
      exact .inr (.inr ⟨carefully.2, rfl⟩)
  | close descriptor =>
      obtain ⟨hold, rfl, rfl⟩ := carefully
      intro descriptor mem
      exact .inr (.inl mem)
  | _ => exact steadily carefully

def Program.KeepsTo (base : Descriptor → Prop) (lent own : List Descriptor)
    (program : Program α) : Prop :=
  ∀ log result after, program.Runs (Log.Answers base) log result after →
    ∃ calls, after = log ++ calls ∧ Log.Keeps lent own calls

theorem Program.Tends.keepsTo {base : Descriptor → Prop} {lent : List Descriptor}
    {post : α → List Hold → Prop} {program : Program α}
    (tends : program.Tends (Call.Carefully lent) post hand) :
    program.KeepsTo base lent (hand.map Hold.descriptor) := by
  induction program generalizing hand with
  | done value =>
      rintro log result after ⟨rfl, rfl⟩
      exact ⟨[], (List.append_nil _).symm, trivial⟩
  | ask call next ih =>
      rintro log result after ⟨reply, between, ⟨rfl, new⟩, rest⟩
      obtain ⟨carefully, others⟩ := tends
      obtain ⟨calls, rfl, keeps⟩ := ih reply (others reply (carefully.apart reply)) _ _ _ rest
      rw [map_descriptor_settle] at keeps
      refine ⟨⟨call, reply⟩ :: calls, by simp, carefully.names, ?_, keeps⟩
      intro descriptor closes
      cases call with
      | close target =>
          cases closes
          obtain ⟨hold, rfl, rfl⟩ := carefully
          exact List.mem_cons_self
      | _ => cases closes

end SocketReactor
