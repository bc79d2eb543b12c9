import SocketReactor.Proofs.Selector.Interplay

/-!
# No wakeup is lost

`Turns` follows a selector and its pipe through calls that do not overlap; each
of them is a run of the sections that `Interplay.Step` lets threads take turns
at.  Between such calls the pipe holds one octet if a wakeup is noted and none
otherwise, so that a poll that hears uses up whatever came before it.
-/

namespace SocketReactor

/-- A call that has come to its end before the next one begins. -/
inductive Turn where
  | wakeup
  /-- A poll, and whether it was told of the pipe. -/
  | poll (told : Bool)

variable {selector later : Selector} {backend : Backend}
  {contents between after : List UInt8} {turn : Turn} {turns others : List Turn}

/-- A call takes the selector and its pipe from one state to another. -/
inductive Turn.Takes : Turn → Selector → List UInt8 → Selector → List UInt8 → Prop where
  | wakeup {selector later : Selector} {contents after : List UInt8}
      {result : Except Fault Unit}
      (run : selector.wakeup.Runs Pipe.Answers contents (result, later) after) :
      Takes .wakeup selector contents later after
  | poll {selector entered later : Selector} {backend : Backend} {limit : Option Duration}
      {contents between after : List UInt8} {reply : Except Errno (List ReadyEvent)}
      {result : Except Fault (List Nat)}
      (begun : selector.beginPoll = .ok (backend, entered))
      (waited : (backend.wait entered.waitCapacity limit).Runs Pipe.Answers contents reply
        between)
      (run : (entered.completePoll backend reply).Runs Pipe.Answers between (result, later)
        after) :
      Takes (.poll (Selector.heard reply)) selector contents later after

inductive Turns : Selector → List UInt8 → List Turn → Selector → List UInt8 → Prop where
  | nil {selector : Selector} {contents : List UInt8} :
      Turns selector contents [] selector contents
  | cons {selector middle later : Selector} {contents between after : List UInt8}
      {turn : Turn} {turns : List Turn} (first : turn.Takes selector contents middle between)
      (rest : Turns middle between turns later after) :
      Turns selector contents (turn :: turns) later after

theorem Turns.append_inv (run : Turns selector contents (turns ++ others) later after) :
    ∃ middle between, Turns selector contents turns middle between ∧
      Turns middle between others later after := by
  induction turns generalizing selector contents with
  | nil => exact ⟨selector, contents, .nil, run⟩
  | cons turn turns ih =>
      cases run with
      | cons first rest =>
          obtain ⟨middle, between, rest, last⟩ := ih rest
          exact ⟨middle, between, .cons first rest, last⟩

/-- Every poll of an open selector is such a call, and is told of the pipe as its wait is. -/
theorem Turn.takes_of_poll {limit : Option Duration} {result : Except Fault (List Nat)}
    (isOpen : selector.phase = .opened backend)
    (run : (selector.poll limit).Runs Pipe.Answers contents (result, later) after) :
    ∃ reply between,
      (backend.wait selector.enterPoll.waitCapacity limit).Runs Pipe.Answers contents reply
        between ∧
      (Turn.poll (Selector.heard reply)).Takes selector contents later after := by
  have begun : selector.beginPoll = .ok (backend, selector.enterPoll) := by
    rw [Selector.beginPoll, Selector.backend_eq_ok_iff.mpr isOpen]
    rfl
  rw [Selector.poll, begun] at run
  obtain ⟨reply, between, waited, completed⟩ := Program.runs_bind.mp run
  exact ⟨reply, between, waited, .poll begun waited completed⟩

/-! ## What the pipe holds between calls -/

/-- The selector is open, and its pipe holds one octet if a wakeup is noted and none
otherwise. -/
structure Selector.Steady (selector : Selector) (contents : List UInt8) : Prop where
  isOpen : ∃ backend, selector.phase = .opened backend
  held : contents = if selector.wakeupPending then [1] else []

def Selector.noted (selector : Selector) : Nat := if selector.wakeupPending then 1 else 0

namespace Selector

/-- A poll that is told of the pipe clears the note and empties a pipe with one octet. -/
theorem settled_of_heard {events : List ReadyEvent} {result : Except Fault (List Nat)}
    (told : heard (.ok events) = true) (single : contents = [1])
    (run : (selector.completePoll backend (.ok events)).Runs Pipe.Answers contents
      (result, later) after) :
    (∀ backend, selector.phase = .opened backend → later.phase = .opened backend) ∧
      later.wakeupPending = false ∧ after = [] := by
  obtain ⟨disarmed, dropped, first, second, third, retired, drained, renotified, ended⟩ :=
    sections_of_heard told run
  obtain ⟨disarms, rfl⟩ := resembles_of_disarmAll retired
  have empty : second = [] := by
    apply Backend.empties_of_runs_drain _ drained
    rw [single]
    decide
  obtain ⟨-, rfl⟩ : () = () ∧ third = second := renotified
  obtain ⟨stays, calm, rfl⟩ := settled_of_endPoll ended
  refine ⟨?_, calm, empty⟩
  intro backend isOpen
  have phase := ((selector.resembles_absorb events).trans disarms).1
  exact stays backend (phase.trans isOpen)

/-- A wakeup is noted, and its octet is the only one in the pipe. -/
theorem Steady.wakeup {result : Except Fault Unit} (steady : selector.Steady contents)
    (run : selector.wakeup.Runs Pipe.Answers contents (result, later) after) :
    later.Steady after ∧ later.wakeupPending = true := by
  obtain ⟨⟨backend, isOpen⟩, held⟩ := steady
  obtain ⟨-, rfl, written⟩ := noted_of_wakeup isOpen run
  refine ⟨⟨⟨backend, isOpen⟩, ?_⟩, rfl⟩
  change after = [1]
  split at written
  · rename_i pending
    rw [written, held, if_pos pending]
  · rename_i calm
    rw [if_neg calm] at held
    rcases (Backend.notify_fills written).2 with rfl | ⟨full, -⟩
    · rw [held, List.nil_append]
    · exact absurd held full

/-- A poll is told exactly of the wakeup that it uses up. -/
theorem Steady.poll {entered : Selector} {limit : Option Duration}
    {reply : Except Errno (List ReadyEvent)} {result : Except Fault (List Nat)}
    (steady : selector.Steady contents)
    (begun : selector.beginPoll = .ok (backend, entered))
    (waited : (backend.wait entered.waitCapacity limit).Runs Pipe.Answers contents reply between)
    (run : (entered.completePoll backend reply).Runs Pipe.Answers between (result, later)
      after) :
    later.Steady after ∧ (heard reply).toNat + later.noted = selector.noted := by
  obtain ⟨⟨opened, isOpen⟩, held⟩ := steady
  obtain rfl := Interplay.eq_of_wait waited
  obtain ⟨phase, same⟩ := resembles_of_beginPoll begun
  have isOpen' := phase.trans isOpen
  cases told : heard reply with
  | false =>
      obtain ⟨stays, same', rfl⟩ := settled_of_silent told run
      have kept := same'.trans same
      constructor
      · refine ⟨⟨opened, stays opened isOpen'⟩, ?_⟩
        rw [kept]
        exact held
      · rw [noted, noted, kept, Bool.toNat_false, Nat.zero_add]
  | true =>
      match reply with
      | .ok events =>
          have answered := Program.runs_request.mp waited
          have pending : selector.wakeupPending = true := by
            by_contra calm
            rw [if_neg calm] at held
            simp only [heard, List.any_eq_true, decide_eq_true_eq] at told
            exact answered.1 told held
          rw [if_pos pending] at held
          obtain ⟨stays, calm, rfl⟩ := settled_of_heard told held run
          constructor
          · refine ⟨⟨opened, stays opened isOpen'⟩, ?_⟩
            rw [calm, if_neg Bool.false_ne_true]
          · rw [noted, noted, calm, if_neg Bool.false_ne_true, if_pos pending,
              Bool.toNat_true]
      | .error errno => cases told

end Selector

theorem Turn.Takes.steady (call : turn.Takes selector contents later after)
    (steady : selector.Steady contents) : later.Steady after := by
  cases call with
  | wakeup run => exact (steady.wakeup run).1
  | poll begun waited run => exact (steady.poll begun waited run).1

/-- The sections of the call, from a state in which a wakeup is noted or none is. -/
def Turn.sections {ι : Type} (who : ι) (noted : Bool) : Turn → List (Turning ι)
  | wakeup => Turning.wakeup who noted
  | poll told => Turning.poll told

def Turn.notes (noted : Bool) : Turn → Bool
  | wakeup => true
  | poll told => noted && !told

theorem Turn.Takes.pending (call : turn.Takes selector contents later after)
    (steady : selector.Steady contents) :
    later.wakeupPending = turn.notes selector.wakeupPending := by
  cases call with
  | wakeup run => exact (steady.wakeup run).2
  | @poll _ _ _ _ _ _ _ _ reply _ begun waited run =>
      have used := (steady.poll begun waited run).2
      unfold Selector.noted at used
      unfold Turn.notes
      revert used
      cases Selector.heard reply <;> cases selector.wakeupPending <;>
        cases later.wakeupPending <;> simp

/-- Calls that do not overlap keep the pipe in step with the note. -/
theorem Turns.steady (run : Turns selector contents turns later after)
    (steady : selector.Steady contents) : later.Steady after := by
  induction run with
  | nil => exact steady
  | cons first rest ih => exact ih (first.steady steady)

/-- Some wakeups leave one noted. -/
theorem Turns.noted {calls : Nat}
    (run : Turns selector contents (List.replicate calls .wakeup) later after)
    (steady : selector.Steady contents) (some_call : 0 < calls) :
    later.wakeupPending = true := by
  induction calls generalizing selector contents with
  | zero => omega
  | succ calls ih =>
      cases run with
      | cons first rest =>
          cases calls with
          | zero =>
              cases first with
              | wakeup run =>
                  cases rest with
                  | nil => exact (steady.wakeup run).2
          | succ calls => exact ih rest (first.steady steady) (Nat.succ_pos calls)

/-- Each poll that is told of the pipe uses up a noted wakeup. -/
theorem Turns.used {polls : List Bool}
    (run : Turns selector contents (polls.map .poll) later after)
    (steady : selector.Steady contents) :
    polls.count true + later.noted = selector.noted := by
  induction polls generalizing selector contents with
  | nil =>
      cases run with
      | nil => exact Nat.zero_add _
  | cons told polls ih =>
      cases run with
      | cons first rest =>
          have others := ih rest (first.steady steady)
          cases first with
          | poll begun waited run =>
              have counted : ∀ told : Bool,
                  (told :: polls).count true = told.toNat + polls.count true := by
                intro told
                rw [List.count_cons, beq_true, Nat.add_comm]
                cases told <;> rfl
              rw [counted, Nat.add_assoc, others]
              exact (steady.poll begun waited run).2

/-- Any number of wakeups releases exactly one of the polls that follow: the pipe stays
readable until one is told of it, and no other is. -/
theorem Turns.released {calls : Nat} {polls : List Bool}
    (run : Turns selector contents (List.replicate calls .wakeup ++ polls.map .poll) later
      after)
    (steady : selector.Steady contents) (some_call : 0 < calls) :
    polls.count true ≤ 1 ∧ after = if true ∈ polls then [] else [1] := by
  obtain ⟨middle, between, woken, polled⟩ := run.append_inv
  have steady' := woken.steady steady
  have used := polled.used steady'
  rw [Selector.noted, Selector.noted, if_pos (woken.noted steady some_call)] at used
  refine ⟨by omega, ?_⟩
  rw [(polled.steady steady').held]
  by_cases told : true ∈ polls
  · have counted := List.count_pos_iff.mpr told
    rw [if_pos told, if_neg]
    intro pending
    rw [if_pos pending] at used
    omega
  · rw [List.count_eq_zero_of_not_mem told] at used
    rw [if_neg told, if_pos]
    by_contra calm
    rw [if_neg calm] at used
    omega

/-! ## Calls as runs of their sections -/

namespace Interplay

variable {ι : Type} [DecidableEq ι]

def waking (who : ι) (waker : Waker) : ι → Waker := Function.update (fun _ => .away) who waker

theorem waking_self (who : ι) (waker : Waker) : waking who waker who = waker := by
  rw [waking, Function.update_self]

theorem update_waking (who : ι) (waker next : Waker) :
    Function.update (waking who waker) who next = waking who next := by
  rw [waking, waking, Function.update_idem]

theorem waking_away (who : ι) : waking who .away = fun _ => .away := by
  rw [waking]
  exact Function.update_eq_self who fun _ => Waker.away

/-- A wakeup that nobody interrupts is a run of its sections. -/
theorem run_of_wakeup {result : Except Fault Unit} (who : ι)
    (isOpen : selector.phase = .opened backend)
    (run : selector.wakeup.Runs Pipe.Answers contents (result, later) after) :
    Run (idle selector contents) (Turning.wakeup who selector.wakeupPending)
      (idle later after) := by
  have reached := Selector.backend_eq_ok_iff.mpr isOpen
  obtain ⟨-, rfl, written⟩ := Selector.noted_of_wakeup isOpen run
  have entered : Step (idle selector contents : Interplay ι) (.enter who)
      ⟨selector, contents, .away, waking who (.entered backend)⟩ := .enter rfl reached
  cases pending : selector.wakeupPending with
  | true =>
      rw [if_pos pending] at written
      have joined := (Run.nil.snoc entered).snoc (.join (waking_self who _) pending)
      rw [update_waking, waking_away] at joined
      rw [written]
      exact joined
  | false =>
      rw [if_neg (by simp [pending])] at written
      have delivered : (selector.noteWakeup.deliverWakeup backend).Runs Pipe.Answers contents
          (.ok (), selector.noteWakeup) after :=
        Program.runs_bind.mpr ⟨.ok (), after, written, rfl, rfl⟩
      have noted := (Run.nil.snoc entered).snoc (.note (waking_self who _) pending)
      rw [update_waking] at noted
      have wrote := noted.snoc (.write (waking_self who _) delivered)
      rw [update_waking, waking_away] at wrote
      exact wrote

/-- A poll that nobody interrupts is a run of its sections. -/
theorem run_of_poll (ι : Type) [DecidableEq ι] {entered : Selector} {limit : Option Duration}
    {reply : Except Errno (List ReadyEvent)} {result : Except Fault (List Nat)}
    (begun : selector.beginPoll = .ok (backend, entered))
    (waited : (backend.wait entered.waitCapacity limit).Runs Pipe.Answers contents reply between)
    (run : (entered.completePoll backend reply).Runs Pipe.Answers between (result, later)
      after) :
    Run (idle selector contents : Interplay ι) (Turning.poll (Selector.heard reply))
      (idle later after) := by
  have began : Step (idle selector contents : Interplay ι) .begin
      ⟨entered, contents, .waiting backend, _⟩ := .begin rfl begun
  cases told : Selector.heard reply with
  | false => exact (Run.nil.snoc began).snoc (.pass rfl waited told run)
  | true =>
      match reply with
      | .ok events =>
          obtain ⟨disarmed, dropped, first, second, third, retired, drained, renotified, ended⟩ :=
            Selector.sections_of_heard told run
          obtain ⟨-, rfl⟩ : () = () ∧ third = second := renotified
          have heard := (Run.nil.snoc began).snoc (.hear rfl waited told retired)
          have cleared := heard.snoc (.clear rfl)
          exact (cleared.snoc (.drain rfl drained)).snoc (.leave rfl rfl ended)
      | .error errno => cases told

theorem Run.append {origin state later : Interplay ι} {turns others : List (Turning ι)}
    (run : Run origin turns state) (rest : Run state others later) :
    Run origin (turns ++ others) later := by
  induction rest with
  | nil =>
      rw [List.append_nil]
      exact run
  | snoc past step ih =>
      rw [← List.append_assoc]
      exact ih.snoc step

/-- The sections of calls that do not overlap, from a state in which a wakeup is noted or none
is. -/
def sections (who : ι) : Bool → List Turn → List (Turning ι)
  | _, [] => []
  | noted, turn :: turns => turn.sections who noted ++ sections who (turn.notes noted) turns

/-- Calls that do not overlap are one of the ways in which threads may take turns. -/
theorem run_of_turns (who : ι) (run : Turns selector contents turns later after)
    (steady : selector.Steady contents) :
    Run (idle selector contents) (sections who selector.wakeupPending turns)
      (idle later after) := by
  induction run with
  | nil => exact .nil
  | cons first rest ih =>
      have others := ih (first.steady steady)
      -- The sections of the rest depend on the note that the first call leaves.
      rw [first.pending steady] at others
      cases first with
      | wakeup woken =>
          obtain ⟨backend, isOpen⟩ := steady.isOpen
          exact (run_of_wakeup who isOpen woken).append others
      | poll begun waited polled => exact (run_of_poll ι begun waited polled).append others

end Interplay

/-! ## No wakeup is lost -/

/-- A pipe that is never full, and a wait that tells of it as soon as there is something to
read. -/
def eagerPipe : Program.Machine (List UInt8)
  | .writePipe _ data, contents => some (.ok data.length, contents ++ data)
  | .readPipe _ capacity, contents =>
      if contents = [] then some (.error .tryAgain, [])
      else if contents.take capacity = [] then none
      else some (.ok (contents.take capacity), contents.drop capacity)
  | .await _ _ _, contents =>
      some (.ok (if contents = [] then [] else [⟨Backend.notifyToken, inputEvent⟩]), contents)
  | _, _ => none

theorem runs_of_eagerPipe {α : Type} {program : Program α} {result : α}
    (played : program.run eagerPipe contents = some (result, after)) :
    program.Runs Pipe.Answers contents result after := by
  refine (Program.runs_ofMachine.mpr played).mono id ?_
  intro call contents reply after answered
  cases call with
  | writePipe writer data =>
      cases answered
      rfl
  | readPipe reader capacity =>
      simp only [Answering.ofMachine, eagerPipe] at answered
      split at answered
      · rename_i empty
        cases answered
        exact ⟨empty, empty.symm⟩
      · split at answered
        · cases answered
        · rename_i some_data
          cases answered
          exact ⟨some_data, rfl, rfl⟩
  | await backend capacity milliseconds =>
      cases answered
      refine ⟨?_, rfl⟩
      rintro ⟨event, told, -⟩ rfl
      cases told
  | _ => cases answered

def Backend.sample : Backend := ⟨⟨3⟩, ⟨4⟩, ⟨5⟩⟩

def Selector.sample : Selector := { Selector.new .usual with phase := .opened .sample }

section Example

open Interplay

end Example

end SocketReactor
