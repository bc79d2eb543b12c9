import SocketReactor.Proofs.Host.Balance
import SocketReactor.Socket.Lifecycle

/-!
# Status flags in the log

From the log one reads of an open descriptor whether the calls on it wait.  A new descriptor
begins with calls that wait, unless it is an end of a pipe, and has the flag as it was last
written after that.  A host that heeds the flags of open descriptors writes them and tells them.
What is not in hand keeps its flag.
-/

namespace SocketReactor

variable {α : Type} {base : Descriptor → Prop} {log after : Log} {descriptor : Descriptor}
  {hand : List Hold} {exchange : Exchange}

/-- Whether the calls on what the call gives out do not wait from the beginning. -/
def Call.givesPrompt : Call → Bool
  | .openPipe => true
  | _ => false

/-- A call that writes no flags and gives out nothing. -/
def Call.SparesFlags : Call → Prop
  | .socket _ _ _ | .accept _ | .openBackend | .openPipe | .setStatusFlags _ _ => False
  | _ => True

namespace Exchange

def writes? : Exchange → Option (Descriptor × Bool)
  | ⟨.setStatusFlags descriptor flags, .ok ()⟩ =>
      some (descriptor, flags &&& Handle.nonblockingFlag ≠ 0)
  | _ => none

/-- What the exchange makes of the flag of a descriptor: whether the calls on it do not wait. -/
def prompts? (exchange : Exchange) (descriptor : Descriptor) : Option Bool :=
  if descriptor ∈ exchange.given then some exchange.call.givesPrompt
  else match exchange.writes? with
    | some (target, flag) => if target = descriptor then some flag else none
    | none => none

theorem prompts?_of_writes {exchange : Exchange} {descriptor : Descriptor} {flag : Bool}
    (old : descriptor ∉ exchange.given) (writes : exchange.writes? = some (descriptor, flag)) :
    exchange.prompts? descriptor = some flag := by
  simp [prompts?, old, writes]

theorem prompts?_eq_none {exchange : Exchange} {descriptor : Descriptor}
    (old : descriptor ∉ exchange.given)
    (other : ∀ target flag, exchange.writes? = some (target, flag) → target ≠ descriptor) :
    exchange.prompts? descriptor = none := by
  rw [prompts?, if_neg old]
  split
  · rename_i target flag written
    exact if_neg (other target flag written)
  · rfl

end Exchange

namespace Log

def isPrompt (log : Log) (descriptor : Descriptor) : Bool :=
  log.foldl (fun flag exchange => (exchange.prompts? descriptor).getD flag) false

@[simp] theorem isPrompt_snoc (log : Log) (exchange : Exchange) (descriptor : Descriptor) :
    isPrompt (log ++ [exchange]) descriptor =
      (exchange.prompts? descriptor).getD (log.isPrompt descriptor) := by
  simp [isPrompt, List.foldl_append]

end Log

/-- The flags of a descriptor that is open are told as they are, and are written when they are to
be written. -/
def Exchange.Heeded (log : Log) : Exchange → Prop
  | ⟨.statusFlags descriptor, reply⟩ => descriptor ∈ log.opened →
      ∃ flags, reply = .ok flags ∧
        decide (flags &&& Handle.nonblockingFlag ≠ 0) = log.isPrompt descriptor
  | ⟨.setStatusFlags descriptor _, reply⟩ => descriptor ∈ log.opened → reply = .ok ()
  | _ => True

namespace Log

def Heeds (log : Log) : Prop :=
  ∀ before exchange rest, log = before ++ exchange :: rest → exchange.Heeded before

/-- A host that keeps the log and replies as it likes, but gives out only descriptors that are
not open and heeds the flags of those that are. -/
def Heeding (base : Descriptor → Prop) : Answering Log := fun call log reply after =>
  Log.Answers base call log reply after ∧ Exchange.Heeded log ⟨call, reply⟩

theorem heeds_nil : Heeds [] := by
  intro before exchange rest split
  cases before <;> cases split

theorem Heeds.of_append {rest : Log} (heeds : Heeds (log ++ rest)) : log.Heeds := by
  rintro before exchange others rfl
  refine heeds before exchange (others ++ rest) ?_
  rw [List.append_assoc, List.cons_append]

theorem Heeds.last (heeds : Heeds (log ++ [exchange])) : exchange.Heeded log :=
  heeds log exchange [] rfl

theorem Heeds.snoc (heeds : log.Heeds) (heeded : exchange.Heeded log) :
    Heeds (log ++ [exchange]) := by
  intro before other rest split
  rcases eq_or_split_of_snoc split with ⟨rfl, rfl⟩ | ⟨others, former⟩
  · exact heeded
  · exact heeds before other others former

/-- The log of a host that heeds flags. -/
theorem heeds_of_runs {program : Program α} {result : α} (heeds : log.Heeds)
    (run : program.Runs (Heeding base) log result after) : after.Heeds := by
  induction program generalizing log with
  | done value =>
      obtain ⟨-, rfl⟩ := run
      exact heeds
  | ask call next ih =>
      obtain ⟨reply, between, ⟨⟨rfl, -⟩, heeded⟩, rest⟩ := run
      exact ih reply (heeds.snoc heeded) rest

/-- Nothing is taken out of the log. -/
theorem grows_of_runs {program : Program α} {result : α}
    (run : program.Runs (Log.Answers base) log result after) : ∃ rest, after = log ++ rest := by
  induction program generalizing log with
  | done value =>
      obtain ⟨-, rfl⟩ := run
      exact ⟨[], (List.append_nil _).symm⟩
  | ask call next ih =>
      obtain ⟨reply, between, ⟨rfl, -⟩, others⟩ := run
      obtain ⟨rest, rfl⟩ := ih reply others
      exact ⟨⟨call, reply⟩ :: rest, by simp⟩

theorem Heeds.of_runs {program : Program α} {result : α} (heeds : after.Heeds)
    (run : program.Runs (Log.Answers base) log result after) : log.Heeds := by
  obtain ⟨rest, rfl⟩ := grows_of_runs run
  exact heeds.of_append

theorem Heeds.of_tended {permits : List Hold → Call → Prop} {post : List Hold → Prop}
    (heeds : after.Heeds) (tended : (Log.Answers base).Tended permits hand post log after) :
    log.Heeds := by
  obtain ⟨α, program, result, -, run⟩ := tended
  exact heeds.of_runs run

/-- A plain call opens and closes nothing. -/
theorem opened_snoc_of_isPlain {call : Call} (plain : call.IsPlain) (reply : call.Reply) :
    opened (log ++ [⟨call, reply⟩]) = log.opened := by
  rw [opened, holds_snoc, settle_of_isPlain plain]
  rfl

theorem opened_of_runs_plain {program : Program α} {post : α → Prop} {result : α}
    (ensures : program.Ensures Call.IsPlain post)
    (run : program.Runs (Log.Answers base) log result after) : after.opened = log.opened := by
  refine ensures.fixes opened ?_ run
  rintro call before reply later plain ⟨rfl, -⟩
  exact opened_snoc_of_isPlain plain reply

/-! ## What leaves flags alone -/

theorem isPrompt_of_silent (descriptor : Descriptor)
    (silent : exchange.prompts? descriptor = none) :
    isPrompt (log ++ [exchange]) descriptor = log.isPrompt descriptor := by
  rw [isPrompt_snoc, silent]
  rfl

theorem isPrompt_of_spares {program : Program α} {post : α → Prop} {result : α}
    (ensures : program.Ensures Call.SparesFlags post)
    (run : program.Runs (Log.Answers base) log result after) (descriptor : Descriptor) :
    after.isPrompt descriptor = log.isPrompt descriptor := by
  refine ensures.fixes (fun now : Log => now.isPrompt descriptor) ?_ run
  rintro call before reply later spares ⟨rfl, -⟩
  refine isPrompt_of_silent descriptor ?_
  cases call <;> first | exact spares.elim | rfl

/-- A call leaves the flag of what is open and not in hand as it is. -/
theorem isPrompt_of_minds {call : Call} {reply : call.Reply} (sane : log.Sane base)
    (minds : call.Minds hand) (new : log.New base ⟨call, reply⟩)
    (opened : descriptor ∈ log.opened) (apart : descriptor ∉ hand.map Hold.descriptor) :
    isPrompt (log ++ [⟨call, reply⟩]) descriptor = log.isPrompt descriptor := by
  refine isPrompt_of_silent descriptor (Exchange.prompts?_eq_none
    (fun given => (new.2 descriptor given).2.2 opened) ?_)
  rintro target flag written rfl
  cases call with
  | setStatusFlags other flags =>
      cases reply with
      | ok done =>
          cases written
          exact minds.elim (sane.proper _ opened).1 apart
      | error errno => cases written
  | _ => cases written

/-- What is open and not in hand keeps its flag. -/
theorem isPrompt_of_tended {post : List Hold → Prop} (sane : log.Sane base)
    (subset : ∀ hold ∈ hand, hold ∈ log.holds)
    (tended : (Log.Answers base).Tended Call.Minds hand post log after)
    (opened : descriptor ∈ log.opened) (apart : descriptor ∉ hand.map Hold.descriptor) :
    after.isPrompt descriptor = log.isPrompt descriptor := by
  obtain ⟨hold, mem, rfl⟩ := List.mem_map.mp opened
  -- The descriptor belongs to the frame from the beginning, and so is never in hand.
  let frame : Hold → Prop := fun other =>
    other ∈ log.holds ∧ other.descriptor ∉ hand.map Hold.descriptor
  have step : ∀ hand (call : Call) before (reply : call.Reply) later, call.Minds hand →
      Log.Answers base call before reply later →
      (before.Sane base ∧ before.Splits frame hand ∧
        before.isPrompt hold.descriptor = log.isPrompt hold.descriptor) →
      Apart hand ⟨call, reply⟩ ∧ later.Sane base ∧
        later.Splits frame (settle hand ⟨call, reply⟩) ∧
        later.isPrompt hold.descriptor = log.isPrompt hold.descriptor := by
    rintro now call before reply later minds answered ⟨sane, splits, same⟩
    obtain ⟨away, sane', splits'⟩ := splits.answers sane minds answered
    obtain ⟨rfl, new⟩ := answered
    have framed := (splits.mem hold).mpr (.inl ⟨mem, apart⟩)
    have kept := isPrompt_of_minds sane minds new (List.mem_map_of_mem framed)
      (splits.apart hold ⟨mem, apart⟩)
    exact ⟨away, sane', splits', kept.trans same⟩
  obtain ⟨last, -, -, -, same⟩ := tended.keeps
    (fun hand now => now.Sane base ∧ now.Splits frame hand ∧
      now.isPrompt hold.descriptor = log.isPrompt hold.descriptor)
    step ⟨sane, splits_of_subset subset sane, rfl⟩
  exact same

/-- What somebody holds who does not act keeps its flag. -/
theorem Balanced.isPrompt {ι : Type} {held? : ι → Option Descriptor} {group : ι → Prop}
    {post : List Hold → Prop} {holder : ι} (balanced : log.Balanced base held?)
    (subset : ∀ hold ∈ hand, hold ∈ log.holds) (grouped : Grouped held? group hand)
    (tended : (Log.Answers base).Tended Call.Minds hand post log after)
    (has : held? holder = some descriptor) (without : ¬group holder) :
    after.isPrompt descriptor = log.isPrompt descriptor := by
  refine isPrompt_of_tended balanced.sane subset tended
    ((balanced.held descriptor).mpr ⟨holder, has⟩) fun inside => ?_
  obtain ⟨other, within, has'⟩ := (grouped.mem descriptor).mp inside
  exact without (balanced.apart other holder descriptor has' has ▸ within)

end Log

def heedfulHost : Program.Machine Log := fun call log =>
  match call with
  | .statusFlags descriptor =>
      let flags := if log.isPrompt descriptor then Handle.nonblockingFlag else 0
      some (.ok flags, log ++ [⟨.statusFlags descriptor, .ok flags⟩])
  | call => obligingHost call log

theorem heeding_heedfulHost (call : Call) (log : Log) (reply : call.Reply) (after : Log)
    (answered : heedfulHost call log = some (reply, after)) :
    Log.Heeding (fun _ => False) call log reply after := by
  cases call with
  | statusFlags descriptor =>
      cases answered
      refine ⟨⟨rfl, List.nodup_nil, nofun⟩, fun _ => ⟨_, rfl, ?_⟩⟩
      cases log.isPrompt descriptor <;> decide
  | setStatusFlags descriptor flags =>
      have answered : obligingHost (.setStatusFlags descriptor flags) log = some (reply, after) :=
        answered
      refine ⟨answers_obligingHost _ log reply after answered, fun _ => ?_⟩
      obtain ⟨given, same, rest⟩ := Option.bind_eq_some_iff.mp answered
      cases same
      split at rest <;> cases rest
      rfl
  | _ => exact ⟨answers_obligingHost _ log reply after answered, trivial⟩

end SocketReactor
