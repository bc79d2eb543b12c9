import SocketReactor.Proofs.Host.Exchanges
import SocketReactor.Proofs.Host.Yields
import SocketReactor.Proofs.Selector.Polls
import SocketReactor.Proofs.Setup.Quantities

/-!
# Quantities that are cut to 32 bits

Sizes of buffers, times and counts of probes, and the number of events of a wait are
handed to the host as numbers of 32 bits with a sign.  A quantity without a sign bit to
spare becomes another number.  The host tells such a number of a probe by its sign, so
that the call fails; it takes any size of a buffer, and any positive number of events.
-/

namespace SocketReactor

variable {answers : Answering Log} {working : Descriptor → Prop} {descriptor : Descriptor}
  {option : IntOption} {value : Int32} {log after : Log} {outcome : Except Fault Unit}

namespace IntOption

def IsSize : IntOption → Prop
  | receiveBuffer | sendBuffer => True
  | _ => False

def IsProbe : IntOption → Prop
  | keepIdle | keepInterval | keepCount => True
  | _ => False

end IntOption

/-- The host keeps a log.  On descriptors that work it takes any size of a buffer, and refuses a
time or a count of probes and a number of events unless it is positive. -/
structure Answering.Judges (answers : Answering Log) (working : Descriptor → Prop) : Prop where
  records : answers.Records
  sizes : ∀ {descriptor option value log reply after}, working descriptor → option.IsSize →
    answers (.setIntOption descriptor option value) log reply after → reply = .ok ()
  probes : ∀ {descriptor option value log reply after}, working descriptor → option.IsProbe →
    value.toInt ≤ 0 → answers (.setIntOption descriptor option value) log reply after →
    ∃ errno, reply = .error errno
  waits : ∀ {descriptor capacity milliseconds log reply after}, working descriptor →
    capacity.toInt ≤ 0 → answers (.await descriptor capacity milliseconds) log reply after →
    reply = .error .invalidArgument

/-! ## Writing -/

theorem OptionWrite.runs_apply_int :
    ((OptionWrite.int option value).apply descriptor).run.Runs answers log outcome after ↔
      ∃ reply, answers (.setIntOption descriptor option value) log reply after ∧
        outcome = reply.mapError (.setOptionFailed · option.name) := by
  refine Attempt.runs_ofCall.trans (exists_congr fun reply => and_congr_left fun _ => ?_)
  exact Program.runs_request

/-- If all values are written, each of them was taken. -/
theorem Setup.taken_of_writeAll (records : answers.Records) {writes : List OptionWrite}
    (run : (writeAll descriptor writes).run.Runs answers log (.ok ()) after)
    (member : .int option value ∈ writes) :
    ⟨.setIntOption descriptor option value, .ok ()⟩ ∈ after ∧
      ∃ before between, answers (.setIntOption descriptor option value) before (.ok ()) between := by
  induction writes generalizing log with
  | nil => cases member
  | cons write rest ih =>
      obtain ⟨done, between, head, tail⟩ := Attempt.runs_bind_ok.mp run
      rcases List.mem_cons.mp member with rfl | member
      · obtain ⟨reply, answered, same⟩ := OptionWrite.runs_apply_int.mp head
        cases reply with
        | error errno => cases same
        | ok given =>
            obtain ⟨made, rfl, -⟩ := Program.makes_of_runs records tail
            exact ⟨by simp [records answered], log, between, answered⟩
      · exact ih tail member

/-- What is asked of a probe is a count with the number that stands for it. -/
theorem Setup.Options.count_of_asks {options : Options} {quantity : Nat}
    (asks : options.Asks (.int option value) quantity) (is_probe : option.IsProbe) :
    ∃ count : UInt32, value = count.toInt32 ∧ quantity = count.toNat := by
  generalize same : OptionWrite.int option value = write at asks
  cases asks with
  | keepIdle | keepInterval | keepCount =>
      cases same
      exact ⟨_, rfl, rfl⟩
  | reuseAddress | reusePort | noDelay | keepalive | receiveBuffer | sendBuffer =>
      cases same
      exact is_probe.elim
  | linger | receiveTimeout | sendTimeout => cases same

/-! ## Waiting -/

/-- A poll of an open selector begins with the wait, and fails if that fails otherwise than by
being interrupted. -/
theorem Selector.waits_of_poll (records : answers.Records) {selector later : Selector}
    {backend : Backend} {limit : Option Duration} {result : Except Fault (List Nat)}
    (isOpen : selector.phase = .opened backend)
    (run : (selector.poll limit).Runs answers log (result, later) after) :
    ∃ milliseconds reply between rest,
      answers (.await backend.poll selector.waitCapacity.toUInt32.toInt32 milliseconds) log reply
        between ∧
      after = log ++ ⟨.await backend.poll selector.waitCapacity.toUInt32.toInt32 milliseconds,
        reply⟩ :: rest ∧
      ∀ errno, reply = .error errno → errno ≠ .interrupted →
        result = .error (.backendFailed errno "epoll_wait") := by
  rw [poll_eq_ask isOpen] at run
  obtain ⟨reply, between, answered, completed⟩ := run
  obtain ⟨made, rfl, -⟩ := Program.makes_of_runs records completed
  refine ⟨_, reply, between, made, answered, ?_, ?_⟩
  · rw [records answered, List.append_assoc]
    rfl
  · rintro errno rfl other
    simp only [completePoll, if_neg other] at completed
    obtain ⟨last, final, -, same, -⟩ := Program.runs_bind.mp completed
    exact congrArg Prod.fst same

theorem Selector.waitCapacity_eq {selector : Selector} (some_event : 1 ≤ selector.capacity) :
    selector.waitCapacity = selector.capacity :=
  by
    change (if selector.capacity ≤ 1 then 1 else selector.capacity) = selector.capacity
    split
    · rename_i least
      exact UInt64.le_antisymm some_event least
    · rfl

/-! ## What comes of a quantity -/

/-- Each quantity is handed over in one call.  It is the number in the call exactly if it has a
sign bit to spare.  A size is taken whatever becomes of it, so that a size without one is
replaced by another and nothing fails, in a setter and in a bundle alike.  A time or a count of
probes is handed over as it is, or the setter fails.  A number of events is handed over as it
is, or makes the poll fail, or is replaced by what is left of it in 32 bits. -/
theorem quantities_kept_refused_or_cut (judges : answers.Judges working)
    (works : working descriptor) :
    (∀ (option : IntOption) (size : UInt64) log outcome after, option.IsSize →
      ((OptionWrite.size option size).apply descriptor).run.Runs answers log outcome after →
      outcome = .ok () ∧ ∃ handed : Int32,
        after = log ++ [⟨.setIntOption descriptor option handed, .ok ()⟩] ∧
        (handed.toInt = size.toNat ↔ size.toNat < 2 ^ 31)) ∧
    (∀ (option : IntOption) (count : UInt32) log outcome after, option.IsProbe →
      ((OptionWrite.count option count).apply descriptor).run.Runs answers log outcome after →
      ∃ (handed : Int32) (reply : Except Errno Unit),
        after = log ++ [⟨.setIntOption descriptor option handed, reply⟩] ∧
        (handed.toInt = count.toNat ↔ count.toNat < 2 ^ 31) ∧
        (handed.toInt = count.toNat ∨
          ∃ errno, outcome = .error (.setOptionFailed errno option.name))) ∧
    (∀ (options : Setup.Options) log after,
      (Setup.writeAll descriptor options.writes).run.Runs answers log (.ok ()) after →
      ∀ (option : IntOption) (handed : Int32) quantity, options.Asks (.int option handed) quantity →
        ⟨.setIntOption descriptor option handed, .ok ()⟩ ∈ after ∧
        (handed.toInt = quantity ↔ quantity < 2 ^ 31) ∧
        (option.IsProbe → handed.toInt = quantity)) ∧
    ∀ (backend : Backend) (selector later : Selector) limit log result after,
      working backend.poll → selector.phase = .opened backend → 1 ≤ selector.capacity →
      (selector.poll limit).Runs answers log (result, later) after →
      ∃ (handed milliseconds : Int32) (reply : Except Errno (List ReadyEvent)) (rest : Log),
        after = log ++ ⟨.await backend.poll handed milliseconds, reply⟩ :: rest ∧
        (handed.toInt = selector.capacity.toNat ↔ selector.capacity.toNat < 2 ^ 31) ∧
        (handed.toInt = selector.capacity.toNat ∨
          result = .error (.backendFailed .invalidArgument "epoll_wait") ∨
          handed.toInt = (selector.capacity.toNat % 2 ^ 32 : Nat)) := by
  refine ⟨?_, ?_, ?_, ?_⟩
  · intro option size log outcome after is_size run
    obtain ⟨reply, answered, rfl⟩ := OptionWrite.runs_apply_int.mp run
    obtain rfl := judges.sizes works is_size answered
    exact ⟨rfl, _, judges.records answered, cut_eq_iff size⟩
  · intro option count log outcome after is_probe run
    obtain ⟨reply, answered, rfl⟩ := OptionWrite.runs_apply_int.mp run
    refine ⟨_, reply, judges.records answered, OptionWrite.number_count option count, ?_⟩
    by_cases same : count.toInt32.toInt = count.toNat
    · exact .inl same
    · obtain ⟨errno, rfl⟩ :=
        judges.probes works is_probe (toInt_toInt32_nonpos same) answered
      exact .inr ⟨errno, rfl⟩
  · intro options log after run option handed quantity asks
    have member := Setup.Options.mem_writes.mpr ⟨quantity, asks⟩
    obtain ⟨taken, before, between, answered⟩ :=
      Setup.taken_of_writeAll judges.records run member
    have number : handed.toInt = quantity ↔ quantity < 2 ^ 31 :=
      (Setup.Options.number_of_asks asks).trans (or_iff_right id)
    refine ⟨taken, number, fun is_probe => ?_⟩
    obtain ⟨count, rfl, rfl⟩ := Setup.Options.count_of_asks asks is_probe
    -- Whatever 32 bits change of a count comes out as no positive number, and is refused.
    by_contra changed
    obtain ⟨errno, refused⟩ :=
      judges.probes works is_probe (toInt_toInt32_nonpos changed) answered
    cases refused
  · intro backend selector later limit log result after works isOpen some_event run
    obtain ⟨milliseconds, reply, between, rest, answered, rfl, fails⟩ :=
      Selector.waits_of_poll judges.records isOpen run
    rw [Selector.waitCapacity_eq some_event] at answered fails ⊢
    refine ⟨_, milliseconds, reply, rest, rfl, cut_eq_iff _, ?_⟩
    by_cases positive : 0 < selector.capacity.toUInt32.toInt32.toInt
    · exact .inr (.inr (cut_of_pos positive))
    · have refused := judges.waits works (Int.not_lt.mp positive) answered
      exact .inr (.inl (fails _ refused (by decide)))

/-- What a host replies that judges quantities by their sign. -/
def judgingReply : (call : Call) → Option call.Reply
  | .setIntOption _ option value =>
      if option ∈ [.keepIdle, .keepInterval, .keepCount] ∧ value ≤ 0 then
        some (.error .invalidArgument)
      else some (.ok ())
  | .await _ capacity _ => some (if capacity ≤ 0 then .error .invalidArgument else .ok [])
  | _ => none

def judgingHost : Program.Machine Log := fun call log =>
  (judgingReply call).map fun reply => (reply, log ++ [⟨call, reply⟩])

theorem judges_judgingHost : (Answering.ofMachine judgingHost).Judges fun _ => True where
  records := by
    intro call log reply after answered
    obtain ⟨given, -, same⟩ := Option.map_eq_some_iff.mp answered
    cases same
    rfl
  sizes := by
    intro descriptor option value log reply after _ is_size answered
    obtain ⟨given, replied, same⟩ := Option.map_eq_some_iff.mp answered
    cases same
    cases option with
    | receiveBuffer | sendBuffer => exact (Option.some.inj replied).symm
    | _ => exact is_size.elim
  probes := by
    intro descriptor option value log reply after _ is_probe small answered
    obtain ⟨given, replied, same⟩ := Option.map_eq_some_iff.mp answered
    cases same
    have negative : value ≤ 0 := Int32.le_iff_toInt_le.mpr small
    cases option with
    | keepIdle | keepInterval | keepCount =>
        simp only [judgingReply, negative, and_true] at replied
        exact ⟨_, (Option.some.inj replied).symm⟩
    | _ => exact is_probe.elim
  waits := by
    intro descriptor capacity milliseconds log reply after _ small answered
    obtain ⟨given, replied, same⟩ := Option.map_eq_some_iff.mp answered
    cases same
    have negative : capacity ≤ 0 := Int32.le_iff_toInt_le.mpr small
    simp only [judgingReply, if_pos negative] at replied
    exact (Option.some.inj replied).symm

/-- A buffer of more than four gibibytes is asked for, and one of 4096 octets is made. -/
theorem greedy_buffer_is_cut :
    (Answering.ofMachine judgingHost).Judges (fun _ => True) ∧
    ((OptionWrite.size .receiveBuffer 4294971392).apply ⟨3⟩).run.run judgingHost [] =
      some (.ok (), [⟨.setIntOption ⟨3⟩ .receiveBuffer 4096, .ok ()⟩]) ∧
    (4096 : Int32).toInt ≠ (4294971392 : UInt64).toNat := by
  have played : ((OptionWrite.size .receiveBuffer 4294971392).apply ⟨3⟩).run.run judgingHost [] =
      some (.ok (), [⟨.setIntOption ⟨3⟩ .receiveBuffer 4096, .ok ()⟩]) := rfl
  have works : (fun _ : Descriptor => True) ⟨3⟩ := trivial
  obtain ⟨sizes, -⟩ := quantities_kept_refused_or_cut judges_judgingHost works
  obtain ⟨-, handed, made, number⟩ :=
    sizes .receiveBuffer 4294971392 [] _ _ trivial (Program.runs_ofMachine.mpr played)
  cases made
  exact ⟨judges_judgingHost, played, mt number.mp (by decide)⟩

end SocketReactor
